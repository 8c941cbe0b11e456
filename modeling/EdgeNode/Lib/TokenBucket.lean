import Mathlib

/-!
# Token buckets

A bucket holds thousandths of tokens up to its capacity and gains `rate` of them each millisecond.
`createdMs` and `spentMilli` are history variables: the reading the bucket was made with, and what
has been taken from it less what it got back.
-/

namespace EdgeNode

structure TokenBucket where
  tokensMilli : ℕ
  lastMs : ℕ
  capacityMilli : ℕ
  ratePerSecond : ℕ
  burst : ℕ
  createdMs : ℕ
  spentMilli : ℤ
  deriving DecidableEq, Repr

namespace TokenBucket

def make (tokens ratePerSecond burst nowMs : ℕ) : TokenBucket where
  tokensMilli := tokens * 1000
  lastMs := nowMs
  capacityMilli := burst * 1000
  ratePerSecond := ratePerSecond
  burst := burst
  createdMs := nowMs
  spentMilli := 0

/-- The time since the last refill counts as none when the reading is an older one. -/
def refillRate (rate burst nowMs : ℕ) (b : TokenBucket) : TokenBucket :=
  { b with
    lastMs := nowMs
    tokensMilli := min (b.tokensMilli + (nowMs - b.lastMs) * rate) (burst * 1000) }

def take (costMilli : ℕ) (b : TokenBucket) : TokenBucket :=
  { b with
    tokensMilli := b.tokensMilli - costMilli
    spentMilli := b.spentMilli + costMilli }

/-- Gives back what fits. -/
def giveBack (refundMilli capacityMilli : ℕ) (b : TokenBucket) : TokenBucket :=
  let tokens := min (b.tokensMilli + refundMilli) capacityMilli
  { b with
    tokensMilli := tokens
    spentMilli := b.spentMilli - (tokens - b.tokensMilli : ℕ) }

/-- What was spent and what is left never exceed the burst and what the time has been worth. -/
structure Bounded (rate burst : ℕ) (b : TokenBucket) : Prop where
  full : b.tokensMilli ≤ burst * 1000
  started : b.createdMs ≤ b.lastMs
  spent : b.spentMilli + b.tokensMilli ≤ burst * 1000 + rate * (b.lastMs - b.createdMs)

variable {rate burst tokens now cost refund capacity : ℕ} {b : TokenBucket}

theorem make_bounded (h : tokens ≤ burst) : (make tokens rate burst now).Bounded rate burst where
  full := Nat.mul_le_mul_right _ h
  started := le_rfl
  spent := by
    simp only [make]
    push_cast
    omega

/-- A refill in the order of the readings is worth the time between them. -/
theorem Bounded.refillRate (h : b.Bounded rate burst) (hnow : b.lastMs ≤ now) :
    (b.refillRate rate burst now).Bounded rate burst where
  full := min_le_right _ _
  started := h.started.trans hnow
  spent := by
    have hspent := h.spent
    have hworth : rate * ((now : ℤ) - b.createdMs)
        = rate * ((b.lastMs : ℤ) - b.createdMs) + ((now - b.lastMs : ℕ) : ℤ) * rate := by
      push_cast [hnow]
      ring
    have hmin := min_le_left (b.tokensMilli + (now - b.lastMs) * rate) (burst * 1000)
    simp only [TokenBucket.refillRate]
    rw [hworth]
    generalize min (b.tokensMilli + (now - b.lastMs) * rate) (burst * 1000) = tokens at hmin ⊢
    zify at hmin
    linarith

theorem Bounded.take (h : b.Bounded rate burst) (hcost : cost ≤ b.tokensMilli) :
    (b.take cost).Bounded rate burst where
  full := (Nat.sub_le _ _).trans h.full
  started := h.started
  spent := by
    have hspent := h.spent
    simp only [TokenBucket.take]
    push_cast [hcost]
    linarith

theorem Bounded.giveBack (h : b.Bounded rate burst) (hcapacity : capacity ≤ burst * 1000) :
    (b.giveBack refund capacity).Bounded rate burst where
  full := (min_le_right _ _).trans hcapacity
  started := h.started
  spent := by
    have hspent := h.spent
    simp only [TokenBucket.giveBack]
    generalize min (b.tokensMilli + refund) capacity = tokens
    omega

/-- The bound at a time the last refill is not after. -/
theorem Bounded.spent_le (h : b.Bounded rate burst) (hnow : b.lastMs ≤ now) :
    b.spentMilli ≤ burst * 1000 + rate * (now - b.createdMs) := by
  have hspent := h.spent
  have hworth : (rate : ℤ) * (b.lastMs - b.createdMs) ≤ rate * (now - b.createdMs) := by
    have : (b.lastMs : ℤ) ≤ now := by exact_mod_cast hnow
    gcongr
  linarith [b.tokensMilli.cast_nonneg (α := ℤ)]

/-! ## What comes back -/

/-- `b'` is `b` with the unused part returned as far as it fits; no token is lost by that, and none is
too many. -/
structure Refunded (unused : ℕ) (b b' : TokenBucket) : Prop where
  capacity : b'.capacityMilli = b.capacityMilli
  exactly : b'.tokensMilli = min (b.tokensMilli + unused) b.capacityMilli
  kept : b.tokensMilli ≤ b'.tokensMilli
  fits : b'.tokensMilli ≤ b'.capacityMilli

theorem refunded_zero (h : b.tokensMilli ≤ b.capacityMilli) : Refunded 0 b b :=
  ⟨rfl, (min_eq_left h).symm, le_rfl, h⟩

/-- Returned up to another capacity than the bucket has, it makes no difference only where it fits
under both. -/
theorem giveBack_refunded_iff (h : b.tokensMilli ≤ b.capacityMilli) :
    Refunded refund b (b.giveBack refund capacity)
      ↔ capacity = b.capacityMilli
        ∨ b.tokensMilli + refund ≤ capacity ∧ b.tokensMilli + refund ≤ b.capacityMilli := by
  constructor
  · rintro ⟨-, hexactly, hkept, -⟩
    simp only [giveBack] at hexactly hkept
    omega
  · intro hfits
    refine ⟨rfl, ?_, ?_, ?_⟩
    all_goals
      simp only [giveBack]
      omega

end TokenBucket

end EdgeNode
