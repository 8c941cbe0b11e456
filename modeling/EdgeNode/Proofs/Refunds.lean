import EdgeNode.Proofs.Admission

/-!
# Refunds

A reservation has kept the capacities of the two buckets it was taken from; the principal's may have
changed since by a request under another flow class. The old capacity then decides how much comes
back: it can leave more than the bucket now holds, or take away what the principal already had.
-/

namespace EdgeNode

namespace Ingest

variable {config : AdmissionConfig} {s s' : AdmissionState} {c c' : AdmissionController}
  {r r' : PrincipalReservation} {now decodedBytes items : ℕ}

/-! ## What is returned -/

def PrincipalReservation.unused (r : PrincipalReservation) : ℕ := r.reservedMilli - r.consumedMilli

/-- The reservation with its final cost and the buckets that its rest is returned to; `none` when the
request has cost more than there is. -/
def AdmissionState.settling (r : PrincipalReservation) (decodedBytes items : ℕ) (s : AdmissionState) :
    Option (PrincipalReservation × AdmissionState) :=
  let actual := (1 + decodedBytes + items * 256) * 1000
  if r.reservedMilli < actual then
    let additional := actual - r.reservedMilli
    if s.globalFlow.tokensMilli < additional
        || !(s.principals.lookup r.principalId).any fun b => additional ≤ b.tokensMilli then none
    else
      some ({ r with reservedMilli := actual, consumedMilli := max r.consumedMilli actual },
        { s with globalFlow := s.globalFlow.take additional }.onPrincipal r.principalId
          fun b => b.take additional)
  else some ({ r with consumedMilli := max r.consumedMilli actual }, s)

def AdmissionState.settled (now : ℕ) (s : AdmissionState) :
    Option (PrincipalReservation × AdmissionState) → AdmissionState
  | some (r, s') => s'.refundUnused r
  | none => s.noteDrop now

theorem reconcileAt_eq_settled : (s.reconcileAt r decodedBytes items now).2
    = s.settled now (s.settling r decodedBytes items) := by
  unfold AdmissionState.reconcileAt AdmissionState.settling
  dsimp only
  split_ifs <;> rfl

def AdmissionController.refund (c : AdmissionController) :
    AdmissionEvent → Option (PrincipalReservation × AdmissionState)
  | .reconcileAt reading reservation decodedBytes items =>
    c.readings[reading]?.bind fun _ =>
      c.reservations[reservation]?.bind fun r => c.state.settling r decodedBytes items
  | .reconcile reservation decodedBytes items =>
    c.reservations[reservation]?.bind fun r => c.state.settling r decodedBytes items
  | .dropReservation reservation => c.reservations[reservation]?.map fun r => (r, c.state)
  | _ => none

theorem refund_step {e : AdmissionEvent} (hrefund : c.refund e = some (r, s))
    (hstep : c.step config e = some c') : c'.state = s.refundUnused r := by
  cases e with
  | reconcileAt reading reservation decodedBytes items =>
    obtain ⟨nowMs, hreading, hrefund⟩ := Option.bind_eq_some_iff.1 hrefund
    obtain ⟨r₀, hr₀, hsettling⟩ := Option.bind_eq_some_iff.1 hrefund
    simp only [AdmissionController.step, hreading, Option.bind_some,
      AdmissionController.endReservation, hr₀, Option.map_some, Option.some.injEq] at hstep
    subst hstep
    rw [reconcileAt_eq_settled, hsettling]
    rfl
  | reconcile reservation decodedBytes items =>
    obtain ⟨r₀, hr₀, hsettling⟩ := Option.bind_eq_some_iff.1 hrefund
    simp only [AdmissionController.step, AdmissionController.endReservation, hr₀, Option.map_some,
      Option.some.injEq] at hstep
    subst hstep
    rw [reconcileAt_eq_settled, hsettling]
    rfl
  | dropReservation reservation =>
    obtain ⟨r₀, hr₀, hpair⟩ := Option.map_eq_some_iff.1 hrefund
    simp only [AdmissionController.step, AdmissionController.endReservation, hr₀, Option.map_some,
      Option.some.injEq] at hstep
    subst hstep
    obtain ⟨rfl, rfl⟩ := Prod.mk.inj hpair
    rfl
  | _ => exact absurd hrefund (by simp [AdmissionController.refund])

def RefundedExactly (r : PrincipalReservation) (s s' : AdmissionState) : Prop :=
  s.globalFlow.Refunded r.unused s'.globalFlow
    ∧ ∃ b b', s.principals.lookup r.principalId = some b
      ∧ s'.principals.lookup r.principalId = some b' ∧ b.Refunded r.unused b'

/-- Nothing is left to return, the principal's bucket has the capacity it had when the reservation was
made, or its balance with the returned part is within both capacities. -/
def FitsCapacity (r : PrincipalReservation) (s : AdmissionState) : Prop :=
  r.unused = 0 ∨ ∀ b ∈ s.principals.lookup r.principalId,
    r.principalCapacityMilli = b.capacityMilli
      ∨ b.tokensMilli + r.unused ≤ r.principalCapacityMilli
        ∧ b.tokensMilli + r.unused ≤ b.capacityMilli

instance (r : PrincipalReservation) (s : AdmissionState) : Decidable (FitsCapacity r s) := by
  unfold FitsCapacity
  infer_instance

def ReturnsFitting (c : AdmissionController) (e : AdmissionEvent) : Prop :=
  ∀ p ∈ c.refund e, FitsCapacity p.1 p.2

instance (c : AdmissionController) (e : AdmissionEvent) : Decidable (ReturnsFitting c e) := by
  unfold ReturnsFitting
  infer_instance

/-! ## Buckets within their capacity -/

structure Filled (config : AdmissionConfig) (s : AdmissionState) : Prop where
  global : s.globalFlow.capacityMilli = config.globalBurst * 1000
  globalFlow : s.globalFlow.tokensMilli ≤ s.globalFlow.capacityMilli
  principal : ∀ id b, s.principals.lookup id = some b →
    b.capacityMilli = b.burst * 1000 ∧ b.tokensMilli ≤ b.capacityMilli

def SameFlow (s s' : AdmissionState) : Prop :=
  s'.globalFlow = s.globalFlow ∧ s'.principals = s.principals

theorem noteDrop_sameFlow : SameFlow s (s.noteDrop now) := by
  unfold AdmissionState.noteDrop
  dsimp only
  split_ifs
  · exact ⟨rfl, rfl⟩
  · exact ⟨rfl, rfl⟩

theorem maybeRecover_sameFlow : SameFlow s (s.maybeRecover config now) := by
  unfold AdmissionState.maybeRecover
  split_ifs
  · exact ⟨rfl, rfl⟩
  · exact ⟨rfl, rfl⟩

theorem rememberSource_sameFlow {peer : IpAddr} : SameFlow s (s.rememberSource config peer now) := by
  unfold AdmissionState.rememberSource
  split_ifs
  · exact ⟨rfl, rfl⟩
  · exact ⟨rfl, rfl⟩

theorem recordAuthFailure_sameFlow {peer : IpAddr} :
    SameFlow s (s.recordAuthFailure config peer now) := by
  unfold AdmissionState.recordAuthFailure
  split
  · exact ⟨rfl, rfl⟩
  · exact ⟨rfl, rfl⟩

theorem acknowledgeEpisodeEvents_sameFlow {events : List ThrottleEpisodeEvent} :
    SameFlow s (s.acknowledgeEpisodeEvents events).2 := by
  unfold AdmissionState.acknowledgeEpisodeEvents
  split_ifs
  · exact ⟨rfl, rfl⟩
  · exact ⟨rfl, rfl⟩

theorem SameFlow.trans {s'' : AdmissionState} (h : SameFlow s' s'') (h' : SameFlow s s') :
    SameFlow s s'' := ⟨h.1.trans h'.1, h.2.trans h'.2⟩

theorem beginAuth_sameFlow {peer : IpAddr} {recentlyValidated : Bool} :
    SameFlow s (s.beginAuth config peer recentlyValidated now).2 := by
  unfold AdmissionState.beginAuth
  dsimp only
  split_ifs
  · exact noteDrop_sameFlow.trans ⟨rfl, rfl⟩
  · exact rememberSource_sameFlow.trans ⟨rfl, rfl⟩
  · exact rememberSource_sameFlow.trans ⟨rfl, rfl⟩
  · exact noteDrop_sameFlow.trans ⟨rfl, rfl⟩

theorem Filled.alike (h : Filled config s) (hsame : SameFlow s s') : Filled config s' := by
  obtain ⟨hglobal, hprincipals⟩ := hsame
  refine ⟨?_, ?_, ?_⟩
  · rw [hglobal]
    exact h.global
  · rw [hglobal]
    exact h.globalFlow
  · rw [hprincipals]
    exact h.principal

theorem Filled.refillGlobalFlow (h : Filled config s) :
    Filled config (s.refillGlobalFlow config now) :=
  ⟨h.global, (min_le_right _ _).trans h.global.ge, h.principal⟩

theorem Filled.refillPrincipals (h : Filled config s) : Filled config (s.refillPrincipals now) := by
  refine ⟨h.global, h.globalFlow, fun id b hb => ?_⟩
  simp only [AdmissionState.refillPrincipals, Keyed.lookup_updateWhere, if_true] at hb
  obtain ⟨b₀, hb₀, rfl⟩ := Option.map_eq_some_iff.1 hb
  obtain ⟨hcapacity, -⟩ := h.principal id b₀ hb₀
  exact ⟨hcapacity, (min_le_right _ _).trans hcapacity.ge⟩

theorem Filled.insertPrincipal {id : String} {b : TokenBucket} (h : Filled config s)
    (hb : b.capacityMilli = b.burst * 1000 ∧ b.tokensMilli ≤ b.capacityMilli) :
    Filled config { s with principals := s.principals.insert id b } := by
  refine ⟨h.global, h.globalFlow, fun id' b' hb' => ?_⟩
  rcases lookup_insert_eq_some hb' with ⟨rfl, rfl⟩ | ⟨-, hb'⟩
  · exact hb
  · exact h.principal id' b' hb'

theorem Filled.take {cost : ℕ} (h : Filled config s) :
    Filled config { s with globalFlow := s.globalFlow.take cost } :=
  ⟨h.global, (Nat.sub_le _ _).trans h.globalFlow, h.principal⟩

theorem Filled.onPrincipal {id : String} {f : TokenBucket → TokenBucket} (h : Filled config s)
    (hf : ∀ b, s.principals.lookup id = some b → (f b).capacityMilli = b.capacityMilli
      ∧ (f b).burst = b.burst ∧ (f b).tokensMilli ≤ b.capacityMilli) :
    Filled config (s.onPrincipal id f) := by
  refine ⟨h.global, h.globalFlow, fun id' b hb => ?_⟩
  simp only [AdmissionState.onPrincipal, Keyed.lookup_updateWhere] at hb
  obtain ⟨b₀, hb₀, rfl⟩ := Option.map_eq_some_iff.1 hb
  obtain ⟨hcapacity, htokens⟩ := h.principal id' b₀ hb₀
  split_ifs with hid
  · obtain rfl : id' = id := by simpa using hid
    obtain ⟨hsame, hburst, hwithin⟩ := hf b₀ hb₀
    rw [hsame, hburst]
    exact ⟨hcapacity, hwithin⟩
  · exact ⟨hcapacity, htokens⟩

structure Reserved (config : AdmissionConfig) (s : AdmissionState) (r : PrincipalReservation) :
    Prop where
  global : r.globalCapacityMilli = config.globalBurst * 1000
  principal : (s.principals.lookup r.principalId).isSome

theorem Filled.reserveFlow {id : String} {flow : FlowClassLimit} (cost : ℕ) (h : Filled config s) :
    Filled config (s.reserveFlow config id flow cost now).2
      ∧ (∀ r, (s.reserveFlow config id flow cost now).1 = .ok r →
        Reserved config (s.reserveFlow config id flow cost now).2 r)
      ∧ ∀ id', (s.principals.lookup id').isSome →
        ((s.reserveFlow config id flow cost now).2.principals.lookup id').isSome := by
  have hrefilled : Filled config (s.refillGlobalFlow config now) := h.refillGlobalFlow
  have hbucket : ((s.refillGlobalFlow config now).principalBucket id flow now).capacityMilli
        = ((s.refillGlobalFlow config now).principalBucket id flow now).burst * 1000
      ∧ ((s.refillGlobalFlow config now).principalBucket id flow now).tokensMilli
        ≤ ((s.refillGlobalFlow config now).principalBucket id flow now).capacityMilli :=
    ⟨rfl, min_le_right _ _⟩
  have hkeys : ∀ id', (s.principals.lookup id').isSome →
      ((s.refillGlobalFlow config now).principals.lookup id').isSome := fun _ h => h
  unfold AdmissionState.reserveFlow
  dsimp only
  generalize (s.refillGlobalFlow config now).principalBucket id flow now = b at hbucket ⊢
  generalize s.refillGlobalFlow config now = s₁ at hrefilled hkeys ⊢
  have hinserted : ∀ b' id', (s.principals.lookup id').isSome →
      ((s₁.principals.insert id b').lookup id').isSome := by
    intro b' id' hid
    by_cases hsame : id' = id
    · rw [hsame, AList.lookup_insert]
      rfl
    · rw [AList.lookup_insert_ne hsame]
      exact hkeys id' hid
  split_ifs with hroom hcost
  · obtain ⟨hglobal, hprincipals⟩ : SameFlow s₁ (s₁.noteDrop now) := noteDrop_sameFlow
    refine ⟨hrefilled.alike ⟨hglobal, hprincipals⟩, by simp, fun id' hid => ?_⟩
    rw [hprincipals]
    exact hkeys id' hid
  · have hsame := @noteDrop_sameFlow { s₁ with principals := s₁.principals.insert id b } now
    refine ⟨(hrefilled.insertPrincipal hbucket).alike hsame, by simp, fun id' hid => ?_⟩
    rw [hsame.2]
    exact hinserted b id' hid
  · have hleft : Filled config { s₁ with
        principals := (s₁.principals.insert id b).insert id (b.take (cost * 1000)) } :=
      (hrefilled.insertPrincipal hbucket).insertPrincipal
        ⟨hbucket.1, (Nat.sub_le _ _).trans hbucket.2⟩
    refine ⟨hleft.take, ?_, fun id' hid => ?_⟩
    · rintro r ⟨rfl⟩
      exact ⟨rfl, by simp⟩
    · by_cases hsame : id' = id
      · rw [hsame, AList.lookup_insert]
        rfl
      · rw [AList.lookup_insert_ne hsame]
        exact hinserted b id' hid

/-! ## One refund -/

theorem refundUnused_principal (id : String) :
    (s.refundUnused r).principals.lookup id = (s.principals.lookup id).map fun b =>
      if r.unused ≠ 0 ∧ id = r.principalId then b.giveBack r.unused r.principalCapacityMilli else b := by
  unfold AdmissionState.refundUnused PrincipalReservation.unused
  dsimp only
  by_cases hzero : r.reservedMilli - r.consumedMilli = 0
  · simp [hzero]
  · rw [if_neg hzero, AdmissionState.onPrincipal, Keyed.lookup_updateWhere]
    simp [hzero]

theorem refundUnused_globalFlow : (s.refundUnused r).globalFlow
    = if r.unused = 0 then s.globalFlow else s.globalFlow.giveBack r.unused r.globalCapacityMilli := by
  unfold AdmissionState.refundUnused PrincipalReservation.unused
  dsimp only
  split_ifs
  · rfl
  · rfl

theorem Filled.refundUnused_iff (h : Filled config s) (hr : Reserved config s r) :
    RefundedExactly r s (s.refundUnused r) ↔ FitsCapacity r s := by
  obtain ⟨b, hb⟩ := Option.isSome_iff_exists.1 hr.principal
  have htokens := (h.principal _ b hb).2
  unfold RefundedExactly FitsCapacity
  rw [refundUnused_globalFlow, refundUnused_principal, hb]
  by_cases hzero : r.unused = 0
  · simp only [hzero, if_true, ne_eq, not_true, false_and, if_false, Option.map_some, true_or, iff_true]
    exact ⟨TokenBucket.refunded_zero h.globalFlow, b, b, rfl, rfl, TokenBucket.refunded_zero htokens⟩
  · have hglobal : s.globalFlow.Refunded r.unused
        (s.globalFlow.giveBack r.unused r.globalCapacityMilli) :=
      (TokenBucket.giveBack_refunded_iff h.globalFlow).2 (.inl (hr.global.trans h.global.symm))
    simp only [hzero, if_false, ne_eq, not_false_iff, and_self, if_true, Option.map_some, false_or]
    constructor
    · rintro ⟨-, b₀, b', hb₀, hb', hrefunded⟩ b₁ hb₁
      obtain rfl := Option.some.inj hb₀
      obtain rfl := Option.some.inj hb'
      obtain rfl := Option.some.inj hb₁
      exact (TokenBucket.giveBack_refunded_iff htokens).1 hrefunded
    · intro hfits
      exact ⟨hglobal, b, _, rfl, rfl,
        (TokenBucket.giveBack_refunded_iff htokens).2 (hfits b rfl)⟩

theorem Filled.refundUnused (h : Filled config s) (hr : Reserved config s r)
    (hfits : FitsCapacity r s) : Filled config (s.refundUnused r) := by
  obtain ⟨hglobal, b, b', hb, hb', hrefunded⟩ := (h.refundUnused_iff hr).2 hfits
  refine ⟨hglobal.capacity.trans h.global, hglobal.fits, fun id b₁ hb₁ => ?_⟩
  rw [refundUnused_principal] at hb₁ hb'
  obtain ⟨b₀, hb₀, rfl⟩ := Option.map_eq_some_iff.1 hb₁
  obtain ⟨hcapacity, htokens⟩ := h.principal id b₀ hb₀
  split_ifs with hreturned
  · obtain ⟨hsome, rfl⟩ := hreturned
    rw [hb₀, Option.map_some, if_pos ⟨hsome, rfl⟩] at hb'
    obtain rfl := Option.some.inj hb'
    exact ⟨hcapacity, hrefunded.fits⟩
  · exact ⟨hcapacity, htokens⟩

theorem Filled.settling (h : Filled config s) (hr : Reserved config s r)
    (hsettling : s.settling r decodedBytes items = some (r', s')) :
    Filled config s' ∧ Reserved config s' r'
      ∧ ∀ id, (s.principals.lookup id).isSome → (s'.principals.lookup id).isSome := by
  unfold AdmissionState.settling at hsettling
  dsimp only at hsettling
  split_ifs at hsettling
  · obtain ⟨rfl, rfl⟩ := Prod.mk.inj (Option.some.inj hsettling)
    refine ⟨h.take.onPrincipal fun b hb => ⟨rfl, rfl, ?_⟩, ⟨hr.global, ?_⟩, fun id hid => ?_⟩
    · exact (Nat.sub_le _ _).trans (h.principal _ b hb).2
    · simpa [AdmissionState.onPrincipal, Keyed.lookup_updateWhere] using hr.principal
    · simpa [AdmissionState.onPrincipal, Keyed.lookup_updateWhere] using hid
  · obtain ⟨rfl, rfl⟩ := Prod.mk.inj (Option.some.inj hsettling)
    exact ⟨h, ⟨hr.global, hr.principal⟩, fun _ hid => hid⟩

/-! ## Runs -/

structure Refundable (config : AdmissionConfig) (c : AdmissionController) : Prop where
  filled : Filled config c.state
  reserved : ∀ r ∈ c.reservations, Reserved config c.state r

theorem Refundable.of_state (h : Refundable config c) (hfilled : Filled config c'.state)
    (hkeys : ∀ id, (c.state.principals.lookup id).isSome →
      (c'.state.principals.lookup id).isSome)
    (hreservations : ∀ r ∈ c'.reservations, ∃ r₀ ∈ c.reservations,
      r.globalCapacityMilli = r₀.globalCapacityMilli ∧ r.principalId = r₀.principalId) :
    Refundable config c' := by
  refine ⟨hfilled, fun r hr => ?_⟩
  obtain ⟨r₀, hr₀, hcapacity, hid⟩ := hreservations r hr
  have hreserved := h.reserved r₀ hr₀
  exact ⟨hcapacity.trans hreserved.global, hkeys _ (hid ▸ hreserved.principal)⟩

theorem Refundable.same (h : Refundable config c) (hsame : SameFlow c.state c'.state)
    (hreservations : c'.reservations = c.reservations) : Refundable config c' := by
  refine h.of_state (h.filled.alike hsame) (fun id hid => ?_) fun r hr => ?_
  · rw [hsame.2]
    exact hid
  · exact ⟨r, hreservations ▸ hr, rfl, rfl⟩

theorem Refundable.reservePrincipal {id flowClass : String} {cost : ℕ} (h : Refundable config c) :
    Refundable config (c.reservePrincipal config id flowClass cost now) := by
  have hstate : Filled config (c.state.reservePrincipal config id flowClass cost now).2
      ∧ (∀ r, (c.state.reservePrincipal config id flowClass cost now).1 = .ok r →
        Reserved config (c.state.reservePrincipal config id flowClass cost now).2 r)
      ∧ ∀ id', (c.state.principals.lookup id').isSome →
        ((c.state.reservePrincipal config id flowClass cost now).2.principals.lookup id').isSome := by
    have hdropped : SameFlow c.state (c.state.noteDrop now) := noteDrop_sameFlow
    unfold AdmissionState.reservePrincipal
    split_ifs
    · exact ⟨h.filled.alike hdropped, by simp, fun id' hid => hdropped.2 ▸ hid⟩
    · split
      · exact ⟨h.filled.alike hdropped, by simp, fun id' hid => hdropped.2 ▸ hid⟩
      · exact h.filled.reserveFlow cost
  obtain ⟨hfilled, hreserved, hkeys⟩ := hstate
  unfold AdmissionController.reservePrincipal
  split
  · rename_i r state hout
    rw [hout] at hfilled hreserved hkeys
    refine ⟨hfilled, fun r' hr' => ?_⟩
    rcases List.mem_append.1 hr' with hr' | hr'
    · exact ⟨(h.reserved r' hr').global, hkeys _ (h.reserved r' hr').principal⟩
    · obtain rfl := List.mem_singleton.1 hr'
      exact hreserved _ rfl
  · rename_i state hout
    rw [hout] at hfilled hkeys
    exact h.of_state hfilled hkeys fun r hr => ⟨r, hr, rfl, rfl⟩

theorem Refundable.refund {e : AdmissionEvent} (h : Refundable config c)
    (hrefund : c.refund e = some (r, s)) :
    Filled config s ∧ Reserved config s r
      ∧ ∀ id, (c.state.principals.lookup id).isSome → (s.principals.lookup id).isSome := by
  cases e with
  | reconcileAt reading reservation decodedBytes items =>
    obtain ⟨nowMs, -, hrefund⟩ := Option.bind_eq_some_iff.1 hrefund
    obtain ⟨r₀, hr₀, hsettling⟩ := Option.bind_eq_some_iff.1 hrefund
    exact h.filled.settling (h.reserved r₀ (List.mem_of_getElem? hr₀)) hsettling
  | reconcile reservation decodedBytes items =>
    obtain ⟨r₀, hr₀, hsettling⟩ := Option.bind_eq_some_iff.1 hrefund
    exact h.filled.settling (h.reserved r₀ (List.mem_of_getElem? hr₀)) hsettling
  | dropReservation reservation =>
    obtain ⟨r₀, hr₀, hpair⟩ := Option.map_eq_some_iff.1 hrefund
    obtain ⟨rfl, rfl⟩ := Prod.mk.inj hpair
    exact ⟨h.filled, h.reserved r₀ (List.mem_of_getElem? hr₀), fun _ hid => hid⟩
  | _ => exact absurd hrefund (by simp [AdmissionController.refund])

theorem Refundable.ended {reservation : ℕ} {state : AdmissionState}
    {refund : Option (PrincipalReservation × AdmissionState)} (h : Refundable config c)
    (hrefund : ∀ r s, refund = some (r, s) → (Filled config s ∧ Reserved config s r
      ∧ ∀ id, (c.state.principals.lookup id).isSome → (s.principals.lookup id).isSome)
        ∧ FitsCapacity r s)
    (hstate : state = c.state.settled now refund)
    (hc : c' = { c with
      state := state
      readings := c'.readings
      reservations := c.reservations.eraseIdx reservation }) : Refundable config c' := by
  have hreservations : ∀ r ∈ c'.reservations, r ∈ c.reservations := by
    rw [hc]
    exact fun r hr => List.mem_of_mem_eraseIdx hr
  have hc' : c'.state = state := by rw [hc]
  cases refund with
  | none =>
    have hsame : SameFlow c.state c'.state := by
      rw [hc', hstate]
      exact noteDrop_sameFlow
    exact h.of_state (h.filled.alike hsame) (fun id hid => hsame.2 ▸ hid)
      fun r hr => ⟨r, hreservations r hr, rfl, rfl⟩
  | some p =>
    obtain ⟨⟨hfilled, hreserved, hkeys⟩, hfits⟩ := hrefund p.1 p.2 rfl
    refine h.of_state ?_ (fun id hid => ?_) fun r hr => ⟨r, hreservations r hr, rfl, rfl⟩
    · rw [hc', hstate]
      exact hfilled.refundUnused hreserved hfits
    · rw [hc', hstate, AdmissionState.settled, refundUnused_principal, Option.isSome_map]
      exact hkeys id hid

theorem Refundable.step (h : Refundable config c) (e : AdmissionEvent) (hfits : ReturnsFitting c e)
    (hc : c.step config e = some c') : Refundable config c' := by
  have hreturned : ∀ r s, c.refund e = some (r, s) → (Filled config s ∧ Reserved config s r
      ∧ ∀ id, (c.state.principals.lookup id).isSome → (s.principals.lookup id).isSome)
        ∧ FitsCapacity r s := fun r s hrefund => ⟨h.refund hrefund, hfits (r, s) hrefund⟩
  cases e with
  | advance ms | read | noteQueueDepth depth =>
    obtain rfl := Option.some.inj hc
    exact h.same ⟨rfl, rfl⟩ rfl
  | releaseWorker reserved =>
    obtain rfl := Option.some.inj hc
    split_ifs
    · exact h.same ⟨rfl, rfl⟩ rfl
    · exact h.same ⟨rfl, rfl⟩ rfl
  | noteCurrentCapacityPressure =>
    obtain rfl := Option.some.inj hc
    exact h.same ⟨rfl, rfl⟩ rfl
  | acknowledgeEpisodeEvents events =>
    obtain rfl := Option.some.inj hc
    exact h.same acknowledgeEpisodeEvents_sameFlow rfl
  | beginAuth reading peer recentlyValidated =>
    obtain ⟨nowMs, -, rfl⟩ := Option.map_eq_some_iff.1 hc
    have hsame : SameFlow c.state (c.state.beginAuth config peer recentlyValidated nowMs).2 :=
      beginAuth_sameFlow
    unfold AdmissionController.beginAuth
    split
    all_goals
      rename_i hout
      dsimp only at hout
      rw [hout] at hsame
      exact h.same hsame rfl
  | acquireWorker call =>
    obtain ⟨⟨nowMs, recentlyValidated⟩, -, rfl⟩ := Option.map_eq_some_iff.1 hc
    simp only [AdmissionController.acquireWorker]
    split_ifs
    · exact h.same ⟨rfl, rfl⟩ rfl
    · exact h.same ⟨rfl, rfl⟩ rfl
    · exact h.same noteDrop_sameFlow rfl
  | recordAuthFailure reading peer =>
    obtain ⟨nowMs, -, rfl⟩ := Option.map_eq_some_iff.1 hc
    exact h.same recordAuthFailure_sameFlow rfl
  | recordThrottledDrop reading =>
    obtain ⟨nowMs, -, rfl⟩ := Option.map_eq_some_iff.1 hc
    exact h.same noteDrop_sameFlow rfl
  | reservePrincipal reading id flowClass cost =>
    obtain ⟨nowMs, -, rfl⟩ := Option.map_eq_some_iff.1 hc
    have h₁ : Refundable config { c with readings := c.readings.eraseIdx reading } :=
      h.same ⟨rfl, rfl⟩ rfl
    exact h₁.reservePrincipal
  | noteConsumedBytes reservation bytes =>
    obtain ⟨r, hr, rfl⟩ := Option.map_eq_some_iff.1 hc
    refine h.of_state h.filled (fun _ hid => hid) fun r' hr' => ?_
    rcases List.mem_or_eq_of_mem_set hr' with hr' | rfl
    · exact ⟨r', hr', rfl, rfl⟩
    · exact ⟨r, List.mem_of_getElem? hr, rfl, rfl⟩
  | reconcileAt reading reservation decodedBytes items =>
    obtain ⟨nowMs, hreading, hc⟩ := Option.bind_eq_some_iff.1 hc
    obtain ⟨r, hr, rfl⟩ := Option.map_eq_some_iff.1 hc
    simp only [AdmissionController.refund, hreading, Option.bind_some] at hreturned
    rw [show c.reservations[reservation]? = some r from hr, Option.bind_some] at hreturned
    exact h.ended hreturned reconcileAt_eq_settled rfl
  | reconcile reservation decodedBytes items =>
    obtain ⟨r, hr, rfl⟩ := Option.map_eq_some_iff.1 hc
    simp only [AdmissionController.refund, hr, Option.bind_some] at hreturned
    exact h.ended hreturned reconcileAt_eq_settled rfl
  | dropReservation reservation =>
    obtain ⟨r, hr, rfl⟩ := Option.map_eq_some_iff.1 hc
    simp only [AdmissionController.refund, hr, Option.map_some] at hreturned
    exact @Refundable.ended config c _ 0 reservation _ _ h hreturned rfl rfl
  | healthSnapshot reading =>
    obtain ⟨nowMs, -, rfl⟩ := Option.map_eq_some_iff.1 hc
    have hfilled : Filled config (c.state.healthSnapshot config nowMs).2 := by
      have hauth : SameFlow c.state (c.state.refillAuth config nowMs) := ⟨rfl, rfl⟩
      exact ((h.filled.alike hauth).refillGlobalFlow.refillPrincipals).alike
        maybeRecover_sameFlow
    refine h.of_state hfilled (fun id hid => ?_) fun r hr => ⟨r, hr, rfl, rfl⟩
    have hrecovered := (@maybeRecover_sameFlow config
      (((c.state.refillAuth config nowMs).refillGlobalFlow config nowMs).refillPrincipals nowMs)
      nowMs).2
    simp only [AdmissionController.onState, AdmissionState.healthSnapshot]
    rw [hrecovered, AdmissionState.refillPrincipals, Keyed.lookup_updateWhere, Option.isSome_map]
    exact hid

theorem new_refundable (config : AdmissionConfig) (startMs : ℕ) :
    Refundable config (.new config startMs) :=
  ⟨⟨rfl, le_rfl, by simp [AdmissionController.new, AdmissionState.new]⟩,
    by simp [AdmissionController.new]⟩

/-- In every run whose refunds fit so far, the next one gives both buckets exactly what fits, and
neither takes away nor overfills, if and only if it fits as well. -/
theorem refund_exact_iff (config : AdmissionConfig) (startMs : ℕ) (events : List AdmissionEvent)
    (c c' : AdmissionController) (e : AdmissionEvent) (r : PrincipalReservation) (s : AdmissionState)
    (hfits : Machine.Along (AdmissionController.step config) ReturnsFitting (.new config startMs)
      events)
    (hrun : Machine.run (AdmissionController.step config) (.new config startMs) events = some c)
    (hrefund : c.refund e = some (r, s)) (hstep : c.step config e = some c') :
    RefundedExactly r s c'.state ↔ FitsCapacity r s := by
  have hsound : Refundable config c :=
    Machine.run_invariant_along (fun c e c' he h hc => h.step e he hc) hfits
      (new_refundable config startMs) hrun
  obtain ⟨hfilled, hreserved, -⟩ := hsound.refund hrefund
  rw [refund_step hrefund hstep]
  exact hfilled.refundUnused_iff hreserved

section Meter

def meter : AdmissionConfig :=
  { lowFlow := ⟨1, 10⟩, highFlow := ⟨1000, 100⟩ }

def balance (s : AdmissionState) (id : String) : Option (ℕ × ℕ) :=
  (s.principals.lookup id).map fun b => (b.tokensMilli, b.capacityMilli)

def dropped (events : List AdmissionEvent) : Option (Option (ℕ × ℕ) × Option (ℕ × ℕ)) :=
  (Machine.run (AdmissionController.step meter) (.new meter 0) events).bind fun c =>
    (c.refund (.dropReservation 0)).bind fun p =>
      (c.step meter (.dropReservation 0)).map fun c' =>
        (balance p.2 p.1.principalId, balance c'.state p.1.principalId)

def Drops (events : List AdmissionEvent) (before after : ℕ × ℕ) (exactly : Prop) : Prop :=
  ∃ c c' r s, Machine.run (AdmissionController.step meter) (.new meter 0) events = some c
    ∧ c.refund (.dropReservation 0) = some (r, s) ∧ c.step meter (.dropReservation 0) = some c'
    ∧ balance s r.principalId = some before ∧ balance c'.state r.principalId = some after
    ∧ (RefundedExactly r s c'.state ↔ exactly)

theorem drops_of_dropped {events : List AdmissionEvent} {before after : ℕ × ℕ} {exactly : Prop}
    (h : dropped events = some (some before, some after))
    (hexactly : ∀ c c' r s,
      Machine.run (AdmissionController.step meter) (.new meter 0) events = some c →
      c.refund (.dropReservation 0) = some (r, s) → c.step meter (.dropReservation 0) = some c' →
      balance s r.principalId = some before → balance c'.state r.principalId = some after →
      (RefundedExactly r s c'.state ↔ exactly)) : Drops events before after exactly := by
  obtain ⟨c, hrun, h⟩ := Option.bind_eq_some_iff.1 h
  obtain ⟨⟨r, s⟩, hrefund, h⟩ := Option.bind_eq_some_iff.1 h
  obtain ⟨c', hstep, h⟩ := Option.map_eq_some_iff.1 h
  obtain ⟨hbefore, hafter⟩ := Prod.mk.inj h
  exact ⟨c, c', r, s, hrun, hrefund, hstep, hbefore, hafter,
    hexactly c c' r s hrun hrefund hstep hbefore hafter⟩

theorem RefundedExactly.balance {before after : ℕ × ℕ} (h : RefundedExactly r s s')
    (hbefore : balance s r.principalId = some before)
    (hafter : Ingest.balance s' r.principalId = some after) :
    before.1 ≤ after.1 ∧ after.1 ≤ after.2 := by
  obtain ⟨-, b, b', hb, hb', hrefunded⟩ := h
  rw [Ingest.balance, hb] at hbefore
  rw [Ingest.balance, hb'] at hafter
  obtain rfl := Option.some.inj hbefore
  obtain rfl := Option.some.inj hafter
  exact ⟨hrefunded.kept, hrefunded.fits⟩

def raisedClass : List AdmissionEvent :=
  [.read, .reservePrincipal 0 "press" "low" 5, .advance 1000, .read,
    .reservePrincipal 0 "press" "high" 1]

def loweredClass : List AdmissionEvent :=
  [.read, .reservePrincipal 0 "press" "high" 50, .read, .reservePrincipal 0 "press" "low" 1]

def sameClass : List AdmissionEvent := [.read, .reservePrincipal 0 "press" "high" 50]

/-- The refund of four tokens takes 89 away where the class was raised, and leaves 48 more than the
bucket holds where it was lowered. -/
theorem changed_class_refunds_wrongly :
    Drops raisedClass (99000, 100000) (10000, 100000) False
      ∧ Drops loweredClass (9000, 10000) (58000, 10000) False := by
  constructor
  · refine drops_of_dropped (by decide +kernel) fun c c' r s _ _ _ hbefore hafter => ?_
    exact iff_false_intro fun h => absurd (h.balance hbefore hafter).1 (by decide)
  · refine drops_of_dropped (by decide +kernel) fun c c' r s _ _ _ hbefore hafter => ?_
    exact iff_false_intro fun h => absurd (h.balance hbefore hafter).2 (by decide)

theorem same_class_refunds_exactly : Drops sameClass (50000, 100000) (99000, 100000) True := by
  refine drops_of_dropped (by decide +kernel) fun c c' r s hrun hrefund hstep _ _ => ?_
  have hfits : (Machine.run (AdmissionController.step meter) (.new meter 0) sameClass).all
      (fun c => decide (ReturnsFitting c (.dropReservation 0))) = true := by decide +kernel
  rw [hrun, Option.all_some, decide_eq_true_eq] at hfits
  rw [refund_exact_iff meter 0 sameClass c c' (.dropReservation 0) r s (by decide +kernel) hrun
    hrefund hstep]
  exact iff_true_intro (hfits (r, s) hrefund)

end Meter

end Ingest

end EdgeNode
