import Mathlib

/-!
# Binary64 numbers

A finite number is an integer significand times a power of two. Every operation rounds the exact
result once, to nearest with ties to even, to 53 significant bits and exponents from -1074 on; what
reaches 2 ^ 1024 is infinite. The sign of a zero is not kept: nothing below can tell the two zeros
apart.
-/

namespace EdgeNode

inductive F64 where
  | nan
  | inf (neg : Bool)
  | finite (significand : ℤ) (exponent : ℤ)
  deriving DecidableEq, Repr

namespace F64

/-- `m / 2 ^ s` to the nearest integer, ties to even. -/
def shiftRight (m : ℤ) (s : ℕ) : ℤ :=
  let q := m.natAbs / 2 ^ s
  let r := m.natAbs % 2 ^ s
  let up := 2 ^ s < 2 * r ∨ (2 ^ s = 2 * r ∧ q % 2 = 1)
  m.sign * (if up then q + 1 else q : ℕ)

def round (m e : ℤ) : F64 :=
  let excess := (m.natAbs.log2 : ℤ) - 52
  let s := (max excess (-1074 - e)).toNat
  let m' := if s = 0 then m else shiftRight m s
  if m' = 0 then finite 0 0
  else if 1024 ≤ (m'.natAbs.log2 : ℤ) + (e + s) then inf (m' < 0)
  else finite m' (e + s)

def ofInt (i : ℤ) : F64 := round i 0

def isFinite : F64 → Bool
  | finite _ _ => true
  | _ => false

/-- The significands of two finite numbers over their common exponent. -/
def align (m₁ e₁ m₂ e₂ : ℤ) : ℤ × ℤ :=
  (m₁ * 2 ^ (e₁ - min e₁ e₂).toNat, m₂ * 2 ^ (e₂ - min e₁ e₂).toNat)

def isZero : F64 → Bool
  | finite m _ => m == 0
  | _ => false

def neg? : F64 → Bool
  | nan => false
  | inf n => n
  | finite m _ => m < 0

def mul : F64 → F64 → F64
  | finite m₁ e₁, finite m₂ e₂ => round (m₁ * m₂) (e₁ + e₂)
  | nan, _ => nan
  | _, nan => nan
  | x, y => if x.isZero || y.isZero then nan else inf (x.neg? != y.neg?)

def add : F64 → F64 → F64
  | finite m₁ e₁, finite m₂ e₂ =>
    let ms := align m₁ e₁ m₂ e₂
    round (ms.1 + ms.2) (min e₁ e₂)
  | nan, _ => nan
  | _, nan => nan
  | inf a, inf b => if a = b then inf a else nan
  | inf a, _ => inf a
  | _, inf b => inf b

/-- `x < y`; false whenever one of them is not a number. -/
def lt : F64 → F64 → Bool
  | nan, _ => false
  | _, nan => false
  | inf a, inf b => a && !b
  | inf a, finite _ _ => a
  | finite _ _, inf b => !b
  | finite m₁ e₁, finite m₂ e₂ => (align m₁ e₁ m₂ e₂).1 < (align m₁ e₁ m₂ e₂).2

/-- `x == y` as the language compares numbers: a `nan` equals nothing. -/
def eq : F64 → F64 → Bool
  | nan, _ => false
  | _, nan => false
  | inf a, inf b => a == b
  | finite m₁ e₁, finite m₂ e₂ => (align m₁ e₁ m₂ e₂).1 == (align m₁ e₁ m₂ e₂).2
  | _, _ => false

def le (x y : F64) : Bool := x.lt y || x.eq y

/-- `x.fract() == 0.0`: false for infinities and `nan`, whose fraction is not a number. -/
def isIntegral : F64 → Bool
  | finite m e => 0 ≤ e || m % 2 ^ (-e).toNat == 0
  | _ => false

def toInt : F64 → ℤ
  | finite m e => if 0 ≤ e then m * 2 ^ e.toNat else m.tdiv (2 ^ (-e).toNat)
  | _ => 0

/-- `x.abs() < 2 ^ 53`. -/
def absLtSafe (x : F64) : Bool := x.lt (finite 1 53) && (finite (-1) 53).lt x

end F64

example : F64.add (F64.mul (F64.ofInt 3) (F64.finite 1 (-1))) (F64.ofInt 1) = F64.finite 5 (-1) := by
  decide +kernel

end EdgeNode
