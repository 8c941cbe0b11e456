import Mathlib

/-!
# Signed 64-bit arithmetic

Sums and differences that stop at the ends of the range (`saturating_`), and those that have no
result outside it (`checked_`).
-/

namespace EdgeNode

namespace I64

def minValue : ℤ := -2 ^ 63

def maxValue : ℤ := 2 ^ 63 - 1

def inRange (i : ℤ) : Prop := minValue ≤ i ∧ i ≤ maxValue

instance (i : ℤ) : Decidable (inRange i) := inferInstanceAs (Decidable (_ ∧ _))

def saturate (i : ℤ) : ℤ := max minValue (min maxValue i)

theorem saturate_le {i m : ℤ} (h : i ≤ m) (hm : minValue ≤ m) : saturate i ≤ m :=
  max_le hm ((min_le_right _ _).trans h)

theorem saturate_mono {i j : ℤ} (h : i ≤ j) : saturate i ≤ saturate j :=
  max_le_max_left _ (min_le_min_left _ h)

theorem saturate_eq {i : ℤ} (h : inRange i) : saturate i = i := by
  unfold saturate
  rw [min_eq_right h.2, max_eq_right h.1]

theorem lt_of_lt_saturate {i m : ℤ} (hm : minValue ≤ m) (h : m < saturate i) : m < i := by
  unfold saturate at h
  omega

def saturatingAdd (a b : ℤ) : ℤ := saturate (a + b)

def saturatingSub (a b : ℤ) : ℤ := saturate (a - b)

def checked (i : ℤ) : Option ℤ := if inRange i then some i else none

def checkedAdd (a b : ℤ) : Option ℤ := checked (a + b)

def checkedSub (a b : ℤ) : Option ℤ := checked (a - b)

end I64

end EdgeNode
