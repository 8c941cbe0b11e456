import Mathlib

/-!
# Numbers as little-endian bytes

`leBytes w n` is the number `n` written in `w` bytes, the lowest first, and `leNat` reads the bytes
back. A number that fits its width is read as it was written.
-/

namespace EdgeNode

def leBytes : ℕ → ℕ → List UInt8
  | 0, _ => []
  | w + 1, n => UInt8.ofNat n :: leBytes w (n / 256)

def leNat : List UInt8 → ℕ
  | [] => 0
  | b :: bs => b.toNat + 256 * leNat bs

@[simp] theorem leBytes_length : ∀ w n, (leBytes w n).length = w
  | 0, _ => rfl
  | w + 1, n => by simp [leBytes, leBytes_length w]

theorem leNat_leBytes : ∀ w n, leNat (leBytes w n) = n % 256 ^ w
  | 0, n => by simp [leBytes, leNat, Nat.mod_one]
  | w + 1, n => by
    rw [leBytes, leNat, leNat_leBytes w, pow_succ', Nat.mod_mul]
    simp

end EdgeNode
