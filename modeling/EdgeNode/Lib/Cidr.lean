import Mathlib

/-!
# Networks by their leading bits

A network of addresses of `w` bits is an address and the number of leading bits that count. Its
addresses are those that agree on these bits, and they are an interval: from `network`, with all
other bits 0, to `broadcast`, with all other bits 1.
-/

namespace EdgeNode

structure Cidr (w : ℕ) where
  address : BitVec w
  length : ℕ
  length_le : length ≤ w

namespace Cidr

variable {w : ℕ} (c : Cidr w)

def size : ℕ := 2 ^ (w - c.length)

def network : BitVec w := BitVec.ofNat w (c.address.toNat / c.size * c.size)

def broadcast : BitVec w := BitVec.ofNat w (c.address.toNat / c.size * c.size + (c.size - 1))

def contains (ip : BitVec w) : Bool := ip.toNat / c.size == c.address.toNat / c.size

theorem size_pos : 0 < c.size := Nat.two_pow_pos _

theorem broadcast_lt : c.address.toNat / c.size * c.size + (c.size - 1) < 2 ^ w := by
  have hpos := c.size_pos
  have hsplit : 2 ^ w = 2 ^ c.length * c.size := by
    unfold size
    rw [← pow_add]
    congr 1
    have := c.length_le
    omega
  have hquot : c.address.toNat / c.size < 2 ^ c.length := by
    rw [Nat.div_lt_iff_lt_mul hpos, ← hsplit]
    exact c.address.isLt
  have hle : (c.address.toNat / c.size + 1) * c.size ≤ 2 ^ c.length * c.size :=
    Nat.mul_le_mul_right _ hquot
  rw [hsplit]
  rw [Nat.add_mul, Nat.one_mul] at hle
  omega

theorem toNat_broadcast : c.broadcast.toNat = c.address.toNat / c.size * c.size + (c.size - 1) :=
  (BitVec.toNat_ofNat _ _).trans (Nat.mod_eq_of_lt c.broadcast_lt)

theorem toNat_network : c.network.toNat = c.address.toNat / c.size * c.size :=
  (BitVec.toNat_ofNat _ _).trans
    (Nat.mod_eq_of_lt (lt_of_le_of_lt (Nat.le_add_right _ _) c.broadcast_lt))

theorem contains_iff (ip : BitVec w) :
    c.contains ip = true ↔ c.network ≤ ip ∧ ip ≤ c.broadcast := by
  have hpos := c.size_pos
  rw [BitVec.le_def, BitVec.le_def, toNat_network, toNat_broadcast, contains, beq_iff_eq,
    Nat.div_eq_iff hpos, Nat.add_sub_assoc hpos]

end Cidr

end EdgeNode
