import EdgeNode.Lib.Json

/-!
# Hexadecimal numbers

A number written with a fixed count of hexadecimal digits, and the number a text of digits denotes.
Reading takes digits of either case; a number that fits its digits is read as it was written.
-/

namespace EdgeNode

def hexDigits : ℕ → ℕ → List Char
  | 0, _ => []
  | count + 1, n => hexDigits count (n / 16) ++ [Json.hexDigit (n % 16)]

def hexValue (c : Char) : Option ℕ :=
  if '0' ≤ c ∧ c ≤ '9' then some (c.toNat - 48)
  else if 'a' ≤ c ∧ c ≤ 'f' then some (c.toNat - 87)
  else if 'A' ≤ c ∧ c ≤ 'F' then some (c.toNat - 55)
  else none

def hexNumber (digits : List Char) : Option ℕ :=
  digits.foldlM (fun n c => (hexValue c).map fun d => 16 * n + d) 0

theorem hexDigit_spec : ∀ d < 16, hexValue (Json.hexDigit d) = some d
    ∧ Json.hexDigit d ≠ '-' ∧ Json.hexDigit d ≠ ':' := by decide

theorem hexDigits_length : ∀ count n, (hexDigits count n).length = count
  | 0, _ => rfl
  | count + 1, n => by simp [hexDigits, hexDigits_length count]

theorem exists_of_mem_hexDigits : ∀ {count n : ℕ} {c : Char}, c ∈ hexDigits count n →
    ∃ d < 16, c = Json.hexDigit d
  | 0, _, _, h => by simp [hexDigits] at h
  | count + 1, n, c, h => by
    rcases List.mem_append.1 h with h | h
    · exact exists_of_mem_hexDigits h
    · exact ⟨n % 16, Nat.mod_lt _ (by omega), List.mem_singleton.1 h⟩

theorem mem_hexDigits {count n : ℕ} {c : Char} (h : c ∈ hexDigits count n) :
    c ≠ '-' ∧ c ≠ ':' := by
  obtain ⟨d, hd, rfl⟩ := exists_of_mem_hexDigits h
  exact (hexDigit_spec d hd).2

theorem hexNumber_concat (digits : List Char) (c : Char) :
    hexNumber (digits ++ [c])
      = (hexNumber digits).bind fun n => (hexValue c).map fun d => 16 * n + d := by
  unfold hexNumber
  rw [List.foldlM_append]
  refine congrArg _ (funext fun n => ?_)
  simp

theorem hexNumber_hexDigits : ∀ count n, hexNumber (hexDigits count n) = some (n % 16 ^ count)
  | 0, n => by simp [hexDigits, hexNumber, Nat.mod_one]
  | count + 1, n => by
    rw [hexDigits, hexNumber_concat, hexNumber_hexDigits count,
      (hexDigit_spec _ (Nat.mod_lt n (by omega))).1]
    rw [pow_succ', Nat.mod_mul]
    simp [Nat.add_comm]

end EdgeNode
