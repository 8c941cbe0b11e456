import Mathlib.Computability.RegularExpressions
import EdgeNode.Ledger.ModelId

/-!
# The grammar of model identifiers

The scan accepts the words of a regular expression, cut at 64 bytes. The expression is over
characters, the scan over bytes: a character outside ASCII starts with a byte that is in none of the
three classes. The two states of the scan are two languages, each the other one up to its first
letter.
-/

namespace EdgeNode.Ledger

open scoped Computability

/-! ## The expression -/

def oneOf : List Char → RegularExpression Char
  | [] => 0
  | c :: cs => .char c + oneOf cs

def lowercase : List Char := "abcdefghijklmnopqrstuvwxyz".toList

def alphanumeric : List Char := lowercase ++ "0123456789".toList

def separators : List Char := "-_.".toList

/-- `[a-z][a-z0-9]*([-_.][a-z0-9]+)*` -/
def modelIdGrammar : RegularExpression Char :=
  oneOf lowercase * .star (oneOf alphanumeric)
    * .star (oneOf separators * (oneOf alphanumeric * .star (oneOf alphanumeric)))

theorem mem_oneOf {cs : List Char} {w : List Char} :
    w ∈ (oneOf cs).matches' ↔ ∃ c ∈ cs, w = [c] := by
  induction cs with
  | nil => simp [oneOf]
  | cons c cs ih =>
    rw [oneOf, RegularExpression.matches'_add, Language.mem_add, ih]
    simp only [RegularExpression.matches'_char, List.mem_cons, exists_eq_or_imp]
    rfl

theorem nil_not_mem_oneOf_mul {cs : List Char} {l : Language Char} :
    [] ∉ (oneOf cs).matches' * l := by
  rintro ⟨a, ha, b, -, hab⟩
  obtain ⟨c, -, rfl⟩ := mem_oneOf.1 ha
  simp at hab

theorem cons_mem_oneOf_mul {cs : List Char} {l : Language Char} {c : Char} {w : List Char} :
    c :: w ∈ (oneOf cs).matches' * l ↔ c ∈ cs ∧ w ∈ l := by
  constructor
  · rintro ⟨a, ha, b, hb, hab⟩
    obtain ⟨d, hd, rfl⟩ := mem_oneOf.1 ha
    simp only [List.singleton_append, List.cons.injEq] at hab
    obtain ⟨rfl, rfl⟩ := hab
    exact ⟨hd, hb⟩
  · rintro ⟨hc, hw⟩
    exact ⟨[c], mem_oneOf.2 ⟨c, hc, rfl⟩, w, hw, rfl⟩

/-! ## The two states of the scan -/

def afterLetter : Language Char :=
  (oneOf alphanumeric).matches'∗
    * ((oneOf separators).matches'
      * ((oneOf alphanumeric).matches' * (oneOf alphanumeric).matches'∗))∗

def afterSeparator : Language Char := (oneOf alphanumeric).matches' * afterLetter

theorem modelIdGrammar_matches :
    modelIdGrammar.matches' = (oneOf lowercase).matches' * afterLetter := by
  simp only [modelIdGrammar, afterLetter, RegularExpression.matches'_mul,
    RegularExpression.matches'_star, mul_assoc]

theorem afterLetter_eq :
    afterLetter = 1 + (oneOf separators).matches' * afterSeparator
      + (oneOf alphanumeric).matches' * afterLetter := by
  set a := (oneOf alphanumeric).matches' with ha
  set t := (oneOf separators).matches' * (a * a∗) with ht
  have hafter : afterLetter = a∗ * t∗ := rfl
  have hgroups : (oneOf separators).matches' * afterSeparator = t * t∗ := by
    rw [afterSeparator, hafter, ht]
    simp only [mul_assoc, ← ha]
  calc afterLetter = (1 + a * a∗) * t∗ := by rw [Language.one_add_self_mul_kstar_eq_kstar, hafter]
    _ = t∗ + a * (a∗ * t∗) := by rw [add_mul, one_mul, mul_assoc]
    _ = 1 + t * t∗ + a * (a∗ * t∗) := by rw [Language.one_add_self_mul_kstar_eq_kstar]
    _ = _ := by rw [hgroups, hafter]

theorem nil_mem_afterLetter : [] ∈ afterLetter := by
  rw [afterLetter_eq]
  exact .inl (.inl rfl)

theorem cons_mem_afterLetter {c : Char} {w : List Char} :
    c :: w ∈ afterLetter
      ↔ c ∈ alphanumeric ∧ w ∈ afterLetter ∨ c ∈ separators ∧ w ∈ afterSeparator := by
  rw [afterLetter_eq, Language.mem_add, Language.mem_add, cons_mem_oneOf_mul, cons_mem_oneOf_mul,
    ← afterLetter_eq, Language.mem_one]
  simp only [reduceCtorEq, false_or]
  exact or_comm

theorem nil_not_mem_afterSeparator : [] ∉ afterSeparator := nil_not_mem_oneOf_mul

theorem cons_mem_afterSeparator {c : Char} {w : List Char} :
    c :: w ∈ afterSeparator ↔ c ∈ alphanumeric ∧ w ∈ afterLetter := cons_mem_oneOf_mul

/-! ## Characters and their bytes -/

theorem ascii_classes : ∀ n < 128,
    isAsciiLowercase (UInt8.ofNat n) = lowercase.contains (Char.ofNat n)
      ∧ (isAsciiLowercase (UInt8.ofNat n) || isAsciiDigit (UInt8.ofNat n))
        = alphanumeric.contains (Char.ofNat n)
      ∧ isSeparator (UInt8.ofNat n) = separators.contains (Char.ofNat n) := by
  decide +kernel

theorem classes_ascii : ∀ c ∈ alphanumeric ++ separators, c.toNat < 128 := by
  have h : (alphanumeric ++ separators).all (fun c => decide (c.toNat < 128)) = true := by
    decide +kernel
  exact fun c hc => of_decide_eq_true (List.all_eq_true.1 h c hc)

theorem classes_disjoint : ∀ c ∈ alphanumeric, c ∉ separators := by
  have h : alphanumeric.all (fun c => !separators.contains c) = true := by decide +kernel
  intro c hc hs
  have := List.all_eq_true.1 h c hc
  simp [hs] at this

theorem lowercase_alphanumeric {c : Char} (h : c ∈ lowercase) : c ∈ alphanumeric :=
  List.mem_append_left _ h

theorem not_contains_of_le {c : Char} (hc : 128 ≤ c.toNat) :
    lowercase.contains c = false ∧ alphanumeric.contains c = false
      ∧ separators.contains c = false := by
  have hnot : c ∉ alphanumeric ++ separators := fun h => by
    have := classes_ascii c h
    omega
  simp only [List.mem_append, not_or] at hnot
  simp only [List.contains_eq_mem, decide_eq_false_iff_not]
  exact ⟨fun h => hnot.1 (lowercase_alphanumeric h), hnot.1, hnot.2⟩

theorem classes_of_le {byte : UInt8} (h : 128 ≤ byte.toNat) :
    isAsciiLowercase byte = false ∧ isAsciiDigit byte = false ∧ isSeparator byte = false := by
  have hle : ∀ b : UInt8, b.toNat < 128 → (byte ≤ b) = False ∧ (byte == b) = false := by
    intro b hb
    simp only [UInt8.le_iff_toNat_le, eq_iff_iff, iff_false, beq_eq_false_iff_ne, ne_eq]
    refine ⟨by omega, ?_⟩
    rintro rfl
    omega
  simp only [isAsciiLowercase, isAsciiDigit, isSeparator, hle 122 (by decide), hle 57 (by decide),
    hle 45 (by decide), hle 95 (by decide), hle 46 (by decide), decide_false, Bool.and_false,
    Bool.or_self, and_self]

/-- The first byte of a character is in a class of the scan if the character is in that class of the
expression, and then it is the only byte. -/
theorem utf8EncodeChar_classes (c : Char) : ∃ byte bytes,
    String.utf8EncodeChar c = byte :: bytes
      ∧ isAsciiLowercase byte = lowercase.contains c
      ∧ (isAsciiLowercase byte || isAsciiDigit byte) = alphanumeric.contains c
      ∧ isSeparator byte = separators.contains c
      ∧ (c ∈ alphanumeric ++ separators → bytes = []) := by
  rcases Nat.lt_or_ge c.toNat 128 with hc | hc
  · obtain ⟨hl, ha, hs⟩ := ascii_classes c.toNat hc
    rw [Char.ofNat_toNat] at hl ha hs
    refine ⟨UInt8.ofNat c.toNat, [], ?_, hl, ha, hs, fun _ => rfl⟩
    exact if_pos (Nat.le_of_lt_succ hc)
  · -- a leading byte of two, three or four has its highest bits set
    obtain ⟨byte, bytes, henc, hb⟩ : ∃ byte bytes,
        String.utf8EncodeChar c = byte :: bytes ∧ 128 ≤ byte.toNat := by
      have hv : ¬ c.val.toNat ≤ 127 := Nat.not_le.2 hc
      simp only [String.utf8EncodeChar, if_neg hv]
      split_ifs
      · exact ⟨_, _, rfl, by simp only [UInt8.toNat_ofNat']; omega⟩
      · exact ⟨_, _, rfl, by simp only [UInt8.toNat_ofNat']; omega⟩
      · exact ⟨_, _, rfl, by simp only [UInt8.toNat_ofNat']; omega⟩
    obtain ⟨hl, ha, hs⟩ := not_contains_of_le hc
    obtain ⟨hbl, hbd, hbs⟩ := classes_of_le hb
    refine ⟨byte, bytes, henc, by rw [hl, hbl], by rw [ha, hbl, hbd]; rfl, by rw [hs, hbs], ?_⟩
    intro hmem
    exact absurd (classes_ascii c hmem) (by omega)

theorem toUTF8_eq (value : String) :
    value.toUTF8.data.toList = value.toList.flatMap String.utf8EncodeChar := by
  have h : value.toList.utf8Encode = value.toUTF8 := String.utf8Encode_toList
  rw [← h, List.utf8Encode, List.data_toByteArray, List.toList_toArray]

/-! ## The scan -/

theorem scanModelId_letter {after : Bool} {byte : UInt8} {bytes : List UInt8}
    (h : (isAsciiLowercase byte || isAsciiDigit byte) = true) :
    scanModelId after (byte :: bytes) = scanModelId false bytes := by
  rw [scanModelId, if_pos h]

theorem scanModelId_other {after : Bool} {byte : UInt8} {bytes : List UInt8}
    (h : (isAsciiLowercase byte || isAsciiDigit byte) = false) :
    scanModelId after (byte :: bytes)
      = (isSeparator byte && !after && scanModelId true bytes) := by
  rw [scanModelId, if_neg (by simp [h])]
  cases isSeparator byte && !after <;> simp

theorem scanModelId_iff (w : List Char) :
    (scanModelId false (w.flatMap String.utf8EncodeChar) = true ↔ w ∈ afterLetter)
      ∧ (scanModelId true (w.flatMap String.utf8EncodeChar) = true ↔ w ∈ afterSeparator) := by
  induction w with
  | nil => exact ⟨by simp [scanModelId, nil_mem_afterLetter],
      by simp [scanModelId, nil_not_mem_afterSeparator]⟩
  | cons c w ih =>
    obtain ⟨byte, bytes, henc, -, ha, hs, hone⟩ := utf8EncodeChar_classes c
    rw [List.flatMap_cons, henc, cons_mem_afterLetter, cons_mem_afterSeparator]
    rw [List.contains_eq_mem] at ha hs
    by_cases hletter : c ∈ alphanumeric
    · obtain rfl := hone (List.mem_append_left _ hletter)
      have hsep := classes_disjoint c hletter
      rw [List.cons_append, List.nil_append, scanModelId_letter (by simpa [ha] using hletter),
        scanModelId_letter (by simpa [ha] using hletter)]
      simp [hletter, hsep, ih.1]
    · rw [List.cons_append, scanModelId_other (by simpa [ha] using hletter),
        scanModelId_other (by simpa [ha] using hletter), hs]
      by_cases hsep : c ∈ separators
      · obtain rfl := hone (List.mem_append_right _ hsep)
        simp [hletter, hsep, ih.2]
      · simp [hletter, hsep]

theorem utf8ByteSize_eq (value : String) :
    value.utf8ByteSize = (value.toList.flatMap String.utf8EncodeChar).length := by
  rw [← toUTF8_eq]
  rfl

/-- A model identifier is valid if it is a word of the grammar and not longer than 64 bytes. -/
theorem isValidModelId_iff_grammar (value : String) :
    isValidModelId value = true
      ↔ value.utf8ByteSize ≤ 64 ∧ value.toList ∈ modelIdGrammar.matches' := by
  rw [isValidModelId, utf8ByteSize_eq, toUTF8_eq, modelIdGrammar_matches]
  cases value.toList with
  | nil => simpa using nil_not_mem_oneOf_mul
  | cons c w =>
    obtain ⟨byte, bytes, henc, hl, -, -, hone⟩ := utf8EncodeChar_classes c
    rw [List.flatMap_cons, henc, List.cons_append, cons_mem_oneOf_mul]
    simp only [maxModelIdBytes, hl, List.contains_eq_mem]
    by_cases hlower : c ∈ lowercase
    · obtain rfl := hone (List.mem_append_left _ (lowercase_alphanumeric hlower))
      simp [hlower, (scanModelId_iff w).1]
    · simp [hlower]

end EdgeNode.Ledger
