import EdgeNode.Lib.Json

/-!
# The compact text determines the value

A string ends at its closing quote, a number where no digit follows, a list and an object at their
bracket. So the text of a value without fractional numbers determines the value and what follows it
(`compact_append_inj`).
-/

namespace EdgeNode

namespace Json

/-! ## Strings -/

def hexValue (c : Char) : ℕ := if c.toNat < 58 then c.toNat - 48 else c.toNat - 87

/-- The first character of a text with escapes, and what follows it. -/
def unescape : List Char → Option (Char × List Char)
  | '\\' :: 'b' :: r => some (Char.ofNat 8, r)
  | '\\' :: 't' :: r => some (Char.ofNat 9, r)
  | '\\' :: 'n' :: r => some (Char.ofNat 10, r)
  | '\\' :: 'f' :: r => some (Char.ofNat 12, r)
  | '\\' :: 'r' :: r => some (Char.ofNat 13, r)
  | '\\' :: 'u' :: '0' :: '0' :: h :: l :: r => some (Char.ofNat (16 * hexValue h + hexValue l), r)
  | '\\' :: c :: r => some (c, r)
  | c :: r => some (c, r)
  | [] => none

theorem unescape_plain {c : Char} (r : List Char) (h : c ≠ '\\') :
    unescape (c :: r) = some (c, r) := by
  unfold unescape
  split <;> simp_all

theorem unescape_escapeChar (c : Char) (r : List Char) :
    unescape (escapeChar c ++ r) = some (c, r) := by
  have hc : ∀ {n}, c.toNat = n → c = Char.ofNat n := fun h => by rw [← h, Char.ofNat_toNat]
  unfold escapeChar
  split
  case h_8 h34 h92 h8 h9 h10 h12 h13 =>
    by_cases hlt : c.toNat < 32
    · rw [if_pos hlt]
      generalize hn : c.toNat = n at hlt
      obtain rfl := hc hn
      interval_cases n <;> rfl
    · rw [if_neg hlt]
      exact unescape_plain r fun h => h92 (by rw [h]; rfl)
  all_goals
    rename_i h
    obtain rfl := hc h
    rfl

theorem escapeChar_append_inj {c c' : Char} {r r' : List Char}
    (h : escapeChar c ++ r = escapeChar c' ++ r') : c = c' ∧ r = r' := by
  have h' := congrArg unescape h
  rw [unescape_escapeChar, unescape_escapeChar] at h'
  simpa using h'

/-- An escaped character is not taken for the closing quote. -/
theorem escapeChar_append_ne (c : Char) (r r' : List Char) : escapeChar c ++ r ≠ '"' :: r' := by
  intro h
  have h' := congrArg unescape h
  rw [unescape_escapeChar, unescape_plain r' (by decide), Option.some.injEq, Prod.mk.injEq] at h'
  rw [h'.1] at h
  exact nomatch h

theorem escaped_append_inj : ∀ {cs cs' r r' : List Char},
    cs.flatMap escapeChar ++ '"' :: r = cs'.flatMap escapeChar ++ '"' :: r' → cs = cs' ∧ r = r'
  | [], [], _, _, h => ⟨rfl, (List.cons.inj h).2⟩
  | [], c :: cs, r, r', h => by
    rw [List.flatMap_cons, List.append_assoc] at h
    exact absurd h.symm (escapeChar_append_ne c _ r)
  | c :: cs, [], r, r', h => by
    rw [List.flatMap_cons, List.append_assoc] at h
    exact absurd h (escapeChar_append_ne c _ r')
  | c :: cs, c' :: cs', r, r', h => by
    rw [List.flatMap_cons, List.flatMap_cons, List.append_assoc, List.append_assoc] at h
    obtain ⟨rfl, hrest⟩ := escapeChar_append_inj h
    obtain ⟨rfl, rfl⟩ := escaped_append_inj hrest
    exact ⟨rfl, rfl⟩

theorem quote_append (s : String) (r : List Char) :
    quote s ++ r = '"' :: (s.toList.flatMap escapeChar ++ '"' :: r) := by
  simp [quote]

theorem quote_append_inj {s s' : String} {r r' : List Char} (h : quote s ++ r = quote s' ++ r') :
    s = s' ∧ r = r' := by
  rw [quote_append, quote_append] at h
  obtain ⟨hs, hr⟩ := escaped_append_inj (List.cons.inj h).2
  exact ⟨String.toList_inj.1 hs, hr⟩

/-! ## Numbers -/

def numeric (c : Char) : Bool := c.isDigit || c == '-'

/-- Nothing that goes on with a number. -/
def Ends (r : List Char) : Prop := ∀ c ∈ r.head?, numeric c = false

theorem numeric_of_mem_toDigits {n : ℕ} {c : Char} (h : c ∈ Nat.toDigits 10 n) : c.isDigit = true :=
  Nat.isDigit_of_mem_toDigits (by omega) (by omega) h

theorem toDigits_inj {m n : ℕ} (h : Nat.toDigits 10 m = Nat.toDigits 10 n) : m = n := by
  have hvalue : ∀ k, Nat.ofDigitChars 10 (Nat.toDigits 10 k) 0 = k :=
    fun k => Nat.ofDigitChars_toDigits (by omega) (by omega)
  rw [← hvalue m, h, hvalue]

theorem toList_toString_negSucc (n : ℕ) :
    (toString (Int.negSucc n)).toList = '-' :: Nat.toDigits 10 (n + 1) := by
  show ("-" ++ Nat.repr (n + 1)).toList = _
  rw [String.toList_append, Nat.toList_repr]
  rfl

theorem toList_toString_ofNat (n : ℕ) : (toString (Int.ofNat n)).toList = Nat.toDigits 10 n :=
  Nat.toList_repr

theorem numeric_of_mem_toString {i : ℤ} {c : Char} (h : c ∈ (toString i).toList) :
    numeric c = true := by
  unfold numeric
  cases i with
  | ofNat n =>
    rw [toList_toString_ofNat] at h
    rw [numeric_of_mem_toDigits h, Bool.true_or]
  | negSucc n =>
    rw [toList_toString_negSucc, List.mem_cons] at h
    rcases h with rfl | h
    · rfl
    · rw [numeric_of_mem_toDigits h, Bool.true_or]

theorem toString_int_inj {i i' : ℤ} (h : (toString i).toList = (toString i').toList) : i = i' := by
  have hminus : ∀ m n : ℕ, Nat.toDigits 10 m ≠ '-' :: Nat.toDigits 10 n := by
    intro m n he
    have hdigit := numeric_of_mem_toDigits (n := m) (c := '-') (by rw [he]; simp)
    exact absurd hdigit (by decide)
  rcases i with m | m <;> rcases i' with n | n <;>
    simp only [toList_toString_ofNat, toList_toString_negSucc] at h
  · rw [toDigits_inj h]
  · exact absurd h (hminus _ _)
  · exact absurd h.symm (hminus _ _)
  · rw [Nat.succ.inj (toDigits_inj (List.cons.inj h).2)]

theorem takeWhile_numeric {i : ℤ} {r : List Char} (hr : Ends r) :
    ((toString i).toList ++ r).takeWhile numeric = (toString i).toList := by
  rw [List.takeWhile_append_of_pos fun c hc => numeric_of_mem_toString hc]
  rcases r with _ | ⟨c, r⟩
  · simp
  · rw [List.takeWhile_cons_of_neg (by simp [hr c rfl]), List.append_nil]

theorem toString_append_inj {i i' : ℤ} {r r' : List Char} (hr : Ends r) (hr' : Ends r')
    (h : (toString i).toList ++ r = (toString i').toList ++ r') : i = i' ∧ r = r' := by
  have htext : (toString i).toList = (toString i').toList := by
    rw [← takeWhile_numeric hr, h, takeWhile_numeric hr']
  rw [htext] at h
  exact ⟨toString_int_inj htext, List.append_cancel_left h⟩

/-! ## Values -/

mutual

/-- No fractional number occurs in the value. -/
def integral : Json → Prop
  | float _ => False
  | arr items => integralItems items
  | obj fields => integralFields fields
  | _ => True

def integralItems : List Json → Prop
  | [] => True
  | item :: items => integral item ∧ integralItems items

def integralFields : List (String × Json) → Prop
  | [] => True
  | (_, value) :: fields => integral value ∧ integralFields fields

end

theorem integralFields_iff {fields : List (String × Json)} :
    integralFields fields ↔ ∀ f ∈ fields, f.2.integral := by
  induction fields with
  | nil => simp [integralFields]
  | cons f fields ih =>
    obtain ⟨key, value⟩ := f
    simp [integralFields, ih]

theorem integral_object {fields : List (String × Json)} :
    (object fields).integral ↔ ∀ f ∈ fields, f.2.integral := by
  simp [object, integral, integralFields_iff, List.mem_insertionSort]

/-- An object holds its fields, whatever order they are given in. -/
theorem mem_iff_of_object_eq {fields fields' : List (String × Json)}
    (h : object fields = object fields') (f : String × Json) : f ∈ fields ↔ f ∈ fields' := by
  have hsorted := obj.inj h
  rw [← List.mem_insertionSort (fun a b : String × Json => a.1 ≤ b.1), hsorted,
    List.mem_insertionSort]

def tag : Json → ℕ
  | null => 0
  | bool _ => 1
  | int _ | float _ => 2
  | str _ => 3
  | arr _ => 4
  | obj _ => 5

/-- The constructor a text begins with the character of. -/
def tagOf (c : Char) : Option ℕ :=
  if numeric c then some 2
  else if c = 'n' then some 0
  else if c = 't' ∨ c = 'f' then some 1
  else if c = '"' then some 3
  else if c = '[' then some 4
  else if c = '\x7b' then some 5
  else none

variable {showFloat : F64 → List Char}

theorem compact_head (showFloat : F64 → List Char) {j : Json} (hj : j.integral) :
    ∃ c t, compact showFloat j = c :: t ∧ tagOf c = some j.tag := by
  cases j with
  | null => exact ⟨'n', _, rfl, rfl⟩
  | bool b => cases b <;> exact ⟨_, _, rfl, rfl⟩
  | int i =>
    have hne : (toString i).toList ≠ [] := by
      cases i with
      | ofNat n => rw [toList_toString_ofNat]; exact Nat.toDigits_ne_nil
      | negSucc n => rw [toList_toString_negSucc]; exact List.cons_ne_nil _ _
    obtain ⟨c, t, hct⟩ := List.exists_cons_of_ne_nil hne
    have hc : numeric c = true := numeric_of_mem_toString (i := i) (by rw [hct]; simp)
    exact ⟨c, t, hct, by rw [tagOf, if_pos hc]; rfl⟩
  | float x => exact hj.elim
  | str s => exact ⟨_, _, rfl, rfl⟩
  | arr items => exact ⟨_, _, rfl, rfl⟩
  | obj fields => exact ⟨_, _, rfl, rfl⟩

theorem tag_eq_of_append {j j' : Json} {r r' : List Char} (hj : j.integral) (hj' : j'.integral)
    (h : compact showFloat j ++ r = compact showFloat j' ++ r') : j.tag = j'.tag := by
  obtain ⟨c, t, hc, htag⟩ := compact_head showFloat hj
  obtain ⟨c', t', hc', htag'⟩ := compact_head showFloat hj'
  rw [hc, hc'] at h
  rw [(List.cons.inj h).1, htag'] at htag
  exact (Option.some.inj htag).symm

/-- What stands between the first item and the closing bracket. -/
def moreItems (showFloat : F64 → List Char) : List Json → List Char
  | [] => []
  | j :: js => ',' :: compactItems showFloat (j :: js)

theorem compactItems_cons (j : Json) (js : List Json) :
    compactItems showFloat (j :: js) = compact showFloat j ++ moreItems showFloat js := by
  cases js <;> simp [compactItems, moreItems]

def moreFields (showFloat : F64 → List Char) : List (String × Json) → List Char
  | [] => []
  | f :: fs => ',' :: compactFields showFloat (f :: fs)

theorem compactFields_cons (k : String) (j : Json) (fs : List (String × Json)) :
    compactFields showFloat ((k, j) :: fs)
      = quote k ++ ':' :: compact showFloat j ++ moreFields showFloat fs := by
  cases fs <;> simp [compactFields, moreFields]

theorem ends_moreItems (js : List Json) (r : List Char) :
    Ends (moreItems showFloat js ++ ']' :: r) := by
  cases js <;> simp [moreItems, Ends, numeric]

theorem ends_moreFields (fs : List (String × Json)) (r : List Char) :
    Ends (moreFields showFloat fs ++ '\x7d' :: r) := by
  cases fs <;> simp [moreFields, Ends, numeric]

mutual

theorem compact_append_inj : ∀ (j j' : Json) {r r' : List Char}, j.integral → j'.integral →
    Ends r → Ends r' → compact showFloat j ++ r = compact showFloat j' ++ r' → j = j' ∧ r = r'
  | .null, j', r, r', hj, hj', _, _, h => by
    have htag := tag_eq_of_append hj hj' h
    cases j' <;> simp [tag] at htag
    exact ⟨rfl, List.append_cancel_left h⟩
  | .bool b, j', r, r', hj, hj', _, _, h => by
    have htag := tag_eq_of_append hj hj' h
    cases j' <;> simp [tag] at htag
    rename_i b'
    rcases b with _ | _ <;> rcases b' with _ | _
    · exact ⟨rfl, List.append_cancel_left h⟩
    · exact absurd (List.cons.inj h).1 (by decide)
    · exact absurd (List.cons.inj h).1 (by decide)
    · exact ⟨rfl, List.append_cancel_left h⟩
  | .int i, j', r, r', hj, hj', hr, hr', h => by
    have htag := tag_eq_of_append hj hj' h
    cases j' <;> simp [tag] at htag
    · obtain ⟨rfl, rfl⟩ := toString_append_inj hr hr' h
      exact ⟨rfl, rfl⟩
    · exact hj'.elim
  | .float x, _, _, _, hj, _, _, _, _ => hj.elim
  | .str s, j', r, r', hj, hj', _, _, h => by
    have htag := tag_eq_of_append hj hj' h
    cases j' <;> simp [tag] at htag
    obtain ⟨rfl, rfl⟩ := quote_append_inj h
    exact ⟨rfl, rfl⟩
  | .arr items, j', r, r', hj, hj', _, _, h => by
    have htag := tag_eq_of_append hj hj' h
    cases j' <;> simp [tag] at htag
    rename_i items'
    simp only [compact, List.cons_append, List.append_assoc, List.nil_append, List.cons.injEq,
      true_and] at h
    obtain ⟨rfl, rfl⟩ := compactItems_append_inj items items' hj hj' h
    exact ⟨rfl, rfl⟩
  | .obj fields, j', r, r', hj, hj', _, _, h => by
    have htag := tag_eq_of_append hj hj' h
    cases j' <;> simp [tag] at htag
    rename_i fields'
    simp only [compact, List.cons_append, List.append_assoc, List.nil_append, List.cons.injEq,
      true_and] at h
    obtain ⟨rfl, rfl⟩ := compactFields_append_inj fields fields' hj hj' h
    exact ⟨rfl, rfl⟩

theorem compactItems_append_inj : ∀ (js js' : List Json) {r r' : List Char}, integralItems js →
    integralItems js' →
    compactItems showFloat js ++ ']' :: r = compactItems showFloat js' ++ ']' :: r' →
    js = js' ∧ r = r'
  | [], [], _, _, _, _, h => ⟨rfl, (List.cons.inj h).2⟩
  | [], j' :: js', r, r', _, hj', h => by
    obtain ⟨c, t, hc, htag⟩ := compact_head showFloat hj'.1
    rw [compactItems_cons, hc] at h
    rw [← (List.cons.inj h).1] at htag
    exact nomatch htag
  | j :: js, [], r, r', hj, _, h => by
    obtain ⟨c, t, hc, htag⟩ := compact_head showFloat hj.1
    rw [compactItems_cons, hc] at h
    rw [(List.cons.inj h).1] at htag
    exact nomatch htag
  | j :: js, j' :: js', r, r', hj, hj', h => by
    rw [compactItems_cons, compactItems_cons, List.append_assoc, List.append_assoc] at h
    obtain ⟨rfl, hrest⟩ := compact_append_inj j j' hj.1 hj'.1 (ends_moreItems js r)
      (ends_moreItems js' r') h
    rcases js with _ | ⟨k, ks⟩ <;> rcases js' with _ | ⟨k', ks'⟩
    · exact ⟨rfl, (List.cons.inj hrest).2⟩
    · exact absurd (List.cons.inj hrest).1 (by decide)
    · exact absurd (List.cons.inj hrest).1 (by decide)
    · obtain ⟨hks, rfl⟩ := compactItems_append_inj (k :: ks) (k' :: ks') hj.2 hj'.2
        (List.cons.inj hrest).2
      exact ⟨by rw [hks], rfl⟩

theorem compactFields_append_inj : ∀ (fs fs' : List (String × Json)) {r r' : List Char},
    integralFields fs → integralFields fs' →
    compactFields showFloat fs ++ '\x7d' :: r = compactFields showFloat fs' ++ '\x7d' :: r' →
    fs = fs' ∧ r = r'
  | [], [], _, _, _, _, h => ⟨rfl, (List.cons.inj h).2⟩
  | [], (k', j') :: fs', r, r', _, _, h => by
    rw [compactFields_cons, List.append_assoc, List.append_assoc, quote_append] at h
    exact absurd (List.cons.inj h).1 (by decide)
  | (k, j) :: fs, [], r, r', _, _, h => by
    rw [compactFields_cons, List.append_assoc, List.append_assoc, quote_append] at h
    exact absurd (List.cons.inj h).1 (by decide)
  | (k, j) :: fs, (k', j') :: fs', r, r', hj, hj', h => by
    rw [compactFields_cons, compactFields_cons, List.append_assoc, List.append_assoc,
      List.append_assoc, List.append_assoc] at h
    obtain ⟨rfl, hvalue⟩ := quote_append_inj h
    rw [List.cons_append, List.cons_append] at hvalue
    obtain ⟨rfl, hrest⟩ := compact_append_inj j j' hj.1 hj'.1 (ends_moreFields fs r)
      (ends_moreFields fs' r') (List.cons.inj hvalue).2
    rcases fs with _ | ⟨g, gs⟩ <;> rcases fs' with _ | ⟨g', gs'⟩
    · exact ⟨rfl, (List.cons.inj hrest).2⟩
    · exact absurd (List.cons.inj hrest).1 (by decide)
    · exact absurd (List.cons.inj hrest).1 (by decide)
    · obtain ⟨hgs, rfl⟩ := compactFields_append_inj (g :: gs) (g' :: gs') hj.2 hj'.2
        (List.cons.inj hrest).2
      exact ⟨by rw [hgs], rfl⟩

end

/-- Two values without fractional numbers have the same text only if they are the same. -/
theorem compact_inj {j j' : Json} (hj : j.integral) (hj' : j'.integral)
    (h : compact showFloat j = compact showFloat j') : j = j' := by
  have hends : Ends [] := fun c hc => nomatch hc
  have happend : compact showFloat j ++ [] = compact showFloat j' ++ [] := by rw [h]
  exact (compact_append_inj j j' hj hj' hends hends happend).1

end Json

end EdgeNode
