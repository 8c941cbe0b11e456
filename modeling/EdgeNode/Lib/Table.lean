import Mathlib

/-!
# Tables numbered by the database

A table whose integer key the database assigns, never using one twice (`AUTOINCREMENT`): the next key
is one more than the largest ever given, and when the keys are used up the insert is refused. `ever`
is a history variable, the rows of all inserts so far; deleting a row leaves it. Undoing a
transaction takes back its inserts, so the keys given are exactly `1, 2, …, lastId`.
-/

namespace EdgeNode

/-- The largest key of a row. -/
def maxRowId : ℕ := 2 ^ 63 - 1

structure AutoTable (ρ : Type) where
  rows : List (ℕ × ρ)
  lastId : ℕ
  ever : List (ℕ × ρ)
  live : rows.Sublist ever
  ids : ever.map Prod.fst = List.range' 1 lastId
  room : lastId ≤ maxRowId

namespace AutoTable

variable {ρ : Type}

def empty : AutoTable ρ where
  rows := []
  lastId := 0
  ever := []
  live := List.Sublist.refl _
  ids := rfl
  room := Nat.zero_le _

def insert (t : AutoTable ρ) (r : ρ) : Option (AutoTable ρ) :=
  if h : t.lastId < maxRowId then
    some
      { rows := t.rows ++ [(t.lastId + 1, r)]
        lastId := t.lastId + 1
        ever := t.ever ++ [(t.lastId + 1, r)]
        live := t.live.append (List.Sublist.refl _)
        ids := by
          rw [List.map_append, t.ids, List.range'_1_concat]
          simp [Nat.add_comm]
        room := h }
  else none

def deleteWhere (t : AutoTable ρ) (p : ℕ × ρ → Bool) : AutoTable ρ :=
  { t with
    rows := t.rows.filter fun r => !p r
    live := List.filter_sublist.trans t.live }

def delete (t : AutoTable ρ) (id : ℕ) : AutoTable ρ := t.deleteWhere fun r => r.1 == id

def updateWhere (t : AutoTable ρ) (p : ρ → Bool) (f : ρ → ρ) : AutoTable ρ :=
  { t with
    rows := t.rows.map fun r => if p r.2 then (r.1, f r.2) else r
    ever := t.ever.map fun r => if p r.2 then (r.1, f r.2) else r
    live := t.live.map _
    ids := by
      rw [List.map_map, ← t.ids]
      refine List.map_congr_left fun r _ => ?_
      simp only [Function.comp_apply]
      split_ifs <;> rfl }

def update (t : AutoTable ρ) (id : ℕ) (f : ρ → ρ) : AutoTable ρ :=
  { t with
    rows := t.rows.map fun r => if r.1 = id then (r.1, f r.2) else r
    ever := t.ever.map fun r => if r.1 = id then (r.1, f r.2) else r
    live := t.live.map _
    ids := by
      rw [List.map_map, ← t.ids]
      refine List.map_congr_left fun r _ => ?_
      simp only [Function.comp_apply]
      split_ifs <;> rfl }

variable {t t' : AutoTable ρ} {r : ρ}

theorem ever_length (t : AutoTable ρ) : t.ever.length = t.lastId := by
  have h := congrArg List.length t.ids
  simpa using h

theorem rows_length_le (t : AutoTable ρ) : t.rows.length ≤ maxRowId :=
  t.live.length_le.trans (t.ever_length.trans_le t.room)

theorem insert_eq_none : t.insert r = none ↔ maxRowId ≤ t.lastId := by
  unfold insert
  split_ifs with h <;> simp <;> omega

theorem insert_eq_some (h : t.insert r = some t') :
    t'.rows = t.rows ++ [(t.lastId + 1, r)] ∧ t'.lastId = t.lastId + 1
      ∧ t'.ever = t.ever ++ [(t.lastId + 1, r)] ∧ t.lastId < maxRowId := by
  unfold insert at h
  split at h
  · simp only [Option.some.injEq] at h
    subst h
    exact ⟨rfl, rfl, rfl, by assumption⟩
  · simp at h

/-- The rows `new` were appended, in this order and under new keys. -/
structure Appends (t t' : AutoTable ρ) (new : List ρ) : Prop where
  rows : ∃ added, t'.rows = t.rows ++ added ∧ added.map Prod.snd = new
  lastId : t'.lastId = t.lastId + new.length

theorem Appends.refl (t : AutoTable ρ) : Appends t t [] := ⟨⟨[], by simp, rfl⟩, rfl⟩

theorem Appends.insert {t'' : AutoTable ρ} {new : List ρ} (h : Appends t t' new)
    (hr : t'.insert r = some t'') : Appends t t'' (new ++ [r]) where
  rows := by
    obtain ⟨added, hrows, rfl⟩ := h.rows
    exact ⟨added ++ [(t'.lastId + 1, r)], by rw [(insert_eq_some hr).1, hrows, List.append_assoc],
      List.map_append⟩
  lastId := by
    rw [(insert_eq_some hr).2.1, h.lastId, List.length_append]
    rfl

theorem Appends.room {new : List ρ} (h : Appends t t' new) (hne : new ≠ []) :
    t.lastId < maxRowId := by
  have hpos := List.length_pos_iff.2 hne
  have hroom := t'.room
  rw [h.lastId] at hroom
  omega

theorem ever_sorted (t : AutoTable ρ) : (t.ever.map Prod.fst).Pairwise (· < ·) := by
  rw [t.ids]
  exact List.pairwise_lt_range'

theorem rows_sorted (t : AutoTable ρ) : (t.rows.map Prod.fst).Pairwise (· < ·) :=
  t.ever_sorted.sublist (t.live.map _)

theorem key_le_lastId {x : ℕ × ρ} (h : x ∈ t.ever) : x.1 ≤ t.lastId := by
  have hx := List.mem_map_of_mem (f := Prod.fst) h
  rw [t.ids, List.mem_range'_1] at hx
  omega

theorem ever_unique {id : ℕ} {r r' : ρ} (h : (id, r) ∈ t.ever) (h' : (id, r') ∈ t.ever) :
    r = r' := by
  have hnd : (t.ever.map Prod.fst).Nodup := t.ever_sorted.imp Nat.ne_of_lt
  exact congrArg Prod.snd (List.inj_on_of_nodup_map hnd h h' rfl)

theorem rows_unique {id : ℕ} {r r' : ρ} (h : (id, r) ∈ t.rows) (h' : (id, r') ∈ t.rows) : r = r' :=
  ever_unique (t.live.subset h) (t.live.subset h')

theorem key_pos {x : ℕ × ρ} (h : x ∈ t.rows) : 1 ≤ x.1 := by
  have hx := List.mem_map_of_mem (f := Prod.fst) (t.live.subset h)
  rw [t.ids, List.mem_range'_1] at hx
  exact hx.1

theorem mem_insert {x : ℕ × ρ} (h : t.insert r = some t') :
    (x ∈ t'.rows → x ∈ t.rows ∨ x = (t.lastId + 1, r))
      ∧ (x ∈ t'.ever → x ∈ t.ever ∨ x = (t.lastId + 1, r)) := by
  obtain ⟨hrows, -, hever, -⟩ := insert_eq_some h
  simp [hrows, hever]

/-- A row that comes no later than the last of the first `n` is one of them. -/
theorem mem_take_of_le {l : List (ℕ × ρ)} (hl : (l.map Prod.fst).Pairwise (· < ·)) {n : ℕ}
    {x r : ℕ × ρ} (hx : l[n]? = some x) (hr : r ∈ l) (hle : r.1 ≤ x.1) : r ∈ l.take (n + 1) := by
  rw [← List.take_append_drop (n + 1) l, List.map_append, List.pairwise_append] at hl
  rw [← List.take_append_drop (n + 1) l, List.mem_append] at hr
  refine hr.resolve_right fun hr => ?_
  have hmem : x ∈ l.take (n + 1) :=
    List.mem_of_getElem? ((List.getElem?_take_of_lt n.lt_succ_self).trans hx)
  have := hl.2.2 _ (List.mem_map_of_mem hmem) _ (List.mem_map_of_mem hr)
  omega

theorem head_le {x y : ℕ × ρ} (h : t.rows.head? = some x) (hy : y ∈ t.rows) : x.1 ≤ y.1 := by
  have hs := t.rows_sorted
  rcases hr : t.rows with _ | ⟨z, zs⟩ <;> rw [hr] at h hy hs
  · simp at h
  · obtain rfl : z = x := by simpa using h
    rcases List.mem_cons.1 hy with rfl | hy
    · exact le_rfl
    · exact (List.rel_of_pairwise_cons hs (List.mem_map_of_mem hy)).le

theorem head_insert {x : ℕ × ρ} (h : t.insert r = some t') (hx : t.rows.head? = some x) :
    t'.rows.head? = some x := by
  rw [(insert_eq_some h).1, List.head?_append, hx]
  rfl

theorem deleteWhere_deleteWhere (p q : ℕ × ρ → Bool) :
    (t.deleteWhere p).deleteWhere q = t.deleteWhere fun r => p r || q r := by
  unfold deleteWhere
  congr 1
  rw [List.filter_filter]
  refine List.filter_congr fun r _ => ?_
  rw [Bool.not_or, Bool.and_comm]

end AutoTable

/-! ## The first row in an order -/

section FirstBy

variable {α : Type}

/-- What `ORDER BY … LIMIT 1` gives: among the rows no other is before, the first one. -/
def firstBy (before : α → α → Bool) : List α → Option α
  | [] => none
  | a :: as =>
    match firstBy before as with
    | none => some a
    | some b => if before b a then some b else some a

variable {before : α → α → Bool}

theorem firstBy_eq_none : ∀ {as : List α}, firstBy before as = none ↔ as = []
  | [] => by simp [firstBy]
  | a :: as => by
    unfold firstBy
    cases firstBy before as with
    | none => simp
    | some b => by_cases h : before b a <;> simp [h]

theorem firstBy_mem : ∀ {as : List α} {a : α}, firstBy before as = some a → a ∈ as
  | [], _, h => by simp [firstBy] at h
  | b :: bs, a, h => by
    unfold firstBy at h
    split at h
    · obtain rfl := Option.some.inj h
      exact List.mem_cons_self
    · rename_i c hc
      split_ifs at h <;> obtain rfl := Option.some.inj h
      · exact List.mem_cons_of_mem _ (firstBy_mem hc)
      · exact List.mem_cons_self

/-- No row is before the first one, in an order without cycles. -/
theorem firstBy_least (hasymm : ∀ a b, before a b → before b a = false)
    (htrans : ∀ a b c, before b a = false → before c b = false → before c a = false) :
    ∀ {as : List α} {a : α}, firstBy before as = some a → ∀ b ∈ as, before b a = false
  | [], _, h, _, _ => by simp [firstBy] at h
  | c :: cs, a, h, b, hb => by
    have hself : ∀ d, before d d = false := fun d => by
      by_contra hd
      exact hd (hasymm d d (by simpa using hd))
    unfold firstBy at h
    split at h
    · rename_i hnone
      obtain rfl := Option.some.inj h
      rw [firstBy_eq_none.1 hnone, List.mem_singleton] at hb
      exact hb ▸ hself b
    · rename_i d hd
      have hleast := firstBy_least hasymm htrans hd
      split_ifs at h with hdc <;> obtain rfl := Option.some.inj h <;>
        rcases List.mem_cons.1 hb with rfl | hb
      · exact hasymm _ _ hdc
      · exact hleast b hb
      · exact hself b
      · exact htrans _ _ _ (by simpa using hdc) (hleast b hb)

/-- Rows that stand in the order already have their first one in front. -/
theorem firstBy_of_ordered : ∀ {as : List α}, as.Pairwise (fun a b => before b a = false) →
    firstBy before as = as.head?
  | [], _ => rfl
  | a :: as, h => by
    unfold firstBy
    cases hb : firstBy before as with
    | none => rfl
    | some b => simp [List.rel_of_pairwise_cons h (firstBy_mem hb)]

end FirstBy

/-! ## What came after a row -/

section Since

variable {α : Type} [DecidableEq α] {a : α} {l l' : List α}

/-- The rows after the first `a`. -/
def since (a : α) : List α → List α
  | [] => []
  | b :: l => if b = a then l else since a l

theorem since_append (h : a ∈ l) (m : List α) : since a (l ++ m) = since a l ++ m := by
  induction l with
  | nil => simp at h
  | cons b l ih =>
    simp only [List.cons_append, since]
    split_ifs with hb
    · rfl
    · exact ih ((List.mem_cons.1 h).resolve_left (Ne.symm hb))

/-- What came after `a` in a part of the rows came after it in all of them. -/
theorem since_sublist (h : l.Sublist l') (hd : l'.Nodup) (ha : a ∈ l) :
    (since a l).Sublist (since a l') := by
  induction h with
  | slnil => exact .slnil
  | cons b h ih =>
    obtain ⟨hb, hd⟩ := List.nodup_cons.1 hd
    have hne : b ≠ a := fun hba => hb (h.subset (hba ▸ ha))
    simpa only [since, if_neg hne] using ih hd ha
  | cons_cons b h ih =>
    simp only [since]
    split_ifs with hb
    · exact h
    · exact ih (List.nodup_cons.1 hd).2 ((List.mem_cons.1 ha).resolve_left (Ne.symm hb))

/-- All rows with `p` but the first came after that one. -/
theorem countP_since {p : α → Bool} (h : (l.filter p).head? = some a) :
    l.countP p = (since a l).countP p + 1 := by
  induction l with
  | nil => simp at h
  | cons b l ih =>
    by_cases hb : p b
    · obtain rfl : b = a := by simpa [hb] using h
      simp [since, hb]
    · have hne : b ≠ a := by
        rintro rfl
        have hmem := List.mem_of_mem_head? h
        exact hb (List.mem_filter.1 hmem).2
      simp only [List.filter_cons, hb] at h
      simp [since, hne, hb, ih h]

end Since

end EdgeNode
