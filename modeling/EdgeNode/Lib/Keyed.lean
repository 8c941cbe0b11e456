import Mathlib

/-!
# Tables with a key of their own

A table whose rows are found by a key the caller gives is an association list. `updateWhere` is an
`UPDATE … WHERE`: it changes the rows that satisfy a condition, under their keys, and `countWhere`
is the number of rows it says it has changed.
-/

namespace EdgeNode

namespace Keyed

variable {κ β : Type} {p q : κ → β → Bool} {f : β → β} {t : AList fun _ : κ => β}
  {k : κ} {b : β}

def updateWhere (p : κ → β → Bool) (f : β → β) (t : AList fun _ : κ => β) :
    AList fun _ : κ => β where
  entries := t.entries.map fun e => ⟨e.1, if p e.1 e.2 then f e.2 else e.2⟩
  nodupKeys := by
    have h : (t.entries.map fun e : Sigma fun _ : κ => β =>
        (⟨e.1, if p e.1 e.2 then f e.2 else e.2⟩ : Sigma fun _ : κ => β)).keys = t.entries.keys := by
      simp [List.keys, Function.comp_def]
    unfold List.NodupKeys
    rw [h]
    exact t.nodupKeys

def retain (p : κ → β → Bool) (t : AList fun _ : κ => β) : AList fun _ : κ => β where
  entries := t.entries.filter fun e => p e.1 e.2
  nodupKeys := t.nodupKeys.sublist List.filter_sublist

def countWhere (p : κ → β → Bool) (t : AList fun _ : κ => β) : ℕ :=
  t.entries.countP fun e => p e.1 e.2

variable [DecidableEq κ]

theorem lookup_updateWhere :
    (updateWhere p f t).lookup k = (t.lookup k).map fun b => if p k b then f b else b := by
  have h : ∀ l : List (Sigma fun _ : κ => β),
      (l.map fun e => (⟨e.1, if p e.1 e.2 then f e.2 else e.2⟩ : Sigma fun _ : κ => β)).dlookup k
        = (l.dlookup k).map fun b => if p k b then f b else b := by
    intro l
    induction l with
    | nil => rfl
    | cons e l ih =>
      obtain ⟨k', b⟩ := e
      by_cases hk : k = k'
      · subst hk
        simp
      · simp only [List.map_cons]
        rw [List.dlookup_cons_ne _ _ hk, List.dlookup_cons_ne _ _ hk, ih]
  exact h t.entries

theorem lookup_retain : (retain p t).lookup k = (t.lookup k).filter (p k) := by
  ext b
  rw [← Option.mem_def, AList.mem_lookup_iff, Option.filter_eq_some_iff, ← Option.mem_def,
    AList.mem_lookup_iff]
  simp [retain]

end Keyed

end EdgeNode
