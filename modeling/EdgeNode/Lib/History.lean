import Mathlib

/-!
# What a history leaves standing

Something stands after a history when an event raised it and none that clears it came after. A budget
is kept when no stretch of the history without a reset spends more than it; what was spent since the
last reset says whether one more event keeps it.
-/

namespace EdgeNode

variable {α : Type}

/-- An event of the history raised it, and no later one cleared it. -/
def Standing (raises clears : α → Prop) (history : List α) : Prop :=
  ∃ earlier a later, history = earlier ++ a :: later ∧ raises a ∧ ∀ b ∈ later, ¬ clears b

variable {raises clears : α → Prop} {history : List α}

theorem not_standing_nil : ¬ Standing raises clears [] := by
  rintro ⟨earlier, a, later, h, -⟩
  simp at h

theorem standing_concat {a : α} :
    Standing raises clears (history ++ [a])
      ↔ raises a ∨ Standing raises clears history ∧ ¬ clears a := by
  constructor
  · rintro ⟨earlier, a₀, later, heq, hraised, hlater⟩
    rcases List.eq_nil_or_concat later with rfl | ⟨later, a₁, rfl⟩
    · obtain ⟨-, ha⟩ := List.append_inj' heq rfl
      obtain rfl := (List.cons.inj ha).1
      exact .inl hraised
    · have heq' : history ++ [a] = (earlier ++ a₀ :: later) ++ [a₁] := by simpa using heq
      obtain ⟨rfl, ha⟩ := List.append_inj' heq' rfl
      obtain rfl := (List.cons.inj ha).1
      exact .inr ⟨⟨earlier, a₀, later, rfl, hraised, fun b hb => hlater b (by simp [hb])⟩,
        hlater a (by simp)⟩
  · rintro (hraised | ⟨⟨earlier, a₀, later, rfl, hraised, hlater⟩, hclear⟩)
    · exact ⟨history, a, [], rfl, hraised, by simp⟩
    · refine ⟨earlier, a₀, later ++ [a], by simp, hraised, fun b hb => ?_⟩
      rcases List.mem_append.1 hb with hb | hb
      · exact hlater b hb
      · exact List.mem_singleton.1 hb ▸ hclear

/-! ## Budgets -/

section Budget

variable [DecidableEq α] {spend reset : α} {n : ℕ}

/-- The end of the history spends no more than `n` since its last reset. -/
def Spent (spend reset : α) (n : ℕ) (history : List α) : Prop :=
  ∀ earlier later, history = earlier ++ later → reset ∉ later → later.count spend ≤ n

/-- No stretch of the history without a reset spends more than `n`. -/
def WithinBudget (spend reset : α) (n : ℕ) (history : List α) : Prop :=
  ∀ earlier stretch later, history = earlier ++ stretch ++ later → reset ∉ stretch →
    stretch.count spend ≤ n

theorem spent_nil : Spent spend reset n [] := by
  intro earlier later h _
  obtain ⟨-, rfl⟩ := List.append_eq_nil_iff.1 h.symm
  simp

theorem Spent.mono {m : ℕ} (h : Spent spend reset n history) (hle : n ≤ m) :
    Spent spend reset m history :=
  fun earlier later heq hreset => (h earlier later heq hreset).trans hle

/-- A later part of the longer history is empty or ends with its last event. -/
theorem later_of_concat {a : α} {earlier later : List α} (h : history ++ [a] = earlier ++ later) :
    later = [] ∨ ∃ before, later = before ++ [a] ∧ history = earlier ++ before := by
  rcases List.eq_nil_or_concat later with rfl | ⟨before, a', rfl⟩
  · exact .inl rfl
  · rw [List.concat_eq_append, ← List.append_assoc] at h
    obtain ⟨hhistory, ha⟩ := List.append_inj' h rfl
    obtain rfl := (List.cons.inj ha).1
    exact .inr ⟨before, List.concat_eq_append, hhistory⟩

theorem Spent.concat (h : Spent spend reset n history) (a : α) :
    Spent spend reset (n + if a = spend then 1 else 0) (history ++ [a]) := by
  intro earlier later heq hreset
  rcases later_of_concat heq with rfl | ⟨before, rfl, hhistory⟩
  · simp
  · have hbefore := h earlier before hhistory fun hr => hreset (List.mem_append_left _ hr)
    rw [List.count_append, List.count_singleton]
    simp only [beq_iff_eq]
    omega

theorem Spent.concat_reset (history : List α) : Spent spend reset 0 (history ++ [reset]) := by
  intro earlier later heq hreset
  rcases later_of_concat heq with rfl | ⟨before, rfl, -⟩
  · simp
  · exact absurd (List.mem_append_right _ List.mem_cons_self) hreset

theorem withinBudget_nil : WithinBudget spend reset n [] := by
  intro earlier stretch later h _
  obtain ⟨h, -⟩ := List.append_eq_nil_iff.1 h.symm
  obtain ⟨-, rfl⟩ := List.append_eq_nil_iff.1 h
  simp

/-- A stretch of the longer history is one of the history or ends with it. -/
theorem WithinBudget.concat (h : WithinBudget spend reset n history) {a : α}
    (hspent : Spent spend reset n (history ++ [a])) :
    WithinBudget spend reset n (history ++ [a]) := by
  intro earlier stretch later heq hreset
  rcases later_of_concat heq with rfl | ⟨before, rfl, hhistory⟩
  · rw [List.append_nil] at heq
    exact hspent earlier stretch heq hreset
  · exact h earlier stretch before hhistory hreset

end Budget

end EdgeNode
