import Mathlib

/-!
# Sliding windows

A limiter that keeps the times it has let something in and forgets from the front those that are
older than the window. What it keeps is all that still counts, so the limit holds over every window
of that width, wherever it starts.
-/

namespace EdgeNode

namespace SlidingWindow

/-- The times without those at the front that have left the window. -/
def trim (width now : ℕ) (queue : List ℕ) : List ℕ := queue.dropWhile fun seen => width ≤ now - seen

/-- The times that lie in the half-open window from `start` on. -/
def within (width start : ℕ) (times : List ℕ) : List ℕ :=
  times.filter fun t => start ≤ t && t < start + width

/-- What is kept of the times something was let in, as of `latest`: those that are gone have left
every window that is still open. -/
structure Kept (width limit latest : ℕ) (admitted queue : List ℕ) : Prop where
  gone : ∃ gone, admitted = gone ++ queue ∧ ∀ t ∈ gone, t + width ≤ latest
  past : ∀ t ∈ admitted, t ≤ latest
  bounded : ∀ start, (within width start admitted).length ≤ limit

namespace Kept

variable {width limit latest now : ℕ} {admitted queue : List ℕ}

theorem nil : Kept width limit latest [] [] where
  gone := ⟨[], rfl, by simp⟩
  past := by simp
  bounded start := Nat.zero_le limit

theorem later (h : Kept width limit latest admitted queue) (hle : latest ≤ now) :
    Kept width limit now admitted queue where
  gone := by
    obtain ⟨gone, heq, hgone⟩ := h.gone
    exact ⟨gone, heq, fun t ht => (hgone t ht).trans hle⟩
  past t ht := (h.past t ht).trans hle
  bounded := h.bounded

theorem trim (h : Kept width limit now admitted queue) :
    Kept width limit now admitted (trim width now queue) where
  gone := by
    obtain ⟨gone, rfl, hgone⟩ := h.gone
    refine ⟨gone ++ queue.takeWhile fun seen => width ≤ now - seen, ?_, fun t ht => ?_⟩
    · rw [List.append_assoc, SlidingWindow.trim, List.takeWhile_append_dropWhile]
    · rcases List.mem_append.1 ht with ht | ht
      · exact hgone t ht
      · have hexpired := List.mem_takeWhile_imp ht
        have hpast := h.past t (List.mem_append_right _ ((List.takeWhile_sublist _).mem ht))
        simp only [decide_eq_true_eq] at hexpired
        omega
  past := h.past
  bounded := h.bounded

/-- One more may come in when fewer than the limit still count. -/
theorem push (h : Kept width limit now admitted queue) (hroom : queue.length < limit) :
    Kept width limit now (admitted ++ [now]) (queue ++ [now]) where
  gone := by
    obtain ⟨gone, rfl, hgone⟩ := h.gone
    exact ⟨gone, List.append_assoc _ _ _, hgone⟩
  past t ht := by
    rcases List.mem_append.1 ht with ht | ht
    · exact h.past t ht
    · rw [List.mem_singleton.1 ht]
  bounded start := by
    by_cases hin : start ≤ now ∧ now < start + width
    · -- the window is still open, so what is gone lies before it
      obtain ⟨gone, rfl, hgone⟩ := h.gone
      have hbefore : within width start gone = [] := by
        refine List.filter_eq_nil_iff.2 fun t ht => ?_
        have := hgone t ht
        simp only [Bool.and_eq_true, decide_eq_true_eq]
        omega
      calc (within width start (gone ++ queue ++ [now])).length
          = (within width start (queue ++ [now])).length := by
            rw [List.append_assoc, within, List.filter_append, ← within, hbefore, List.nil_append,
              within]
        _ ≤ (queue ++ [now]).length := List.length_filter_le _ _
        _ ≤ limit := by simpa using hroom
    · have hout : within width start [now] = [] := by
        refine List.filter_eq_nil_iff.2 fun t ht => ?_
        rw [List.mem_singleton.1 ht]
        simpa using hin
      calc (within width start (admitted ++ [now])).length
          = (within width start admitted).length := by
            rw [within, List.filter_append, ← within, ← within, hout, List.append_nil]
        _ ≤ limit := h.bounded start

end Kept

end SlidingWindow

end EdgeNode
