import Mathlib

/-!
# Machines that take events

A machine is its step function: an event that cannot happen in a state has no successor. A run takes
a list of events. What one step preserves under a condition on the event, every run whose events
meet the condition preserves.
-/

namespace EdgeNode

namespace Machine

variable {σ ε : Type} {step : σ → ε → Option σ}

/-- The state after a list of events, if all of them can happen. -/
def run (step : σ → ε → Option σ) : σ → List ε → Option σ
  | s, [] => some s
  | s, e :: es => (step s e).bind fun s' => run step s' es

/-- Every event of a run from `s` meets `P` in the state it happens in. -/
def Along (step : σ → ε → Option σ) (P : σ → ε → Prop) : σ → List ε → Prop
  | _, [] => True
  | s, e :: es => P s e ∧ ∀ s', step s e = some s' → Along step P s' es

instance decidableAlong {P : σ → ε → Prop} [∀ s e, Decidable (P s e)] :
    ∀ (s : σ) (es : List ε), Decidable (Along step P s es)
  | _, [] => isTrue trivial
  | s, e :: es =>
    match h : step s e with
    | none => decidable_of_iff (P s e)
        ⟨fun hp => ⟨hp, fun _ hs => nomatch h.symm.trans hs⟩, And.left⟩
    | some s' =>
      haveI := decidableAlong (P := P) s' es
      decidable_of_iff (P s e ∧ Along step P s' es)
        ⟨fun hp => ⟨hp.1, fun _ hs => Option.some.inj (h.symm.trans hs) ▸ hp.2⟩,
          fun hp => ⟨hp.1, hp.2 s' h⟩⟩

theorem Along.and_mem {P : σ → ε → Prop} {Q : ε → Prop} :
    ∀ {s : σ} {es : List ε}, Along step P s es → (∀ e ∈ es, Q e) →
      Along step (fun s e => P s e ∧ Q e) s es
  | _, [], _, _ => trivial
  | _, e :: _, h, hQ => ⟨⟨h.1, hQ e List.mem_cons_self⟩,
      fun s' hs => (h.2 s' hs).and_mem fun e' he' => hQ e' (List.mem_cons_of_mem e he')⟩

theorem run_cons {s s' : σ} {e : ε} {es : List ε} :
    run step s (e :: es) = some s' ↔ ∃ t, step s e = some t ∧ run step t es = some s' :=
  Option.bind_eq_some_iff

theorem run_append {s s' : σ} {es es' : List ε} :
    run step s (es ++ es') = some s' ↔ ∃ t, run step s es = some t ∧ run step t es' = some s' := by
  induction es generalizing s with
  | nil => simp [run]
  | cons e es ih =>
    rw [List.cons_append, run_cons]
    simp only [run_cons, ih]
    constructor
    · rintro ⟨t, ht, u, hu, hs⟩
      exact ⟨u, ⟨t, ht, hu⟩, hs⟩
    · rintro ⟨u, ⟨t, ht, hu⟩, hs⟩
      exact ⟨t, ht, u, hu, hs⟩

/-- A condition along a longer run holds along its first part, and from there on. -/
theorem Along.of_append {P : σ → ε → Prop} :
    ∀ {es es' : List ε} {s t : σ}, Along step P s (es ++ es') → run step s es = some t →
      Along step P s es ∧ Along step P t es'
  | [], _, _, _, h, hr => by
    cases hr
    exact ⟨trivial, h⟩
  | e :: es, es', s, t, h, hr => by
    obtain ⟨u, hu, hr⟩ := run_cons.1 hr
    obtain ⟨hes, hes'⟩ := Along.of_append (h.2 u hu) hr
    exact ⟨⟨h.1, fun u' hu' => Option.some.inj (hu.symm.trans hu') ▸ hes⟩, hes'⟩

/-- What every step preserves under `P`, every run along `P` preserves. -/
theorem run_invariant_along {I : σ → Prop} {P : σ → ε → Prop}
    (hstep : ∀ s e s', P s e → I s → step s e = some s' → I s') :
    ∀ {es : List ε} {s s' : σ}, Along step P s es → I s → run step s es = some s' → I s'
  | [], s, s', _, h, hr => by
    cases hr
    exact h
  | e :: es, s, s', hP, h, hr => by
    obtain ⟨t, ht, hr⟩ := run_cons.1 hr
    exact run_invariant_along hstep (hP.2 t ht) (hstep s e t hP.1 h ht) hr

theorem run_invariant {I : σ → Prop} (hstep : ∀ s e s', I s → step s e = some s' → I s')
    {es : List ε} {s s' : σ} (h : I s) (hr : run step s es = some s') : I s' := by
  have htrue : ∀ (es : List ε) (s : σ), Along step (fun _ _ => True) s es := by
    intro es
    induction es with
    | nil => exact fun _ => trivial
    | cons e es ih => exact fun _ => ⟨trivial, fun s' _ => ih s'⟩
  exact run_invariant_along (fun s e s' _ => hstep s e s') (htrue es s) h hr

/-- Along a run a condition holds, or the run has a step that breaks it. -/
theorem along_or_broken {P : σ → ε → Prop} :
    ∀ {es : List ε} {s s' : σ}, run step s es = some s' →
      Along step P s es ∨ ∃ es₁ e es₂ t t', run step s es₁ = some t ∧ ¬P t e ∧ step t e = some t'
        ∧ run step t' es₂ = some s'
  | [], _, _, _ => .inl trivial
  | e :: es, s, s', hr => by
    obtain ⟨t, ht, hr⟩ := run_cons.1 hr
    by_cases hP : P s e
    · rcases along_or_broken hr with h | ⟨es₁, e', es₂, u, u', hu, hbroken, hstep, hrest⟩
      · exact .inl ⟨hP, fun t' ht' => Option.some.inj (ht.symm.trans ht') ▸ h⟩
      · exact .inr ⟨e :: es₁, e', es₂, u, u', run_cons.2 ⟨t, ht, hu⟩, hbroken, hstep, hrest⟩
    · exact .inr ⟨[], e, es, s, t, rfl, hP, ht, hr⟩

end Machine

end EdgeNode
