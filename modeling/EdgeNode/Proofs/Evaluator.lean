import EdgeNode.Pipeline.Evaluator

/-!
# What one evaluation does

For a counting pipeline an evaluation either emits the counter one higher or leaves it
(`evaluate_count`); for a state pipeline it emits the state it settles on exactly when that state
is new (`evaluate_state`). Debounce never touches the counter, and holds the state while it waits.
-/

namespace EdgeNode

variable {definition : PipelineDefinition} {detector : Detector} {state state' : EvaluationState}
  {candidate settled : Bool} {receivedAt : ℤ} {input calibrated : F64} {evaluation : Evaluation}

theorem debounce_frame (h : debounce detector state candidate receivedAt = (state', settled)) :
    state'.initialized = state.initialized ∧ state'.counter = state.counter
      ∧ (settled = false → state'.active = state.active) := by
  unfold debounce at h
  dsimp only at h
  split_ifs at h <;> simp only [Prod.mk.injEq] at h <;> obtain ⟨rfl, rfl⟩ := h <;> simp

theorem debounce_changes
    (h : (debounce detector state candidate receivedAt).1.active ≠ state.active) :
    candidate ≠ state.active ∧ (transitionDebounce detector candidate = 0
      ∨ transitionDebounce detector candidate ≠ 0 ∧ state.pending = true
        ∧ candidate = state.pendingActive ∧ state.pendingSince ≤ receivedAt
        ∧ transitionDebounce detector candidate ≤ receivedAt - state.pendingSince) := by
  unfold debounce at h
  dsimp only at h
  split_ifs at h with hsame hzero hopen hback hwait
  all_goals first | exact absurd rfl h | skip
  · exact ⟨hsame, .inl hzero⟩
  · simp only [Bool.or_eq_true, Bool.not_eq_true', bne_iff_ne, ne_eq, not_or,
      Bool.not_eq_false, not_not] at hopen
    exact ⟨hsame, .inr ⟨hzero, hopen.1, hopen.2.symm, not_lt.1 hback, not_lt.1 hwait⟩⟩

theorem debounce_waits (h : (debounce detector state candidate receivedAt).1.pending = true) :
    (debounce detector state candidate receivedAt).1.pendingActive = candidate
      ∧ ((debounce detector state candidate receivedAt).1.pendingSince = receivedAt
        ∨ (debounce detector state candidate receivedAt).1 = state
          ∧ candidate = state.pendingActive ∧ candidate ≠ state.active
          ∧ transitionDebounce detector candidate ≠ 0 ∧ state.pendingSince ≤ receivedAt) := by
  unfold debounce at h ⊢
  dsimp only at h ⊢
  split_ifs at h ⊢ with hsame hzero hopen hback hwait
  · exact ⟨rfl, .inl rfl⟩
  · simp only [Bool.or_eq_true, Bool.not_eq_true', bne_iff_ne, ne_eq, not_or,
      Bool.not_eq_false, not_not] at hopen
    exact ⟨hopen.2, .inl rfl⟩
  · simp only [Bool.or_eq_true, Bool.not_eq_true', bne_iff_ne, ne_eq, not_or,
      Bool.not_eq_false, not_not] at hopen
    exact ⟨hopen.2, .inr ⟨rfl, hopen.2.symm, hsame, hzero, not_lt.1 hback⟩⟩

theorem emitSettled_count (hk : definition.kind = .accumulatedCount) {previous : Bool}
    (h : emitSettled definition previous state calibrated = .ok (evaluation, state')) :
    (evaluation.emitted = true ∧ evaluation.integer = some (state.counter + 1)
        ∧ state'.counter = state.counter + 1 ∧ state.counter < maxSafeInteger)
      ∨ (evaluation.emitted = false ∧ state'.counter = state.counter) := by
  unfold emitSettled at h
  simp only [hk] at h
  split at h
  · simp at h
  · split_ifs at h with h1 h2 <;> simp only [Except.ok.injEq, Prod.mk.injEq] at h <;>
      obtain ⟨rfl, rfl⟩ := h
    · exact .inl ⟨rfl, rfl, rfl, not_le.1 h2⟩
    · exact .inr ⟨rfl, rfl⟩

theorem emitSettled_state (hk : definition.kind = .state) {previous : Bool}
    (h : emitSettled definition previous state calibrated = .ok (evaluation, state')) :
    state' = state ∧
      ((evaluation.emitted = true ∧ evaluation.boolean = some state.active
          ∧ previous ≠ state.active)
        ∨ (evaluation.emitted = false ∧ previous = state.active)) := by
  unfold emitSettled at h
  simp only [hk] at h
  split_ifs at h with h1 <;> simp only [Except.ok.injEq, Prod.mk.injEq] at h <;>
    obtain ⟨rfl, rfl⟩ := h
  · exact ⟨rfl, .inl ⟨rfl, rfl, by simpa using h1⟩⟩
  · exact ⟨rfl, .inr ⟨rfl, by simpa using h1⟩⟩

theorem evaluate_count (hk : definition.kind = .accumulatedCount)
    (h : evaluate definition state input receivedAt = .ok (evaluation, state')) :
    (evaluation.emitted = true ∧ evaluation.integer = some (state.counter + 1)
        ∧ state'.counter = state.counter + 1 ∧ state.counter < maxSafeInteger)
      ∨ (evaluation.emitted = false ∧ state'.counter = state.counter) := by
  unfold evaluate at h
  split at h
  · simp at h
  rcases hc : definition.calibration.apply input with e | calibrated <;> simp only [hc] at h
  · simp at h
  simp only [hk, reduceCtorEq, ↓reduceIte] at h
  rcases hd : definition.detector with _ | detector <;> simp only [hd] at h
  · simp at h
  split_ifs at h with hi
  · simp only [Except.ok.injEq, Prod.mk.injEq] at h
    obtain ⟨rfl, rfl⟩ := h
    exact .inr ⟨rfl, rfl⟩
  · split at h
    · rename_i held hb
      simp only [Except.ok.injEq, Prod.mk.injEq] at h
      obtain ⟨rfl, rfl⟩ := h
      exact .inr ⟨rfl, (debounce_frame hb).2.1⟩
    · rename_i next hb
      rw [← (debounce_frame hb).2.1]
      exact emitSettled_count hk h

theorem evaluate_state (hk : definition.kind = .state)
    (h : evaluate definition state input receivedAt = .ok (evaluation, state')) :
    state'.initialized = true ∧
      ((evaluation.emitted = true ∧ evaluation.boolean = some state'.active
          ∧ (state.initialized = true → state.active ≠ state'.active))
        ∨ (evaluation.emitted = false ∧ state.initialized = true
          ∧ state'.active = state.active)) := by
  unfold evaluate at h
  split at h
  · simp at h
  rcases hc : definition.calibration.apply input with e | calibrated <;> simp only [hc] at h
  · simp at h
  simp only [hk, reduceCtorEq, ↓reduceIte] at h
  rcases hd : definition.detector with _ | detector <;> simp only [hd] at h
  · simp at h
  split_ifs at h with hi
  · simp only [Except.ok.injEq, Prod.mk.injEq] at h
    obtain ⟨rfl, rfl⟩ := h
    refine ⟨rfl, .inl ⟨rfl, rfl, fun h' => ?_⟩⟩
    simp [h'] at hi
  · have hinit : state.initialized = true := by simpa using hi
    split at h
    · rename_i held hb
      simp only [Except.ok.injEq, Prod.mk.injEq] at h
      obtain ⟨rfl, rfl⟩ := h
      obtain ⟨h1, -, h3⟩ := debounce_frame hb
      exact ⟨h1.trans hinit, .inr ⟨rfl, hinit, h3 rfl⟩⟩
    · rename_i next hb
      obtain ⟨rfl, hem⟩ := emitSettled_state hk h
      refine ⟨(debounce_frame hb).1.trans hinit, ?_⟩
      rcases hem with ⟨he, hv, hne⟩ | ⟨he, heq⟩
      · exact .inl ⟨he, hv, fun _ => hne⟩
      · exact .inr ⟨he, hinit, heq.symm⟩

theorem emitSettled_frame {previous : Bool}
    (h : emitSettled definition previous state calibrated = .ok (evaluation, state')) :
    state' = { state with counter := state'.counter } := by
  unfold emitSettled at h
  split at h
  · split_ifs at h <;> cases h <;> rfl
  · split at h
    · cases h
    · split_ifs at h <;> cases h <;> rfl
  · cases h
    rfl

theorem evaluate_detector (hk : definition.kind ≠ .measurement)
    (hd : definition.detector = some detector)
    (hc : definition.calibration.apply input = .ok calibrated)
    (h : evaluate definition state input receivedAt = .ok (evaluation, state')) :
    (state.initialized = false ∧ state' = { state with
        initialized := true
        active := detectorActive detector state calibrated })
      ∨ (state.initialized = true ∧ { state' with counter := state.counter }
        = (debounce detector state (detectorActive detector state calibrated) receivedAt).1) := by
  unfold evaluate at h
  split at h
  · cases h
  simp only [hc, if_neg hk, hd] at h
  by_cases hi : state.initialized = true
  · refine .inr ⟨hi, ?_⟩
    simp only [hi, Bool.not_true, Bool.false_eq_true, ↓reduceIte] at h
    rcases hb : debounce detector state (detectorActive detector state calibrated) receivedAt
      with ⟨held, _ | _⟩ <;> rw [hb] at h <;> have hcounter := (debounce_frame hb).2.1
    · cases h
      rw [← hcounter]
    · rw [emitSettled_frame h, ← hcounter]
  · refine .inl ⟨by simpa using hi, ?_⟩
    simp only [hi, Bool.not_false, ↓reduceIte] at h
    split_ifs at h <;> cases h <;> rfl

end EdgeNode
