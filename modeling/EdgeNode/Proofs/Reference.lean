import EdgeNode.Lib.Int64
import EdgeNode.Pipeline.Evaluator

/-!
# Debounce and its reference

The reference keeps the inputs since the last confirmation: a candidate is confirmed when the
unbroken streak of inputs that ask for it has lasted for its debounce, counted from the smallest time
in the streak. The evaluator keeps one pending candidate with one time, which is that smallest one
(`Follows.streak`), also when the clock goes back.
-/

namespace EdgeNode

structure CalibratedInput (calibration : Calibration) where
  raw : F64
  value : F64
  uptimeMs : ℤ
  applied : calibration.apply raw = .ok value
  nonneg : 0 ≤ uptimeMs
  fits : uptimeMs ≤ I64.maxValue

/-! ## The reference -/

/-- The confirmed value, and the candidates since the last confirmation with their times, the newest
first. -/
structure Reference where
  confirmed : Option Bool := none
  since : List (Bool × ℤ) := []
  deriving DecidableEq

/-- The smallest time in the streak of inputs with candidate `target` that ends at `time`. -/
def streakStart (target : Bool) (time : ℤ) (since : List (Bool × ℤ)) : ℤ :=
  ((since.takeWhile fun c => c.1 == target).map Prod.snd).foldr min time

namespace Reference

variable (detector : Detector)

def candidate (r : Reference) (value : F64) : Bool :=
  detectorActive detector
    { initialized := r.confirmed.isSome, active := r.confirmed.getD false } value

def step (r : Reference) (value : F64) (time : ℤ) : Option Bool × Reference :=
  let target := r.candidate detector value
  match r.confirmed with
  | none => (some target, { confirmed := some target })
  | some confirmed =>
    if target ≠ confirmed ∧ (transitionDebounce detector target = 0
        ∨ transitionDebounce detector target ≤ time - streakStart target time r.since) then
      (some target, { confirmed := some target })
    else (none, { r with since := (target, time) :: r.since })

def run {calibration : Calibration} (r : Reference) :
    List (CalibratedInput calibration) → List (Option Bool) × Reference
  | [] => ([], r)
  | i :: inputs =>
    let first := r.step detector i.value i.uptimeMs
    let rest := run first.2 inputs
    (first.1 :: rest.1, rest.2)

end Reference

def evaluateAll (definition : PipelineDefinition) :
    EvaluationState → List (CalibratedInput definition.calibration) →
      Except EvaluatorError (List Evaluation × EvaluationState)
  | state, [] => .ok ([], state)
  | state, i :: inputs => do
    let (evaluation, state) ← evaluate definition state i.raw i.uptimeMs
    let (evaluations, state) ← evaluateAll definition state inputs
    pure (evaluation :: evaluations, state)

def Evaluation.confirming (value : F64) (confirmed : Option Bool) : Evaluation :=
  { Evaluation.silent value with emitted := confirmed.isSome, boolean := confirmed }

/-! ## The evaluator follows it -/

structure Follows (r : Reference) (state : EvaluationState) : Prop where
  initialized : state.initialized = r.confirmed.isSome
  active : state.active = r.confirmed.getD false
  counter : state.counter = 0
  fresh : r.confirmed = none → state.pending = false
  candidate : state.pending = true → state.pendingActive = !state.active
  streak : ∀ time, streakStart (!state.active) time r.since
    = if state.pending then min time state.pendingSince else time
  since : 0 ≤ state.pendingSince ∧ state.pendingSince ≤ I64.maxValue

variable {definition : PipelineDefinition} {detector : Detector} {r : Reference}
  {state : EvaluationState} {value : F64} {time : ℤ}

theorem streakStart_cons_ne {target other : Bool} {since : List (Bool × ℤ)} {start : ℤ}
    (h : other ≠ target) : streakStart target time ((other, start) :: since) = time := by
  have hne : (other == target) = false := beq_eq_false_iff_ne.2 h
  simp [streakStart, hne]

theorem streakStart_cons_self {target : Bool} {since : List (Bool × ℤ)} {start : ℤ} :
    streakStart target time ((target, start) :: since) = min start (streakStart target time since) := by
  simp [streakStart]

theorem Follows.candidate_eq (h : Follows r state) :
    r.candidate detector value = detectorActive detector state value := by
  unfold Reference.candidate detectorActive
  rw [h.initialized, h.active]

theorem transitionDebounce_nonneg (h : detector.validate = .ok ()) (target : Bool) :
    0 ≤ transitionDebounce detector target := by
  unfold Detector.validate at h
  split_ifs at h with hfinite hdebounce
  rw [not_or, not_not, not_not] at hdebounce
  unfold transitionDebounce
  dsimp only
  split_ifs
  · exact hdebounce.1.1
  · exact hdebounce.2.1

theorem Follows.confirmed {active : Bool} (hinit : state.initialized = true)
    (hactive : state.active = active) (hcounter : state.counter = 0) (hpending : state.pending = false)
    (hsince : 0 ≤ state.pendingSince ∧ state.pendingSince ≤ I64.maxValue) :
    Follows { confirmed := some active } state where
  initialized := hinit
  active := hactive
  counter := hcounter
  fresh h := nomatch h
  candidate h := nomatch hpending.symm.trans h
  streak t := by rw [hpending]; rfl
  since := hsince

theorem Follows.debounce (h : Follows r state) (hr : r.confirmed = some state.active)
    (hvalid : detector.validate = .ok ()) (htime : 0 ≤ time ∧ time ≤ I64.maxValue) :
    ∃ state' settled,
      EdgeNode.debounce detector state (detectorActive detector state value) time = (state', settled)
      ∧ Follows (r.step detector value time).2 state'
      ∧ (r.step detector value time).1
        = if settled ∧ state.active ≠ state'.active then some state'.active else none := by
  have hinit : state.initialized = true := by rw [h.initialized, hr]; rfl
  have hwindow := transitionDebounce_nonneg hvalid (detectorActive detector state value)
  unfold Reference.step
  rw [hr]
  dsimp only
  rw [h.candidate_eq]
  generalize detectorActive detector state value = target at *
  unfold EdgeNode.debounce
  by_cases hsame : target = state.active
  · -- the streak is broken
    refine ⟨_, _, if_pos hsame, ?_, ?_⟩
    · rw [if_neg fun hf => hf.1 hsame]
      refine ⟨hinit, rfl, h.counter, fun hf => (nomatch hf), fun hf => (nomatch hf), fun t => ?_, h.since⟩
      have hne : target ≠ !state.active := by rw [hsame]; cases state.active <;> decide
      rw [streakStart_cons_ne hne]
      rfl
    · rw [if_neg fun hf => hf.1 hsame]
      simp
  obtain rfl : target = !state.active := by
    revert hsame
    cases target <;> cases state.active <;> decide
  rw [if_neg hsame]
  dsimp only
  by_cases hzero : transitionDebounce detector (!state.active) = 0
  · refine ⟨_, _, if_pos hzero, ?_, ?_⟩
    · rw [if_pos ⟨hsame, .inl hzero⟩]
      exact .confirmed hinit rfl h.counter rfl h.since
    · rw [if_pos ⟨hsame, .inl hzero⟩, if_pos ⟨rfl, hsame ∘ Eq.symm⟩]
  rw [if_neg hzero]
  have hstreak := h.streak
  by_cases hpending : state.pending = true
  · -- the window of the pending candidate starts at the smallest time of the streak
    have hopen : ¬ (!state.pending || state.pendingActive != !state.active) = true := by
      rw [hpending, h.candidate hpending]
      simp
    rw [if_neg hopen]
    simp only [hpending, if_true] at hstreak
    rw [hstreak time]
    by_cases hback : time < state.pendingSince
    · have hshort : ¬ ((!state.active) ≠ state.active ∧ (transitionDebounce detector (!state.active) = 0
          ∨ transitionDebounce detector (!state.active) ≤ time - min time state.pendingSince)) := by
        rw [min_eq_left hback.le]
        omega
      refine ⟨_, _, if_pos hback, ?_, ?_⟩
      · rw [if_neg hshort]
        refine ⟨hinit, rfl, h.counter, fun hf => (nomatch hf), fun _ => h.candidate hpending, fun t => ?_, htime⟩
        rw [streakStart_cons_self, hstreak, hpending, if_pos rfl]
        show min time (min t state.pendingSince) = min t time
        omega
      · rw [if_neg hshort]
        simp
    · rw [if_neg hback, min_eq_right (not_lt.1 hback)]
      by_cases hwait : time - state.pendingSince < transitionDebounce detector (!state.active)
      · have hshort : ¬ ((!state.active) ≠ state.active ∧ (transitionDebounce detector (!state.active) = 0
            ∨ transitionDebounce detector (!state.active) ≤ time - state.pendingSince)) := by
          omega
        refine ⟨_, _, if_pos hwait, ?_, ?_⟩
        · rw [if_neg hshort]
          refine ⟨hinit, rfl, h.counter, fun hf => (nomatch hf), h.candidate, fun t => ?_, h.since⟩
          rw [streakStart_cons_self, hstreak, hpending, if_pos rfl]
          omega
        · rw [if_neg hshort]
          simp
      · have hlong : (!state.active) ≠ state.active ∧ (transitionDebounce detector (!state.active) = 0
            ∨ transitionDebounce detector (!state.active) ≤ time - state.pendingSince) :=
          ⟨hsame, .inr (not_lt.1 hwait)⟩
        refine ⟨_, _, if_neg hwait, ?_, ?_⟩
        · rw [if_pos hlong]
          exact .confirmed hinit rfl h.counter rfl h.since
        · rw [if_pos hlong, if_pos ⟨rfl, hsame ∘ Eq.symm⟩]
  · -- the streak starts here
    have hclosed : state.pending = false := by simpa using hpending
    have hopen : (!state.pending || state.pendingActive != !state.active) = true := by
      rw [hclosed]
      rfl
    simp only [hclosed, Bool.false_eq_true, if_false] at hstreak
    have hshort : ¬ ((!state.active) ≠ state.active ∧ (transitionDebounce detector (!state.active) = 0
        ∨ transitionDebounce detector (!state.active) ≤ time - streakStart (!state.active) time r.since)) := by
      rw [hstreak]
      omega
    refine ⟨_, _, if_pos hopen, ?_, ?_⟩
    · rw [if_neg hshort]
      refine ⟨hinit, rfl, h.counter, fun hf => (nomatch hf), fun _ => rfl, fun t => ?_, htime⟩
      rw [streakStart_cons_self, hstreak, if_pos rfl]
      exact min_comm time t
    · rw [if_neg hshort]
      simp

theorem PipelineDefinition.detector_of_validate (hvalid : definition.validate = .ok ())
    (hkind : definition.kind = .state) :
    ∃ detector, definition.detector = some detector ∧ detector.validate = .ok () := by
  unfold PipelineDefinition.validate at hvalid
  split_ifs at hvalid
  cases hcalibration : definition.calibration.validate.mapError
      fun e => (⟨e.toText⟩ : ValidationError) with
  | error e =>
    rw [hcalibration] at hvalid
    cases hvalid
  | ok _ =>
    rw [hcalibration] at hvalid
    replace hvalid : definition.validateKind = .ok () := hvalid
    unfold PipelineDefinition.validateKind at hvalid
    rw [hkind] at hvalid
    dsimp only at hvalid
    split_ifs at hvalid
    cases hdetector : definition.detector with
    | none =>
      rw [hdetector] at hvalid
      cases hvalid
    | some detector =>
      rw [hdetector] at hvalid
      refine ⟨detector, rfl, ?_⟩
      cases hchecked : detector.validate with
      | error e =>
        simp only [hchecked] at hvalid
        cases hvalid
      | ok _ => rfl

theorem Follows.evaluate (h : Follows r state) (hkind : definition.kind = .state)
    (hdetector : definition.detector = some detector) (hvalid : detector.validate = .ok ())
    (i : CalibratedInput definition.calibration) :
    ∃ state', EdgeNode.evaluate definition state i.raw i.uptimeMs
        = .ok (.confirming i.value (r.step detector i.value i.uptimeMs).1, state')
      ∧ Follows (r.step detector i.value i.uptimeMs).2 state' := by
  unfold EdgeNode.evaluate
  rw [if_neg (not_lt.2 i.nonneg), i.applied]
  dsimp only
  rw [if_neg (by rw [hkind]; decide), hdetector]
  dsimp only
  cases hr : r.confirmed with
  | none =>
    -- the first input
    have hinit : state.initialized = false := by rw [h.initialized, hr]; rfl
    have hstep : r.step detector i.value i.uptimeMs
        = (some (detectorActive detector state i.value),
          { confirmed := some (detectorActive detector state i.value) }) := by
      unfold Reference.step
      rw [hr]
      dsimp only
      rw [h.candidate_eq]
    rw [hinit, hstep]
    refine ⟨_, if_pos hkind, ?_⟩
    exact .confirmed rfl rfl h.counter (h.fresh hr) h.since
  | some confirmed =>
    have hactive : state.active = confirmed := by rw [h.active, hr]; rfl
    have hinit : state.initialized = true := by rw [h.initialized, hr]; rfl
    obtain ⟨state', settled, hdebounce, hfollows, hout⟩ :=
      h.debounce (hactive ▸ hr) hvalid ⟨i.nonneg, i.fits⟩
    rw [hinit, hdebounce, hout]
    refine ⟨state', ?_, hfollows⟩
    cases settled with
    | false => rfl
    | true =>
      show emitSettled definition state.active state' i.value = _
      unfold emitSettled
      rw [hkind]
      by_cases hchange : state.active = state'.active
      · simp [hchange, Evaluation.confirming, Evaluation.silent]
      · simp [hchange, Evaluation.confirming]

theorem Follows.evaluateAll (hkind : definition.kind = .state)
    (hdetector : definition.detector = some detector) (hvalid : detector.validate = .ok ())
    (inputs : List (CalibratedInput definition.calibration)) :
    ∀ {r : Reference} {state : EvaluationState}, Follows r state →
      ∃ final, EdgeNode.evaluateAll definition state inputs
          = .ok ((inputs.zip (r.run detector inputs).1).map fun p => .confirming p.1.value p.2, final)
        ∧ Follows (r.run detector inputs).2 final := by
  induction inputs with
  | nil => exact fun {r state} h => ⟨state, rfl, h⟩
  | cons i inputs ih =>
    intro r state h
    obtain ⟨state', heval, h'⟩ := h.evaluate hkind hdetector hvalid i
    obtain ⟨final, hrest, hfinal⟩ := ih h'
    refine ⟨final, ?_, hfinal⟩
    simp only [EdgeNode.evaluateAll, heval, Reference.run, List.zip_cons_cons, List.map_cons]
    show (EdgeNode.evaluateAll definition state' inputs >>= _) = _
    rw [hrest]
    rfl

/-- For every checked state definition and every sequence of calibrated inputs the evaluator confirms
what the reference confirms; what is pending differs from what is confirmed, and the next input's
distance from it is a number of 64 bits. -/
theorem evaluator_follows_reference (definition : PipelineDefinition)
    (hvalid : definition.validate = .ok ()) (hkind : definition.kind = .state)
    (inputs : List (CalibratedInput definition.calibration)) :
    ∃ detector final, definition.detector = some detector
      ∧ evaluateAll definition {} inputs = .ok ((inputs.zip (Reference.run detector {} inputs).1).map
          fun p => .confirming p.1.value p.2, final)
      ∧ final.initialized = (Reference.run detector {} inputs).2.confirmed.isSome
      ∧ final.active = (Reference.run detector {} inputs).2.confirmed.getD false
      ∧ (final.pending = true → final.pendingActive ≠ final.active)
      ∧ ∀ next : CalibratedInput definition.calibration,
          I64.inRange (next.uptimeMs - final.pendingSince) := by
  obtain ⟨detector, hdetector, hchecked⟩ := definition.detector_of_validate hvalid hkind
  have hfresh : Follows {} {} :=
    ⟨rfl, rfl, rfl, fun _ => rfl, fun h => (nomatch h), fun _ => rfl, by decide⟩
  obtain ⟨final, heval, h⟩ := Follows.evaluateAll hkind hdetector hchecked inputs hfresh
  refine ⟨detector, final, hdetector, heval, h.initialized, h.active, fun hp => ?_, fun next => ?_⟩
  · rw [h.candidate hp]
    cases final.active <;> decide
  · have hsince := h.since
    have hnonneg := next.nonneg
    have hfits := next.fits
    unfold I64.inRange I64.minValue I64.maxValue at *
    omega

def slowRise : PipelineDefinition where
  id := ⟨"slow", by decide⟩
  kind := .state
  input := { adapter := "bench", measurementKey := "level" }
  detector := some ⟨.highActive, .finite 10 0, .finite 5 0, 100, 0⟩

def risingInputs : List (CalibratedInput slowRise.calibration) :=
  [⟨.finite 0 0, .finite 0 0, 0, by decide, by decide, by decide⟩,
    ⟨.finite 20 0, .finite 20 0, 50, by decide, by decide, by decide⟩,
    ⟨.finite 20 0, .finite 20 0, 20, by decide, by decide, by decide⟩,
    ⟨.finite 20 0, .finite 20 0, 120, by decide, by decide, by decide⟩]

theorem slowRise_follows_reference :
    ∃ detector final, slowRise.detector = some detector
      ∧ evaluateAll slowRise {} risingInputs
        = .ok ((risingInputs.zip (Reference.run detector {} risingInputs).1).map
          fun p => .confirming p.1.value p.2, final)
      ∧ (Reference.run detector {} risingInputs).1 = [some false, none, none, some true] := by
  obtain ⟨detector, final, hdetector, heval, -⟩ :=
    evaluator_follows_reference slowRise (by decide) rfl risingInputs
  refine ⟨detector, final, hdetector, heval, ?_⟩
  obtain rfl := Option.some.inj hdetector
  decide +kernel

end EdgeNode
