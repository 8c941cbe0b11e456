import EdgeNode.Pipeline.Definition

/-!
# Evaluation of one input

Calibration, thresholds with hysteresis, debounce and accumulated counting, as a function of the
definition, the stored evaluation state, the input and the monotonic time it was received at.
-/

namespace EdgeNode

/-- The largest integer a JSON number consumer holds exactly. -/
def maxSafeInteger : ℤ := 2 ^ 53 - 1

structure EvaluationState where
  initialized : Bool := false
  active : Bool := false
  counter : ℤ := 0
  pending : Bool := false
  pendingActive : Bool := false
  pendingSince : ℤ := 0
  deriving DecidableEq, Repr

structure Evaluation where
  emitted : Bool
  number : Option F64
  boolean : Option Bool
  integer : Option ℤ
  calibrated : F64
  deriving DecidableEq, Repr

def Evaluation.silent (calibrated : F64) : Evaluation :=
  { emitted := false, number := none, boolean := none, integer := none, calibrated := calibrated }

/-- The state the thresholds ask for; which one applies depends on the state held. -/
def detectorActive (detector : Detector) (state : EvaluationState) (value : F64) : Bool :=
  match detector.mode with
  | .highActive =>
    if state.initialized && state.active then detector.fallThreshold.lt value
    else detector.riseThreshold.le value
  | .lowActive =>
    if state.initialized && state.active then value.lt detector.riseThreshold
    else value.le detector.fallThreshold

/-- For a low-active detector the signal rises when the state becomes inactive. -/
def transitionDebounce (detector : Detector) (targetActive : Bool) : ℤ :=
  let risingSignal := match detector.mode with
    | .highActive => targetActive
    | .lowActive => !targetActive
  if risingSignal then detector.riseDebounceMs else detector.fallDebounceMs

/-- The debounce of one candidate: the new state, and whether the input is settled or waits for
the window to end. -/
def debounce (detector : Detector) (state : EvaluationState) (candidate : Bool)
    (receivedAt : ℤ) : EvaluationState × Bool :=
  if candidate = state.active then ({ state with pending := false }, true)
  else
    let window := transitionDebounce detector candidate
    if window = 0 then ({ state with active := candidate, pending := false }, true)
    else if !state.pending || state.pendingActive != candidate then
      ({ state with pending := true, pendingActive := candidate, pendingSince := receivedAt },
        false)
    -- the clock went backwards: the window restarts here
    else if receivedAt < state.pendingSince then
      ({ state with pendingSince := receivedAt }, false)
    else if receivedAt - state.pendingSince < window then (state, false)
    else ({ state with active := candidate, pending := false }, true)

def emitSettled (definition : PipelineDefinition) (previous : Bool) (state : EvaluationState)
    (calibrated : F64) : Except EvaluatorError (Evaluation × EvaluationState) :=
  let silent := Evaluation.silent calibrated
  match definition.kind with
  | .state =>
    if previous != state.active then
      .ok ({ silent with emitted := true, boolean := some state.active }, state)
    else .ok (silent, state)
  | .accumulatedCount =>
    match definition.trigger with
    | none => .error (.invalid "trigger is required for accumulated-count")
    | some .onTransition =>
      if !previous && state.active then
        if maxSafeInteger ≤ state.counter then .error .counterLimit
        else
          .ok ({ silent with emitted := true, integer := some (state.counter + 1) },
            { state with counter := state.counter + 1 })
      else .ok (silent, state)
  | .measurement => .ok (silent, state)

def evaluate (definition : PipelineDefinition) (state : EvaluationState) (input : F64)
    (receivedAt : ℤ) : Except EvaluatorError (Evaluation × EvaluationState) :=
  if receivedAt < 0 then .error (.invalid "received time must be non-negative")
  else match definition.calibration.apply input with
  | .error e => .error e
  | .ok calibrated =>
    let silent := Evaluation.silent calibrated
    if definition.kind = .measurement then
      .ok ({ silent with emitted := true, number := some calibrated },
        { state with initialized := true })
    else match definition.detector with
    | none =>
      .error (.invalid "detector is required for state and accumulated-count")
    | some detector =>
      let candidate := detectorActive detector state calibrated
      if !state.initialized then
        let state := { state with initialized := true, active := candidate }
        if definition.kind = .state then
          .ok ({ silent with emitted := true, boolean := some candidate }, state)
        else .ok (silent, state)
      else match debounce detector state candidate receivedAt with
      | (state', false) => .ok (silent, state')
      | (state', true) => emitSettled definition state.active state' calibrated

end EdgeNode
