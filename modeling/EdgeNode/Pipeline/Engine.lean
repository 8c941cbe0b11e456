import EdgeNode.Pipeline.Store

/-!
# The pipeline engine

Series, sequence and delivery. Every operation runs inside the caller's transaction and writes the
evaluation state, the next sequence and the outbox row together; none of them commits.
-/

namespace EdgeNode

inductive EngineError where
  | validation (error : ValidationError)
  | store (error : StoreError)
  | sqlite
  | alreadyExists (id : String)
  | notFound (id : String)
  | kindChanged
  | missingValue (valueIndex : ℕ)
  | evaluator (error : EvaluatorError)
  deriving DecidableEq

/-- The errors of the database itself, which the caller answers with a rollback. -/
def EngineError.isStorage : EngineError → Bool
  | .store _ | .sqlite => true
  | _ => false

structure SeriesStart where
  pipelineId : PipelineId
  seriesId : String
  published : Option Observation

structure AcceptedReading where
  adapter : String
  subject : Option String
  measurementKey : String
  channelIndex : Option ℕ
  values : List F64
  receivedAt : InputTime

inductive DeliveryOutcome where
  | silent
  | published (observation : Observation)

abbrev PipelineDelivery := PipelineId × Except EngineError DeliveryOutcome

/-- What the engine takes from outside the database: the digest, and the supply of identifiers a
new series draws from. -/
structure Outside where
  sha256 : String → String
  uuid : ℕ → String

structure PipelineEngine where
  edgeNodeId : EdgeNodeId

namespace PipelineEngine

variable (env : Outside) (engine : PipelineEngine)

def stored {α : Type} (m : Tx PipelineDb StoreError α) : Tx PipelineDb EngineError α :=
  m.mapError .store

def queued {α : Type} (m : Tx PipelineDb StoreError α) : Tx PipelineDb EngineError α :=
  m.mapError fun _ => .sqlite

def publish (definition : PipelineDefinition) (state : PipelineState) (value : ObservationValue)
    (time : InputTime) : Tx PipelineDb EngineError (Observation × PipelineState) := do
  let observation : Observation :=
    { pipelineId := definition.id, seriesId := state.seriesId, sequence := state.nextSequence,
      time := time, value := value }
  let _ ← queued (Outbox.enqueue definition.id (observation.topic engine.edgeNodeId)
    (some observation.payload) true time)
  pure (observation,
    { state with
      nextSequence := (state.nextSequence + 1) % 2 ^ 64
      lastValue := some value
      lastPublishedAt := some time })

def enqueueDeletion (definition : PipelineDefinition) (now : InputTime) :
    Tx PipelineDb EngineError Unit := do
  let topic := observationTopic engine.edgeNodeId definition.id definition.kind
  let _ ← queued (Outbox.enqueue definition.id topic none true now)
  pure ()

/-- Only `accumulated-count` publishes at the start of a series. -/
def startSeries (definition : PipelineDefinition) (now : InputTime) :
    Tx PipelineDb EngineError SeriesStart := do
  let draw ← Tx.draw
  let state : PipelineState :=
    { structuralHash := definition.structuralHash env.sha256
      seriesId := env.uuid draw
      nextSequence := 1
      evaluation := {}
      lastValue := none
      lastPublishedAt := none }
  if definition.kind = .accumulatedCount then
    let (observation, state) ← publish engine definition state (.accumulatedCount 0) now
    stored (PipelineStore.putState definition.id state now.uptimeMs)
    pure ⟨definition.id, state.seriesId, some observation⟩
  else
    stored (PipelineStore.putState definition.id state now.uptimeMs)
    pure ⟨definition.id, state.seriesId, none⟩

def create (definition : PipelineDefinition) (now : InputTime) :
    Tx PipelineDb EngineError SeriesStart := do
  Tx.ofExcept (definition.validate.mapError .validation)
  match ← stored (PipelineStore.getDefinition definition.id) with
  | some _ => Tx.fail (.alreadyExists definition.id.value)
  | none =>
    stored (PipelineStore.insertDefinition env.sha256 definition now.uptimeMs)
    startSeries env engine definition now

/-- A structural change starts a new series, a tuning change keeps it. -/
def update (definition : PipelineDefinition) (now : InputTime) :
    Tx PipelineDb EngineError (Option SeriesStart) := do
  Tx.ofExcept (definition.validate.mapError .validation)
  match ← stored (PipelineStore.getDefinition definition.id) with
  | none => Tx.fail (.notFound definition.id.value)
  | some existing =>
    if existing.kind ≠ definition.kind then Tx.fail .kindChanged
    else
      let _ ← stored (PipelineStore.updateDefinition env.sha256 definition now.uptimeMs)
      match ← stored (PipelineStore.getState definition.id) with
      | some state =>
        if state.structuralHash = definition.structuralHash env.sha256 then pure none
        else some <$> startSeries env engine definition now
      | none => some <$> startSeries env engine definition now

def delete (id : PipelineId) (now : InputTime) : Tx PipelineDb EngineError Unit := do
  match ← stored (PipelineStore.getDefinition id) with
  | none => Tx.fail (.notFound id.value)
  | some definition =>
    let _ ← stored (PipelineStore.deleteDefinition id)
    enqueueDeletion engine definition now

def reset (id : PipelineId) (now : InputTime) : Tx PipelineDb EngineError SeriesStart := do
  match ← stored (PipelineStore.getDefinition id) with
  | none => Tx.fail (.notFound id.value)
  | some definition => startSeries env engine definition now

def duplicateId : List PipelineDefinition → List PipelineId → Option PipelineId
  | [], _ => none
  | d :: ds, seen => if d.id ∈ seen then some d.id else duplicateId ds (d.id :: seen)

def validateAll : List PipelineDefinition → Except EngineError Unit
  | [] => .ok ()
  | d :: ds =>
    match d.validate with
    | .error e => .error (.validation e)
    | .ok () => validateAll ds

/-- Replaces every definition. A pipeline that disappears gets its retained value cleared; every
imported one starts a new series. -/
def importDefinitions (definitions : List PipelineDefinition) (now : InputTime) :
    Tx PipelineDb EngineError (List SeriesStart) := do
  Tx.ofExcept (validateAll definitions)
  match duplicateId definitions [] with
  | some id => Tx.fail (.validation ⟨"duplicate pipeline id " ++ id.value⟩)
  | none =>
    let existing ← stored PipelineStore.listDefinitions
    Tx.forEach (fun d : PipelineDefinition => do
      let _ ← stored (PipelineStore.deleteDefinition d.id)
      if d.id ∈ definitions.map PipelineDefinition.id then pure ()
      else enqueueDeletion engine d now) existing
    Tx.traverse (fun d : PipelineDefinition => do
      stored (PipelineStore.insertDefinition env.sha256 d now.uptimeMs)
      startSeries env engine d now) definitions

/-- At startup, a pipeline without a state, or with one started under another hash, starts a new
series. -/
def reconcile (now : InputTime) : Tx PipelineDb EngineError (List SeriesStart) := do
  stored (PipelineStore.putEdgeNodeId engine.edgeNodeId)
  let definitions ← stored PipelineStore.listDefinitions
  let started ← Tx.traverse (fun d : PipelineDefinition => do
    match ← stored (PipelineStore.getState d.id) with
    | some state =>
      if state.structuralHash = d.structuralHash env.sha256 then pure none
      else some <$> startSeries env engine d now
    | none => some <$> startSeries env engine d now) definitions
  pure (started.filterMap id)

def observedValue (kind : PipelineKind) (evaluation : Evaluation) : Option ObservationValue :=
  if !evaluation.emitted then none
  else match kind with
    | .measurement => evaluation.number.map .measurement
    | .state => evaluation.boolean.map .state
    | .accumulatedCount => evaluation.integer.map .accumulatedCount

/-- The state an input continues: the stored one, or a new series when it is lost or was started
under another hash. -/
def usableState (definition : PipelineDefinition) (receivedAt : InputTime) :
    Tx PipelineDb EngineError PipelineState := do
  let restart : Tx PipelineDb EngineError PipelineState := do
    let _ ← startSeries env engine definition receivedAt
    match ← stored (PipelineStore.getState definition.id) with
    | some state => pure state
    | none => Tx.fail (.notFound definition.id.value)
  match ← stored (PipelineStore.getState definition.id) with
  | some state =>
    if state.structuralHash = definition.structuralHash env.sha256 then pure state else restart
  | none => restart

def advance (definition : PipelineDefinition) (state : PipelineState) (input : F64)
    (receivedAt : InputTime) : Tx PipelineDb EngineError DeliveryOutcome := do
  let (evaluation, next) ← Tx.ofExcept
    ((evaluate definition state.evaluation input receivedAt.uptimeMs).mapError .evaluator)
  let state := { state with evaluation := next }
  match observedValue definition.kind evaluation with
  | none =>
    stored (PipelineStore.putState definition.id state receivedAt.uptimeMs)
    pure .silent
  | some value =>
    let (observation, state) ← publish engine definition state value receivedAt
    stored (PipelineStore.putState definition.id state receivedAt.uptimeMs)
    pure (.published observation)

def process (definition : PipelineDefinition) (input : F64) (receivedAt : InputTime) :
    Tx PipelineDb EngineError DeliveryOutcome := do
  let state ← usableState env engine definition receivedAt
  advance engine definition state input receivedAt

/-- One reading for one pipeline. An error of the database ends the delivery, any other one is
this pipeline's outcome. -/
def deliverTo (reading : AcceptedReading) (definition : PipelineDefinition) :
    Tx PipelineDb EngineError PipelineDelivery := do
  let outcome ← Tx.attempt (match reading.values[definition.input.valueIndex]? with
    | none => (Tx.fail (.missingValue definition.input.valueIndex) :
        Tx PipelineDb EngineError DeliveryOutcome)
    | some value => process env engine definition value reading.receivedAt)
  match outcome with
  | .error e => if e.isStorage then Tx.fail e else pure (definition.id, .error e)
  | .ok o => pure (definition.id, .ok o)

def deliver (reading : AcceptedReading) : Tx PipelineDb EngineError (List PipelineDelivery) := do
  let definitions ← stored (PipelineStore.definitionsForInput reading.adapter reading.subject
    reading.measurementKey reading.channelIndex)
  Tx.traverse (deliverTo env engine reading) definitions

end PipelineEngine

end EdgeNode
