import EdgeNode.Lib.Tx
import EdgeNode.Lib.Table
import EdgeNode.Pipeline.Evaluator
import EdgeNode.Pipeline.Wire

/-!
# Stored definitions, evaluation states and the outbox

The tables of the pipeline core. The definition column holds the definition itself: writing it as
JSON and reading it back is taken to give the same definition. The input columns are the
denormalized copy that readings are routed by.
-/

namespace EdgeNode

structure DefinitionRow where
  definition : PipelineDefinition
  structuralHash : String
  inputAdapter : String
  inputSubject : Option String
  inputMeasurementKey : String
  inputChannelIndex : Option ℕ
  createdAt : ℤ
  updatedAt : ℤ

/-- The routing condition on the input columns; `IS` compares `NULL` as a value. -/
def DefinitionRow.routes (row : DefinitionRow) (adapter : String) (subject : Option String)
    (measurementKey : String) (channelIndex : Option ℕ) : Bool :=
  row.inputAdapter == adapter && row.inputMeasurementKey == measurementKey
    && row.inputChannelIndex == channelIndex
    && (row.inputSubject.isNone || row.inputSubject == subject)

/-- The columns of `pipeline_state`; the sequence is a signed 64-bit column. -/
structure StateRow where
  structuralHash : String
  seriesId : String
  nextSequence : ℤ
  evaluation : EvaluationState
  lastValueJson : Option Json
  lastUptimeMs : Option ℤ
  lastUnixEpochMs : Option ℤ
  updatedAt : ℤ

structure OutboxRow where
  pipelineId : PipelineId
  topic : String
  payload : Option Payload
  retain : Bool
  createdAt : InputTime

structure PipelineDb where
  definitions : AList fun _ : PipelineId => DefinitionRow
  states : AList fun _ : PipelineId => StateRow
  outbox : AutoTable OutboxRow
  edgeNodeId : Option EdgeNodeId

def PipelineDb.empty : PipelineDb where
  definitions := ∅
  states := ∅
  outbox := AutoTable.empty
  edgeNodeId := none

inductive StoreError where
  | sqlite
  deriving DecidableEq, Repr

structure PipelineState where
  structuralHash : String
  seriesId : String
  nextSequence : ℕ
  evaluation : EvaluationState
  lastValue : Option ObservationValue
  lastPublishedAt : Option InputTime

/-- `u64 as i64`. -/
def toI64 (n : ℕ) : ℤ := if n % 2 ^ 64 < 2 ^ 63 then (n % 2 ^ 64 : ℕ) else (n % 2 ^ 64 : ℕ) - 2 ^ 64

/-- `i64 as u64`. -/
def toU64 (i : ℤ) : ℕ := (i % 2 ^ 64).toNat

namespace PipelineStore

variable (sha256 : String → String)

def definitionRow (definition : PipelineDefinition) (createdAt updatedAt : ℤ) : DefinitionRow where
  definition := definition
  structuralHash := definition.structuralHash sha256
  inputAdapter := definition.input.adapter
  inputSubject := definition.input.subject
  inputMeasurementKey := definition.input.measurementKey
  inputChannelIndex := definition.input.channelIndex
  createdAt := createdAt
  updatedAt := updatedAt

/-- Refused by the primary key when the definition exists. -/
def insertDefinition (definition : PipelineDefinition) (now : ℤ) : Tx PipelineDb StoreError Unit :=
  Tx.stmt .sqlite fun db =>
    if definition.id ∈ db.definitions then .error .sqlite
    else
      .ok ((), { db with
        definitions := db.definitions.insert definition.id (definitionRow sha256 definition now now) })

/-- Keeps the creation time; the result says whether a row was there. -/
def updateDefinition (definition : PipelineDefinition) (now : ℤ) : Tx PipelineDb StoreError Bool :=
  Tx.stmt .sqlite fun db =>
    match db.definitions.lookup definition.id with
    | none => .ok (false, db)
    | some row =>
      .ok (true, { db with
        definitions := db.definitions.insert definition.id
          (definitionRow sha256 definition row.createdAt now) })

/-- The state goes with the definition, through the foreign key. -/
def deleteDefinition (id : PipelineId) : Tx PipelineDb StoreError Bool :=
  Tx.stmt .sqlite fun db =>
    .ok (id ∈ db.definitions, { db with
      definitions := db.definitions.erase id
      states := db.states.erase id })

def getDefinition (id : PipelineId) : Tx PipelineDb StoreError (Option PipelineDefinition) :=
  Tx.query .sqlite fun db => (db.definitions.lookup id).map DefinitionRow.definition

def rowsById (db : PipelineDb) : List (PipelineId × DefinitionRow) :=
  (db.definitions.entries.map fun r => (r.1, r.2)).insertionSort fun a b => a.1.value ≤ b.1.value

def listDefinitions : Tx PipelineDb StoreError (List PipelineDefinition) :=
  Tx.query .sqlite fun db => (rowsById db).map fun r => r.2.definition

def definitionsForInput (adapter : String) (subject : Option String) (measurementKey : String)
    (channelIndex : Option ℕ) : Tx PipelineDb StoreError (List PipelineDefinition) :=
  Tx.query .sqlite fun db =>
    ((rowsById db).filter fun r => r.2.routes adapter subject measurementKey channelIndex).map
      fun r => r.2.definition

/-- A stored number reads back as a measurement, whatever kind wrote it. -/
def decodeValue : Json → Option ObservationValue
  | .bool b => some (.state b)
  | .int i => some (.measurement (F64.ofInt i))
  | .float x => some (.measurement x)
  | _ => none

def stateOfRow (row : StateRow) : PipelineState where
  structuralHash := row.structuralHash
  seriesId := row.seriesId
  nextSequence := toU64 row.nextSequence
  evaluation := row.evaluation
  lastValue := row.lastValueJson.bind decodeValue
  lastPublishedAt := row.lastUptimeMs.map fun uptimeMs => ⟨uptimeMs, row.lastUnixEpochMs⟩

def rowOfState (state : PipelineState) (now : ℤ) : StateRow where
  structuralHash := state.structuralHash
  seriesId := state.seriesId
  nextSequence := toI64 state.nextSequence
  evaluation := state.evaluation
  lastValueJson := state.lastValue.map ObservationValue.toJson
  lastUptimeMs := state.lastPublishedAt.map InputTime.uptimeMs
  lastUnixEpochMs := state.lastPublishedAt.bind InputTime.unixEpochMs
  updatedAt := now

def getState (id : PipelineId) : Tx PipelineDb StoreError (Option PipelineState) :=
  Tx.query .sqlite fun db => (db.states.lookup id).map stateOfRow

/-- Refused by the foreign key when the definition is not there. -/
def putState (id : PipelineId) (state : PipelineState) (now : ℤ) : Tx PipelineDb StoreError Unit :=
  Tx.stmt .sqlite fun db =>
    if id ∈ db.definitions then
      .ok ((), { db with states := db.states.insert id (rowOfState state now) })
    else .error .sqlite

def putEdgeNodeId (edgeNodeId : EdgeNodeId) : Tx PipelineDb StoreError Unit :=
  Tx.exec .sqlite fun db => { db with edgeNodeId := some edgeNodeId }

end PipelineStore

namespace Outbox

/-- Appends a publication; refused when the sequence numbers are used up. -/
def enqueue (pipelineId : PipelineId) (topic : String) (payload : Option Payload) (retain : Bool)
    (time : InputTime) : Tx PipelineDb StoreError ℕ :=
  Tx.stmt .sqlite fun db =>
    match db.outbox.insert ⟨pipelineId, topic, payload, retain, time⟩ with
    | some outbox => .ok (outbox.lastId, { db with outbox := outbox })
    | none => .error .sqlite

def oldest : Tx PipelineDb StoreError (Option (ℕ × OutboxRow)) :=
  Tx.query .sqlite fun db => db.outbox.rows.head?

def delete (outboxSeq : ℕ) : Tx PipelineDb StoreError Bool :=
  Tx.stmt .sqlite fun db =>
    .ok (db.outbox.rows.any fun r => r.1 == outboxSeq,
      { db with outbox := db.outbox.delete outboxSeq })

end Outbox

end EdgeNode
