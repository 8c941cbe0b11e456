import EdgeNode.Pipeline.Engine

/-!
# Runs of the engine

A run is a list of engine calls, each in a transaction of its own that the caller commits or rolls
back, and of rows the output adapter deletes once delivered. A call that fails in the database is
always rolled back; the identifiers it drew stay drawn.
-/

namespace EdgeNode

inductive EngineCall where
  | create (definition : PipelineDefinition) (now : InputTime)
  | update (definition : PipelineDefinition) (now : InputTime)
  | delete (id : PipelineId) (now : InputTime)
  | reset (id : PipelineId) (now : InputTime)
  | importDefinitions (definitions : List PipelineDefinition) (now : InputTime)
  | reconcile (now : InputTime)
  | deliver (reading : AcceptedReading)

namespace EngineCall

variable (env : Outside) (engine : PipelineEngine)

def perform : EngineCall → Tx PipelineDb EngineError Unit
  | create definition now => do let _ ← engine.create env definition now
  | update definition now => do let _ ← engine.update env definition now
  | delete id now => engine.delete id now
  | reset id now => do let _ ← engine.reset env id now
  | importDefinitions definitions now => do let _ ← engine.importDefinitions env definitions now
  | reconcile now => do let _ ← engine.reconcile env now
  | deliver reading => do let _ ← engine.deliver env reading

end EngineCall

inductive EngineStep where
  | call (call : EngineCall) (faults : List Bool) (commit : Bool)
  | delivered (outboxSeq : ℕ)

structure EngineRun where
  db : PipelineDb
  draws : ℕ

namespace EngineRun

variable (env : Outside) (engine : PipelineEngine)

def init : EngineRun where
  db := PipelineDb.empty
  draws := 0

def committable : Except EngineError Unit → Bool
  | .ok _ => true
  | .error e => !e.isStorage

def step (s : EngineRun) : EngineStep → EngineRun
  | .call call faults commit =>
    let (outcome, conn) := call.perform env engine { db := s.db, faults := faults, draws := s.draws }
    { db := if commit && committable outcome then conn.db else s.db
      draws := conn.draws }
  | .delivered outboxSeq => { s with db := { s.db with outbox := s.db.outbox.delete outboxSeq } }

def run (steps : List EngineStep) : EngineRun := steps.foldl (step env engine) init

/-- Every step of a run from `s` meets the condition `P` in the state it is taken in. -/
def Along (P : EngineRun → EngineStep → Prop) : EngineRun → List EngineStep → Prop
  | _, [] => True
  | s, a :: as => P s a ∧ Along P (step env engine s a) as

end EngineRun

/-- The non-empty rows of one series, each as its topic and payload, in outbox order. -/
def publishedRows (ever : List (ℕ × OutboxRow)) (seriesId : String) : List (String × Payload) :=
  ever.filterMap fun r => r.2.payload.bind fun p =>
    if p.seriesId = seriesId then some (r.2.topic, p) else none

/-- A retained row replaces the value of its topic, a zero-length one clears it. -/
def Broker.apply (retained : String → Option Payload) (r : ℕ × OutboxRow) :
    String → Option Payload :=
  if r.2.retain then Function.update retained r.2.topic r.2.payload else retained

/-- The values the Broker retains after applying all rows ever enqueued. -/
def retainedValues (ever : List (ℕ × OutboxRow)) : String → Option Payload :=
  ever.foldl Broker.apply fun _ => none

end EdgeNode
