import EdgeNode.Collector.Envelope
import EdgeNode.Lib.Machine
import EdgeNode.Output.Faults

/-!
# What the collector says about itself

The collector's task tells the record of device faults how its transactions end, from the answer it
gives. Beside that stand two histories: what every submission did to the database, and the inputs its
pipelines discarded in submissions that were committed.
-/

namespace EdgeNode

namespace Collector

variable {ρ : Type}

/-- The inputs a pipeline has discarded, as the Console shows it. -/
def discardedBy (discards : AList fun _ : PipelineId => FaultRecord) (id : PipelineId) : ℕ :=
  (discards.lookup id).elim 0 FaultRecord.discarded

structure InputTransaction (ρ : Type) where
  failed : Bool
  before : NodeDb ρ
  after : NodeDb ρ

structure Intake (ρ : Type) extends State ρ where
  faults : DeviceFaultSnapshot := {}
  transactions : List (InputTransaction ρ) := []
  committedDiscards : PipelineId → ℕ := fun _ => 0

/-- The clock reading is an `i64`. -/
def Circumstances.Readable (o : Circumstances) : Prop :=
  ∀ snapshot, o.clock = .ok snapshot → I64.inRange snapshot.receivedAtMs

def Components.withPipelines (c : Components ρ) (delivery : PipelineDelivery) : Components ρ :=
  { c with pipelines := some delivery }

def outcome (c : Components ρ) (s : State ρ) (o : Circumstances) (request : IngestRequest)
    (commit : Bool) : Except ProcessError EnvelopeAck :=
  (processEnvelopeMode c o.clock request commit ⟨s.toWork, o.faults, s.draws⟩).1

def failed : Except ProcessError EnvelopeAck → Bool
  | .error (.storage _) => true
  | _ => false

def accepted : Except ProcessError EnvelopeAck → Bool
  | .ok ⟨_, .accepted _⟩ => true
  | _ => false

/-- What the task tells the record of faults about a submission. -/
def noteOutcome (describe : StorageCause → String) (uptimeMs : ℤ) (faults : DeviceFaultSnapshot) :
    Except ProcessError EnvelopeAck → DeviceFaultSnapshot
  | .ok _ => faults.storageWriteSucceeded
  | .error (.storage cause) => faults.storageWriteFailed (describe cause) uptimeMs
  | .error .clockUntrusted | .error .authenticationStale => faults

namespace Intake

inductive Event (ρ : Type) where
  | submit (o : Circumstances) (request : IngestRequest) (reading : o.Readable)
  | validate (o : Circumstances) (request : IngestRequest) (reading : o.Readable)
  | clear (id : PipelineId)
  | elsewhere (change : NodeDb ρ → NodeDb ρ)

def discardedIn (c : Components ρ) (s : State ρ) (o : Circumstances) (request : IngestRequest)
    (commit : Bool) (id : PipelineId) : ℕ :=
  discardedBy (accept c { s with discards := ∅ } o request commit).2.discards id

variable (c : Components ρ) (delivery : PipelineDelivery) (describe : StorageCause → String)

def submitted (s : Intake ρ) (o : Circumstances) (request : IngestRequest) : Intake ρ :=
  let c := c.withPipelines delivery
  let ends := outcome c s.toState o request true
  let after := (accept c s.toState o request true).2
  { after with
    draws := after.draws + if failed ends then 1 else 0
    faults := noteOutcome describe (c.host.uptimeMs after.draws) s.faults ends
    transactions := s.transactions ++ [⟨failed ends, s.db, after.db⟩]
    committedDiscards := fun id => s.committedDiscards id
      + if accepted ends then discardedIn c s.toState o request true id else 0 }

def step (s : Intake ρ) : Event ρ → Option (Intake ρ)
  | .submit o request _ => some (s.submitted c delivery describe o request)
  | .validate o request _ =>
    some { s with toState := (accept (c.withPipelines delivery) s.toState o request false).2 }
  | .clear id => some { s with
      discards := s.discards.erase id
      committedDiscards := Function.update s.committedDiscards id 0 }
  | .elsewhere change => some { s with db := change s.db }

end Intake

end Collector

end EdgeNode
