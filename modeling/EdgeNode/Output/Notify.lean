import EdgeNode.Output.Faults
import EdgeNode.Output.Loop

/-!
# Changes of the device faults and the loop that publishes them

Any thread may change the faults. The listener stores a permit in a `Notify`, at most one, and the
loop takes it when it waits while connected.

The client refuses a publication only when its event loop is gone, which the task itself holds, so no
hand-over fails here. `handed` is a history variable: the last status handed to the client since the
connection was acknowledged.
-/

namespace EdgeNode

/-- What a thread does to the record of device faults. -/
inductive FaultChange where
  | storageWriteFailed (error : String) (uptimeMs : ℤ)
  | storageWriteSucceeded
  | interfaceOpenFailed (adapter : String) (reason : InterfaceOpenReason) (detail : Option String)
      (uptimeMs : ℤ)
  | interfaceOpened (adapter : String)

namespace FaultChange

def apply (s : DeviceFaultSnapshot) : FaultChange → DeviceFaultSnapshot
  | storageWriteFailed error uptimeMs => s.storageWriteFailed error uptimeMs
  | storageWriteSucceeded => s.storageWriteSucceeded
  | interfaceOpenFailed adapter reason detail uptimeMs =>
    s.interfaceOpenFailed adapter reason detail uptimeMs
  | interfaceOpened adapter => s.interfaceOpened adapter

def notifies (s : DeviceFaultSnapshot) : FaultChange → Bool
  | storageWriteFailed _ _ => s.storage.isNone
  | storageWriteSucceeded => s.storage.isSome
  | interfaceOpenFailed adapter reason detail _ =>
    match s.interfaces.find? fun f => f.1 == adapter with
    | some f => !(f.2.reason == reason && f.2.detail == detail.map truncateDetail)
    | none => true
  | interfaceOpened adapter => s.interfaces.any fun f => f.1 == adapter

end FaultChange

/-- The loop of the adapter with the listener it has registered: `calling` threads hold the listener
and have not called it yet. -/
structure FaultWatch where
  output : OutputState := {}
  listening : Bool := false
  calling : ℕ := 0
  permit : Bool := false
  handed : Option Status := none

inductive WatchEvent where
  /-- The task registers the listener, before it enters its loop. -/
  | listens
  | changed (change : FaultChange)
  | notified
  | output (event : OutputEvent)

/-- What happens without the adapter's task. -/
def OutputEvent.outside : OutputEvent → Bool
  | .enqueued _ | .received | .restarted => true
  | _ => false

def Task.status : Task → Option Status
  | .handOver packet =>
    match packet.body with
    | .status status => some status
    | .observation _ => none
  | _ => none

namespace FaultWatch

variable (edgeNodeId : EdgeNodeId) (s : FaultWatch)

def stepOutput : OutputEvent → Option FaultWatch
  -- the record changes as its threads change it, see `changed`
  | .faultsChanged _ => none
  | .restarted => (s.output.step edgeNodeId .restarted).map fun output => { output := output }
  | .connAck => (s.output.step edgeNodeId .connAck).map fun output =>
      { s with output := output, handed := none }
  | .faultNotified =>
    if s.permit then
      (s.output.step edgeNodeId .faultNotified).map fun output =>
        { s with output := output, permit := false }
    else none
  | .work failed now =>
    match s.output.todo with
    | .handOver packet :: _ =>
      if failed then none
      else (s.output.step edgeNodeId (.work false now)).map fun output =>
        { s with output := output, handed := (Task.handOver packet).status <|> s.handed }
    | _ => (s.output.step edgeNodeId (.work failed now)).map fun output => { s with output := output }
  | event => (s.output.step edgeNodeId event).map fun output => { s with output := output }

def step : WatchEvent → Option FaultWatch
  | .listens => if s.listening then none else some { s with listening := true }
  | .changed change => some { s with
      output := { s.output with faults := change.apply s.output.faults }
      calling := if s.listening && change.notifies s.output.faults then s.calling + 1 else s.calling }
  | .notified =>
    if s.calling = 0 then none else some { s with calling := s.calling - 1, permit := true }
  | .output event => if s.listening || event.outside then s.stepOutput edgeNodeId event else none

/-- Connected, waiting in the loop, and nothing is left to notice: only timers can fire. -/
def Quiescent : Prop :=
  s.output.phase = .running ∧ s.output.session.connected = true ∧ s.output.todo = []
    ∧ s.permit = false ∧ s.calling = 0

end FaultWatch

end EdgeNode
