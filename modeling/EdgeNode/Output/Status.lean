import EdgeNode.Pipeline.Wire

/-!
# The status message

What the MQTT Output Adapter says about the node itself: its status value and the device faults
present, read from the fault record at the moment the message is built.
-/

namespace EdgeNode

def statusTopic (edgeNodeId : EdgeNodeId) : String :=
  "iotkit/v1/edge-node/" ++ edgeNodeId.value ++ "/status"

inductive StatusValue where
  | online
  | degraded
  | offline
  deriving DecidableEq, Repr

inductive InterfaceOpenReason where
  | notFound
  | permissionDenied
  | busy
  | ioError
  deriving DecidableEq, Repr

inductive FaultKind where
  | storageWriteFailed (count : ℕ)
  | interfaceOpenFailed (adapter : String) (reason : InterfaceOpenReason)
  deriving DecidableEq, Repr

structure Fault where
  kind : FaultKind
  since : InputTime
  detail : Option String
  deriving DecidableEq, Repr

structure StorageWriteFault where
  sinceUptimeMs : ℤ
  count : ℕ
  lastError : String
  deriving DecidableEq, Repr

structure InterfaceOpenFault where
  sinceUptimeMs : ℤ
  reason : InterfaceOpenReason
  detail : Option String
  deriving DecidableEq, Repr

/-- The faults present, the interfaces in the order of their adapter names. -/
structure DeviceFaultSnapshot where
  storage : Option StorageWriteFault := none
  interfaces : List (String × InterfaceOpenFault) := []
  deriving DecidableEq, Repr

namespace DeviceFaultSnapshot

/-- `degraded` is exactly "new input is being discarded". -/
def degraded (s : DeviceFaultSnapshot) : Bool := s.storage.isSome

/-- Both clocks at the start of a fault: within one boot they keep their distance. -/
def since (now : InputTime) (sinceUptimeMs : ℤ) : InputTime where
  uptimeMs := sinceUptimeMs
  unixEpochMs := now.unixEpochMs.map fun wall => wall - (now.uptimeMs - sinceUptimeMs)

def faults (s : DeviceFaultSnapshot) (now : InputTime) : List Fault :=
  (s.storage.map fun f =>
    ⟨.storageWriteFailed f.count, since now f.sinceUptimeMs, some f.lastError⟩).toList
  ++ s.interfaces.map fun f =>
    ⟨.interfaceOpenFailed f.1 f.2.reason, since now f.2.sinceUptimeMs, f.2.detail⟩

end DeviceFaultSnapshot

structure Status where
  now : InputTime
  value : StatusValue
  faults : List Fault
  deriving DecidableEq, Repr

/-- The status `publish_status` builds: the record decides between `online` and `degraded`. -/
def Status.build (snapshot : DeviceFaultSnapshot) (value : StatusValue) (now : InputTime) :
    Status where
  now := now
  value := match value with
    | .offline => .offline
    | _ => if snapshot.degraded then .degraded else .online
  faults := snapshot.faults now

end EdgeNode
