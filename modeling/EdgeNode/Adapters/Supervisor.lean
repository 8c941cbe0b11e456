import EdgeNode.Lib.Machine
import EdgeNode.Output.Faults

/-!
# The supervisor of the Input Adapters

An adapter runs until its stream closes and is started again after a backoff, as long as its budget
lasts. The serial adapter opens its port in a thread of its own, and a task of the host mirrors what
the thread reports into the device faults once a second; the others open what they need in their
start.

`record` and `restarts` are history: what happened to the interfaces, and what was decided about
restarts.
-/

namespace EdgeNode

inductive IoErrorKind where
  | notFound
  | permissionDenied
  | resourceBusy
  | addrInUse
  | wouldBlock
  | other
  deriving DecidableEq, Repr

def InterfaceOpenReason.fromIoKind : IoErrorKind → InterfaceOpenReason
  | .notFound => .notFound
  | .permissionDenied => .permissionDenied
  | .resourceBusy | .addrInUse | .wouldBlock => .busy
  | .other => .ioError

structure AdapterStartError where
  ioKind : Option IoErrorKind
  message : String
  deriving DecidableEq, Repr

inductive AdapterType where
  | bravePiMainboard
  | rpiLocal
  | trialSample
  deriving DecidableEq, Repr

/-- What an adapter has reported of its interface. -/
inductive InterfaceState where
  | unreported
  | isOpen
  | openFailed (kind : IoErrorKind) (detail : String)
  deriving DecidableEq, Repr

/-- The reader thread of the serial adapter, with the attempts it has left to open its port. -/
inductive ReaderThread where
  | connecting (attemptsLeft : ℕ)
  | connected
  deriving DecidableEq, Repr

def maxRetries : ℕ := 10

/-- An adapter that is registered with the host; `mirrored` is what the host's task has last seen of
its activity. -/
structure RunningAdapter where
  adapterType : AdapterType
  reader : Option ReaderThread
  activity : InterfaceState := .unreported
  mirrored : InterfaceState := .unreported
  completed : Bool := false
  deriving DecidableEq, Repr

/-- The first attempt of a reader thread is made at once, the retries follow. -/
def RunningAdapter.started (adapterType : AdapterType) : RunningAdapter where
  adapterType := adapterType
  reader := match adapterType with
    | .bravePiMainboard => some (.connecting (maxRetries + 1))
    | .rpiLocal | .trialSample => none

/-- What happens to the interface of an adapter: the fault is raised, the hardware was opened. -/
inductive InterfaceEvent where
  | raised (adapter : String)
  | opened (adapter : String)
  deriving DecidableEq, Repr

/-- What the supervisor decides about restarts: a timer is scheduled, a notice of the running
generation counts as healthy, a generation ends. -/
inductive RestartEvent where
  | scheduled (id : String)
  | healthy (id : String)
  | ended (id : String) (generation : ℕ)
  deriving DecidableEq, Repr

inductive AdapterRuntimeStatus where
  | running
  | restarting
  | exhausted
  | stopped
  deriving DecidableEq, Repr

structure Supervisor where
  instances : AList fun _ : String => AdapterType
  unstarted : List String
  running : AList (fun _ : String => RunningAdapter) := ∅
  generationCounters : AList (fun _ : String => ℕ) := ∅
  activeGenerations : AList (fun _ : String => ℕ) := ∅
  restartCounts : AList (fun _ : String => ℕ) := ∅
  pendingRestarts : List String := []
  pendingRestartCount : ℕ := 0
  exhaustedAdapterCount : ℕ := 0
  health : AList (fun _ : String => AdapterRuntimeStatus) := ∅
  /-- The restart that succeeded and is not noted yet. -/
  noting : Option String := none
  faults : DeviceFaultSnapshot := {}
  draws : ℕ := 0
  record : List InterfaceEvent := []
  restarts : List RestartEvent := []

namespace Supervisor

def maxRestarts : ℕ := 5

def baseBackoffMs : ℕ := 1000

def maxBackoffMs : ℕ := 60000

variable (uptimeMs : ℕ → ℤ) (s : Supervisor) (id : String)

def nextDelay : Option ℕ :=
  let count := (s.restartCounts.lookup id).getD 0
  if maxRestarts ≤ count then none else some (min (baseBackoffMs * 2 ^ count) maxBackoffMs)

def noteAdapterStatus (status : AdapterRuntimeStatus) : Supervisor :=
  { s with health := s.health.insert id status }

def scheduleRestart : Supervisor :=
  match s.nextDelay id with
  | some _ => { s.noteAdapterStatus id .restarting with
      restartCounts := s.restartCounts.insert id ((s.restartCounts.lookup id).getD 0 + 1)
      pendingRestarts := s.pendingRestarts ++ [id]
      pendingRestartCount := s.pendingRestartCount + 1
      restarts := s.restarts ++ [.scheduled id] }
  | none => { s.noteAdapterStatus id .exhausted with
      exhaustedAdapterCount := s.exhaustedAdapterCount + 1 }

/-- Raises the fault of an adapter, or says once more why. -/
def raise (reason : InterfaceOpenReason) (detail : String) : Supervisor :=
  { s with
    faults := s.faults.interfaceOpenFailed id reason (some detail) (uptimeMs s.draws)
    draws := s.draws + 1
    record := s.record ++ [.raised id] }

def noteInterfaceOpenFailed (error : AdapterStartError) : Supervisor :=
  s.raise uptimeMs id ((error.ioKind.map InterfaceOpenReason.fromIoKind).getD .ioError) error.message

/-- Starts an adapter with the outcome its own start has. The start of the local adapter opens its
bus, and nothing else does. -/
def startInputAdapter (adapterType : AdapterType) (outcome : Option AdapterStartError) :
    Except AdapterStartError Supervisor :=
  if id ∈ s.running then .error ⟨none, s!"duplicate adapter instance ID: {id}"⟩
  else match outcome with
    | some error => .error error
    | none => .ok { s with
        running := s.running.insert id (.started adapterType)
        record := s.record ++ if adapterType = .rpiLocal then [.opened id] else [] }

def startFailed (error : AdapterStartError) : Supervisor :=
  (s.noteInterfaceOpenFailed uptimeMs id error).scheduleRestart id

def startFirst (adapterType : AdapterType) (outcome : Option AdapterStartError) : Supervisor :=
  match s.startInputAdapter id adapterType outcome with
  | .ok s => { s.noteAdapterStatus id .running with
      activeGenerations := s.activeGenerations.insert id 1
      generationCounters := s.generationCounters.insert id 1 }
  | .error error => s.startFailed uptimeMs id error

def restart (adapterType : AdapterType) (outcome : Option AdapterStartError) : Supervisor :=
  let generation := (s.generationCounters.lookup id).elim 1 (· + 1)
  let s := { s with generationCounters := s.generationCounters.insert id generation }
  match s.startInputAdapter id adapterType outcome with
  | .ok s => { s.noteAdapterStatus id .running with
      activeGenerations := s.activeGenerations.insert id generation
      noting := some id }
  | .error error => s.startFailed uptimeMs id error

def mirror (r : RunningAdapter) : Supervisor :=
  if r.activity = r.mirrored then s
  else
    let s := { s with running := s.running.insert id { r with mirrored := r.activity } }
    match r.activity with
    | .openFailed kind detail => s.raise uptimeMs id (.fromIoKind kind) detail
    | .isOpen => { s with faults := s.faults.interfaceOpened id }
    | .unreported => s

def active : Option RunningAdapter := (s.running.lookup id).filter fun r => !r.completed

def report (r : RunningAdapter) (reader : ReaderThread) (activity : InterfaceState) : Supervisor :=
  { s with running := s.running.insert id { r with reader := some reader, activity := activity } }

def portOpened (r : RunningAdapter) : Option Supervisor :=
  match r.reader with
  | some (.connecting (_ + 1)) =>
    some { s.report id r .connected .isOpen with record := s.record ++ [.opened id] }
  | _ => none

def portOpenFailed (kind : IoErrorKind) (detail : String) (r : RunningAdapter) :
    Option Supervisor :=
  match r.reader with
  | some (.connecting (left + 1)) =>
    some (s.report id r (.connecting left) (.openFailed kind detail))
  | _ => none

/-- A read or a write failed; the thread goes back to opening the port. -/
def portLost (r : RunningAdapter) : Option Supervisor :=
  match r.reader with
  | some .connected => some (s.report id r (.connecting maxRetries) r.activity)
  | _ => none

/-- The stream of an adapter has closed, its generation is over. -/
def streamClosed : Supervisor :=
  { s.noteAdapterStatus id .stopped with
    running := s.running.erase id
    activeGenerations := s.activeGenerations.erase id
    restarts := s.restarts
      ++ ((s.activeGenerations.lookup id).map (RestartEvent.ended id)).toList }

def timerFired : Supervisor :=
  { s with
    pendingRestarts := s.pendingRestarts.erase id
    pendingRestartCount := s.pendingRestartCount - 1 }

def noteHealthy : Supervisor :=
  { s.noteAdapterStatus id .running with
    restartCounts := s.restartCounts.erase id
    restarts := s.restarts ++ [.healthy id] }

inductive Event where
  | start (id : String) (outcome : Option AdapterStartError)
  | portOpened (id : String)
  | portOpenFailed (id : String) (kind : IoErrorKind) (detail : String)
  | portLost (id : String)
  /-- The adapter completes, and with it its task of the host. -/
  | exits (id : String)
  | poll (id : String)
  | healthy (id : String) (generation : ℕ)
  | closed (id : String)
  | restart (id : String) (outcome : Option AdapterStartError)
  | restarted (id : String)

def step (s : Supervisor) : Event → Option Supervisor
  | .start id outcome =>
    if id ∈ s.unstarted then
      (s.instances.lookup id).map fun adapterType =>
        { s with unstarted := s.unstarted.erase id }.startFirst uptimeMs id adapterType outcome
    else none
  | .portOpened id => (s.active id).bind (s.portOpened id)
  | .portOpenFailed id kind detail => (s.active id).bind (s.portOpenFailed id kind detail)
  | .portLost id => (s.active id).bind (s.portLost id)
  | .exits id => (s.active id).map fun r =>
      { s with running := s.running.insert id { r with completed := true } }
  | .poll id => (s.active id).map fun r => s.mirror uptimeMs id r
  | .healthy id generation =>
    if s.noting.isSome then none
    else if s.activeGenerations.lookup id = some generation then
      some (s.noteHealthy id)
    else some s
  | .closed id =>
    if s.noting.isSome then none
    else ((s.running.lookup id).filter RunningAdapter.completed).map fun _ =>
      (s.streamClosed id).scheduleRestart id
  | .restart id outcome =>
    if s.noting.isSome ∨ id ∉ s.pendingRestarts then none
    else
      let s := s.timerFired id
      some (match s.instances.lookup id with
        | some adapterType => s.restart uptimeMs id adapterType outcome
        | none => s)
  | .restarted id =>
    if s.noting = some id then
      some { s with faults := s.faults.interfaceOpened id, noting := none }
    else none

def booted (instances : AList fun _ : String => AdapterType) : Supervisor where
  instances := instances
  unstarted := instances.keys

end Supervisor

end EdgeNode
