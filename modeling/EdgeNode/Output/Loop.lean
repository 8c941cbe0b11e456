import EdgeNode.Lib.Machine
import EdgeNode.Output.Session

/-!
# The loop of the MQTT Output Adapter

One task waits in `select!` and then runs the arm it took to its end; only between arms does it poll
the event loop of the client. Handing a publication over waits while the queue of requests is full:
the piece then has no successor.

The client writes requests in the order they were queued, under packet identifiers distinct among the
unacknowledged ones, up to a limit of unacknowledged packets, and drops them all when a clean session
connects. The Broker receives the packets written in a connection in order. `acked` is a history
variable: the packets acknowledged in this connection.
-/

namespace EdgeNode

/-- `AsyncClient::new(options, 16)`. -/
def requestCapacity : ℕ := 16

/-- The client takes no further publication while so many are unacknowledged. -/
def inflightLimit : ℕ := 100

inductive Request where
  | publish (packet : Packet)
  | disconnect

def Request.packet : Request → Option Packet
  | .publish packet => some packet
  | .disconnect => none

/-- The client: its queue of requests, and the packets written and not acknowledged. -/
structure Client where
  connected : Bool := false
  requests : List Request := []
  unacked : List (ℕ × Packet) := []

inductive Task where
  | publishStatus (value : StatusValue)
  | publishNextOutboxRow
  | handOver (packet : Packet)
  | deleteRow (outboxSeq : ℕ)
  | reconnectDelay
  | checkOfflineAcked
  | disconnect

/-- Where the task is: in the loop, waiting for the PUBACK of `offline`, waiting for its
`DISCONNECT` to be written, or done. -/
inductive Phase where
  | running
  | offline
  | disconnecting (acked : Bool)
  | stopped
  deriving DecidableEq, Repr

structure OutputState where
  session : Session := {}
  phase : Phase := .running
  todo : List Task := []
  client : Client := {}
  faults : DeviceFaultSnapshot := {}
  db : PipelineDb := PipelineDb.empty
  wire : List Packet := []
  received : List Packet := []
  acked : List Packet := []

inductive OutputEvent where
  -- outside the adapter
  | enqueued (row : OutboxRow)
  | faultsChanged (snapshot : DeviceFaultSnapshot)
  | received
  | restarted
  -- what `event_loop.poll()` returns
  | connAck
  | packetWritten (pkid : ℕ)
  | pubAck (pkid : ℕ)
  | disconnectWritten
  | otherPolled
  | pollFailed
  -- the other arms of `select!`, and the timeouts of the shutdown
  | committed
  | idleProbe
  | heartbeat
  | faultNotified
  | shutdown
  | timedOut
  -- the next piece of the arm being run, at a time, with the call it makes failing or not
  | work (failed : Bool) (now : InputTime)

namespace OutputState

variable (edgeNodeId : EdgeNodeId) (s : OutputState)

/-- The process starts again: only the database, the Broker and what is on its way remain. -/
def restart : OutputState :=
  { db := s.db, wire := s.wire, received := s.received }

/-- `note_puback`: the pieces that follow the acknowledgement of a packet. -/
def notePuback (pkid : ℕ) : OutputState :=
  match takePkid pkid s.session.pending with
  | none => s
  | some (.status, pending) => { s with session := { s.session with pending := pending } }
  | some (.outbox outboxSeq, pending) =>
    { s with
      session := { s.session with pending := pending }
      todo := [.deleteRow outboxSeq, .publishNextOutboxRow] }

def perform (failed : Bool) (now : InputTime) (rest : List Task) : Task → Option OutputState
  | .publishStatus value =>
    let packet := statusPacket edgeNodeId (Status.build s.faults value now)
    some { s with todo := .handOver packet :: rest }
  | .publishNextOutboxRow =>
    if s.session.inflight.isSome then some { s with todo := rest }
    else match (Outbox.oldest { db := s.db, faults := [failed] }).1 with
      | .ok (some (outboxSeq, row)) =>
        some { s with
          session := { s.session with inflight := some outboxSeq }
          todo := .handOver (rowPacket outboxSeq row) :: rest }
      | _ => some { s with todo := rest }
  | .handOver packet =>
    if requestCapacity ≤ s.client.requests.length then none
    else if failed then
      some { s with session := s.session.publishFailed packet.publication, todo := rest }
    else
      some { s with
        session := s.session.handedOver packet.publication
        client := { s.client with requests := s.client.requests ++ [.publish packet] }
        todo := rest }
  | .deleteRow outboxSeq =>
    some { s with
      session := s.session.rowDone outboxSeq
      db := (Outbox.delete outboxSeq { db := s.db, faults := [failed] }).2.db
      todo := rest }
  | .reconnectDelay => some { s with todo := rest }
  | .checkOfflineAcked =>
    if s.session.pending.all fun p => p.publication != .status then
      some { s with phase := .disconnecting true, todo := [.disconnect] }
    else some { s with todo := rest }
  | .disconnect =>
    if requestCapacity ≤ s.client.requests.length then none
    else if failed then some { s with phase := .stopped, todo := [] }
    else
      some { s with
        client := { s.client with requests := s.client.requests ++ [.disconnect] }
        todo := rest }

/-- The connection is established: status first, then the outbox. -/
def connAck : OutputState :=
  { s with
    session := { connected := true }
    client := { connected := true }
    wire := []
    acked := []
    todo := [.publishStatus .online, .publishNextOutboxRow] }

def packetWritten (pkid : ℕ) : Option OutputState :=
  match s.client.requests with
  | .publish packet :: requests =>
    if s.client.connected ∧ s.client.unacked.length < inflightLimit
        ∧ pkid ∉ s.client.unacked.map Prod.fst then
      some { s with
        client := { s.client with
          requests := requests
          unacked := s.client.unacked ++ [(pkid, packet)] }
        wire := s.wire ++ [packet]
        session := match s.phase with
          | .running | .offline => s.session.notePacketWritten pkid
          | _ => s.session }
    else none
  | _ => none

def acknowledged (pkid : ℕ) (packet : Packet) : OutputState :=
  { s with
    client := { s.client with unacked := s.client.unacked.filter fun p => p.1 != pkid }
    acked := s.acked ++ [packet] }

def pubAck (pkid : ℕ) : Option OutputState :=
  match s.client.unacked.find? fun p => p.1 == pkid with
  | none => none
  | some (_, packet) =>
    if s.client.connected then
      let s' := s.acknowledged pkid packet
      match s.phase with
      | .running => some (s'.notePuback pkid)
      | .offline =>
        let s'' := s'.notePuback pkid
        some { s'' with todo := s''.todo ++ [.checkOfflineAcked] }
      | _ => some s'
    else none

def pollFailed : OutputState :=
  let s' := { s with client := { s.client with connected := false } }
  match s.phase with
  | .running => { s' with session := {}, todo := [.reconnectDelay] }
  | .offline => { s' with phase := .disconnecting false, todo := [.disconnect] }
  | _ => { s' with phase := .stopped }

/-- The shutdown request: nothing more to do unless connected. -/
def shutdown : OutputState :=
  if s.session.connected then
    { s with
      phase := .offline
      session := { s.session with pending := [] }
      todo := [.publishStatus .offline] }
  else { s with phase := .stopped }

/-- An event of the waiting task, which has no piece of an arm left to do. -/
def wait : OutputEvent → Option OutputState
  | .connAck =>
    if s.client.connected then none
    else match s.phase with
      | .running => some s.connAck
      -- past the loop the client still reconnects, and nobody looks at it
      | .disconnecting _ => some { s with client := { connected := true }, wire := [], acked := [] }
      | _ => none
  | .packetWritten pkid => if s.phase = .stopped then none else s.packetWritten pkid
  | .pubAck pkid => if s.phase = .stopped then none else s.pubAck pkid
  | .disconnectWritten =>
    match s.phase, s.client.requests with
    | .disconnecting _, .disconnect :: requests =>
      some { s with phase := .stopped, client := { s.client with requests := requests } }
    | _, _ => none
  | .otherPolled => if s.phase = .stopped then none else some s
  | .pollFailed => if s.phase = .stopped then none else some s.pollFailed
  | .committed | .idleProbe =>
    if s.phase = .running ∧ s.session.connected ∧ s.session.inflight.isNone then
      some { s with todo := [.publishNextOutboxRow] }
    else none
  | .heartbeat | .faultNotified =>
    if s.phase = .running ∧ s.session.connected then
      some { s with todo := [.publishStatus .online] }
    else none
  | .shutdown => if s.phase = .running then some s.shutdown else none
  | .timedOut =>
    match s.phase with
    | .offline => some { s with phase := .disconnecting false, todo := [.disconnect] }
    | .disconnecting _ => some { s with phase := .stopped }
    | _ => none
  | _ => none

def step : OutputEvent → Option OutputState
  | .enqueued row =>
    (s.db.outbox.insert row).map fun outbox => { s with db := { s.db with outbox := outbox } }
  | .faultsChanged snapshot => some { s with faults := snapshot }
  | .received =>
    match s.wire with
    | [] => none
    | packet :: wire => some { s with wire := wire, received := s.received ++ [packet] }
  | .restarted => some s.restart
  | .work failed now =>
    match s.todo with
    | [] => none
    | task :: rest => s.perform edgeNodeId failed now rest task
  | event => if s.todo.isEmpty then s.wait event else none

end OutputState

def outputRun (edgeNodeId : EdgeNodeId) (events : List OutputEvent) : Option OutputState :=
  Machine.run (OutputState.step edgeNodeId) {} events

end EdgeNode
