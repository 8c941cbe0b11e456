import EdgeNode.Output.Status
import EdgeNode.Pipeline.Store

/-!
# The session of the MQTT Output Adapter

The publications handed to the MQTT client, and the record the adapter keeps of them. The client
assigns a packet identifier when it writes a packet and reports it; the adapter gives it to the first
publication of its record that has none.
-/

namespace EdgeNode

inductive Publication where
  | status
  | outbox (outboxSeq : ℕ)
  deriving DecidableEq, Repr

/-- What a publication says: a status, or the payload of a row. -/
inductive Body where
  | status (status : Status)
  | observation (payload : Option Payload)

structure Packet where
  publication : Publication
  topic : String
  retain : Bool
  body : Body

def statusPacket (edgeNodeId : EdgeNodeId) (status : Status) : Packet where
  publication := .status
  topic := statusTopic edgeNodeId
  retain := true
  body := .status status

def rowPacket (outboxSeq : ℕ) (row : OutboxRow) : Packet where
  publication := .outbox outboxSeq
  topic := row.topic
  retain := row.retain
  body := .observation row.payload

def Packet.row (p : Packet) : Option ℕ :=
  match p.publication with
  | .status => none
  | .outbox outboxSeq => some outboxSeq

/-- A publication handed over whose PUBACK has not arrived. -/
structure Pending where
  publication : Publication
  pkid : Option ℕ
  deriving DecidableEq, Repr

structure Session where
  connected : Bool := false
  pending : List Pending := []
  inflight : Option ℕ := none
  deriving DecidableEq, Repr

def assignPkid (pkid : ℕ) : List Pending → List Pending
  | [] => []
  | p :: ps => if p.pkid.isNone then { p with pkid := some pkid } :: ps else p :: assignPkid pkid ps

def takePkid (pkid : ℕ) : List Pending → Option (Publication × List Pending)
  | [] => none
  | p :: ps =>
    if p.pkid = some pkid then some (p.publication, ps)
    else (takePkid pkid ps).map fun r => (r.1, p :: r.2)

namespace Session

def notePacketWritten (s : Session) (pkid : ℕ) : Session :=
  { s with pending := assignPkid pkid s.pending }

def publishFailed (s : Session) : Publication → Session
  | .status => s
  | .outbox _ => { s with inflight := none }

def handedOver (s : Session) (publication : Publication) : Session :=
  { s with pending := s.pending ++ [⟨publication, none⟩] }

/-- The row was acknowledged, and deleted unless the database failed. -/
def rowDone (s : Session) (outboxSeq : ℕ) : Session :=
  if s.inflight = some outboxSeq then { s with inflight := none } else s

end Session

end EdgeNode
