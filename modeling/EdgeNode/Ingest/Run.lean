import EdgeNode.Ingest.Client
import EdgeNode.Lib.Machine

/-!
# Clients and the collector

Clients send to one collector, next to the rest of the node, which may change every table but the
claims. An answer reaches the client or is lost on the way. The log keeps every request processed,
with the database before and after.
-/

namespace EdgeNode

namespace Ingest

variable {ρ : Type}

def dedupTtlMs : ℤ := 72 * 60 * 60 * 1000

structure Transaction (ρ : Type) where
  request : IngestRequest
  clock : Except String FreshnessSnapshot
  answer : Except SubmitError EnvelopeAck
  before : NodeDb ρ
  after : NodeDb ρ

namespace Transaction

def committed (t : Transaction ρ) : Bool :=
  match t.answer with
  | .ok ⟨_, .accepted _⟩ => true
  | _ => false

def isFor (t : Transaction ρ) (request : IngestRequest) : Bool :=
  t.request.principal.principalId == request.principal.principalId
    && t.request.envelope == request.envelope

def claim (t : Transaction ρ) : Option DedupRow :=
  match t.committed, t.clock with
  | true, .ok snapshot => some ⟨t.request.principal.principalId, t.request.envelope.envelopeId,
      snapshot.receivedAtMs⟩
  | _, _ => none

end Transaction

/-- `nowMs` is what the receiver's clock showed last. -/
structure System (ρ : Type) where
  collector : Collector.State ρ
  clients : List Client
  log : List (Transaction ρ) := []
  nowMs : ℤ := 0

namespace System

def claims (s : System ρ) : DedupTable := s.log.filterMap Transaction.claim

def writes (s : System ρ) (request : IngestRequest) : List (Transaction ρ) :=
  s.log.filter fun t => t.isFor request && t.committed

end System

inductive Event (ρ : Type) where
  | trySubmit (client : ℕ) (submission : Submission)
  | receive (client : ℕ)
  | elapse (client : ℕ)
  | shutdown (client : ℕ)
  /-- The client sends its oldest envelope; `delivered` tells whether the answer arrives. -/
  | send (client : ℕ) (o : Collector.Circumstances) (delivered : Bool)
  | collectorClosed (client : ℕ)
  | outside (request : IngestRequest) (o : Collector.Circumstances)
  | purge (nowMs : ℤ) (faults : List Bool)
  | elsewhere (db : NodeDb ρ)

variable (c : Collector.Components ρ)

def process (s : System ρ) (request : IngestRequest) (o : Collector.Circumstances) : System ρ :=
  let r := Collector.submit c s.collector o request
  { s with
    collector := r.2
    log := s.log ++ [⟨request, o.clock, r.1, s.collector.db, r.2.db⟩]
    nowMs := match o.clock with
      | .ok snapshot => snapshot.receivedAtMs
      | .error _ => s.nowMs }

def onClient (s : System ρ) (i : ℕ) (f : Client → Option Client) : Option (System ρ) :=
  (s.clients[i]?.bind f).map fun client => { s with clients := s.clients.set i client }

def nextRequest (client : Client) : Option IngestRequest :=
  if client.ready then client.spool.head?.map SpoolEntry.request else none

def send (s : System ρ) (i : ℕ) (o : Collector.Circumstances) (delivered : Bool) :
    Option (System ρ) :=
  (s.clients[i]?.bind nextRequest).bind fun request =>
    let answer := (Collector.submit c s.collector o request).1
    onClient (process c s request o) i fun client =>
      some (client.answered (if delivered then answer else .error .noAck))

def purge (nowMs : ℤ) (faults : List Bool) (s : System ρ) : System ρ :=
  let rows := (Dedup.purgeDedupBefore (nowMs - dedupTtlMs)
    { db := s.collector.db.dedup, faults := faults }).2.db
  { s with collector.db.dedup := rows, nowMs := nowMs }

def step (s : System ρ) : Event ρ → Option (System ρ)
  | .trySubmit i submission => onClient s i fun client => (client.trySubmit submission).toOption
  | .receive i => onClient s i Client.receive
  | .elapse i => onClient s i Client.elapse
  | .shutdown i => onClient s i Client.shutdown
  | .send i o delivered => send c s i o delivered
  | .collectorClosed i => onClient s i fun client =>
      if client.ready then some (client.answered (.error .closed)) else none
  | .outside request o => some (process c s request o)
  | .purge nowMs faults => some (purge nowMs faults s)
  | .elsewhere db =>
    if db.dedup = s.collector.db.dedup then some { s with collector.db := db } else none

end Ingest

end EdgeNode
