import EdgeNode.Collector.Envelope

/-!
# The client of an adapter

The client's task moves the envelopes of its queue to its spool and sends the oldest one, unchanged
and with a growing delay, until it has a final answer. A full spool drops its oldest envelope.

The task awaits an answer without doing anything else, so that its steps are taking from the queue,
the end of a delay, an answer, and the end of the input.
-/

namespace EdgeNode

namespace Ingest

inductive IngestClientError where
  | full
  | closed
  deriving DecidableEq, Repr

inductive IngestClientEvent where
  | spoolOverflow
  | submitNoAck
  deriving DecidableEq, Repr

inductive AbandonReason where
  | spoolOverflow
  | clientShutdown
  | collectorClosed
  deriving DecidableEq, Repr

/-- `retry` is the envelope as it was submitted. -/
inductive DeliveryOutcome where
  | final (ack : EnvelopeAck)
  | abandonedBeforeFinal (reason : AbandonReason) (retry : Envelope)
  deriving DecidableEq, Repr

/-- Receipts are numbered by whoever asks for one. -/
structure Submission where
  envelope : Envelope
  receipt : Option ℕ
  deriving DecidableEq, Repr

structure SpoolEntry where
  request : IngestRequest
  receipt : Option ℕ
  deriving DecidableEq, Repr

structure Resolution where
  receipt : ℕ
  request : IngestRequest
  outcome : DeliveryOutcome
  deriving DecidableEq, Repr

def retryBackoffMs : List ℕ := [100, 500, 2000, 5000]

/-- The client's task with both ends of its queue. `backoff` is the delay being waited for; `resolved`
and `events` are what receipts and the observer have been told. -/
structure Client where
  principal : IngestPrincipal
  queueCap : ℕ
  spoolCap : ℕ
  queue : List Submission := []
  spool : List SpoolEntry := []
  backoff : Option ℕ := none
  attempt : ℕ := 0
  closed : Bool := false
  resolved : List Resolution := []
  events : List IngestClientEvent := []

def retryDelayMs (attempt : ℕ) (envelopeId : String) : ℕ :=
  let base := retryBackoffMs.getD (min attempt (retryBackoffMs.length - 1)) 0
  let sum : UInt64 := envelopeId.toUTF8.toList.foldl (fun a b => a + b.toUInt64) 0
  base + sum.toNat % (base / 4 + 1)

namespace Client

def trySubmit (c : Client) (submission : Submission) : Except IngestClientError Client :=
  if c.closed then .error .closed
  else if c.queueCap ≤ c.queue.length then .error .full
  else .ok { c with queue := c.queue ++ [submission] }

def notify (event : IngestClientEvent) (c : Client) : Client :=
  { c with events := c.events ++ [event] }

def resolve (receipt : Option ℕ) (request : IngestRequest) (outcome : DeliveryOutcome)
    (c : Client) : Client :=
  match receipt with
  | some receipt => { c with resolved := c.resolved ++ [⟨receipt, request, outcome⟩] }
  | none => c

def dropOldest (c : Client) : Client :=
  match c.spool with
  | [] => c.notify .spoolOverflow
  | entry :: rest =>
    ({ c with spool := rest }.resolve entry.receipt entry.request
      (.abandonedBeforeFinal .spoolOverflow entry.request.envelope)).notify .spoolOverflow

def pushBounded (submission : Submission) (c : Client) : Client :=
  let c := if c.spoolCap ≤ c.spool.length then c.dropOldest else c
  { c with spool := c.spool ++ [⟨⟨c.principal, submission.envelope⟩, submission.receipt⟩] }

def scheduleRetry (envelopeId : String) (c : Client) : Client :=
  { c with backoff := some (retryDelayMs c.attempt envelopeId), attempt := c.attempt + 1 }

def abandonAll (reason : AbandonReason) (c : Client) : Client :=
  let c := c.queue.foldl (fun c s => c.resolve s.receipt ⟨c.principal, s.envelope⟩
    (.abandonedBeforeFinal reason s.envelope)) { c with closed := true }
  let c := c.spool.foldl (fun c e => c.resolve e.receipt e.request
    (.abandonedBeforeFinal reason e.request.envelope)) c
  { c with queue := [], spool := [] }

def ready (c : Client) : Bool := !c.closed && !c.spool.isEmpty && c.backoff.isNone

def waiting (c : Client) : Bool := !c.closed && (c.backoff.isSome || c.spool.isEmpty)

/-- The answer for the oldest envelope. All that is not final keeps the envelope for another
attempt. -/
def answered (answer : Except SubmitError EnvelopeAck) (c : Client) : Client :=
  match c.spool with
  | [] => c
  | entry :: rest =>
    match answer with
    | .ok ack =>
      if ack.status = .deferred then c.scheduleRetry entry.request.envelope.envelopeId
      else
        { { c with spool := rest }.resolve entry.receipt entry.request (.final ack) with
          attempt := 0, backoff := none }
    | .error .closed => c.abandonAll .collectorClosed
    | .error _ => (c.notify .submitNoAck).scheduleRetry entry.request.envelope.envelopeId

def receive (c : Client) : Option Client :=
  match c.queue with
  | submission :: rest =>
    if c.waiting then some ({ c with queue := rest }.pushBounded submission) else none
  | [] => none

def elapse (c : Client) : Option Client :=
  if c.backoff.isSome then some { c with backoff := none } else none

def shutdown (c : Client) : Option Client :=
  if c.waiting && c.queue.isEmpty then some (c.abandonAll .clientShutdown) else none

end Client

end Ingest

end EdgeNode
