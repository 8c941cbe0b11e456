import EdgeNode.Ingest.Client
import EdgeNode.Lib.Machine

/-!
# One client in use

A client with the record of its use: which submissions its queue has taken, in order, and which
answers the collector has given for which entry of the spool. Whoever asks for a receipt makes a new
channel for it, so that receipts are numbered as they are made.
-/

namespace EdgeNode

namespace Ingest

structure Usage where
  client : Client
  receipts : ℕ := 0
  taken : List Submission := []
  answers : List (SpoolEntry × EnvelopeAck) := []

inductive UsageEvent where
  | trySubmit (envelope : Envelope)
  | trySubmitWithReceipt (envelope : Envelope)
  /-- An envelope that was given back is submitted again. -/
  | tryRetryWithReceipt (retry : Envelope)
  | receive
  | elapse
  /-- What comes back for the oldest envelope; a lost answer is no acknowledgement. -/
  | answer (result : Except SubmitError EnvelopeAck)
  | shutdown

namespace Usage

def fresh (principal : IngestPrincipal) (queueCap spoolCap : ℕ) : Usage where
  client := { principal := principal, queueCap := queueCap, spoolCap := spoolCap }

def submit (submission : Submission) (s : Usage) : Usage :=
  match s.client.trySubmit submission with
  | .ok client => { s with client := client, taken := s.taken ++ [submission] }
  | .error _ => s

def submitWithReceipt (envelope : Envelope) (s : Usage) : Usage :=
  { s with receipts := s.receipts + 1 }.submit ⟨envelope, some s.receipts⟩

def answer (result : Except SubmitError EnvelopeAck) (s : Usage) : Usage :=
  { s with
    client := s.client.answered result
    answers := s.answers ++ match s.client.spool, result with
      | entry :: _, .ok ack => [(entry, ack)]
      | _, _ => [] }

def onClient (s : Usage) (client : Option Client) : Option Usage :=
  client.map fun client => { s with client := client }

def step (s : Usage) : UsageEvent → Option Usage
  | .trySubmit envelope => some (s.submit ⟨envelope, none⟩)
  | .trySubmitWithReceipt envelope => some (s.submitWithReceipt envelope)
  | .tryRetryWithReceipt retry => some (s.submitWithReceipt retry)
  | .receive => s.onClient s.client.receive
  | .elapse => s.onClient s.client.elapse
  | .answer result => if s.client.ready then some (s.answer result) else none
  | .shutdown => s.onClient s.client.shutdown

end Usage

end Ingest

end EdgeNode
