import EdgeNode.Ingest.Client
import EdgeNode.Lib.Machine

/-!
# The exit of a client's task

A call takes a permit of the client's channel, then stores its submission and returns; other threads
may come in between. At its end the task closes the channel, which only stops new permits, and takes
what is stored until the channel reports that it is empty, which it may while some call still holds
its permit.
-/

namespace EdgeNode

namespace Ingest

inductive TaskPhase where
  | running
  /-- The channel is closed, what it has is taken. -/
  | draining (reason : AbandonReason)
  /-- The channel has reported that it is empty, the spool is given up. -/
  | leaving (reason : AbandonReason)
  | exited
  deriving DecidableEq, Repr

/-- The task of a client with the calls of its handles. `permits` are the submissions of calls that
hold a permit, `returned` the receipts of calls that have returned with one, and `lost` what was
dropped with the receiver. -/
structure ClientTask where
  client : Client
  handles : Bool := true
  phase : TaskPhase := .running
  permits : List Submission := []
  receipts : ℕ := 0
  returned : List ℕ := []
  lost : List Submission := []

inductive TaskEvent where
  | trySubmit (envelope : Envelope)
  | trySubmitWithReceipt (envelope : Envelope)
  | store (submission : Submission)
  | handlesDropped
  | receive
  | elapse
  | answer (result : Except SubmitError EnvelopeAck)
  | inputEnded
  | take
  | reportsEmpty
  | giveUp
  | exit

namespace ClientTask

def fresh (principal : IngestPrincipal) (queueCap spoolCap : ℕ) : ClientTask where
  client := { principal := principal, queueCap := queueCap, spoolCap := spoolCap }

variable (s : ClientTask)

/-- A call takes a permit, or returns with the reason why it has none. -/
def reserve (submission : Submission) : ClientTask :=
  if s.client.closed ∨ s.client.queueCap ≤ s.client.queue.length + s.permits.length then s
  else { s with permits := s.permits ++ [submission] }

def store (submission : Submission) : ClientTask :=
  let s := { s with
    permits := s.permits.erase submission
    returned := s.returned ++ submission.receipt.toList }
  if s.phase = .exited then { s with lost := s.lost ++ [submission] }
  else { s with client := { s.client with queue := s.client.queue ++ [submission] } }

def onClient (client : Option Client) : Option ClientTask :=
  client.map fun client => { s with client := client }

def close (reason : AbandonReason) : ClientTask :=
  { s with client := { s.client with closed := true }, phase := .draining reason }

/-- The receipt of what is taken from the closed channel learns that the client gave it up. -/
def take : Option ClientTask :=
  match s.phase, s.client.queue with
  | .draining reason, submission :: rest => some { s with
      client := { s.client with queue := rest }.resolve submission.receipt
        ⟨s.client.principal, submission.envelope⟩
        (.abandonedBeforeFinal reason submission.envelope) }
  | _, _ => none

def reportsEmpty : Option ClientTask :=
  match s.phase with
  | .draining reason =>
    if s.client.queue = [] ∨ s.permits ≠ [] then some { s with phase := .leaving reason } else none
  | _ => none

def giveUp : Option ClientTask :=
  match s.phase, s.client.spool with
  | .leaving reason, entry :: rest => some { s with
      client := { s.client with spool := rest }.resolve entry.receipt entry.request
        (.abandonedBeforeFinal reason entry.request.envelope) }
  | _, _ => none

def exit : Option ClientTask :=
  match s.phase, s.client.spool with
  | .leaving _, [] => some { s with
      client := { s.client with queue := [] }
      phase := .exited
      lost := s.lost ++ s.client.queue }
  | _, _ => none

def step : TaskEvent → Option ClientTask
  | .trySubmit envelope => if s.handles then some (s.reserve ⟨envelope, none⟩) else none
  | .trySubmitWithReceipt envelope =>
    if s.handles then
      some ({ s with receipts := s.receipts + 1 }.reserve ⟨envelope, some s.receipts⟩)
    else none
  | .store submission => if submission ∈ s.permits then some (s.store submission) else none
  -- a call borrows the handle it is made on
  | .handlesDropped =>
    if s.handles ∧ s.permits = [] then some { s with handles := false } else none
  | .receive => if s.phase = .running then s.onClient s.client.receive else none
  | .elapse => if s.phase = .running then s.onClient s.client.elapse else none
  | .answer result =>
    if s.phase = .running ∧ s.client.ready then
      match result with
      | .error .closed => some (s.close .collectorClosed)
      | result => some { s with client := s.client.answered result }
    else none
  | .inputEnded =>
    if s.phase = .running ∧ s.client.waiting ∧ s.client.queue = [] ∧ s.handles = false then
      some (s.close .clientShutdown)
    else none
  | .take => s.take
  | .reportsEmpty => s.reportsEmpty
  | .giveUp => s.giveUp
  | .exit => s.exit

end ClientTask

end Ingest

end EdgeNode
