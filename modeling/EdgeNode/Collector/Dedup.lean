import EdgeNode.Lib.Tx
import EdgeNode.Lib.Table
import EdgeNode.Lib.Int64

/-!
# Envelope claims

A claim within the age is refused, an expired one is renewed in place, and a new one first evicts the
oldest rows until its principal and the table have room. The rows stand in the order of their row
numbers, in which a new row is last.
-/

namespace EdgeNode

inductive TimeseriesError where
  | limit (message : String)
  | invalidReading (message : String)
  | sqlite
  deriving DecidableEq, Repr

structure DedupRow where
  senderId : String
  envelopeId : String
  receivedAt : ℤ
  deriving DecidableEq, Repr

def DedupRow.isFor (row : DedupRow) (senderId envelopeId : String) : Bool :=
  row.senderId == senderId && row.envelopeId == envelopeId

abbrev DedupTable := List DedupRow

structure DedupBounds where
  globalRows : ℤ
  principalRows : ℤ
  maxAgeMs : ℤ

/-- Limits that passed `DedupLimits::new`. -/
structure DedupLimits extends DedupBounds where
  valid : 0 < globalRows ∧ 0 < principalRows ∧ principalRows ≤ globalRows ∧ 0 < maxAgeMs

def DedupLimits.new (globalRows principalRows maxAgeMs : ℤ) :
    Except TimeseriesError DedupLimits :=
  if h : 0 < globalRows ∧ 0 < principalRows ∧ principalRows ≤ globalRows ∧ 0 < maxAgeMs then
    .ok ⟨⟨globalRows, principalRows, maxAgeMs⟩, h⟩
  else .error (.limit "dedup limits must be finite, positive, and ordered")

def DedupLimits.default : DedupLimits where
  globalRows := 100000
  principalRows := 10000
  maxAgeMs := 72 * 60 * 60 * 1000
  valid := by decide

example : (DedupLimits.new 100000 10000 (72 * 60 * 60 * 1000)).toOption = some .default := rfl

namespace Dedup

def principalCount (rows : DedupTable) (senderId : String) : ℕ :=
  rows.countP fun r => r.senderId == senderId

/-- The first row `ORDER BY received_at, rowid` among those that satisfy `p`. -/
def oldest (rows : DedupTable) (p : DedupRow → Bool) : Option DedupRow :=
  firstBy (fun a b => a.receivedAt < b.receivedAt) (rows.filter p)

def deleteOldest (rows : DedupTable) (p : DedupRow → Bool) : DedupTable :=
  match oldest rows p with
  | some row => rows.erase row
  | none => rows

/-- One round of the eviction loop: it ends when both the principal and the table have room. -/
def evict (limits : DedupBounds) (senderId : String) :
    Tx DedupTable TimeseriesError (Unit ⊕ Unit) := do
  let ofPrincipal ← Tx.query .sqlite fun rows => principalCount rows senderId
  let all ← Tx.query .sqlite List.length
  if (ofPrincipal : ℤ) < limits.principalRows ∧ (all : ℤ) < limits.globalRows then
    pure (.inr ())
  else if limits.principalRows ≤ ofPrincipal then
    Tx.exec .sqlite fun rows => deleteOldest rows fun r => r.senderId == senderId
    pure (.inl ())
  else
    Tx.exec .sqlite fun rows => deleteOldest rows fun _ => true
    pure (.inl ())

/-- `UPDATE … SET received_at`, of the row with the key when it is older. -/
def refresh (rows : DedupTable) (senderId envelopeId : String) (nowMs : ℤ) : DedupTable :=
  rows.map fun r =>
    if r.isFor senderId envelopeId && r.receivedAt < nowMs then { r with receivedAt := nowMs } else r

/-- Claims `(principal, envelope)`: `true` when the envelope may be processed. -/
def tryClaimEnvelopeBoundedAt (principalId envelopeId : String) (nowMs : ℤ) (limits : DedupBounds) :
    Tx DedupTable TimeseriesError Bool := do
  let cutoff := I64.saturatingSub nowMs limits.maxAgeMs
  if ← Tx.query .sqlite fun rows =>
      rows.any fun r => r.isFor principalId envelopeId && cutoff ≤ r.receivedAt then
    pure false
  else
    let refreshed ← Tx.stmt .sqlite fun rows =>
      .ok (rows.countP fun r => r.isFor principalId envelopeId && r.receivedAt < nowMs,
        refresh rows principalId envelopeId nowMs)
    if refreshed = 1 then pure true
    else
      let rows ← Tx.contents
      Tx.repeatUntil (fun _ => evict limits principalId) .sqlite (rows.length + 1) ()
      Tx.stmt .sqlite fun rows =>
        if rows.any fun r => r.isFor principalId envelopeId then .error .sqlite
        else .ok ((), rows ++ [⟨principalId, envelopeId, nowMs⟩])
      pure true

/-- Deletes the rows received before the cutoff; the result is their number. -/
def purgeDedupBefore (cutoffMs : ℤ) : Tx DedupTable TimeseriesError ℕ :=
  Tx.stmt .sqlite fun rows =>
    .ok (rows.countP fun r => r.receivedAt < cutoffMs,
      rows.filter fun r => !decide (r.receivedAt < cutoffMs))

/-! ## Runs of claims -/

/-- One claim of a run: its clock reading, the statements that fail, and whether the transaction it
is part of is committed. -/
structure ClaimCall where
  principalId : String
  envelopeId : String
  nowMs : ℤ
  faults : List Bool
  committed : Bool
  reading : I64.inRange nowMs

def ClaimCall.row (call : ClaimCall) : DedupRow := ⟨call.principalId, call.envelopeId, call.nowMs⟩

def ClaimCall.answer (bounds : DedupBounds) (rows : DedupTable) (call : ClaimCall) :
    Except TimeseriesError Bool × Conn DedupTable :=
  tryClaimEnvelopeBoundedAt call.principalId call.envelopeId call.nowMs bounds
    { db := rows, faults := call.faults }

/-- The table, and the claims that succeeded in the order they were made. -/
structure ClaimHistory where
  rows : DedupTable
  granted : List DedupRow

/-- An error rolls the transaction back. -/
def ClaimHistory.claim (bounds : DedupBounds) (history : ClaimHistory) (call : ClaimCall) :
    ClaimHistory :=
  match call.answer bounds history.rows with
  | (.ok claimed, c) =>
    if call.committed then
      ⟨c.db, if claimed then history.granted ++ [call.row] else history.granted⟩
    else history
  | (.error _, _) => history

def claims (bounds : DedupBounds) (calls : List ClaimCall) : ClaimHistory :=
  calls.foldl (ClaimHistory.claim bounds) ⟨[], []⟩

inductive DedupCall where
  | claim (call : ClaimCall)
  | purge (cutoffMs : ℤ)

def DedupCall.isClaim : DedupCall → Bool
  | .claim _ => true
  | .purge _ => false

def dedupAnswers (bounds : DedupBounds) :
    DedupTable → List DedupCall → List (Except TimeseriesError Bool)
  | _, [] => []
  | rows, .claim call :: calls =>
    let (answer, c) := call.answer bounds rows
    answer :: dedupAnswers bounds (if answer.isOk && call.committed then c.db else rows) calls
  | rows, .purge cutoffMs :: calls =>
    dedupAnswers bounds (purgeDedupBefore cutoffMs { db := rows }).2.db calls

end Dedup

end EdgeNode
