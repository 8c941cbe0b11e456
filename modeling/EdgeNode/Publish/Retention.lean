import EdgeNode.Collector.Database

/-!
# Retention of readings

An archive target acknowledges the publication log up to a cursor. The purge deletes readings by age
in batches, inside the caller's transaction, and with each batch the log rows that refer to it. Which
rows a `SELECT … LIMIT` takes is for the database to choose: the order it scans in is drawn from
outside.
-/

namespace EdgeNode

structure TargetRow where
  targetId : String
  archiveResponsible : Bool
  cursorEpoch : Option String
  cursorPubSeq : ℤ
  deriving DecidableEq, Repr

/-- The target's cursor in the current epoch, zero across epochs. -/
def effectiveCursor (currentEpoch : String) (target : TargetRow) : ℤ :=
  if target.cursorEpoch = some currentEpoch then target.cursorPubSeq else 0

/-- The cursor a purge protects from; none without a target that is responsible for the archive. -/
def custodyCursor (currentEpoch : String) (target : Option TargetRow) : Option ℤ :=
  match target with
  | none => none
  | some t => if !t.archiveResponsible then none else some (effectiveCursor currentEpoch t)

/-- The order in which the database finds the rows of its `i`-th scan. -/
structure Scan where
  order : ℕ → List ℕ → List ℕ
  perm : ∀ i seqs, (order i seqs).Perm seqs

namespace Retention

variable {ρ : Type}

def purgeBatch : ℕ := 5000

def refersTo (seqs : List ℕ) (p : ℕ × PublicationRow) : Bool :=
  p.2.readingSeq.any fun seq => seq ∈ seqs

def pruneOutboxByReadingSeqs (seqs : List ℕ) : Tx (NodeDb ρ) PublishError ℕ :=
  if seqs.isEmpty then pure 0
  else Tx.stmt .sqlite fun db =>
    .ok (db.publications.rows.countP (refersTo seqs),
      { db with publications := db.publications.deleteWhere (refersTo seqs) })

def acked (epoch : String) (uptoPubSeq : ℤ) (p : ℕ × PublicationRow) : Bool :=
  p.2.epoch == epoch && decide ((p.1 : ℤ) ≤ uptoPubSeq)

def pruneAckedOutbox (epoch : String) (uptoPubSeq : ℤ) : Tx (NodeDb ρ) PublishError ℕ :=
  Tx.stmt .sqlite fun db =>
    .ok (db.publications.rows.countP (acked epoch uptoPubSeq),
      { db with publications := db.publications.deleteWhere (acked epoch uptoPubSeq) })

def awaited (epoch : String) (cursor : ℤ) (p : ℕ × PublicationRow) : Bool :=
  p.2.kind == .measurement && p.2.epoch == epoch && decide (cursor < (p.1 : ℤ))

/-- Whether a reading is in custody: it is not quarantined, and a publication of it is awaited. -/
def inCustody (log : List (ℕ × PublicationRow)) (epoch : String) (cursor : ℤ)
    (r : ℕ × ReadingRow) : Bool :=
  !r.2.quarantined && log.any fun p => awaited epoch cursor p && p.2.readingSeq == some r.1

def doomed (log : List (ℕ × PublicationRow)) (cutoff : ℤ) (epoch : String) (cursor : Option ℤ)
    (r : ℕ × ReadingRow) : Bool :=
  decide (r.2.receivedAtMs < cutoff) && match cursor with
    | some eff => !inCustody log epoch eff r
    | none => true

def selectDoomed (db : NodeDb ρ) (cutoff : ℤ) (epoch : String) (cursor : Option ℤ) : List ℕ :=
  (db.readings.rows.filter (doomed db.publications.rows cutoff epoch cursor)).map Prod.fst

def deleteReadings (seqs : List ℕ) : Tx (NodeDb ρ) PublishError ℕ :=
  Tx.stmt .sqlite fun db =>
    .ok (db.readings.rows.countP fun r => r.1 ∈ seqs,
      { db with readings := db.readings.deleteWhere fun r => r.1 ∈ seqs })

/-- One round of the purge: the sum so far goes on to the next round after a full batch. -/
def purgeRound (scan : Scan) (cutoff : ℤ) (epoch : String) (cursor : Option ℤ) (total : ℕ) :
    Tx (NodeDb ρ) PublishError (ℕ ⊕ ℕ) := do
  let draw ← Tx.draw
  let seqs ← Tx.query .sqlite fun db =>
    (scan.order draw (selectDoomed db cutoff epoch cursor)).take purgeBatch
  if seqs.isEmpty then pure (.inr total)
  else do
    let _ ← pruneOutboxByReadingSeqs seqs
    let deleted ← deleteReadings seqs
    if seqs.length < purgeBatch then pure (.inr (total + deleted))
    else pure (.inl (total + deleted))

/-- Rounds until one finds less than a full batch. -/
def purgeLoop (scan : Scan) (cutoff : ℤ) (epoch : String) (cursor : Option ℤ) :
    Tx (NodeDb ρ) PublishError ℕ := do
  let db ← Tx.contents
  Tx.repeatUntil (purgeRound scan cutoff epoch cursor) .sqlite (db.readings.rows.length + 1) 0

def purgeReadingsCustodyAware (scan : Scan) (cutoff : ℤ) (currentEpoch : String)
    (cursor : Option ℤ) : Tx (NodeDb ρ) PublishError ℕ := do
  match cursor with
  | some eff => do
    let _ ← pruneAckedOutbox currentEpoch eff
    purgeLoop scan cutoff currentEpoch cursor
  | none => purgeLoop scan cutoff currentEpoch cursor

end Retention

end EdgeNode
