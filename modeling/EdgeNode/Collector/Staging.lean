import EdgeNode.Ledger.Store
import EdgeNode.Collector.Dedup

/-!
# Staged sightings

Data of hardware that no device entry names yet, held in a bounded table per principal and hardware
identifier. A batch is admitted as a whole: stale unpinned rows expire, then whole unpinned subjects
are evicted, oldest first and never one of the batch, until it fits.
-/

namespace EdgeNode

structure StagedRow where
  hardwareId : String
  receivedAt : ℤ
  payloadJson : String
  principalId : String
  payloadBytes : ℤ
  pinned : Bool
  deriving DecidableEq, Repr

/-- A subject of staging: a hardware identifier as one principal saw it. -/
abbrev StagingSubject := String × String

def StagedRow.subject (row : StagedRow) : StagingSubject := (row.principalId, row.hardwareId)

structure SightingRow where
  source : String
  firstSeen : ℤ
  lastSeen : ℤ
  observations : ℤ
  deriving DecidableEq, Repr

structure StagingDb where
  staged : AutoTable StagedRow
  sightings : AList fun _ : String => SightingRow

def StagingDb.empty : StagingDb where
  staged := AutoTable.empty
  sightings := ∅

structure StagingBounds where
  globalRows : ℤ
  principalRows : ℤ
  globalBytes : ℤ
  principalBytes : ℤ
  maxAgeMs : ℤ
  reserveRows : ℤ
  reserveBytes : ℤ

structure StagingLimits extends StagingBounds where
  rowsOrdered : 0 < reserveRows ∧ reserveRows < principalRows ∧ principalRows ≤ globalRows
  bytesOrdered : 0 < reserveBytes ∧ reserveBytes < principalBytes ∧ principalBytes ≤ globalBytes
  agePositive : 0 < maxAgeMs

def StagingLimits.default : StagingLimits where
  globalRows := 10000
  principalRows := 1000
  globalBytes := 64 * 1024 * 1024
  principalBytes := 8 * 1024 * 1024
  maxAgeMs := 30 * 24 * 60 * 60 * 1000
  reserveRows := 256
  reserveBytes := 64 * 1024
  rowsOrdered := by decide
  bytesOrdered := by decide
  agePositive := by decide

structure StagingAdmission where
  expiredSubjects : ℕ
  evictedSubjects : ℕ
  deriving DecidableEq, Repr

structure StagedSighting where
  hardwareId : String
  payloadJson : String
  deriving DecidableEq, Repr

/-- The sums of `staging_health` that the limits are compared with. -/
structure StagingHealth where
  rows : ℤ
  bytes : ℤ
  pinnedRows : ℤ
  pinnedBytes : ℤ
  deriving DecidableEq, Repr

namespace Staging

def rowsOf (rows : List (ℕ × StagedRow)) (subject : StagingSubject) : List (ℕ × StagedRow) :=
  rows.filter fun r => r.2.subject == subject

/-- `COALESCE(MAX(pinned),0)` over the rows of a subject. -/
def isPinned (rows : List (ℕ × StagedRow)) (subject : StagingSubject) : Bool :=
  rows.any fun r => r.2.subject == subject && r.2.pinned

def totalBytes (rows : List (ℕ × StagedRow)) : ℤ := (rows.map fun r => r.2.payloadBytes).sum

def health (rows : List (ℕ × StagedRow)) : StagingHealth where
  rows := rows.length
  bytes := totalBytes rows
  pinnedRows := (rows.filter fun r => r.2.pinned).length
  pinnedBytes := totalBytes (rows.filter fun r => r.2.pinned)

def subjects (rows : List (ℕ × StagedRow)) : List StagingSubject :=
  (rows.map fun r => r.2.subject).dedup

def isExpired (rows : List (ℕ × StagedRow)) (cutoff : ℤ) (r : ℕ × StagedRow) : Bool :=
  decide (r.2.receivedAt < cutoff) && !isPinned rows r.2.subject

def expiredSubjects (rows : List (ℕ × StagedRow)) (cutoff : ℤ) : List StagingSubject :=
  (subjects rows).filter fun s =>
    !isPinned rows s && (rowsOf rows s).any fun r => decide (r.2.receivedAt < cutoff)

/-- `MIN(received_at), MIN(id)` of a subject. -/
def subjectAge (rows : List (ℕ × StagedRow)) (s : StagingSubject) : ℤ × ℕ :=
  (((rowsOf rows s).map fun r => r.2.receivedAt).min?.getD 0,
    ((rowsOf rows s).map fun r => r.1).min?.getD 0)

def olderSubject (rows : List (ℕ × StagedRow)) (s s' : StagingSubject) : Bool :=
  let a := subjectAge rows s
  let b := subjectAge rows s'
  decide (a.1 < b.1) || (decide (a.1 = b.1) && decide (a.2 < b.2))

/-- The oldest unpinned subject, of one principal when `principalId` is given, that is not
protected. -/
def oldestEvictable (rows : List (ℕ × StagedRow)) (principalId : Option String)
    (protectedSubjects : List StagingSubject) : Option StagingSubject :=
  firstBy (olderSubject rows) <| (subjects rows).filter fun s =>
    (principalId.all fun p => s.1 == p) && !isPinned rows s && !protectedSubjects.contains s

def stagingHealth : Tx StagingDb TimeseriesError StagingHealth :=
  Tx.query .sqlite fun db => health db.staged.rows

def principalTotals (principalId : String) (onlyPinned : Bool) :
    Tx StagingDb TimeseriesError (ℤ × ℤ) :=
  Tx.query .sqlite fun db =>
    let rows := db.staged.rows.filter fun r =>
      r.2.principalId == principalId && (!onlyPinned || r.2.pinned)
    (rows.length, totalBytes rows)

/-- Refuses with `message` more pinned rows than the limits leave beside the reserve. -/
def checkPinCapacity (message principalId : String) (addedRows addedBytes : ℤ)
    (limits : StagingBounds) : Tx StagingDb TimeseriesError Unit := do
  let all ← stagingHealth
  let (pinnedRows, pinnedBytes) ← principalTotals principalId true
  if limits.globalRows - limits.reserveRows < I64.saturatingAdd all.pinnedRows addedRows
      ∨ limits.principalRows - limits.reserveRows < I64.saturatingAdd pinnedRows addedRows
      ∨ limits.globalBytes - limits.reserveBytes < I64.saturatingAdd all.pinnedBytes addedBytes
      ∨ limits.principalBytes - limits.reserveBytes < I64.saturatingAdd pinnedBytes addedBytes then
    Tx.fail (.limit message)
  else pure ()

def validateInheritedPinCapacity (principalId : String) (stagedRows stagedBytes : ℤ)
    (limits : StagingBounds) : Tx StagingDb TimeseriesError Unit :=
  if stagedRows = 0 then pure ()
  else
    checkPinCapacity "pinned subject growth would consume maximum-envelope evictable reserve"
      principalId stagedRows stagedBytes limits

/-- One round of the eviction loop, over the subjects removed so far. -/
def evict (principalId : String) (stagedRows stagedBytes : ℤ)
    (protectedSubjects : List StagingSubject) (limits : StagingBounds)
    (removed : List StagingSubject) :
    Tx StagingDb TimeseriesError (List StagingSubject ⊕ List StagingSubject) := do
  let all ← stagingHealth
  let (principalRows, principalBytes) ← principalTotals principalId false
  let principalOver := limits.principalRows < I64.saturatingAdd principalRows stagedRows
    ∨ limits.principalBytes < I64.saturatingAdd principalBytes stagedBytes
  let globalOver := limits.globalRows < I64.saturatingAdd all.rows stagedRows
    ∨ limits.globalBytes < I64.saturatingAdd all.bytes stagedBytes
  if ¬ principalOver ∧ ¬ globalOver then pure (.inr removed)
  else
    match ← Tx.query .sqlite fun db => oldestEvictable db.staged.rows
        (if principalOver then some principalId else none) protectedSubjects with
    | none => Tx.fail (.limit "staging capacity is protected by pin reserve")
    | some victim =>
      Tx.exec .sqlite fun db =>
        { db with staged := db.staged.deleteWhere fun r => r.2.subject == victim }
      pure (.inl (removed ++ [victim]))

/-- A sighting goes with the last staged row of its hardware identifier, for the principal it was
attributed to. -/
def deleteSightingIfUnstaged (subject : StagingSubject) : Tx StagingDb TimeseriesError Unit :=
  if subject.1 = "legacy:unknown" then pure ()
  else
    Tx.exec .sqlite fun db =>
      if (db.sightings.lookup subject.2).any (fun s => s.source == subject.1)
          && !db.staged.rows.any (fun r => r.2.hardwareId == subject.2) then
        { db with sightings := db.sightings.erase subject.2 }
      else db

def insertStaged (row : StagedRow) : Tx StagingDb TimeseriesError Unit :=
  Tx.stmt .sqlite fun db =>
    match db.staged.insert row with
    | some staged => .ok ((), { db with staged := staged })
    | none => .error .sqlite

def stagedRow (principalId : String) (receivedAtMs : ℤ) (sighting : StagedSighting)
    (subjectPinned : Bool) : StagedRow where
  hardwareId := sighting.hardwareId
  receivedAt := receivedAtMs
  payloadJson := sighting.payloadJson
  principalId := principalId
  payloadBytes := sighting.payloadJson.utf8ByteSize
  pinned := subjectPinned

def batchBytes (sightings : List StagedSighting) : Except TimeseriesError ℤ :=
  sightings.foldlM (fun total s =>
    match I64.checkedAdd total s.payloadJson.utf8ByteSize with
    | some total => .ok total
    | none => .error (.limit "staging envelope byte cost overflowed")) 0

def stageSightingsAt (principalId : String) (receivedAtMs : ℤ) (sightings : List StagedSighting)
    (limits : StagingBounds) : Tx StagingDb TimeseriesError StagingAdmission := do
  let stagedRows : ℤ := sightings.length
  let stagedBytes ← Tx.ofExcept (batchBytes sightings)
  if limits.reserveRows < stagedRows ∨ limits.reserveBytes < stagedBytes
      ∨ limits.principalRows < stagedRows ∨ limits.principalBytes < stagedBytes then
    Tx.fail (.limit "staging envelope exceeds maximum-envelope reserve")
  else if sightings.isEmpty then pure ⟨0, 0⟩
  else
    let subjectPins ← Tx.traverse (fun s : StagedSighting =>
      Tx.query .sqlite fun db => isPinned db.staged.rows (principalId, s.hardwareId)) sightings
    let inherited := ((sightings.zip subjectPins).filter Prod.snd).map Prod.fst
    validateInheritedPinCapacity principalId inherited.length
      (inherited.map fun s => (s.payloadJson.utf8ByteSize : ℤ)).sum limits
    let cutoff := I64.saturatingSub receivedAtMs limits.maxAgeMs
    let expired ← Tx.query .sqlite fun db => expiredSubjects db.staged.rows cutoff
    Tx.exec .sqlite fun db =>
      { db with staged := db.staged.deleteWhere (isExpired db.staged.rows cutoff) }
    let db ← Tx.contents
    let removed ← Tx.repeatUntil
      (evict principalId stagedRows stagedBytes
        (sightings.map fun s => (principalId, s.hardwareId)) limits)
      .sqlite (db.staged.rows.length + 1) expired
    Tx.forEach (fun s : StagedSighting × Bool =>
      insertStaged (stagedRow principalId receivedAtMs s.1 s.2)) (sightings.zip subjectPins)
    Tx.forEach deleteSightingIfUnstaged removed
    pure ⟨expired.length, removed.length - expired.length⟩

/-- Whether the pin of a subject may be set as asked. -/
def validateSightingPin (principalId hardwareId : String) (pinned : Bool) (limits : StagingBounds) :
    Tx StagingDb TimeseriesError Unit := do
  let (rows, bytes, currentlyPinned) ← Tx.query .sqlite fun db =>
    let rows := rowsOf db.staged.rows (principalId, hardwareId)
    ((rows.length : ℤ), totalBytes rows, isPinned db.staged.rows (principalId, hardwareId))
  if rows = 0 then Tx.fail (.limit "staging subject does not exist")
  else if pinned && !currentlyPinned then
    checkPinCapacity "pin would consume maximum-envelope evictable reserve"
      principalId rows bytes limits
  else pure ()

def setSightingPin (principalId hardwareId : String) (pinned : Bool) (limits : StagingBounds) :
    Tx StagingDb TimeseriesError Unit := do
  validateSightingPin principalId hardwareId pinned limits
  Tx.exec .sqlite fun db =>
    { db with
      staged := db.staged.updateWhere (fun r => r.subject == (principalId, hardwareId))
        fun r => { r with pinned := pinned } }

/-! ## Runs of calls -/

inductive StagingCall where
  | stage (principalId : String) (receivedAtMs : ℤ) (sightings : List StagedSighting)
  | pin (principalId hardwareId : String) (pinned : Bool)

def StagingCall.body (limits : StagingBounds) : StagingCall → Tx StagingDb TimeseriesError Unit
  | .stage principalId receivedAtMs sightings => do
    let _ ← stageSightingsAt principalId receivedAtMs sightings limits
    pure ()
  | .pin principalId hardwareId pinned => setSightingPin principalId hardwareId pinned limits

/-- The bytes a database file can hold. -/
def maxDatabaseBytes : ℤ := 2 ^ 48

/-- A call in a transaction of its own, with the statements that fail. An error is rolled back, and
so is what the database file cannot hold. -/
def StagingCall.run (limits : StagingBounds) (db : StagingDb) (call : StagingCall × List Bool) :
    StagingDb :=
  match call.1.body limits { db := db, faults := call.2 } with
  | (.ok (), c) => if totalBytes c.db.staged.rows ≤ maxDatabaseBytes then c.db else db
  | (.error _, _) => db

def stagingRun (limits : StagingBounds) (calls : List (StagingCall × List Bool)) : StagingDb :=
  calls.foldl (StagingCall.run limits) StagingDb.empty

end Staging

/-- Notes a sighting of a hardware identifier, by the principal that saw it last. -/
def Ledger.recordSighting (host : Host) (hardwareId source : String) :
    Tx StagingDb LedgerError Unit := do
  let draw ← Tx.draw
  let now := host.nowMs draw
  Tx.exec .sqlite fun db =>
    { db with
      sightings := db.sightings.insert hardwareId
        (match db.sightings.lookup hardwareId with
          | some s => { s with source := source, lastSeen := now, observations := s.observations + 1 }
          | none => ⟨source, now, now, 1⟩) }

end EdgeNode
