import EdgeNode.Collector.Contract
import EdgeNode.Collector.Staging
import EdgeNode.Ops.Authority

/-!
# The node's database

All tables of the node, each part with the functions that work on it. `ρ` stands for the tables of
the measurement registry.
-/

namespace EdgeNode

/-! ## Readings -/

inductive EventTimeSource where
  | device
  | edgeNodeAdjusted
  | receivedAt
  deriving DecidableEq, Repr

structure NewReading where
  seriesId : ℕ
  receivedAtMs : ℤ
  deviceTimeMs : Option ℤ
  timeSource : TimeSource
  values : List F64
  rssi : Option ℤ
  batteryPct : Option ℕ
  quarantined : Bool
  deriving DecidableEq, Repr

structure ReadingRow extends NewReading where
  eventTime : ℤ
  eventTimeSource : EventTimeSource
  deriving DecidableEq, Repr

def futureToleranceMs : ℤ := 300000

/-- A device time counts only from a device clock or a restored age, and not from the future. -/
def deriveEventTime (receivedAtMs : ℤ) (deviceTimeMs : Option ℤ) (timeSource : TimeSource) :
    ℤ × EventTimeSource :=
  let adopt (label : EventTimeSource) : ℤ × EventTimeSource :=
    match deviceTimeMs with
    | some dt =>
      if dt ≤ receivedAtMs + futureToleranceMs then (dt, label) else (receivedAtMs, .receivedAt)
    | none => (receivedAtMs, .receivedAt)
  match timeSource with
  | .deviceNtp | .deviceRtc => adopt .device
  | .edgeNodeAdjusted => adopt .edgeNodeAdjusted
  | .edgeNode => (receivedAtMs, .receivedAt)

def NewReading.row (r : NewReading) : ReadingRow where
  toNewReading := r
  eventTime := (deriveEventTime r.receivedAtMs r.deviceTimeMs r.timeSource).1
  eventTimeSource := (deriveEventTime r.receivedAtMs r.deviceTimeMs r.timeSource).2

/-! ## Publication -/

inductive ActivationState where
  | standalone
  | discoveryOnly
  | active
  deriving DecidableEq, Repr

inductive PublicationKind where
  | measurement
  | annotation
  | commissioningSmoke
  deriving DecidableEq, Repr

structure PublicationRow where
  epoch : String
  kind : PublicationKind
  readingSeq : Option ℕ
  createdAt : ℤ
  deriving DecidableEq, Repr

inductive PublishError where
  | invalid (message : String)
  | sqlite
  deriving DecidableEq, Repr

/-! ## All tables -/

structure NodeDb (ρ : Type) where
  ledger : LedgerDb
  auth : AuthDb
  dedup : DedupTable
  staging : StagingDb
  readings : AutoTable ReadingRow
  activation : ActivationState
  publications : AutoTable PublicationRow
  pipelines : PipelineDb
  registry : ρ

def NodeDb.empty {ρ : Type} (authEpoch : String) (registry : ρ) : NodeDb ρ where
  ledger := LedgerDb.empty
  auth := AuthDb.empty authEpoch
  dedup := []
  staging := StagingDb.empty
  readings := AutoTable.empty
  activation := .standalone
  publications := AutoTable.empty
  pipelines := PipelineDb.empty
  registry := registry

variable {ρ : Type}

/-- Refused for a value that is not finite, and by the reference to the series. -/
def insertReadingV3 (r : NewReading) : Tx (NodeDb ρ) TimeseriesError ℕ := do
  if !r.values.all F64.isFinite then Tx.fail (.invalidReading "non-finite value")
  else
    Tx.stmt .sqlite fun db =>
      if !db.ledger.series.rows.any fun s => s.1 == r.seriesId then .error .sqlite
      else match db.readings.insert r.row with
        | some readings => .ok (readings.lastId, { db with readings := readings })
        | none => .error .sqlite

def publicationAdmitted : Tx (NodeDb ρ) PublishError Bool :=
  Tx.query .sqlite fun db => db.activation != .discoveryOnly

def requirePublicationAdmitted : Tx (NodeDb ρ) PublishError Unit := do
  if ← publicationAdmitted then pure ()
  else Tx.fail (.invalid "Edge Node activation has not admitted publication")

def enqueueMeasurement (epoch : String) (readingSeq : ℕ) (nowMs : ℤ) :
    Tx (NodeDb ρ) PublishError ℕ := do
  requirePublicationAdmitted
  Tx.stmt .sqlite fun db =>
    match db.publications.insert ⟨epoch, .measurement, some readingSeq, nowMs⟩ with
    | some log => .ok (log.lastId, { db with publications := log })
    | none => .error .sqlite

end EdgeNode
