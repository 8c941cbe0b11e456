import EdgeNode.Lib.Int64
import EdgeNode.Pipeline.Engine

/-!
# The device ledger

Devices, their series, the audit events and the ledger's own metadata. A device is found by its
hardware identifier only while it is not retired. The wall clock and fresh identifiers are drawn from
a `Host`.
-/

namespace EdgeNode

/-- What the node takes from outside its database: beside the digest and the fresh identifiers, its
two clocks and the two renderings of a fractional number, in JSON and in a message. -/
structure Host extends Outside where
  nowMs : ℕ → ℤ
  uptimeMs : ℕ → ℤ
  showFloat : F64 → List Char
  displayFloat : F64 → String

/-- The key of a logical device, 16 bytes in the database. -/
structure SystemId where
  bytes : BitVec 128
  deriving DecidableEq, Repr

inductive DeviceKind where
  | individual
  | positional
  deriving DecidableEq, Repr

inductive DeviceState where
  | quarantined
  | active
  | retired
  deriving DecidableEq, Repr

structure DeviceRow where
  hardwareId : String
  userLabel : Option String := none
  parent : Option SystemId := none
  kind : DeviceKind
  state : DeviceState
  supersededBy : Option SystemId := none
  createdAt : ℤ
  retiredAt : Option ℤ := none
  deriving DecidableEq, Repr

def DeviceRow.alive (row : DeviceRow) : Bool := row.state != .retired

/-- The channel column of a measurement without channels. -/
def channelNa : ℤ := -1

def defaultVariant : String := "primary"

structure SeriesRow where
  systemId : SystemId
  measurementKey : String
  channelIndex : ℤ
  variant : String
  quarantined : Bool
  quarantineReason : Option String
  rangeMin : Option F64 := none
  rangeMax : Option F64 := none
  calibrationReview : Bool := false
  createdAt : ℤ
  deriving DecidableEq, Repr

def SeriesRow.hasKey (row : SeriesRow) (systemId : SystemId) (measurementKey : String)
    (channelIndex : ℤ) (variant : String) : Bool :=
  row.systemId == systemId && row.measurementKey == measurementKey
    && row.channelIndex == channelIndex && row.variant == variant

structure EventRow where
  atMs : ℤ
  kind : String
  systemId : Option SystemId
  detail : String
  deriving DecidableEq, Repr

structure LedgerDb where
  devices : AList fun _ : SystemId => DeviceRow
  series : AutoTable SeriesRow
  events : AutoTable EventRow
  generation : Option ℤ
  epoch : Option String

def LedgerDb.empty : LedgerDb where
  devices := ∅
  series := AutoTable.empty
  events := AutoTable.empty
  generation := none
  epoch := none

inductive LedgerError where
  | hardwareIdInUse (hardwareId : String)
  | notFound (what : String)
  | invalidId (text : String)
  | invalidReplace (message : String)
  | sqlite
  deriving DecidableEq, Repr

namespace Ledger

variable (host : Host)

def recordEvent (kind : String) (systemId : Option SystemId) (detail : String) :
    Tx LedgerDb LedgerError Unit := do
  let draw ← Tx.draw
  Tx.stmt .sqlite fun db =>
    match db.events.insert ⟨host.nowMs draw, kind, systemId, detail⟩ with
    | some events => .ok ((), { db with events := events })
    | none => .error .sqlite

/-- The live device with a hardware identifier; an index keeps it unique. -/
def aliveByHardwareId (db : LedgerDb) (hardwareId : String) : Option (SystemId × DeviceRow) :=
  (db.devices.entries.find? fun r => r.2.hardwareId == hardwareId && r.2.alive).map
    fun r => (r.1, r.2)

def findAliveByHardwareId (hardwareId : String) :
    Tx LedgerDb LedgerError (Option (SystemId × DeviceRow)) :=
  Tx.query .sqlite fun db => aliveByHardwareId db hardwareId

def getDevice (systemId : SystemId) : Tx LedgerDb LedgerError (Option DeviceRow) :=
  Tx.query .sqlite fun db => db.devices.lookup systemId

def findSeries (db : LedgerDb) (systemId : SystemId) (measurementKey : String) (channelIndex : ℤ)
    (variant : String) : Option (ℕ × SeriesRow) :=
  db.series.rows.find? fun r => r.2.hasKey systemId measurementKey channelIndex variant

/-- The series with the given key, made now when there is none. The insert is refused by the key
and by the reference to the device. -/
def ensureSeries (systemId : SystemId) (measurementKey : String) (channelIndex : ℤ)
    (variant : String) (quarantined : Bool) (quarantineReason : Option String) :
    Tx LedgerDb LedgerError ℕ := do
  match ← Tx.query .sqlite fun db => findSeries db systemId measurementKey channelIndex variant with
  | some (id, _) => pure id
  | none =>
    let draw ← Tx.draw
    Tx.stmt .sqlite fun db =>
      if (findSeries db systemId measurementKey channelIndex variant).isSome then .error .sqlite
      else if systemId ∉ db.devices then .error .sqlite
      else
        match db.series.insert
          { systemId := systemId, measurementKey := measurementKey, channelIndex := channelIndex,
            variant := variant, quarantined := quarantined, quarantineReason := quarantineReason,
            createdAt := host.nowMs draw } with
        | some series => .ok (series.lastId, { db with series := series })
        | none => .error .sqlite

def findSeriesMeta (systemId : SystemId) (measurementKey : String) (channelIndex : ℤ)
    (variant : String) : Tx LedgerDb LedgerError (Option SeriesRow) :=
  Tx.query .sqlite fun db =>
    (findSeries db systemId measurementKey channelIndex variant).map Prod.snd

def seriesExistsForKey (systemId : SystemId) (measurementKey : String) :
    Tx LedgerDb LedgerError Bool :=
  Tx.query .sqlite fun db =>
    db.series.rows.any fun r => r.2.systemId == systemId && r.2.measurementKey == measurementKey

def currentGeneration : Tx LedgerDb LedgerError ℤ :=
  Tx.query .sqlite fun db => db.generation.getD 0

/-- The last statement of every mutation made outside the collector. -/
def bumpGeneration : Tx LedgerDb LedgerError ℤ := do
  Tx.exec .sqlite fun db =>
    { db with generation := some (db.generation.elim 1 (· + 1)) }
  currentGeneration

/-- The ledger epoch, made and stored on first use. -/
def ledgerEpoch : Tx LedgerDb LedgerError String := do
  match ← Tx.query .sqlite LedgerDb.epoch with
  | some epoch => pure epoch
  | none =>
    let draw ← Tx.draw
    Tx.exec .sqlite fun db => { db with epoch := some (host.uuid draw) }
    pure (host.uuid draw)

end Ledger

end EdgeNode
