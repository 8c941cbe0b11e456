import EdgeNode.Ledger.SeriesKey
import EdgeNode.Lib.Keyed
import EdgeNode.Lib.Machine
import EdgeNode.Publish.Retention

/-!
# The devices of the ledger

How a device is registered, approved from a sighting, activated, retired, and moved to other
hardware and back. A device keeps its key for ever and is never deleted; an index keeps the hardware
of the live devices apart.
-/

namespace EdgeNode

structure NewDevice where
  hardwareId : String
  userLabel : Option String
  parent : Option SystemId
  kind : DeviceKind
  initialState : DeviceState

structure ReplaceOutcome where
  replaced : SystemId
  oldHardwareId : String
  retiredCandidates : List SystemId
  deriving DecidableEq

def aliveHardware (devices : AList fun _ : SystemId => DeviceRow) : List String :=
  (devices.entries.filter fun r => r.2.alive).map fun r => r.2.hardwareId

namespace Ledger

variable (host : Host) (generate : ℕ → SystemId)

/-- An `UPDATE` of the devices, with the number of rows it met. -/
def updateDevices (p : SystemId → DeviceRow → Bool) (f : DeviceRow → DeviceRow) :
    Tx LedgerDb LedgerError ℕ :=
  Tx.stmt .sqlite fun db =>
    let devices := Keyed.updateWhere p f db.devices
    if (aliveHardware devices).Nodup then
      .ok (Keyed.countWhere p db.devices, { db with devices := devices })
    else .error .sqlite

/-- Refused by the key, by the reference to the parent and by the index of the live devices. -/
def addDevice (systemId : SystemId) (row : DeviceRow) : Tx LedgerDb LedgerError Unit :=
  Tx.stmt .sqlite fun db =>
    let devices := db.devices.insert systemId row
    if systemId ∈ db.devices then .error .sqlite
    else if row.parent.any fun parent => parent ∉ devices then .error .sqlite
    else if (aliveHardware devices).Nodup then .ok ((), { db with devices := devices })
    else .error .sqlite

def insertDevice (new : NewDevice) : Tx LedgerDb LedgerError SystemId := do
  match ← findAliveByHardwareId new.hardwareId with
  | some _ => Tx.fail (.hardwareIdInUse new.hardwareId)
  | none =>
    let draw ← Tx.draw
    let now ← Tx.draw
    addDevice (generate draw)
      { hardwareId := new.hardwareId, userLabel := new.userLabel, parent := new.parent,
        kind := new.kind, state := new.initialState, createdAt := host.nowMs now }
    recordEvent host "device_registered" (some (generate draw)) new.hardwareId
    pure (generate draw)

def isDevice (systemId : SystemId) (inState : DeviceState → Bool) (id : SystemId)
    (row : DeviceRow) : Bool :=
  id == systemId && inState row.state

def activateDevice (systemId : SystemId) : Tx LedgerDb LedgerError Unit := do
  let n ← updateDevices (isDevice systemId (· == .quarantined))
    fun row => { row with state := .active }
  if n = 0 then Tx.fail (.notFound s!"quarantined device {systemId.toText}")
  else recordEvent host "device_activated" (some systemId) ""

def retireDevice (systemId : SystemId) : Tx LedgerDb LedgerError Unit := do
  let draw ← Tx.draw
  let n ← updateDevices (isDevice systemId (· != .retired))
    fun row => { row with state := .retired, retiredAt := some (host.nowMs draw) }
  if n = 0 then Tx.fail (.notFound s!"non-retired device {systemId.toText}")
  else recordEvent host "device_retired" (some systemId) ""

/-- The devices that are in quarantine since before the cutoff, oldest first. -/
def quarantinedBefore (cutoff : ℤ) (db : LedgerDb) : List SystemId :=
  ((db.devices.entries.filter fun r => r.2.state == .quarantined && decide (r.2.createdAt < cutoff)
    ).insertionSort fun a b => a.2.createdAt < b.2.createdAt
      ∨ a.2.createdAt = b.2.createdAt ∧ a.2.hardwareId ≤ b.2.hardwareId).map Sigma.fst

def expiryDetail (ttlMs : ℤ) : String :=
  String.ofList <| (Json.object [("ttl_ms", .int ttlMs)]).compact host.showFloat

def expireQuarantinedDevices (ttlMs : ℤ) : Tx LedgerDb LedgerError (List SystemId) := do
  let draw ← Tx.draw
  let expired ← Tx.query .sqlite (quarantinedBefore (I64.saturatingSub (host.nowMs draw) ttlMs))
  Tx.forEach (fun systemId => do
    let _ ← updateDevices (isDevice systemId (· == .quarantined))
      fun row => { row with state := .active }
    recordEvent host "quarantine_expired" (some systemId) (expiryDetail host ttlMs)) expired
  pure expired

def setCalibrationReview (systemId : SystemId) (flag : Bool) : Tx LedgerDb LedgerError ℕ :=
  Tx.stmt .sqlite fun db =>
    .ok (db.series.rows.countP fun r => r.2.systemId == systemId,
      { db with
        series := db.series.updateWhere (fun r => r.systemId == systemId) fun r =>
          { r with calibrationReview := flag } })

def replaceDetail (oldHardwareId newHardwareId : String) (now : ℤ) : String :=
  String.ofList <| (Json.object [("old_hw", .str oldHardwareId), ("new_hw", .str newHardwareId),
    ("at", .int now)]).compact host.showFloat

/-- Retires the live device that has the hardware, in favour of the one that takes it over. -/
def retireCandidate (systemId : SystemId) (newHardwareId : String) (now : ℤ) :
    Tx LedgerDb LedgerError (List SystemId) := do
  match ← findAliveByHardwareId newHardwareId with
  | some (candidate, _) =>
    if candidate ≠ systemId then
      let _ ← updateDevices (isDevice candidate (· != .retired)) fun row =>
        { row with state := .retired, retiredAt := some now, supersededBy := some systemId }
      pure [candidate]
    else pure []
  | none => pure []

def moveToHardware (systemId : SystemId) (hardwareId : String) : Tx LedgerDb LedgerError ℕ :=
  updateDevices (isDevice systemId (· != .retired)) fun row => { row with hardwareId := hardwareId }

def aliveDevice (systemId : SystemId) : Tx LedgerDb LedgerError (Option DeviceRow) := do
  let row ← getDevice systemId
  pure (row.filter DeviceRow.alive)

def replaceHardware (systemId : SystemId) (newHardwareId : String) :
    Tx LedgerDb LedgerError ReplaceOutcome := do
  match ← aliveDevice systemId with
  | none => Tx.fail (.notFound s!"non-retired device {systemId.toText}")
  | some target =>
    if target.hardwareId = newHardwareId then
      Tx.fail (.invalidReplace
        s!"new hardware_id is the same as current hardware_id: {newHardwareId}")
    else
      let draw ← Tx.draw
      let retired ← retireCandidate systemId newHardwareId (host.nowMs draw)
      let _ ← moveToHardware systemId newHardwareId
      let _ ← setCalibrationReview systemId true
      recordEvent host "hardware_replaced" (some systemId)
        (replaceDetail host target.hardwareId newHardwareId (host.nowMs draw))
      pure ⟨systemId, target.hardwareId, retired⟩

end Ledger

/-! ## Beside the ledger -/

structure CustodyDb (ρ : Type) extends NodeDb ρ where
  targets : List TargetRow

/-- The error of a command; an error of the code that is no error of the ledger is its text. -/
inductive CommandError where
  | message (text : String)
  | ledger (error : LedgerError)
  | sqlite
  deriving DecidableEq, Repr

structure ReplaceUndoArgs where
  systemId : SystemId
  oldHardwareId : String
  since : Option ℤ
  abandonCustody : Bool

namespace CustodyDb

variable {ρ α : Type} (host : Host) (generate : ℕ → SystemId) (parse : String → Option Json)

def onLedger (m : Tx LedgerDb LedgerError α) : Tx (CustodyDb ρ) CommandError α :=
  (m.mapError .ledger).on (fun db => db.ledger) fun db ledger =>
    { db with toNodeDb := { db.toNodeDb with ledger := ledger } }

def approveSighting (hardwareId : String) (userLabel : Option String) (kind : DeviceKind) :
    Tx (CustodyDb ρ) CommandError SystemId := do
  let seen ← Tx.query (.ledger .sqlite) fun db => decide (hardwareId ∈ db.staging.sightings)
  if !seen then Tx.fail (.ledger (.notFound s!"sighting {hardwareId}"))
  else
    let systemId ← onLedger (Ledger.insertDevice host generate
      { hardwareId := hardwareId, userLabel := userLabel, parent := none, kind := kind,
        initialState := .quarantined })
    Tx.exec (.ledger .sqlite) fun db => { db with toNodeDb := { db.toNodeDb with
      staging := { db.staging with sightings := db.staging.sightings.erase hardwareId } } }
    onLedger (Ledger.recordEvent host "sighting_approved" (some systemId) hardwareId)
    pure systemId

def archiveTargetRegistered : Tx (CustodyDb ρ) CommandError Bool :=
  Tx.query .sqlite fun db => db.targets.any TargetRow.archiveResponsible

structure ReplaceEvent where
  atMs : ℤ
  oldHw : String

/-- Goes through the events of the device, the last one first. -/
def findReplaceEvent (currentHardwareId : String) :
    List (ℕ × EventRow) → Option (Except String ReplaceEvent)
  | [] => none
  | (eventId, event) :: events =>
    match parse event.detail with
    | none => findReplaceEvent currentHardwareId events
    | some value =>
      if (value.get? "new_hw").bind Json.asStr? = some currentHardwareId then
        match (value.get? "old_hw").bind Json.asStr? with
        | none => some (.error s!"hardware_replaced event {eventId} is missing old_hw")
        | some oldHw => some (.ok ⟨event.atMs, oldHw⟩)
      else findReplaceEvent currentHardwareId events

def latestReplaceEventForCurrentHardware (systemId : SystemId) (currentHardwareId : String) :
    Tx (CustodyDb ρ) CommandError ReplaceEvent := do
  let found ← Tx.query .sqlite fun db => findReplaceEvent parse currentHardwareId
    (db.ledger.events.rows.filter fun r =>
      r.2.kind == "hardware_replaced" && r.2.systemId == some systemId).reverse
  match found with
  | some (.ok event) => pure event
  | some (.error text) => Tx.fail (.message text)
  | none => Tx.fail (.message
      s!"no hardware_replaced event for {systemId.toText} with new_hw={currentHardwareId}")

def receivedWithin (seriesIds : List ℕ) (since upto : ℤ) (row : ReadingRow) : Bool :=
  decide (row.seriesId ∈ seriesIds) && decide (since ≤ row.receivedAtMs)
    && decide (row.receivedAtMs ≤ upto)

def markReadingsQuarantined (seriesIds : List ℕ) (since upto : ℤ) :
    Tx (CustodyDb ρ) CommandError ℕ :=
  if seriesIds.isEmpty then pure 0
  else Tx.stmt .sqlite fun db =>
    .ok (db.readings.rows.countP fun r => receivedWithin seriesIds since upto r.2,
      { db with toNodeDb := { db.toNodeDb with
          readings := db.readings.updateWhere (receivedWithin seriesIds since upto)
            fun row => { row with quarantined := true } } })

def pruneOutboxForQuarantinedRange (seriesIds : List ℕ) (since upto : ℤ) :
    Tx (CustodyDb ρ) CommandError ℕ :=
  if seriesIds.isEmpty then pure 0
  else Tx.stmt .sqlite fun db =>
    let seqs := (db.readings.rows.filter fun r =>
      receivedWithin seriesIds since upto r.2 && r.2.quarantined).map Prod.fst
    .ok (db.publications.rows.countP (Retention.refersTo seqs),
      { db with toNodeDb := { db.toNodeDb with
          publications := db.publications.deleteWhere (Retention.refersTo seqs) } })

def undoDetail (event : ReplaceEvent) (currentHardwareId : String) (since upto : ℤ) (rows : ℕ)
    (abandonCustody : Bool) : String :=
  String.ofList <| (Json.object [("old_hw", .str event.oldHw), ("new_hw", .str currentHardwareId),
    ("range", Json.object [("from_received_ms", .int since), ("to_received_ms", .int upto)]),
    ("rows", .int rows), ("abandon_custody", .bool abandonCustody)]).compact host.showFloat

/-- What `since` may be: not in the future, and when given not after the replacement. -/
def checkSince (since : Option ℤ) (event : ReplaceEvent) (upto : ℤ) : Except CommandError ℤ :=
  if since.getD event.atMs > upto then
    .error (.message s!"--since must not be in the future: {since.getD event.atMs} > {upto}")
  else match since with
    | some given =>
      if given > event.atMs then
        .error (.message (s!"--since {given} is after the replace event at {event.atMs}; "
          ++ "it would leave contaminated rows unmarked"))
      else .ok given
    | none => .ok event.atMs

def undoReplace (args : ReplaceUndoArgs) (current : DeviceRow) (event : ReplaceEvent)
    (since upto : ℤ) : Tx (CustodyDb ρ) CommandError ℕ := do
  let _ ← onLedger (Ledger.moveToHardware args.systemId event.oldHw)
  let seriesIds ← Tx.query .sqlite fun db =>
    (db.ledger.series.rows.filter fun r => r.2.systemId == args.systemId).map Prod.fst
  let rows ← markReadingsQuarantined seriesIds since upto
  let _ ← pruneOutboxForQuarantinedRange seriesIds since upto
  onLedger (Ledger.recordEvent host "hardware_replace_undone" (some args.systemId)
    (undoDetail host event current.hardwareId since upto rows args.abandonCustody))
  pure rows

def runReplaceUndo (args : ReplaceUndoArgs) : Tx (CustodyDb ρ) CommandError ℕ := do
  let archive ← archiveTargetRegistered
  if archive && !args.abandonCustody then
    Tx.fail (.message ("refused: replace-undo retroactively quarantines rows that may already be "
      ++ "enqueued for archive; re-run with --abandon-custody to force"))
  else
    match ← onLedger (Ledger.aliveDevice args.systemId) with
    | none => Tx.fail (.message s!"non-retired device {args.systemId.toText} not found")
    | some current =>
      let event ← latestReplaceEventForCurrentHardware parse args.systemId current.hardwareId
      if event.oldHw ≠ args.oldHardwareId then
        Tx.fail (.message (s!"old_hw mismatch for undo: latest hardware_replaced "
          ++ s!"old_hw={event.oldHw} but --old-hardware-id={args.oldHardwareId}"))
      else
        let draw ← Tx.draw
        let since ← Tx.ofExcept (checkSince args.since event (host.nowMs draw))
        match ← onLedger (Ledger.findAliveByHardwareId args.oldHardwareId) with
        | some (alive, _) =>
          if alive ≠ args.systemId then
            Tx.fail (.ledger (.hardwareIdInUse args.oldHardwareId))
          else undoReplace host args current event since (host.nowMs draw)
        | none => undoReplace host args current event since (host.nowMs draw)

end CustodyDb

/-! ## Runs -/

inductive DeviceCall where
  | insert (new : NewDevice)
  | approveSighting (hardwareId : String) (userLabel : Option String) (kind : DeviceKind)
  | activate (systemId : SystemId)
  | expireQuarantined (ttlMs : ℤ)
  | replaceHardware (systemId : SystemId) (newHardwareId : String)
  | replaceUndo (args : ReplaceUndoArgs)
  | retire (systemId : SystemId)

namespace DeviceCall

open CustodyDb (onLedger)

variable {ρ : Type} (host : Host) (generate : ℕ → SystemId) (parse : String → Option Json)

/-- A call and what its owner adds to it: the generation is raised, by retention only when a device
left its quarantine. -/
def perform : DeviceCall → Tx (CustodyDb ρ) CommandError Unit
  | insert new => do
    let _ ← onLedger (Ledger.insertDevice host generate new)
    bump
  | approveSighting hardwareId userLabel kind => do
    let _ ← CustodyDb.approveSighting host generate hardwareId userLabel kind
    bump
  | activate systemId => do
    onLedger (Ledger.activateDevice host systemId)
    bump
  | expireQuarantined ttlMs => do
    let expired ← onLedger (Ledger.expireQuarantinedDevices host ttlMs)
    if expired.isEmpty then pure () else bump
  | replaceHardware systemId newHardwareId => do
    let _ ← onLedger (Ledger.replaceHardware host systemId newHardwareId)
    bump
  | replaceUndo args => do
    let _ ← CustodyDb.runReplaceUndo host parse args
    bump
  | retire systemId => do
    onLedger (Ledger.retireDevice host systemId)
    bump
where
  bump : Tx (CustodyDb ρ) CommandError Unit := do
    let _ ← onLedger Ledger.bumpGeneration
    pure ()

end DeviceCall

structure Inventory (ρ : Type) where
  db : CustodyDb ρ
  draws : ℕ := 0

namespace Inventory

variable {ρ : Type}

inductive Event (ρ : Type) where
  | call (call : DeviceCall) (ending : Tx.Ending) (faults : List Bool)
  /-- Whatever else is committed; it leaves the devices alone. -/
  | elsewhere (change : CustodyDb ρ → CustodyDb ρ)

def besideDevices (change : CustodyDb ρ → CustodyDb ρ) (db : CustodyDb ρ) : CustodyDb ρ :=
  { change db with toNodeDb := { (change db).toNodeDb with
      ledger := { (change db).ledger with devices := db.ledger.devices } } }

variable (host : Host) (generate : ℕ → SystemId) (parse : String → Option Json)

def owned (call : DeviceCall) (ending : Tx.Ending) : Tx (CustodyDb ρ) CommandError Unit :=
  Tx.transaction .sqlite (fun before _ => before) do
    call.perform host generate parse
    pure (ending, ())

def step (s : Inventory ρ) : Event ρ → Option (Inventory ρ)
  | .call call ending faults =>
    let out := owned host generate parse call ending ⟨s.db, faults, s.draws⟩
    some { db := out.2.db, draws := out.2.draws }
  | .elsewhere change => some { s with db := besideDevices change s.db }

def fresh (authEpoch : String) (registry : ρ) : Inventory ρ where
  db := { NodeDb.empty authEpoch registry with targets := [] }

end Inventory

end EdgeNode
