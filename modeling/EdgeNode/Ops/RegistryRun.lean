import EdgeNode.Collector.Requests
import EdgeNode.Lib.Machine
import EdgeNode.Ops.RegistryOps

/-!
# A site and its registry over time

What defines keys and what stores readings under them: the collector, the operation on unknown keys,
and the commands of the local tool. Whatever else is committed leaves the registry and the key
columns of the series alone.
-/

namespace EdgeNode

/-! ## The local tool -/

inductive ToolError where
  | registry (error : RegistryError)
  | notInCatalog (key : String)
  | wouldAbandonPast
  deriving DecidableEq, Repr

namespace Tool

variable {α : Type}

def onRegistry (m : Tx (LedgerDb × RegistryDb) RegistryError α) :
    Tx (NodeDb RegistryDb) ToolError α :=
  (m.mapError .registry).on (fun db => (db.ledger, db.registry))
    fun db p => { db with ledger := p.1, registry := p.2 }

/-- One immediate transaction, which raises the generation last. -/
def mutate (m : Tx (NodeDb RegistryDb) ToolError α) : Tx (NodeDb RegistryDb) ToolError α :=
  Tx.transaction (.registry .sqlite) (fun before _ => before) do
    let value ← m
    let _ ← onRegistry (Registry.onLedger Ledger.bumpGeneration)
    pure (.commit, value)

variable (host : Host)

def runRegistryEnable (key : String) : Tx (NodeDb RegistryDb) ToolError EntryRow :=
  match standardCatalog.find key with
  | none => Tx.fail (.notInCatalog key)
  | some entry => mutate (onRegistry (Registry.enableEntry host entry
      standardCatalog.catalogVersion "iotkit-edge-nodectl"))

def abandonDetail (aliasName targetKey : String) : String :=
  String.ofList <| (Json.object [("alias", .str aliasName), ("canonical", .str targetKey),
    ("abandon_past", .bool true)]).compact host.showFloat

/-- An alias, refused when an archive has data of a quarantine it would end, unless the operator says
to abandon that data. `archive` is whether an archive is registered. -/
def runRegistryAlias (aliasName targetKey : String) (archive releaseAbandonPast : Bool) :
    Tx (NodeDb RegistryDb) ToolError Unit :=
  mutate do
    let quarantined ← onRegistry (Registry.onLedger (Tx.query .sqlite fun db =>
      db.series.rows.any fun r => r.2.measurementKey == aliasName && r.2.quarantined))
    let hasArchive ← if quarantined then Tx.query (.registry .sqlite) fun _ => archive
      else pure false
    if hasArchive && !releaseAbandonPast then Tx.fail .wouldAbandonPast
    else
      onRegistry (Registry.defineAlias host aliasName targetKey .locationMapping)
      if hasArchive then
        onRegistry (Registry.onLedger (Ledger.recordEvent host "quarantine_release_abandon_past" none
          (abandonDetail host aliasName targetKey)))
      else pure ()

end Tool

/-! ## Runs -/

structure Site where
  collector : Collector.State RegistryDb
  trust : ClockTrust

namespace Site

inductive Event where
  | submit (o : Collector.Circumstances) (request : IngestRequest)
  | dispatch (request : DispatchRequest) (savepoint : Ops.SavepointFaults) (faults : List Bool)
  | enable (key : String) (faults : List Bool)
  | defineAlias (aliasName targetKey : String) (archive releaseAbandonPast : Bool) (faults : List Bool)
  /-- Any other committed mutation; it may mark the series of a device for review. -/
  | mutate (change : NodeDb RegistryDb → NodeDb RegistryDb) (review : Option (SystemId × Bool))

/-- What other mutations do to the series. -/
def reviewed (series : AutoTable SeriesRow) : Option (SystemId × Bool) → AutoTable SeriesRow
  | none => series
  | some (systemId, flag) => series.updateWhere (fun r => r.systemId == systemId)
      fun r => { r with calibrationReview := flag }

/-- A mutation that leaves the registry alone, and the series but for their review. -/
def besideRegistry (change : NodeDb RegistryDb → NodeDb RegistryDb)
    (review : Option (SystemId × Bool)) (db : NodeDb RegistryDb) : NodeDb RegistryDb :=
  { change db with
    ledger := { (change db).ledger with series := reviewed db.ledger.series review }
    registry := db.registry }

variable (c : Collector.Components RegistryDb) (clock : Clock)

def called {α : Type} (s : Site) (m : Tx (NodeDb RegistryDb) ToolError α) (faults : List Bool) :
    Site :=
  let out := m ⟨s.collector.db, faults, s.collector.draws⟩
  { s with collector := { s.collector with db := out.2.db, draws := out.2.draws } }

def dispatched (s : Site) (request : DispatchRequest) (savepoint : Ops.SavepointFaults)
    (faults : List Bool) : Site :=
  let out := Ops.dispatchWithSecretDir clock c.host savepoint (pure ())
    [Ops.resolveUnknownKeyDescriptor c.host] request none
    ⟨{ db := s.collector.db, trust := s.trust }, faults, s.collector.draws⟩
  { collector := { s.collector with db := out.2.db.db, draws := out.2.draws }
    trust := out.2.db.trust }

def step (s : Site) : Event → Option Site
  | .submit o request =>
    some { s with collector := (Collector.submit c.withRegistry s.collector o request).2 }
  | .dispatch request savepoint faults => some (s.dispatched c clock request savepoint faults)
  | .enable key faults => some (s.called (Tool.runRegistryEnable c.host key) faults)
  | .defineAlias aliasName targetKey archive releaseAbandonPast faults =>
    some (s.called (Tool.runRegistryAlias c.host aliasName targetKey archive releaseAbandonPast)
      faults)
  | .mutate change review =>
    some { s with collector := { s.collector with
      db := Collector.mutated (besideRegistry change review) s.collector.db } }

/-- A site that has just been set up, with the clock of a process that has just started. -/
def fresh (authEpoch : String) (trust : ClockTrust) : Site where
  collector := { db := NodeDb.empty authEpoch {} }
  trust := trust

end Site

end EdgeNode
