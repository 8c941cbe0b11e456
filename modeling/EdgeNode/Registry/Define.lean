import EdgeNode.Collector.Contract
import EdgeNode.Registry.Store

/-!
# Definitions an operator makes

A custom entry defines a key of the site's own, an alias leads a key to an entry that exists. No
constraint of the database guards their common name space: every function checks it against both
tables.
-/

namespace EdgeNode

structure CustomEntrySpec where
  measurementKey : String
  unitUcum : Option String
  unitDisplay : Option String
  valueType : ValueType
  semanticClass : String
  channelMode : ChannelMode
  channelRoles : List String
  physicalMin : Option F64
  physicalMax : Option F64
  deriving DecidableEq, Repr

def EntryOrigin.asDb : EntryOrigin → String
  | .catalog => "catalog"
  | .custom => "custom"

namespace Ledger

/-- Ends the quarantine for `reason` of the series under a key, of any device. A series whose channel
is not `channelOk` stays in quarantine for another reason. -/
def releaseSeriesQuarantineForKeyChecked (measurementKey reason : String) (channelOk : ℤ → Bool) :
    Tx LedgerDb LedgerError (List ℕ × List ℕ) := do
  let rows ← Tx.query .sqlite fun db => db.series.rows.filter fun r =>
    r.2.measurementKey == measurementKey && r.2.quarantined && r.2.quarantineReason == some reason
  let released := (rows.filter fun r => channelOk r.2.channelIndex).map Prod.fst
  let mismatch := (rows.filter fun r => !channelOk r.2.channelIndex).map Prod.fst
  Tx.forEach (fun id => Tx.exec .sqlite fun db =>
    { db with series := db.series.update id fun r =>
      { r with quarantined := false, quarantineReason := none } }) released
  Tx.forEach (fun id => Tx.exec .sqlite fun db =>
    { db with series := db.series.update id fun r =>
      { r with quarantineReason := some "undeclared_channel" } }) mismatch
  pure (released, mismatch)

end Ledger

namespace Registry

variable (host : Host)

def validateMeasurementKey (key : String) : Except RegistryError Unit :=
  (EdgeNode.validateMeasurementKey key).mapError fun e => .invalidKey (key ++ ": " ++ e.toText)

/-- Both bounds in order or none; a record has none. -/
def customPhysicalRange (spec : CustomEntrySpec) : Except RegistryError (Option Range) :=
  let guarded (range : Option Range) : Except RegistryError (Option Range) :=
    if spec.valueType = .record ∧ range.isSome then
      .error (.invalidKey (spec.measurementKey ++ ": record type cannot carry physical range"))
    else .ok range
  match spec.physicalMin, spec.physicalMax with
  | some min, some max =>
    if min.lt max then guarded (some ⟨min, max⟩)
    else .error (.invalidKey
      (spec.measurementKey ++ ": physical_min must be less than physical_max"))
  | none, none => guarded none
  | _, _ => .error (.invalidKey
      (spec.measurementKey ++ ": physical_min and physical_max must be supplied together"))

def validateCustomEntrySpec (spec : CustomEntrySpec) : Except RegistryError Unit := do
  if !"custom.".toList.isPrefixOf spec.measurementKey.toList then
    .error (.invalidKey spec.measurementKey)
  else
    validateMeasurementKey spec.measurementKey
    if spec.channelMode = .fixed ∧ spec.channelRoles.isEmpty then
      .error (.invalidKey
        (spec.measurementKey ++ ": fixed channel_mode requires channel_roles"))
    else if spec.channelMode ≠ .fixed ∧ !spec.channelRoles.isEmpty then
      .error (.invalidKey
        (spec.measurementKey ++ ": channel_roles only allowed for fixed mode"))
    else
      let _ ← customPhysicalRange spec
      .ok ()

def CustomEntrySpec.entry (spec : CustomEntrySpec) (physicalRange : Option Range) :
    CatalogEntry where
  key := spec.measurementKey
  unitUcum := spec.unitUcum
  unitDisplay := spec.unitDisplay
  valueType := spec.valueType
  semanticClass := spec.semanticClass
  channelMode := spec.channelMode
  channelRoles := spec.channelRoles
  physicalRange := physicalRange

/-- The row of a custom entry is that of a catalogue entry without a catalogue. -/
def customRow (entry : CatalogEntry) (enabledAt : ℤ) : EntryRow :=
  { catalogRow host entry "" enabledAt with origin := .custom, catalogVersion := none }

def customDetail (entry : CatalogEntry) : String :=
  String.ofList <| (Json.object [("key", .str entry.key), ("revision", .str (entry.revision host)),
    ("origin", .str "custom"), ("catalog_version", .null)]).compact host.showFloat

def defineCustomEntry (spec : CustomEntrySpec) :
    Tx (LedgerDb × RegistryDb) RegistryError EntryRow := do
  Tx.ofExcept (validateCustomEntrySpec spec)
  match ← onEntries (getEntry spec.measurementKey) with
  | some _ => Tx.fail (.namespaceCollision spec.measurementKey)
  | none =>
    if ← onEntries (aliasExists spec.measurementKey) then
      Tx.fail (.namespaceCollision spec.measurementKey)
    else
      let physicalRange ← Tx.ofExcept (customPhysicalRange spec)
      let draw ← Tx.draw
      onEntries (insertEntry
        (customRow host (CustomEntrySpec.entry spec physicalRange) (host.nowMs draw)))
      onLedger (Ledger.recordEvent host "registry_entry_enabled" none
        (customDetail host (CustomEntrySpec.entry spec physicalRange)))
      match ← onEntries (getEntry spec.measurementKey) with
      | some row => pure row
      | none => Tx.fail .sqlite

/-- Refused by the primary key when the alias exists, and by the reference to the entry. -/
def insertAlias (row : AliasRow) : Tx RegistryDb RegistryError Unit :=
  Tx.stmt .sqlite fun db =>
    if db.aliases.any fun a => a.aliasName == row.aliasName then .error .sqlite
    else if !db.entries.any fun e => e.measurementKey == row.measurementKey then .error .sqlite
    else .ok ((), { db with aliases := db.aliases ++ [row] })

def channelOk (target : EntryRow) (channel : ℤ) : Bool :=
  match target.channelMode with
  | .single => channel == channelNa || channel == 0
  | .fixed => decide (0 ≤ channel ∧ channel < target.channelRoles.length)
  | .generic => true

def releasedDetail (aliasName targetKey : String) (released mismatch : List ℕ) : String :=
  String.ofList <| (Json.object [("alias", .str aliasName), ("canonical", .str targetKey),
    ("series_ids", .arr (released.map fun id => .int id)),
    ("channel_mismatch_ids", .arr (mismatch.map fun id => .int id))]).compact host.showFloat

def defineAlias (aliasName targetKey : String) (kind : AliasKind) :
    Tx (LedgerDb × RegistryDb) RegistryError Unit := do
  Tx.ofExcept (validateMeasurementKey aliasName)
  match ← onEntries (getEntry aliasName) with
  | some _ => Tx.fail (.namespaceCollision aliasName)
  | none =>
    if ← onEntries (aliasExists aliasName) then Tx.fail (.aliasExists aliasName)
    else
      match ← onEntries (getEntry targetKey) with
      | none => Tx.fail (.targetNotFound targetKey)
      | some target =>
        let draw ← Tx.draw
        onEntries (insertAlias ⟨aliasName, targetKey, kind, host.nowMs draw⟩)
        let ended ← onLedger (Ledger.releaseSeriesQuarantineForKeyChecked aliasName "unknown_key"
          (channelOk target))
        if ended.1.isEmpty && ended.2.isEmpty then pure ()
        else onLedger (Ledger.recordEvent host "series_quarantine_released" none
          (releasedDetail host aliasName targetKey ended.1 ended.2))

end Registry

end EdgeNode
