import EdgeNode.Registry.Catalog

/-!
# The registry of a site

The entries in force at this site and the aliases that lead to them. An entry of the catalogue is
copied when it is first enabled, together with an audit event, so the registry's functions work on
the ledger as well.
-/

namespace EdgeNode

inductive EntryOrigin where
  | catalog
  | custom
  deriving DecidableEq, Repr

structure EntryRow where
  measurementKey : String
  origin : EntryOrigin
  catalogVersion : Option String
  entryRevision : String
  unitUcum : Option String
  unitDisplay : Option String
  valueType : ValueType
  semanticClass : String
  channelMode : ChannelMode
  channelRoles : List String
  physicalMin : Option F64
  physicalMax : Option F64
  localMin : Option F64 := none
  localMax : Option F64 := none
  enabledAt : ℤ
  deriving DecidableEq, Repr

inductive AliasKind where
  | rename
  | locationMapping
  deriving DecidableEq, Repr

structure AliasRow where
  aliasName : String
  measurementKey : String
  aliasKind : AliasKind
  createdAt : ℤ
  deriving DecidableEq, Repr

structure RegistryDb where
  entries : List EntryRow := []
  aliases : List AliasRow := []

inductive RegistryError where
  | namespaceCollision (name : String)
  | targetNotFound (key : String)
  | aliasExists (name : String)
  | invalidKey (text : String)
  | sqlite
  | ledger (error : LedgerError)
  deriving DecidableEq, Repr

/-- The text of an error, without the database's own part of it. -/
def RegistryError.toText : RegistryError → String
  | .namespaceCollision k => "name '" ++ k ++ "' collides across key/alias namespace"
  | .targetNotFound k => "alias target entry not found: " ++ k
  | .aliasExists a => "alias already defined: " ++ a
  | .invalidKey k => "invalid measurement_key: " ++ k
  | .sqlite => "sqlite error"
  | .ledger _ => "ledger error"

inductive Resolution where
  | entry (row : EntryRow)
  | aliased (canonical : EntryRow) (aliasKind : AliasKind)

namespace Registry

variable {α : Type}

def onEntries (m : Tx RegistryDb RegistryError α) : Tx (LedgerDb × RegistryDb) RegistryError α :=
  m.on Prod.snd fun db registry => (db.1, registry)

def onLedger (m : Tx LedgerDb LedgerError α) : Tx (LedgerDb × RegistryDb) RegistryError α :=
  (m.mapError .ledger).on Prod.fst fun db ledger => (ledger, db.2)

def getEntry (key : String) : Tx RegistryDb RegistryError (Option EntryRow) :=
  Tx.query .sqlite fun db => db.entries.find? fun e => e.measurementKey == key

def aliasExists (name : String) : Tx RegistryDb RegistryError Bool :=
  Tx.query .sqlite fun db => db.aliases.any fun a => a.aliasName == name

def findResolution (declaredKey : String) : Tx RegistryDb RegistryError (Option Resolution) := do
  match ← getEntry declaredKey with
  | some entry => pure (some (.entry entry))
  | none =>
    match ← Tx.query .sqlite fun db => db.aliases.find? fun a => a.aliasName == declaredKey with
    | none => pure none
    | some row =>
      match ← getEntry row.measurementKey with
      | some canonical => pure (some (.aliased canonical row.aliasKind))
      | none => Tx.fail (.targetNotFound row.measurementKey)

/-- Refused by the primary key when the entry exists. -/
def insertEntry (row : EntryRow) : Tx RegistryDb RegistryError Unit :=
  Tx.stmt .sqlite fun db =>
    if db.entries.any fun e => e.measurementKey == row.measurementKey then .error .sqlite
    else .ok ((), { db with entries := db.entries ++ [row] })

def catalogRow (host : Host) (entry : CatalogEntry) (catalogVersion : String) (enabledAt : ℤ) :
    EntryRow where
  measurementKey := entry.key
  origin := .catalog
  catalogVersion := some catalogVersion
  entryRevision := entry.revision host
  unitUcum := entry.unitUcum
  unitDisplay := entry.unitDisplay
  valueType := entry.valueType
  semanticClass := entry.semanticClass
  channelMode := entry.channelMode
  channelRoles := entry.channelRoles
  physicalMin := entry.physicalRange.map Range.min
  physicalMax := entry.physicalRange.map Range.max
  enabledAt := enabledAt

def enabledDetail (host : Host) (entry : CatalogEntry) (catalogVersion trigger : String) : String :=
  String.ofList <| (Json.object [("key", .str entry.key), ("revision", .str (entry.revision host)),
    ("catalog_version", .str catalogVersion), ("trigger", .str trigger)]).compact host.showFloat

def enableEntry (host : Host) (entry : CatalogEntry) (catalogVersion trigger : String) :
    Tx (LedgerDb × RegistryDb) RegistryError EntryRow := do
  match ← onEntries (getEntry entry.key) with
  | some existing => pure existing
  | none =>
    if ← onEntries (aliasExists entry.key) then Tx.fail (.namespaceCollision entry.key)
    else
      let draw ← Tx.draw
      onEntries (insertEntry (catalogRow host entry catalogVersion (host.nowMs draw)))
      onLedger (Ledger.recordEvent host "registry_entry_enabled" none
        (enabledDetail host entry catalogVersion trigger))
      match ← onEntries (getEntry entry.key) with
      | some row => pure row
      | none => Tx.fail .sqlite

end Registry

end EdgeNode
