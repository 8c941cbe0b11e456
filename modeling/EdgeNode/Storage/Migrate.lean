import EdgeNode.Lib.Tx

/-!
# Schema migrations

Every component brings its own list of migrations; which ones are still to be applied is decided by
the set of recorded versions, not by the highest one. Each migration is applied together with its
version row in a transaction of its own.

The scripts work on the tables of the components, `σ`. `committed` is history: the migrations whose
scripts ran, undone with what they did.
-/

namespace EdgeNode

namespace Storage

/-- A script is a list of statements, each of which may refuse. -/
structure Migration (σ : Type) where
  version : ℕ
  label : String
  sql : List (σ → Option σ)

structure VersionRow where
  version : ℕ
  label : String
  appliedAt : ℤ
  deriving DecidableEq, Repr

inductive StorageError where
  | sqlite
  | migrationFailed (version : ℕ) (source : StorageError)
  | schemaVersionAhead (onDisk latestKnown : ℕ)
  | invalidMigrationOrder (first second : ℕ)
  | clockBeforeEpoch
  deriving DecidableEq, Repr

variable {σ : Type}

/-- `versions` is missing until the first run has created it. -/
structure SchemaDb (σ : Type) where
  tables : σ
  versions : Option (List VersionRow)
  committed : List (Migration σ)

def SchemaDb.fresh (tables : σ) : SchemaDb σ := ⟨tables, none, []⟩

def SchemaDb.rows (db : SchemaDb σ) : List VersionRow := db.versions.getD []

/-- `MAX(version)`, or 0. -/
def SchemaDb.currentVersion (db : SchemaDb σ) : ℕ := (db.rows.map VersionRow.version).max?.getD 0

def latestKnown (migrations : List (Migration σ)) : ℕ :=
  migrations.getLast?.elim 0 Migration.version

def firstDisorder : List (Migration σ) → Option (ℕ × ℕ)
  | m :: m' :: rest =>
    if m'.version ≤ m.version then some (m.version, m'.version) else firstDisorder (m' :: rest)
  | _ => none

def bootstrap : Tx (SchemaDb σ) StorageError Unit :=
  Tx.exec .sqlite fun db => { db with versions := some db.rows }

def executeBatch (m : Migration σ) : Tx (SchemaDb σ) StorageError Unit := do
  Tx.forEach (fun statement : σ → Option σ => Tx.stmt .sqlite fun db : SchemaDb σ =>
    match statement db.tables with
    | some tables => .ok ((), { db with tables := tables })
    | none => .error .sqlite) m.sql
  Tx.modify fun db => { db with committed := db.committed ++ [m] }

def insertVersion (m : Migration σ) (appliedAt : ℤ) : Tx (SchemaDb σ) StorageError Unit :=
  Tx.stmt .sqlite fun db =>
    if m.version ∈ db.rows.map VersionRow.version then .error .sqlite
    else .ok ((), { db with versions := some (db.rows ++ [⟨m.version, m.label, appliedAt⟩]) })

/-- A clock before the epoch is a panic, which drops the transaction. -/
def stampedAt (clock : ℕ → Option ℤ) : Tx (SchemaDb σ) StorageError ℤ := do
  let draw ← Tx.draw
  Tx.ofExcept ((clock draw).elim (.error .clockBeforeEpoch) .ok)

def applyMigration (clock : ℕ → Option ℤ) (m : Migration σ) : Tx (SchemaDb σ) StorageError Unit :=
  Tx.transaction (.migrationFailed m.version .sqlite) (fun before _ => before) do
    (executeBatch m).mapError (.migrationFailed m.version)
    let appliedAt ← stampedAt clock
    (insertVersion m appliedAt).mapError (.migrationFailed m.version)
    pure (.commit, ())

def pendingOf (applied : List ℕ) (migrations : List (Migration σ)) : List (Migration σ) :=
  migrations.filter fun m => !applied.contains m.version

def runMigrationsInner (clock : ℕ → Option ℤ) (migrations : List (Migration σ)) :
    Tx (SchemaDb σ) StorageError Unit := do
  bootstrap
  let applied ← Tx.query .sqlite fun db => db.rows.map VersionRow.version
  let currentVersion := applied.max?.getD 0
  if latestKnown migrations < currentVersion then
    Tx.fail (.schemaVersionAhead currentVersion (latestKnown migrations))
  else Tx.forEach (applyMigration clock) (pendingOf applied migrations)

def runMigrations (clock : ℕ → Option ℤ) (migrations : List (Migration σ)) :
    Tx (SchemaDb σ) StorageError Unit :=
  match firstDisorder migrations with
  | some (first, second) => Tx.fail (.invalidMigrationOrder first second)
  | none => runMigrationsInner clock migrations

/-! ## Runs -/

/-- A call with what it meets from outside. A crash between two statements leaves in the file what a
failure of the second one leaves; `crashed` says that nobody gets the answer. -/
structure MigrationCall (σ : Type) where
  migrations : List (Migration σ)
  clock : ℕ → Option ℤ
  faults : List Bool
  crashed : Bool

def MigrationCall.outcome (call : MigrationCall σ) (db : SchemaDb σ) :
    Option (Except StorageError Unit) × SchemaDb σ :=
  let r := runMigrations call.clock call.migrations { db := db, faults := call.faults }
  (if call.crashed then none else some r.1, r.2.db)

def migrationRun (calls : List (MigrationCall σ)) (db : SchemaDb σ) : SchemaDb σ :=
  calls.foldl (fun db call => (call.outcome db).2) db

end Storage

end EdgeNode
