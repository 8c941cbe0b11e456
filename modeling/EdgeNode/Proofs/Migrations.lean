import EdgeNode.Storage.Migrate

/-!
# Every migration once

The scripts that have been committed and the rows of the versions grow together, one migration at a
time. So whatever lists a database was opened with, and wherever a run was cut short, the tables are
what the committed scripts make of the tables it began with.
-/

namespace EdgeNode

namespace Storage

open Tx

variable {σ : Type} {start : σ} {db db' : SchemaDb σ} {m : Migration σ}
  {migrations : List (Migration σ)} {clock : ℕ → Option ℤ} {n : ℕ} {known : Migration σ → Prop}

def Migration.apply (m : Migration σ) (tables : σ) : Option σ :=
  m.sql.foldlM (fun tables statement => statement tables) tables

def replay (scripts : List (Migration σ)) (tables : σ) : Option σ :=
  scripts.foldlM (fun tables m => m.apply tables) tables

structure Applied (start : σ) (known : Migration σ → Prop) (db : SchemaDb σ) : Prop where
  rows : db.rows.map VersionRow.version = db.committed.map Migration.version
  once : (db.committed.map Migration.version).Nodup
  tables : replay db.committed start = some db.tables
  listed : ∀ m ∈ db.committed, known m

theorem Applied.fresh : Applied start known (.fresh start) := ⟨rfl, .nil, rfl, by simp [SchemaDb.fresh]⟩

theorem executeBatch_wp :
    wp (executeBatch m) (fun _ db' _ => ∃ tables, m.apply db.tables = some tables
      ∧ db' = { db with tables := tables, committed := db.committed ++ [m] })
      (fun _ _ _ => True) db n := by
  unfold executeBatch
  -- The statements left make of the tables so far what the whole script makes of the first ones.
  refine wp_bind (wp_imp (wp_forEach (I := fun rest db' _ => ∃ tables,
      db' = { db with tables := tables }
        ∧ rest.foldlM (fun tables statement => statement tables) tables = m.apply db.tables)
    (fun statement rest db₁ _ h => ?_) ⟨db.tables, rfl, rfl⟩) fun _ db₁ _ h => wp_modify ?_)
  · obtain ⟨tables, rfl, hrest⟩ := h
    refine wp_stmt trivial (fun _ db₂ hstep => ?_) fun _ _ => trivial
    cases hs : statement tables with
    | none =>
      rw [hs] at hstep
      cases hstep
    | some tables' =>
      rw [hs] at hstep
      obtain ⟨-, rfl⟩ := Prod.mk.inj (Except.ok.inj hstep)
      refine ⟨tables', rfl, ?_⟩
      rw [← hrest, List.foldlM_cons, hs]
      rfl
  · obtain ⟨tables, rfl, hrest⟩ := h
    exact ⟨tables, hrest.symm, rfl⟩

theorem applyMigration_wp (h : Applied start known db) (hm : known m) :
    wp (applyMigration clock m)
      (fun _ db' _ => Applied start known db' ∧ db'.committed = db.committed ++ [m])
      (fun _ db' _ => db' = db) db n := by
  refine wp_transaction rfl (wp_bind (wp_mapError (wp_mono executeBatch_wp (fun _ db₁ _ h₁ => ?_)
    fun _ _ _ _ => rfl)))
  obtain ⟨tables, htables, rfl⟩ := h₁
  refine wp_bind (wp_bind (wp_draw (wp_ofExcept (fun appliedAt _ => ?_) fun _ _ => rfl)))
  refine wp_bind (wp_mapError (wp_stmt rfl (fun _ db₂ hinsert => wp_pure ?_) fun _ _ => rfl))
  split_ifs at hinsert with hpresent
  obtain ⟨-, rfl⟩ := Prod.mk.inj (Except.ok.inj hinsert)
  refine ⟨⟨⟨?_, ?_, ?_, ?_⟩, rfl⟩, rfl⟩
  · show ((db.rows ++ [_]).map VersionRow.version) = _
    rw [List.map_append, List.map_append, h.rows]
    rfl
  · have hfresh : m.version ∉ db.committed.map Migration.version := by
      rw [← h.rows]
      exact hpresent
    rw [List.map_append, List.nodup_append]
    refine ⟨h.once, List.nodup_singleton _, fun a ha b hb heq => ?_⟩
    rw [List.map_singleton, List.mem_singleton] at hb
    exact hfresh (hb ▸ heq ▸ ha)
  · show replay (db.committed ++ [m]) start = some tables
    unfold replay
    rw [List.foldlM_append]
    show (replay db.committed start).bind _ = _
    rw [h.tables]
    simp [htables]
  · intro m' hm'
    rcases List.mem_append.1 hm' with hm' | hm'
    · exact h.listed m' hm'
    · exact List.mem_singleton.1 hm' ▸ hm

theorem applyAll_wp :
    ∀ {ms : List (Migration σ)} {db : SchemaDb σ} {n : ℕ}, Applied start known db →
      (∀ m ∈ ms, known m) →
      wp (Tx.forEach (applyMigration clock) ms)
        (fun _ db' _ => Applied start known db' ∧ db'.committed = db.committed ++ ms)
        (fun _ db' _ => Applied start known db') db n
  | [], _, _, h, _ => wp_pure ⟨h, (List.append_nil _).symm⟩
  | m :: ms, db, n, h, hknown => by
    have hm := hknown m List.mem_cons_self
    refine wp_bind (wp_mono (applyMigration_wp h hm) (fun _ db₁ _ h₁ => ?_) fun _ _ _ h₁ => h₁ ▸ h)
    have hms : ∀ m' ∈ ms, known m' := fun m' hm' => hknown m' (List.mem_cons_of_mem _ hm')
    refine wp_imp (applyAll_wp h₁.1 hms) fun _ db₂ _ h₂ => ⟨h₂.1, ?_⟩
    rw [h₂.2, h₁.2, List.append_assoc]
    rfl

theorem bootstrap_of_ahead {v : ℕ} (h : v < db.currentVersion) :
    { db with versions := some db.rows } = db := by
  obtain ⟨tables, versions, committed⟩ := db
  cases versions with
  | none => simp [SchemaDb.currentVersion, SchemaDb.rows] at h
  | some rows => rfl

theorem runMigrations_wp (h : Applied start known db) (hknown : ∀ m ∈ migrations, known m) :
    wp (runMigrations clock migrations)
      (fun _ db' _ => Applied start known db' ∧ db.currentVersion ≤ latestKnown migrations
        ∧ ∀ m ∈ migrations, m.version ∈ db'.rows.map VersionRow.version)
      (fun _ db' _ => Applied start known db'
        ∧ (latestKnown migrations < db.currentVersion → db' = db)) db n := by
  unfold runMigrations
  split
  · exact wp_fail ⟨h, fun _ => rfl⟩
  · refine wp_bind (wp_exec ⟨h, fun _ => rfl⟩ (wp_bind (wp_query ?_ ?_)))
    · exact ⟨⟨h.rows, h.once, h.tables, h.listed⟩, bootstrap_of_ahead⟩
    · have hbooted : Applied start known { db with versions := some db.rows } :=
        ⟨h.rows, h.once, h.tables, h.listed⟩
      dsimp only
      split_ifs with hahead
      · exact wp_fail ⟨hbooted, bootstrap_of_ahead⟩
      · have hpending : ∀ m ∈ pendingOf (db.rows.map VersionRow.version) migrations, known m :=
          fun m hm => hknown m (List.mem_of_mem_filter hm)
        refine wp_mono (applyAll_wp hbooted hpending) (fun _ db' _ h' => ⟨h'.1, not_lt.1 hahead, ?_⟩)
          fun _ _ _ h' => ⟨h', fun hlt => absurd hlt hahead⟩
        intro m hm
        rw [h'.1.rows, h'.2, List.map_append, List.mem_append, ← hbooted.rows]
        by_cases hdone : m.version ∈ db.rows.map VersionRow.version
        · exact .inl hdone
        · refine .inr (List.mem_map_of_mem (List.mem_filter.2 ⟨hm, ?_⟩))
          show (!(db.rows.map VersionRow.version).contains m.version) = true
          simpa using hdone

theorem outcome_applied (call : MigrationCall σ) (h : Applied start known db)
    (hknown : ∀ m ∈ call.migrations, known m) :
    Applied start known (call.outcome db).2
      ∧ ((call.outcome db).1 = some (.ok ()) →
        ∀ m ∈ call.migrations, m.version ∈ (call.outcome db).2.rows.map VersionRow.version)
      ∧ (latestKnown call.migrations < db.currentVersion →
        (call.outcome db).1 ≠ some (.ok ()) ∧ (call.outcome db).2 = db) := by
  have hrun := @runMigrations_wp σ start db call.migrations call.clock 0 known h hknown call.faults
  unfold MigrationCall.outcome
  rcases hr : runMigrations call.clock call.migrations ⟨db, call.faults, 0⟩ with ⟨e | u, conn⟩ <;>
    rw [hr] at hrun <;> dsimp only
  · refine ⟨hrun.1, fun hok => ?_, fun hahead => ⟨fun hok => ?_, hrun.2 hahead⟩⟩
    all_goals
      split_ifs at hok
      cases hok
  · exact ⟨hrun.1, fun _ => hrun.2.2, fun hahead => absurd hahead (not_lt.2 hrun.2.1)⟩

theorem outcome_ahead (call : MigrationCall σ) (hascending : firstDisorder call.migrations = none)
    (hfaults : call.faults = []) (hcrashed : call.crashed = false)
    (hahead : latestKnown call.migrations < db.currentVersion) :
    (call.outcome db).1
      = some (.error (.schemaVersionAhead db.currentVersion (latestKnown call.migrations))) := by
  have hrun : (runMigrations call.clock call.migrations ⟨db, [], 0⟩).1
      = .error (.schemaVersionAhead db.currentVersion (latestKnown call.migrations)) := by
    have hboot : (bootstrap : Tx (SchemaDb σ) StorageError Unit) ⟨db, [], 0⟩
        = (.ok (), ⟨{ db with versions := some db.rows }, [], 0⟩) := rfl
    have hquery : (Tx.query StorageError.sqlite fun db : SchemaDb σ => db.rows.map VersionRow.version)
        ⟨{ db with versions := some db.rows }, [], 0⟩
        = (.ok (db.rows.map VersionRow.version),
          ⟨{ db with versions := some db.rows }, [], 0⟩) := rfl
    unfold SchemaDb.currentVersion at hahead ⊢
    simp only [runMigrations, hascending, runMigrationsInner]
    rw [bind_ok hboot, bind_ok hquery, if_pos hahead]
    rfl
  unfold MigrationCall.outcome
  dsimp only
  rw [hfaults, hrun, hcrashed]
  rfl

theorem migrationRun_applied :
    ∀ {calls : List (MigrationCall σ)} {db : SchemaDb σ}, Applied start known db →
      (∀ call ∈ calls, ∀ m ∈ call.migrations, known m) →
      Applied start known (migrationRun calls db)
  | [], _, h, _ => h
  | call :: calls, db, h, hknown => by
    have hcall := (outcome_applied call h (hknown call List.mem_cons_self)).1
    show Applied start known (migrationRun calls (call.outcome db).2)
    exact migrationRun_applied hcall fun c hc => hknown c (List.mem_cons_of_mem _ hc)

/-- However a new database is opened, with whatever lists, failures and crashes: the scripts that ran
are those with a version row, each once, and they make up the tables. If the lists mean the same
migration by a version, a listed one has been committed if and only if its row is there. A run that
succeeds has all it lists applied, and one that finds the database ahead leaves it as it is. -/
theorem migrations_apply_once (start : σ) (calls : List (MigrationCall σ)) :
    let db := migrationRun calls (.fresh start)
    ((db.committed.map Migration.version).Nodup
        ∧ (∀ v, v ∈ db.rows.map VersionRow.version ↔ ∃ m ∈ db.committed, m.version = v)
        ∧ replay db.committed start = some db.tables
        ∧ ∀ m ∈ db.committed, ∃ call ∈ calls, m ∈ call.migrations)
      ∧ ((∀ call ∈ calls, ∀ m ∈ call.migrations, ∀ call' ∈ calls, ∀ m' ∈ call'.migrations,
          m.version = m'.version → m = m') →
        ∀ call ∈ calls, ∀ m ∈ call.migrations,
          (m ∈ db.committed ↔ m.version ∈ db.rows.map VersionRow.version))
      ∧ ∀ call : MigrationCall σ,
        ((call.outcome db).1 = some (.ok ()) →
          ∀ m ∈ call.migrations, m.version ∈ (call.outcome db).2.rows.map VersionRow.version)
        ∧ (latestKnown call.migrations < db.currentVersion →
          (call.outcome db).1 ≠ some (.ok ()) ∧ (call.outcome db).2 = db
            ∧ (firstDisorder call.migrations = none → call.faults = [] → call.crashed = false →
              (call.outcome db).1 = some (.error (.schemaVersionAhead db.currentVersion
                (latestKnown call.migrations))))) := by
  intro db
  have happlied : Applied start (fun m => ∃ call ∈ calls, m ∈ call.migrations) db :=
    migrationRun_applied .fresh fun call hcall m hm => ⟨call, hcall, hm⟩
  have hrows : ∀ v, v ∈ db.rows.map VersionRow.version ↔ ∃ m ∈ db.committed, m.version = v := by
    intro v
    rw [happlied.rows, List.mem_map]
  refine ⟨⟨happlied.once, hrows, happlied.tables, happlied.listed⟩, fun hagree call hcall m hm => ?_,
    fun call => ?_⟩
  · rw [hrows]
    refine ⟨fun hcommitted => ⟨m, hcommitted, rfl⟩, ?_⟩
    rintro ⟨m', hm', hversion⟩
    obtain ⟨call', hcall', hlisted⟩ := happlied.listed m' hm'
    exact hagree call' hcall' m' hlisted call hcall m hm hversion ▸ hm'
  · have hanything : Applied start (fun _ => True) db :=
      ⟨happlied.rows, happlied.once, happlied.tables, fun _ _ => trivial⟩
    obtain ⟨-, hok, hahead⟩ := outcome_applied call hanything fun _ _ => trivial
    exact ⟨hok, fun hlt => ⟨(hahead hlt).1, (hahead hlt).2, fun hascending hfaults hcrashed =>
      outcome_ahead call hascending hfaults hcrashed hlt⟩⟩

end Storage

end EdgeNode
