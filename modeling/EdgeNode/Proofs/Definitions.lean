import EdgeNode.Proofs.Sequences

/-!
# Edits of the stored definitions

An edit that is refused has written nothing: everything it checks, it checks before its first write
(`failed_edit_changes_nothing`). Readings are routed by columns copied from the definition, which
every write of a definition writes too, so that the routing finds the definitions whose input matches
(`definitionsForInput_filters`).
-/

namespace EdgeNode

open Tx PipelineEngine

/-! ## Refused edits -/

def EngineCall.isEdit : EngineCall → Bool
  | .create _ _ | .update _ _ | .delete _ _ | .reset _ _ | .importDefinitions _ _ => true
  | .reconcile _ | .deliver _ => false

section Refused

variable {env : Outside} {engine : PipelineEngine} {definition : PipelineDefinition}
  {db db₀ : PipelineDb} {n : ℕ} {now : InputTime} {α : Type}

def Refused (db₀ : PipelineDb) : EngineError → PipelineDb → ℕ → Prop :=
  fun e db' _ => e.isStorage = true ∨ db' = db₀

def Whatever : α → PipelineDb → ℕ → Prop := fun _ _ _ => True

theorem storageSafe_refused : StorageSafe (Refused db₀) n := fun _ _ _ he _ => .inl he

theorem startSeries_refuses :
    wp (startSeries env engine definition now) Whatever (Refused db₀) db n :=
  startSeries_wp storageSafe_refused fun _ _ _ => trivial

theorem insert_refuses :
    wp (do
      stored (PipelineStore.insertDefinition env.sha256 definition now.uptimeMs)
      startSeries env engine definition now) Whatever (Refused db₀) db n :=
  wp_bind (insertDefinition_wp storageSafe_refused fun _ => startSeries_refuses)

theorem create_refuses : wp (create env engine definition now) Whatever (Refused db) db n := by
  unfold create
  refine wp_bind (wp_ofExcept (fun _ _ => ?_) fun _ _ => .inr rfl)
  refine wp_bind (stored_query storageSafe_refused ?_)
  rcases db.definitions.lookup definition.id with _ | row
  · exact insert_refuses
  · exact wp_fail (.inr rfl)

theorem update_refuses : wp (update env engine definition now) Whatever (Refused db) db n := by
  have hstart : ∀ {db' n'}, wp (some <$> startSeries env engine definition now) Whatever
      (Refused db) db' n' :=
    wp_bind (wp_imp startSeries_refuses fun _ _ _ _ => wp_pure trivial)
  unfold update
  refine wp_bind (wp_ofExcept (fun _ _ => ?_) fun _ _ => .inr rfl)
  refine wp_bind (stored_query storageSafe_refused ?_)
  rcases hrow : db.definitions.lookup definition.id with _ | row
  · exact wp_fail (.inr rfl)
  simp only [Option.map_some]
  by_cases hk : row.definition.kind ≠ definition.kind
  · rw [if_pos hk]
    exact wp_fail (.inr rfl)
  rw [if_neg hk]
  refine wp_bind (updateDefinition_wp hrow storageSafe_refused ?_)
  refine wp_bind (stored_query storageSafe_refused ?_)
  rcases db.states.lookup definition.id with _ | state
  · exact hstart
  · simp only [Option.map_some]
    split_ifs
    · exact wp_pure trivial
    · exact hstart

theorem delete_refuses {id : PipelineId} :
    wp (delete engine id now) Whatever (Refused db) db n := by
  unfold delete
  refine wp_bind (stored_query storageSafe_refused ?_)
  rcases db.definitions.lookup id with _ | row
  · exact wp_fail (.inr rfl)
  · exact wp_bind (deleteDefinition_wp storageSafe_refused fun _ =>
      enqueueDeletion_wp storageSafe_refused fun _ _ => trivial)

theorem reset_refuses {id : PipelineId} :
    wp (reset env engine id now) Whatever (Refused db) db n := by
  unfold reset
  refine wp_bind (stored_query storageSafe_refused ?_)
  rcases db.definitions.lookup id with _ | row
  · exact wp_fail (.inr rfl)
  · exact startSeries_refuses

theorem importDefinitions_refuses {definitions : List PipelineDefinition} :
    wp (importDefinitions env engine definitions now) Whatever (Refused db) db n := by
  unfold importDefinitions
  refine wp_bind (wp_ofExcept (fun _ _ => ?_) fun _ _ => .inr rfl)
  rcases duplicateId definitions [] with _ | id
  · refine wp_bind (stored_query storageSafe_refused ?_)
    refine wp_bind (wp_imp (wp_forEach (I := fun _ _ _ => True) ?_ trivial) fun _ _ _ _ => ?_)
    · intro d _ db' n' _
      refine wp_bind (deleteDefinition_wp storageSafe_refused fun _ => ?_)
      split_ifs
      · exact wp_pure trivial
      · exact enqueueDeletion_wp storageSafe_refused fun _ _ => trivial
    · refine wp_imp (wp_traverse (I := fun _ _ _ => True) ?_ trivial) fun _ _ _ _ => trivial
      intro d _ db' n' _
      exact insert_refuses
  · exact wp_fail (.inr rfl)

theorem perform_refuses (call : EngineCall) (hedit : call.isEdit = true) :
    wp (call.perform env engine) Whatever (Refused db) db n := by
  have hunit : ∀ {α : Type} {m : Tx PipelineDb EngineError α}, wp m Whatever (Refused db) db n →
      wp (m >>= fun _ => pure ()) Whatever (Refused db) db n :=
    fun hm => wp_bind (wp_imp hm fun _ _ _ _ => wp_pure trivial)
  cases call with
  | create definition now => exact hunit create_refuses
  | update definition now => exact hunit update_refuses
  | delete id now => exact delete_refuses
  | reset id now => exact hunit reset_refuses
  | importDefinitions definitions now => exact hunit importDefinitions_refuses
  | reconcile now => exact nomatch hedit
  | deliver reading => exact nomatch hedit

end Refused

/-- An edit that ends with an error that is not one of the database has changed nothing, from any
contents and whatever statements failed. -/
theorem failed_edit_changes_nothing (env : Outside) (engine : PipelineEngine) (call : EngineCall)
    (hedit : call.isEdit = true) (conn : Conn PipelineDb) (e : EngineError)
    (herror : (call.perform env engine conn).1 = .error e) (hstorage : e.isStorage = false) :
    (call.perform env engine conn).2.db = conn.db := by
  have h : wp (call.perform env engine) Whatever (Refused conn.db) conn.db conn.draws :=
    perform_refuses call hedit
  have h := h conn.faults
  rcases hr : call.perform env engine conn with ⟨e' | a, conn'⟩ <;> rw [hr] at h herror
  · simp only [Except.error.injEq] at herror
    subst herror
    exact h.resolve_left (by simp [hstorage])
  · exact nomatch herror

def lid : PipelineDefinition := { door with id := ⟨"lid", by decide⟩ }

def doubled : EngineCall := .importDefinitions [lid, lid] ⟨3, none⟩

theorem doubled_changes_nothing :
    let conn : Conn PipelineDb := ⟨(EngineRun.run unary gate (opened door)).db, [], 1⟩
    (doubled.perform unary gate conn).2.db = conn.db :=
  failed_edit_changes_nothing unary gate doubled rfl _
    (.validation ⟨"duplicate pipeline id lid"⟩) (by decide +kernel) rfl

/-! ## The input columns -/

section Columns

variable {env : Outside} {engine : PipelineEngine} {db db' : PipelineDb} {adapter : String}
  {subject : Option String} {measurementKey : String} {channelIndex : Option ℕ}

def PipelineDb.Indexed (env : Outside) (db : PipelineDb) : Prop :=
  ∀ id row, db.definitions.lookup id = some row → row.definition.id = id ∧ row.Written env

theorem PipelineDb.Indexed.keyed (h : db.Indexed env) : db.Keyed :=
  fun id row hrow => (h id row hrow).1

theorem PipelineDb.Indexed.of_definitions (h : db.Indexed env)
    (hdefs : db'.definitions = db.definitions) : db'.Indexed env := by
  rwa [PipelineDb.Indexed, hdefs]

theorem PipelineDb.Indexed.insert (h : db.Indexed env) {row : DefinitionRow}
    (hrow : row.Written env) : PipelineDb.Indexed env
      { db with definitions := db.definitions.insert row.definition.id row } := by
  intro id r hr
  refine ⟨h.keyed.insert row id r hr, ?_⟩
  by_cases hid : id = row.definition.id
  · subst hid
    rw [AList.lookup_insert, Option.some.injEq] at hr
    exact hr ▸ hrow
  · rw [AList.lookup_insert_ne hid] at hr
    exact (h id r hr).2

theorem PipelineDb.Indexed.erase (h : db.Indexed env) (id : PipelineId) : PipelineDb.Indexed env
    { db with definitions := db.definitions.erase id, states := db.states.erase id } := by
  intro i r hr
  by_cases hi : i = id
  · subst hi
    simp at hr
  · rw [AList.lookup_erase_ne hi] at hr
    exact h i r hr

theorem indexed_closed : EngineClosed env engine fun db _ => db.Indexed env where
  ids h := h.keyed
  renamed _ h := h
  defined _ h hrow _ := h.insert hrow
  deleted h _ _ := h.erase _
  started h _ hs := h.of_definitions hs.definitions
  advanced h _ _ _ ha := h.of_definitions ha.definitions

theorem indexed_run (env : Outside) (engine : PipelineEngine) (steps : List EngineStep) :
    (EngineRun.run env engine steps).db.Indexed env :=
  EngineRun.invariant (I := fun db _ => db.Indexed env) (fun _ _ _ _ h => h) (fun _ _ _ h => h)
    (fun _ _ _ h => h)
    (fun _ c _ _ h => indexed_closed.perform_keeps c h fun _ _ _ =>
      indexed_closed.importDefinitions_keeps (fun id h' => h'.erase id) (fun h' _ => h') h)
    steps EngineRun.init (EngineRun.along_true env engine steps _)
    fun _ _ h => nomatch h

theorem DefinitionRow.Written.routes {row : DefinitionRow} (h : row.Written env) :
    row.routes adapter subject measurementKey channelIndex
      = row.definition.input.matches adapter subject measurementKey channelIndex := by
  rw [h]
  simp only [DefinitionRow.routes, PipelineStore.definitionRow, PipelineInput.matches]
  rcases row.definition.input.subject with _ | want <;> simp

end Columns

/-- After every run, whatever input is asked for: the routing answers what the list of the stored
definitions contains that matches the input, and that list holds each stored definition once, in
the order of the identifiers. -/
theorem definitionsForInput_filters (env : Outside) (engine : PipelineEngine)
    (steps : List EngineStep) (adapter : String) (subject : Option String)
    (measurementKey : String) (channelIndex : Option ℕ) (faults : List Bool) (draws : ℕ) :
    let conn : Conn PipelineDb := ⟨(EngineRun.run env engine steps).db, faults, draws⟩
    PipelineStore.definitionsForInput adapter subject measurementKey channelIndex conn
        = (do
          let definitions ← PipelineStore.listDefinitions
          pure (definitions.filter fun d : PipelineDefinition =>
            d.input.matches adapter subject measurementKey channelIndex)) conn
      ∧ ∀ definitions, (PipelineStore.listDefinitions conn).1 = .ok definitions →
        definitions.Pairwise (fun a b => a.id.value < b.id.value)
          ∧ ∀ d, d ∈ definitions ↔ ∃ row, conn.db.definitions.lookup d.id = some row
            ∧ row.definition = d := by
  intro conn
  have hindexed : conn.db.Indexed env := indexed_run env engine steps
  have hrows : ∀ r ∈ PipelineStore.rowsById conn.db,
      conn.db.definitions.lookup r.1 = some r.2 ∧ r.2.definition.id = r.1 ∧ r.2.Written env :=
    fun r hr => ⟨PipelineStore.mem_rowsById.1 hr, hindexed _ _ (PipelineStore.mem_rowsById.1 hr)⟩
  refine ⟨?_, fun definitions hdefs => ?_⟩
  · have hfilter : ((PipelineStore.rowsById conn.db).filter fun r =>
          r.2.routes adapter subject measurementKey channelIndex).map (fun r => r.2.definition)
        = ((PipelineStore.rowsById conn.db).map fun r => r.2.definition).filter fun d =>
          d.input.matches adapter subject measurementKey channelIndex := by
      rw [List.filter_map]
      exact congrArg _ (List.filter_congr fun r hr => (hrows r hr).2.2.routes)
    by_cases hf : conn.faults.head? = some true
    · exact (query_fails hf).trans (bind_error (query_fails hf)).symm
    · refine (query_succeeds hf).trans (Eq.trans ?_ (bind_ok (query_succeeds hf)).symm)
      rw [hfilter]
      rfl
  · obtain rfl : (PipelineStore.rowsById conn.db).map (fun r => r.2.definition) = definitions := by
      by_cases hf : conn.faults.head? = some true
      · exact nomatch (congrArg Prod.fst (query_fails hf)).symm.trans hdefs
      · exact Except.ok.inj ((congrArg Prod.fst (query_succeeds hf)).symm.trans hdefs)
    refine ⟨List.pairwise_map.2 ?_, fun d => ?_⟩
    · refine (PipelineStore.rowsById_ascending conn.db).imp_of_mem fun {a b} ha hb hab => ?_
      rwa [(hrows a ha).2.1, (hrows b hb).2.1]
    · rw [List.mem_map]
      constructor
      · rintro ⟨r, hr, rfl⟩
        exact ⟨r.2, by rw [(hrows r hr).2.1]; exact (hrows r hr).1, rfl⟩
      · rintro ⟨row, hrow, rfl⟩
        exact ⟨(row.definition.id, row), PipelineStore.mem_rowsById.2 hrow, rfl⟩

end EdgeNode
