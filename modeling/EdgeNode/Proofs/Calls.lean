import EdgeNode.Proofs.EngineSpec

/-!
# What every call of the engine keeps

A call writes in few ways: it stores a definition, deletes one and clears its topic, starts a
series, or advances one. A condition closed under these (`EngineClosed`) holds again after every
call but an import, on success and on every error the caller may still commit.
-/

namespace EdgeNode

open Tx PipelineEngine

section Runs

variable {env : Outside} {engine : PipelineEngine} {I : PipelineDb → ℕ → Prop} {n n' : ℕ}
  {db : PipelineDb}

def Again (I : PipelineDb → ℕ → Prop) (n : ℕ) {α : Type} : α → PipelineDb → ℕ → Prop :=
  fun _ db' n' => n ≤ n' ∧ I db' n'

def AgainUnlessStorage (I : PipelineDb → ℕ → Prop) (n : ℕ) : EngineError → PipelineDb → ℕ → Prop :=
  fun err db' n' => n ≤ n' ∧ (err.isStorage = true ∨ I db' n')

theorem storageSafe_again (h : n ≤ n') : StorageSafe (AgainUnlessStorage I n) n' :=
  fun _ _ _ he hn => ⟨h.trans hn, .inl he⟩

theorem EngineRun.invariant {P : EngineRun → EngineStep → Prop}
    (hmono : ∀ db n n', n ≤ n' → I db n → I db n')
    (hdelivered : ∀ db n seq, I db n → I { db with outbox := db.outbox.delete seq } n)
    (hrolledBack : ∀ (s : EngineRun) (c : EngineCall) faults, I s.db s.draws →
      I s.db (c.perform env engine { db := s.db, faults := faults, draws := s.draws }).2.draws)
    (hcall : ∀ (s : EngineRun) (c : EngineCall) faults, P s (.call c faults true) →
      I s.db s.draws →
      wp (c.perform env engine) (Again I s.draws) (AgainUnlessStorage I s.draws) s.db s.draws) :
    ∀ (steps : List EngineStep) (s : EngineRun), Along env engine P s steps → I s.db s.draws →
      I (steps.foldl (step env engine) s).db (steps.foldl (step env engine) s).draws
  | [], _, _, h => h
  | a :: as, s, hP, h => by
    refine EngineRun.invariant hmono hdelivered hrolledBack hcall as _ hP.2 ?_
    cases a with
    | delivered seq => exact hdelivered _ _ _ h
    | call c faults commit =>
      cases commit with
      | false => exact hrolledBack s c faults h
      | true =>
        have hw := hcall s c faults hP.1 h faults
        rcases hr : c.perform env engine ⟨s.db, faults, s.draws⟩ with ⟨e | _, c'⟩ <;>
          rw [hr] at hw <;> simp only [step, hr, committable, Bool.true_and]
        · rcases hs : e.isStorage with _ | _
          · simpa [hs] using hw.2
          · simpa using hmono _ _ _ hw.1 h
        · exact hw.2

end Runs

/-! ## The calls of the engine -/

def PipelineDb.Stores (db : PipelineDb) (definition : PipelineDefinition) : Prop :=
  ∃ row, db.definitions.lookup definition.id = some row ∧ row.definition = definition

theorem PipelineDb.Stores.kind {db : PipelineDb} {definition : PipelineDefinition}
    (h : db.Stores definition) : ∃ row, db.definitions.lookup definition.id = some row
      ∧ row.definition.kind = definition.kind := by
  obtain ⟨row, hrow, hd⟩ := h
  exact ⟨row, hrow, by rw [hd]⟩

theorem PipelineDb.Keyed.stores_of_mem {db : PipelineDb} (h : db.Keyed)
    {r : PipelineId × DefinitionRow} (hr : r ∈ PipelineStore.rowsById db) :
    db.Stores r.2.definition := by
  have hrow := PipelineStore.mem_rowsById.1 hr
  exact ⟨r.2, by rwa [h r.1 r.2 hrow], rfl⟩

def DefinitionRow.Written (env : Outside) (row : DefinitionRow) : Prop :=
  row = PipelineStore.definitionRow env.sha256 row.definition row.createdAt row.updatedAt

structure SeriesClosed (env : Outside) (engine : PipelineEngine) (I : PipelineDb → ℕ → Prop) :
    Prop where
  ids : ∀ {db n}, I db n → db.Keyed
  renamed : ∀ {db n} edgeNodeId, I db n → I { db with edgeNodeId := edgeNodeId } n
  defined : ∀ {db n} (row : DefinitionRow), I db n → row.Written env →
    (∀ old, db.definitions.lookup row.definition.id = some old →
      old.definition.kind = row.definition.kind) →
    I { db with definitions := db.definitions.insert row.definition.id row } n
  deleted : ∀ {db n id row now outbox}, I db n → db.definitions.lookup id = some row →
    db.outbox.insert (clearRow engine row.definition now) = some outbox →
    I { db with
      definitions := db.definitions.erase id
      states := db.states.erase id
      outbox := outbox } n
  started : ∀ {db db' n definition now}, I db n → db.Stores definition →
    Started env engine definition now n db db' → I db' (n + 1)

structure EngineClosed (env : Outside) (engine : PipelineEngine) (I : PipelineDb → ℕ → Prop) : Prop
    extends SeriesClosed env engine I where
  advanced : ∀ {db db' n definition row input now evaluation next}, I db n →
    db.Stores definition → db.states.lookup definition.id = some row →
    evaluate definition (PipelineStore.stateOfRow row).evaluation input now.uptimeMs
      = .ok (evaluation, next) →
    Advanced engine definition (PipelineStore.stateOfRow row) now evaluation next db db' → I db' n

namespace SeriesClosed

variable {env : Outside} {engine : PipelineEngine} {I : PipelineDb → ℕ → Prop}
  {definition : PipelineDefinition} {db db' : PipelineDb} {n n₀ : ℕ} {now : InputTime} {α : Type}

def Undisturbed (I : PipelineDb → ℕ → Prop) (n₀ : ℕ) (db : PipelineDb) {α : Type} :
    α → PipelineDb → ℕ → Prop :=
  fun _ db' n' => n₀ ≤ n' ∧ I db' n' ∧ db'.definitions = db.definitions

theorem Undisturbed.again {a : α} (h : Undisturbed I n₀ db a db' n) : Again I n₀ a db' n :=
  ⟨h.1, h.2.1⟩

theorem startSeries_keeps (hI : SeriesClosed env engine I) (now : InputTime) (hn : n₀ ≤ n)
    (h : I db n) (hd : db.Stores definition) :
    wp (startSeries env engine definition now) (Undisturbed I n₀ db) (AgainUnlessStorage I n₀)
      db n :=
  startSeries_wp (storageSafe_again hn) fun _ _ hs =>
    ⟨hn.trans (Nat.le_succ n), hI.started h hd hs, hs.definitions⟩

theorem insert_keeps (hI : SeriesClosed env engine I) (hn : n₀ ≤ n) (h : I db n) :
    wp (do
      stored (PipelineStore.insertDefinition env.sha256 definition now.uptimeMs)
      startSeries env engine definition now) (Again I n₀) (AgainUnlessStorage I n₀) db n := by
  refine wp_bind (insertDefinition_wp (storageSafe_again hn) fun hnot => ?_)
  have h' := hI.defined (PipelineStore.definitionRow env.sha256 definition now.uptimeMs
    now.uptimeMs) h rfl fun old hold => nomatch (AList.lookup_eq_none.2 hnot).symm.trans hold
  exact wp_imp (hI.startSeries_keeps now hn h' ⟨_, AList.lookup_insert _, rfl⟩)
    fun _ _ _ h'' => h''.again

theorem continue_keeps (hI : SeriesClosed env engine I) (hn : n₀ ≤ n) (h : I db n)
    (hd : db.Stores definition) :
    wp (do
      match ← stored (PipelineStore.getState definition.id) with
      | some state =>
        if state.structuralHash = definition.structuralHash env.sha256 then pure none
        else some <$> startSeries env engine definition now
      | none => some <$> startSeries env engine definition now)
      (Undisturbed I n₀ db) (AgainUnlessStorage I n₀) db n := by
  have hstart : wp (some <$> startSeries env engine definition now) (Undisturbed I n₀ db)
      (AgainUnlessStorage I n₀) db n :=
    wp_bind (wp_imp (hI.startSeries_keeps now hn h hd) fun _ _ _ h' => wp_pure h')
  refine wp_bind (stored_query (storageSafe_again hn) ?_)
  rcases db.states.lookup definition.id with _ | row <;>
    simp only [Option.map_none, Option.map_some]
  · exact hstart
  · split_ifs
    · exact wp_pure ⟨hn, h, rfl⟩
    · exact hstart

theorem traverse_keeps {f : PipelineDefinition → Tx PipelineDb EngineError α}
    (hf : ∀ d db n, n₀ ≤ n → I db n → db.Stores d →
      wp (f d) (Undisturbed I n₀ db) (AgainUnlessStorage I n₀) db n)
    {ds : List PipelineDefinition} (hn : n₀ ≤ n) (h : I db n) (hds : ∀ d ∈ ds, db.Stores d) :
    wp (Tx.traverse f ds) (Again I n₀) (AgainUnlessStorage I n₀) db n := by
  refine wp_imp (wp_traverse (I := fun ds db n => n₀ ≤ n ∧ I db n ∧ ∀ d ∈ ds, db.Stores d) ?_
    ⟨hn, h, hds⟩) fun _ _ _ h' => ⟨h'.1, h'.2.1⟩
  rintro d ds db' n' ⟨hn', h', hds'⟩
  refine wp_imp (hf d db' n' hn' h' (hds' d List.mem_cons_self)) ?_
  rintro _ db'' n'' ⟨hn'', h'', hdefs⟩
  refine ⟨hn'', h'', fun e he => ?_⟩
  rw [PipelineDb.Stores, hdefs]
  exact hds' e (List.mem_cons_of_mem _ he)

theorem create_keeps (hI : SeriesClosed env engine I) (hn : n₀ ≤ n) (h : I db n) :
    wp (create env engine definition now) (Again I n₀) (AgainUnlessStorage I n₀) db n := by
  unfold create
  refine wp_bind (wp_ofExcept (fun _ _ => ?_) fun _ _ => ⟨hn, .inr h⟩)
  refine wp_bind (stored_query (storageSafe_again hn) ?_)
  rcases db.definitions.lookup definition.id with _ | row
  · exact hI.insert_keeps hn h
  · exact wp_fail ⟨hn, .inr h⟩

theorem update_keeps (hI : SeriesClosed env engine I) (hn : n₀ ≤ n) (h : I db n) :
    wp (update env engine definition now) (Again I n₀) (AgainUnlessStorage I n₀) db n := by
  have hE := storageSafe_again (I := I) hn
  unfold update
  refine wp_bind (wp_ofExcept (fun _ _ => ?_) fun _ _ => ⟨hn, .inr h⟩)
  refine wp_bind (stored_query hE ?_)
  rcases hrow : db.definitions.lookup definition.id with _ | row
  · exact wp_fail ⟨hn, .inr h⟩
  · simp only [Option.map_some]
    split_ifs with hk
    · exact wp_fail ⟨hn, .inr h⟩
    refine wp_bind (updateDefinition_wp hrow hE ?_)
    have h' := hI.defined (PipelineStore.definitionRow env.sha256 definition row.createdAt
      now.uptimeMs) h rfl fun old hold => by
        obtain rfl : row = old := Option.some.inj (hrow.symm.trans hold)
        exact not_not.1 hk
    exact wp_imp (hI.continue_keeps hn h' ⟨_, AList.lookup_insert _, rfl⟩)
      fun _ _ _ h'' => h''.again

theorem delete_keeps (hI : SeriesClosed env engine I) {id : PipelineId} (hn : n₀ ≤ n)
    (h : I db n) :
    wp (delete engine id now) (Again I n₀) (AgainUnlessStorage I n₀) db n := by
  have hE := storageSafe_again (I := I) hn
  unfold delete
  refine wp_bind (stored_query hE ?_)
  rcases hrow : db.definitions.lookup id with _ | row
  · exact wp_fail ⟨hn, .inr h⟩
  · refine wp_bind (deleteDefinition_wp hE fun _ => enqueueDeletion_wp hE fun outbox ho => ?_)
    exact ⟨hn, hI.deleted h hrow ho⟩

theorem reset_keeps (hI : SeriesClosed env engine I) {id : PipelineId} (hn : n₀ ≤ n) (h : I db n) :
    wp (reset env engine id now) (Again I n₀) (AgainUnlessStorage I n₀) db n := by
  unfold reset
  refine wp_bind (stored_query (storageSafe_again hn) ?_)
  rcases hrow : db.definitions.lookup id with _ | row
  · exact wp_fail ⟨hn, .inr h⟩
  · refine wp_imp (hI.startSeries_keeps now hn h ⟨row, ?_, rfl⟩) fun _ _ _ h' => h'.again
    rwa [hI.ids h _ _ hrow]

theorem reconcile_keeps (hI : SeriesClosed env engine I) (hn : n₀ ≤ n) (h : I db n) :
    wp (reconcile env engine now) (Again I n₀) (AgainUnlessStorage I n₀) db n := by
  have h' := hI.renamed (some engine.edgeNodeId) h
  unfold reconcile
  refine wp_bind (wp_mapError (wp_exec (storageSafe_again hn _ _ _ rfl le_rfl) ?_))
  refine wp_bind (stored_query (storageSafe_again hn) (wp_bind (wp_imp (traverse_keeps
    (fun d db n hn h hd => hI.continue_keeps hn h hd) hn h' fun d hd => ?_)
    fun _ _ _ h'' => wp_pure h'')))
  obtain ⟨r, hr, rfl⟩ := List.mem_map.1 hd
  exact (hI.ids h').stores_of_mem hr

theorem importDefinitions_keeps (hI : SeriesClosed env engine I)
    (herased : ∀ {db n} id, I db n →
      I { db with definitions := db.definitions.erase id, states := db.states.erase id } n)
    (hcleared : ∀ {db n definition now outbox}, I db n →
      db.outbox.insert (clearRow engine definition now) = some outbox →
      I { db with outbox := outbox } n)
    {definitions : List PipelineDefinition} (h : I db n) :
    wp (importDefinitions env engine definitions now) (Again I n) (AgainUnlessStorage I n) db n := by
  unfold importDefinitions
  refine wp_bind (wp_ofExcept (fun _ _ => ?_) fun _ _ => ⟨le_rfl, .inr h⟩)
  split
  · exact wp_fail ⟨le_rfl, .inr h⟩
  refine wp_bind (stored_query (storageSafe_again le_rfl) (wp_bind (wp_imp (wp_forEach
    (I := fun _ => Again I n ()) ?_ ⟨le_rfl, h⟩) ?_)))
  · rintro d _ db' n' ⟨hn', h'⟩
    refine wp_bind (deleteDefinition_wp (storageSafe_again hn') fun _ => ?_)
    split_ifs
    · exact wp_pure ⟨hn', herased _ h'⟩
    · exact enqueueDeletion_wp (storageSafe_again hn') fun outbox ho =>
        ⟨hn', hcleared (herased _ h') ho⟩
  · rintro _ db' n' ⟨hn', h'⟩
    refine wp_traverse (I := fun _ => Again I n ()) ?_ ⟨hn', h'⟩
    rintro d _ db' n' ⟨hn', h'⟩
    exact hI.insert_keeps hn' h'

theorem perform_keeps (hI : SeriesClosed env engine I) (call : EngineCall) (h : I db n)
    (himport : ∀ definitions now, call = .importDefinitions definitions now →
      wp (importDefinitions env engine definitions now) (Again I n) (AgainUnlessStorage I n) db n)
    (hdeliver : ∀ reading, call = .deliver reading →
      wp (deliver env engine reading) (Again I n) (AgainUnlessStorage I n) db n) :
    wp (call.perform env engine) (Again I n) (AgainUnlessStorage I n) db n := by
  have hunit : ∀ {α : Type} {m : Tx PipelineDb EngineError α},
      wp m (Again I n) (AgainUnlessStorage I n) db n →
      wp (m >>= fun _ => pure ()) (Again I n) (AgainUnlessStorage I n) db n :=
    fun hm => wp_bind (wp_imp hm fun _ _ _ h' => wp_pure h')
  cases call with
  | create definition now => exact hunit (hI.create_keeps le_rfl h)
  | update definition now => exact hunit (hI.update_keeps le_rfl h)
  | delete id now => exact hI.delete_keeps le_rfl h
  | reset id now => exact hunit (hI.reset_keeps le_rfl h)
  | importDefinitions definitions now => exact hunit (himport definitions now rfl)
  | reconcile now => exact hunit (hI.reconcile_keeps le_rfl h)
  | deliver reading => exact hunit (hdeliver reading rfl)

end SeriesClosed

namespace EngineClosed

open SeriesClosed

variable {env : Outside} {engine : PipelineEngine} {I : PipelineDb → ℕ → Prop}
  {definition : PipelineDefinition} {db : PipelineDb} {n n₀ : ℕ} {now : InputTime}

theorem process_keeps (hI : EngineClosed env engine I) {input : F64} (hn : n₀ ≤ n) (h : I db n)
    (hd : db.Stores definition) :
    wp (process env engine definition input now) (Undisturbed I n₀ db)
      (fun e db' n' => n₀ ≤ n' ∧ (e.isStorage = true
        ∨ (I db' n' ∧ db'.definitions = db.definitions))) db n := by
  have hE : ∀ {n}, n₀ ≤ n → StorageSafe (fun e db' n' => n₀ ≤ n' ∧ (e.isStorage = true
      ∨ (I db' n' ∧ db'.definitions = db.definitions))) n :=
    fun hn _ _ _ he hn' => ⟨hn.trans hn', .inl he⟩
  unfold process
  refine wp_bind (usableState_wp (hE hn) (fun row hs => ?_) fun db' row hst hs => ?_)
  · refine advance_wp (hE hn) (fun _ => ⟨hn, .inr ⟨h, rfl⟩⟩) fun _ _ _ _ hv ha => ?_
    exact ⟨hn, hI.advanced h hd hs hv ha, ha.definitions⟩
  · have h' := hI.started h hd hst
    have hdefs := hst.definitions
    have hn' := hn.trans (Nat.le_succ n)
    refine advance_wp (hE hn') (fun _ => ⟨hn', .inr ⟨h', hdefs⟩⟩) fun _ _ _ _ hv ha => ?_
    exact ⟨hn', hI.advanced h' (by rwa [PipelineDb.Stores, hdefs]) hs hv ha,
      ha.definitions.trans hdefs⟩

theorem deliver_keeps (hI : EngineClosed env engine I) {reading : AcceptedReading}
    (hn : n₀ ≤ n) (h : I db n) :
    wp (deliver env engine reading) (Again I n₀) (AgainUnlessStorage I n₀) db n := by
  unfold deliver
  refine wp_bind (stored_query (storageSafe_again hn) (traverse_keeps ?_ hn h ?_))
  · intro d db n hn h hd
    unfold deliverTo
    refine wp_bind (wp_attempt ?_)
    split
    · exact wp_fail (wp_pure ⟨hn, h, rfl⟩)
    · refine wp_mono (hI.process_keeps hn h hd) (fun _ _ _ h' => wp_pure h') ?_
      rintro e db' n' ⟨hn', h'⟩
      dsimp only
      split_ifs with he
      · exact wp_fail ⟨hn', .inl he⟩
      · exact wp_pure ⟨hn', h'.resolve_left he⟩
  · intro d hd
    obtain ⟨r, hr, rfl⟩ := List.mem_map.1 hd
    exact (hI.ids h).stores_of_mem (List.mem_filter.1 hr).1

theorem perform_keeps (hI : EngineClosed env engine I) (call : EngineCall) (h : I db n)
    (himport : ∀ definitions now, call = .importDefinitions definitions now →
      wp (importDefinitions env engine definitions now) (Again I n) (AgainUnlessStorage I n) db n) :
    wp (call.perform env engine) (Again I n) (AgainUnlessStorage I n) db n :=
  hI.toSeriesClosed.perform_keeps call h himport fun _ _ => hI.deliver_keeps le_rfl h

end EngineClosed

end EdgeNode
