import EdgeNode.Proofs.Sequences

/-!
# Which topics keep a retained value

Each call leaves retained values only on the topics of stored pipelines, except that an import
clears by identifier: a pipeline that it gives another kind keeps the topic of the old kind
(`import_leaves_rekinded_value`).
-/

namespace EdgeNode

open Tx PipelineEngine

/-! ## Owners of the retained values -/

section Owners

variable {env : Outside} {engine : PipelineEngine} {definition : PipelineDefinition}
  {db db' : PipelineDb} {n : ℕ} {now : InputTime} {own own' : PipelineId → PipelineKind → Prop}
  {id : PipelineId} {kind : PipelineKind} {r : OutboxRow} {outbox : AutoTable OutboxRow}

def RetainedWithin (engine : PipelineEngine) (own : PipelineId → PipelineKind → Prop)
    (db : PipelineDb) : Prop :=
  ∀ topic p, retainedValues db.outbox.ever topic = some p →
    ∃ id kind, own id kind ∧ topic = observationTopic engine.edgeNodeId id kind

def PipelineDb.Holds (db : PipelineDb) (id : PipelineId) (kind : PipelineKind) : Prop :=
  ∃ row, db.definitions.lookup id = some row ∧ row.definition.kind = kind

def Listed (definitions : List PipelineDefinition) (id : PipelineId) (kind : PipelineKind) : Prop :=
  ∃ d ∈ definitions, d.id = id ∧ d.kind = kind

theorem retainedValues_insert (h : db.outbox.insert r = some outbox) (hr : r.retain = true) :
    retainedValues outbox.ever = Function.update (retainedValues db.outbox.ever) r.topic r.payload := by
  rw [(AutoTable.insert_eq_some h).2.2.1, retainedValues, List.foldl_append]
  simp [Broker.apply, hr, retainedValues]

theorem RetainedWithin.mono (h : RetainedWithin engine own db)
    (hown : ∀ id kind, own id kind → own' id kind) : RetainedWithin engine own' db := by
  intro topic p hp
  obtain ⟨id, kind, ho, htopic⟩ := h topic p hp
  exact ⟨id, kind, hown id kind ho, htopic⟩

theorem RetainedWithin.enqueued (h : RetainedWithin engine own db)
    (ho : db.outbox.insert r = some outbox) (hr : r.retain = true)
    (htopic : r.topic = observationTopic engine.edgeNodeId id kind) (hown : own id kind)
    (hdb : db'.outbox = outbox) : RetainedWithin engine own db' := by
  intro topic p hp
  rw [hdb, retainedValues_insert ho hr, Function.update_apply] at hp
  split_ifs at hp with ht
  · exact ⟨id, kind, hown, ht.trans htopic⟩
  · exact h topic p hp

theorem RetainedWithin.cleared (h : RetainedWithin engine own db)
    (ho : db.outbox.insert (clearRow engine definition now) = some outbox)
    (hdb : db'.outbox = outbox)
    (hown : ∀ id kind, own id kind → observationTopic engine.edgeNodeId id kind
      ≠ observationTopic engine.edgeNodeId definition.id definition.kind → own' id kind) :
    RetainedWithin engine own' db' := by
  intro topic p hp
  rw [hdb, retainedValues_insert ho rfl, Function.update_apply] at hp
  split_ifs at hp with ht
  · cases hp
  · obtain ⟨id, kind, hid, rfl⟩ := h topic p hp
    exact ⟨id, kind, hown id kind hid ht, rfl⟩

theorem RetainedWithin.started (h : RetainedWithin engine own db)
    (hown : own definition.id definition.kind) (hs : Started env engine definition now n db db') :
    RetainedWithin engine own db' := by
  unfold Started at hs
  split_ifs at hs with hk
  · obtain ⟨outbox, ho, rfl⟩ := hs
    rw [hk] at hown
    exact h.enqueued ho rfl rfl hown rfl
  · subst hs
    exact h

theorem RetainedWithin.advanced {state : PipelineState} {evaluation : Evaluation}
    {next : EvaluationState} (h : RetainedWithin engine own db)
    (hown : own definition.id definition.kind)
    (ha : Advanced engine definition state now evaluation next db db') :
    RetainedWithin engine own db' := by
  unfold Advanced at ha
  rcases hv : observedValue definition.kind evaluation with _ | value <;> simp only [hv] at ha
  · subst ha
    exact h
  · obtain ⟨outbox, ho, rfl⟩ := ha
    exact h.enqueued ho rfl rfl (observedValue_kind hv ▸ hown) rfl

end Owners

/-! ## The calls but an import -/

structure RetainedInv (engine : PipelineEngine) (db : PipelineDb) : Prop where
  ids : db.Keyed
  owned : RetainedWithin engine db.Holds db

section Keeps

variable {env : Outside} {engine : PipelineEngine} {db db' : PipelineDb} {n : ℕ} {now : InputTime}
  {definitions : List PipelineDefinition} {row : DefinitionRow} {id : PipelineId}
  {kind : PipelineKind}

theorem PipelineDb.Holds.insert (row : DefinitionRow)
    (hkind : ∀ old, db.definitions.lookup row.definition.id = some old →
      old.definition.kind = row.definition.kind) (h : db.Holds id kind) :
    PipelineDb.Holds
      { db with definitions := db.definitions.insert row.definition.id row } id kind := by
  obtain ⟨old, hold, rfl⟩ := h
  by_cases hi : id = row.definition.id
  · subst hi
    exact ⟨row, AList.lookup_insert _, (hkind old hold).symm⟩
  · exact ⟨old, by rwa [AList.lookup_insert_ne hi], rfl⟩

theorem RetainedInv.deleted (h : RetainedInv engine db) {outbox : AutoTable OutboxRow}
    (hrow : db.definitions.lookup id = some row)
    (ho : db.outbox.insert (clearRow engine row.definition now) = some outbox) :
    RetainedInv engine { db with
      definitions := db.definitions.erase id
      states := db.states.erase id
      outbox := outbox } where
  ids := h.ids.erase id
  owned := by
    refine h.owned.cleared ho rfl fun i kind hi htopic => ?_
    obtain ⟨r, hr, rfl⟩ := hi
    have hne : i ≠ id := by
      rintro rfl
      rw [hrow, Option.some.injEq] at hr
      rw [← hr, h.ids i row hrow] at htopic
      exact htopic rfl
    exact ⟨r, by rwa [AList.lookup_erase_ne hne], rfl⟩

theorem RetainedInv.of_definitions (h : RetainedInv engine db)
    (hdefs : db'.definitions = db.definitions) (howned : RetainedWithin engine db.Holds db') :
    RetainedInv engine db' where
  ids := by rw [PipelineDb.Keyed, hdefs]; exact h.ids
  owned := howned.mono fun id kind hid => by rwa [PipelineDb.Holds, hdefs]

theorem retainedInv_closed : EngineClosed env engine fun db _ => RetainedInv engine db where
  ids h := h.ids
  renamed _ h := ⟨h.ids, h.owned⟩
  defined _ h _ hkind := ⟨h.ids.insert _, h.owned.mono fun _ _ hid => hid.insert _ hkind⟩
  deleted h hrow ho := h.deleted hrow ho
  started h hd hs := h.of_definitions hs.definitions (h.owned.started hd.kind hs)
  advanced h hd _ _ ha := h.of_definitions ha.definitions (h.owned.advanced hd.kind ha)

/-! ## An import -/

structure Deleting (engine : PipelineEngine) (definitions rest : List PipelineDefinition)
    (db : PipelineDb) : Prop where
  ids : db.Keyed
  owned : RetainedWithin engine
    (fun id kind => Listed rest id kind ∨ Listed definitions id kind) db
  rekinded : ∀ d ∈ rest, d.id ∈ definitions.map PipelineDefinition.id →
    Listed definitions d.id d.kind
      ∨ retainedValues db.outbox.ever (observationTopic engine.edgeNodeId d.id d.kind) = none

theorem Deleting.kept {d : PipelineDefinition} {rest : List PipelineDefinition}
    (h : Deleting engine definitions (d :: rest) db)
    (hd : d.id ∈ definitions.map PipelineDefinition.id) :
    Deleting engine definitions rest
      { db with definitions := db.definitions.erase d.id, states := db.states.erase d.id } where
  ids := h.ids.erase d.id
  owned := by
    intro topic p hp
    obtain ⟨id, kind, ⟨e, he, rfl, rfl⟩ | hid, rfl⟩ := h.owned topic p hp
    · rcases List.mem_cons.1 he with rfl | he
      · rcases h.rekinded e List.mem_cons_self hd with hl | hnone
        · exact ⟨_, _, .inr hl, rfl⟩
        · exact nomatch hnone.symm.trans hp
      · exact ⟨_, _, .inl ⟨e, he, rfl, rfl⟩, rfl⟩
    · exact ⟨id, kind, .inr hid, rfl⟩
  rekinded e he := h.rekinded e (List.mem_cons_of_mem _ he)

theorem Deleting.cleared {d : PipelineDefinition} {rest : List PipelineDefinition}
    {outbox : AutoTable OutboxRow} (h : Deleting engine definitions (d :: rest) db)
    (ho : db.outbox.insert (clearRow engine d now) = some outbox) :
    Deleting engine definitions rest
      { db with
        definitions := db.definitions.erase d.id
        states := db.states.erase d.id
        outbox := outbox } where
  ids := h.ids.erase d.id
  owned := by
    refine h.owned.cleared ho rfl fun id kind hid htopic => ?_
    rcases hid with ⟨e, he, rfl, rfl⟩ | hid
    · rcases List.mem_cons.1 he with rfl | he
      · exact absurd rfl htopic
      · exact .inl ⟨e, he, rfl, rfl⟩
    · exact .inr hid
  rekinded e he hin := by
    rcases h.rekinded e (List.mem_cons_of_mem _ he) hin with hl | hnone
    · exact .inl hl
    · refine .inr ?_
      change retainedValues outbox.ever _ = none
      rw [retainedValues_insert ho rfl, Function.update_apply]
      split_ifs
      · rfl
      · exact hnone

structure Inserting (engine : PipelineEngine) (rest : List PipelineDefinition) (db : PipelineDb) :
    Prop where
  ids : db.Keyed
  owned : RetainedWithin engine (fun id kind => db.Holds id kind ∨ Listed rest id kind) db

theorem Inserting.inserted {d : PipelineDefinition} {rest : List PipelineDefinition}
    (h : Inserting engine (d :: rest) db) (hnot : d.id ∉ db.definitions) (time : ℤ) :
    Inserting engine rest { db with
      definitions := db.definitions.insert d.id
        (PipelineStore.definitionRow env.sha256 d time time) } where
  ids := h.ids.insert (PipelineStore.definitionRow env.sha256 d time time)
  owned := by
    refine h.owned.mono fun id kind hid => ?_
    rcases hid with hid | ⟨e, he, rfl, rfl⟩
    · refine .inl (hid.insert (PipelineStore.definitionRow env.sha256 d time time)
        fun old hold => ?_)
      exact nomatch (AList.lookup_eq_none.2 hnot).symm.trans hold
    · rcases List.mem_cons.1 he with rfl | he
      · exact .inl ⟨_, AList.lookup_insert _, rfl⟩
      · exact .inr ⟨e, he, rfl, rfl⟩

theorem Inserting.started {d : PipelineDefinition} {rest : List PipelineDefinition}
    (h : Inserting engine rest db) (hd : db.Holds d.id d.kind)
    (hs : Started env engine d now n db db') : Inserting engine rest db' where
  ids := by rw [PipelineDb.Keyed, hs.definitions]; exact h.ids
  owned := by
    refine (h.owned.started (.inl hd) hs).mono fun id kind hid => ?_
    rwa [PipelineDb.Holds, hs.definitions]

/-- An import gives no stored pipeline with a retained value another kind. -/
def KeepsKinds (engine : PipelineEngine) (db : PipelineDb)
    (definitions : List PipelineDefinition) : Prop :=
  ∀ d ∈ definitions, ∀ row, db.definitions.lookup d.id = some row →
    row.definition.kind ≠ d.kind →
    retainedValues db.outbox.ever
      (observationTopic engine.edgeNodeId d.id row.definition.kind) = none

theorem RetainedInv.deleting (h : RetainedInv engine db)
    (hkinds : KeepsKinds engine db definitions) :
    Deleting engine definitions
      ((PipelineStore.rowsById db).map fun r => r.2.definition) db where
  ids := h.ids
  owned := by
    refine h.owned.mono fun id kind hid => .inl ?_
    obtain ⟨row, hrow, rfl⟩ := hid
    refine ⟨row.definition, List.mem_map.2 ⟨(id, row), ?_, rfl⟩, h.ids id row hrow, rfl⟩
    exact PipelineStore.mem_rowsById.2 hrow
  rekinded e he hin := by
    obtain ⟨r, hr, rfl⟩ := List.mem_map.1 he
    obtain ⟨row, hrow, hk⟩ := (h.ids.stores_of_mem hr).kind
    obtain ⟨d, hd, hid⟩ := List.mem_map.1 hin
    by_cases hkd : d.kind = r.2.definition.kind
    · exact .inl ⟨d, hd, hid, hkd⟩
    · refine .inr ?_
      rw [← hid] at hrow
      have := hkinds d hd row hrow fun hk' => hkd (hk'.symm.trans hk)
      rwa [hid, hk] at this

theorem importDefinitions_keeps_retained (h : RetainedInv engine db)
    (hkinds : KeepsKinds engine db definitions) :
    wp (importDefinitions env engine definitions now)
      (Again (fun db _ => RetainedInv engine db) n)
      (AgainUnlessStorage (fun db _ => RetainedInv engine db) n) db n := by
  unfold importDefinitions
  refine wp_bind (wp_ofExcept (fun _ _ => ?_) fun _ _ => ⟨le_rfl, .inr h⟩)
  split
  · exact wp_fail ⟨le_rfl, .inr h⟩
  refine wp_bind (stored_query (storageSafe_again le_rfl) (wp_bind (wp_imp (wp_forEach
    (I := fun rest db n' => n ≤ n' ∧ Deleting engine definitions rest db) ?_
    ⟨le_rfl, h.deleting hkinds⟩) ?_)))
  · rintro d rest db' n' ⟨hn', h'⟩
    refine wp_bind (deleteDefinition_wp (storageSafe_again hn') fun _ => ?_)
    split_ifs with hd
    · exact wp_pure ⟨hn', h'.kept hd⟩
    · exact enqueueDeletion_wp (storageSafe_again hn') fun outbox ho => ⟨hn', h'.cleared ho⟩
  · rintro _ db' n' ⟨hn', h'⟩
    refine wp_imp (wp_traverse (I := fun rest db n' => n ≤ n' ∧ Inserting engine rest db) ?_
      ⟨hn', h'.ids, h'.owned.mono fun id kind hid => ?_⟩) fun _ db' n' h' => ?_
    · rintro d rest db' n' ⟨hn', h'⟩
      refine wp_bind (insertDefinition_wp (storageSafe_again hn') fun hnot => ?_)
      refine startSeries_wp (storageSafe_again hn') fun _ _ hs => ?_
      exact ⟨hn'.trans (Nat.le_succ n'),
        (h'.inserted hnot _).started ⟨_, AList.lookup_insert _, rfl⟩ hs⟩
    · rcases hid with ⟨_, he, _⟩ | hid
      · exact absurd he List.not_mem_nil
      · exact .inr hid
    · refine ⟨h'.1, h'.2.ids, h'.2.owned.mono fun id kind hid => ?_⟩
      rcases hid with hid | ⟨_, he, _⟩
      · exact hid
      · exact absurd he List.not_mem_nil

end Keeps

/-! ## Every run -/

def ImportKeepsKinds (engine : PipelineEngine) (s : EngineRun) : EngineStep → Prop
  | .call (.importDefinitions definitions _) _ true => KeepsKinds engine s.db definitions
  | _ => True

def doorState : PipelineDefinition := { door with kind := .state, trigger := none }

def reimported (definition : PipelineDefinition) : List EngineStep :=
  [.call (.create door ⟨0, none⟩) [] true,
    .call (.importDefinitions [definition] ⟨1, none⟩) [] true]

/-- An import that gives the door another kind leaves the count it had published retained, on a
topic that no stored pipeline has. -/
theorem import_leaves_rekinded_value :
    let db := (EngineRun.run unary gate (reimported doorState)).db
    let topic := observationTopic gate.edgeNodeId door.id .accumulatedCount
    (retainedValues db.outbox.ever topic).isSome = true
      ∧ db.definitions.entries.map (fun r => (r.1, r.2.definition.kind)) = [(door.id, .state)]
      ∧ ∀ id row, db.definitions.lookup id = some row →
          topic ≠ observationTopic gate.edgeNodeId id row.definition.kind := by
  have hdefs : (EngineRun.run unary gate (reimported doorState)).db.definitions.entries.map
      (fun r => (r.1, r.2.definition.kind)) = [(door.id, .state)] := by decide +kernel
  refine ⟨by decide +kernel, hdefs, fun id row hrow htopic => ?_⟩
  have hmem := List.mem_map_of_mem (f := fun r => (r.1, r.2.definition.kind))
    (AList.mem_lookup_iff.1 hrow)
  rw [hdefs, List.mem_singleton, Prod.mk.injEq] at hmem
  exact nomatch (observationTopic_kind htopic).trans hmem.2

/-- As long as no import gives a pipeline with a retained value another kind, a retained value lies
on the topic of a stored pipeline of that kind. -/
theorem run_retained_topic_stored (env : Outside) (engine : PipelineEngine)
    (steps : List EngineStep)
    (hkinds : EngineRun.Along env engine (ImportKeepsKinds engine) EngineRun.init steps) :
    let db := (EngineRun.run env engine steps).db
    ∀ topic p, retainedValues db.outbox.ever topic = some p →
      ∃ id row, db.definitions.lookup id = some row
        ∧ topic = observationTopic engine.edgeNodeId id row.definition.kind := by
  have hinit : RetainedInv engine EngineRun.init.db :=
    ⟨by simp [PipelineDb.Keyed, EngineRun.init, PipelineDb.empty], fun _ _ hp => nomatch hp⟩
  have h : RetainedInv engine (EngineRun.run env engine steps).db :=
    EngineRun.invariant (I := fun db _ => RetainedInv engine db) (fun _ _ _ _ h => h)
      (fun _ _ _ h => ⟨h.ids, h.owned⟩) (fun _ _ _ h => h)
      (fun s c faults hP h => retainedInv_closed.perform_keeps c h fun definitions now hc => by
        subst hc
        exact importDefinitions_keeps_retained h hP) steps EngineRun.init hkinds hinit
  intro db topic p hp
  obtain ⟨id, kind, ⟨row, hrow, rfl⟩, htopic⟩ := h.owned topic p hp
  exact ⟨id, row, hrow, htopic⟩

theorem reimported_door_stored :
    let db := (EngineRun.run unary gate (reimported door)).db
    EngineRun.Along unary gate (ImportKeepsKinds gate) EngineRun.init (reimported door)
      ∧ ∀ topic p, retainedValues db.outbox.ever topic = some p →
        ∃ id row, db.definitions.lookup id = some row
          ∧ topic = observationTopic gate.edgeNodeId id row.definition.kind := by
  have hkinds : EngineRun.Along unary gate (ImportKeepsKinds gate) EngineRun.init
      (reimported door) := by
    refine ⟨trivial, fun d hd row hrow hk => ?_, trivial⟩
    have hkind : ((EngineRun.step unary gate EngineRun.init
        (.call (.create door ⟨0, none⟩) [] true)).db.definitions.lookup door.id).map
          (·.definition.kind) = some .accumulatedCount := by decide +kernel
    rw [List.mem_singleton.1 hd] at hrow hk
    rw [hrow, Option.map_some, Option.some.injEq] at hkind
    exact absurd hkind hk
  exact ⟨hkinds, run_retained_topic_stored unary gate (reimported door) hkinds⟩

end EdgeNode
