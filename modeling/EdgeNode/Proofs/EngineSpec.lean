import EdgeNode.Pipeline.Run

/-!
# What the engine's operations leave behind

One rule for each function of the engine, for conditions on the result that follow from what was
written and conditions on the error that every failure of the database meets (`StorageSafe`). A
started series replaces the state of its pipeline (`Started`); an input replaces the evaluation state
and appends at most one row (`Advanced`).
-/

namespace EdgeNode

open Tx

def PipelineDb.Keyed (db : PipelineDb) : Prop :=
  ∀ id row, db.definitions.lookup id = some row → row.definition.id = id

theorem PipelineDb.Keyed.insert {db : PipelineDb} (h : db.Keyed) (row : DefinitionRow) :
    PipelineDb.Keyed { db with definitions := db.definitions.insert row.definition.id row } := by
  intro i r hr
  by_cases hi : i = row.definition.id
  · subst hi
    rw [AList.lookup_insert, Option.some.injEq] at hr
    rw [hr]
  · rw [AList.lookup_insert_ne hi] at hr
    exact h i r hr

theorem PipelineDb.Keyed.erase {db : PipelineDb} (h : db.Keyed) (id : PipelineId) :
    PipelineDb.Keyed { db with definitions := db.definitions.erase id } := by
  intro i r hr
  by_cases hi : i = id
  · subst hi
    simp at hr
  · rw [AList.lookup_erase_ne hi] at hr
    exact h i r hr

/-! ## Which definitions a reading goes to -/

theorem PipelineStore.mem_rowsById {db : PipelineDb} {r : PipelineId × DefinitionRow} :
    r ∈ PipelineStore.rowsById db ↔ db.definitions.lookup r.1 = some r.2 := by
  rw [PipelineStore.rowsById, List.mem_insertionSort, List.mem_map, ← Option.mem_def,
    AList.mem_lookup_iff]
  constructor
  · rintro ⟨⟨id, row⟩, h, rfl⟩
    exact h
  · intro h
    exact ⟨⟨r.1, r.2⟩, h, rfl⟩

theorem PipelineId.value_injective : Function.Injective PipelineId.value := by
  rintro ⟨v, _⟩ ⟨w, _⟩ h
  simpa using h

theorem PipelineStore.rowsById_ascending (db : PipelineDb) :
    (PipelineStore.rowsById db).Pairwise fun a b => a.1.value < b.1.value := by
  have hsorted := List.pairwise_insertionSort
    (fun a b : PipelineId × DefinitionRow => a.1.value ≤ b.1.value)
    (db.definitions.entries.map fun r => (r.1, r.2))
  have hnodup : ((PipelineStore.rowsById db).map Prod.fst).Nodup := by
    have hperm := (List.perm_insertionSort
      (fun a b : PipelineId × DefinitionRow => a.1.value ≤ b.1.value)
      (db.definitions.entries.map fun r => (r.1, r.2))).map Prod.fst
    refine hperm.nodup_iff.2 ?_
    rw [List.map_map]
    exact db.definitions.nodupKeys
  refine (hsorted.and (List.pairwise_map.1 hnodup)).imp fun h => ?_
  exact lt_of_le_of_ne h.1 fun he => h.2 (PipelineId.value_injective he)

theorem PipelineStore.rowsById_ids {db : PipelineDb} (h : db.Keyed) :
    ((PipelineStore.rowsById db).map fun r => r.2.definition).Pairwise fun d e => d.id ≠ e.id := by
  have hid : ∀ r ∈ PipelineStore.rowsById db, r.2.definition.id = r.1 :=
    fun r hr => h r.1 r.2 (PipelineStore.mem_rowsById.1 hr)
  rw [List.pairwise_map]
  refine (PipelineStore.rowsById_ascending db).imp_of_mem fun {a b} ha hb hab => ?_
  rw [hid a ha, hid b hb]
  exact fun he => hab.ne (congrArg PipelineId.value he)

def routedTo (db : PipelineDb) (reading : AcceptedReading) : List PipelineDefinition :=
  ((PipelineStore.rowsById db).filter fun r => r.2.routes reading.adapter reading.subject
    reading.measurementKey reading.channelIndex).map fun r => r.2.definition

theorem mem_routedTo {db : PipelineDb} (h : db.Keyed) {reading : AcceptedReading}
    {d : PipelineDefinition} : d ∈ routedTo db reading ↔
      ∃ row, db.definitions.lookup d.id = some row ∧ row.definition = d
        ∧ row.routes reading.adapter reading.subject reading.measurementKey
          reading.channelIndex = true := by
  rw [routedTo, List.mem_map]
  constructor
  · rintro ⟨r, hr, rfl⟩
    obtain ⟨hmem, hroutes⟩ := List.mem_filter.1 hr
    have hrow := PipelineStore.mem_rowsById.1 hmem
    exact ⟨r.2, by rwa [h r.1 r.2 hrow], rfl, hroutes⟩
  · rintro ⟨row, hrow, rfl, hroutes⟩
    exact ⟨(row.definition.id, row),
      List.mem_filter.2 ⟨PipelineStore.mem_rowsById.2 hrow, hroutes⟩, rfl⟩

theorem routedTo_ids {db : PipelineDb} (h : db.Keyed) (reading : AcceptedReading) :
    (routedTo db reading).Pairwise fun d e => d.id ≠ e.id :=
  (PipelineStore.rowsById_ids h).sublist (List.filter_sublist.map _)

namespace PipelineEngine

variable {env : Outside} {engine : PipelineEngine} {definition : PipelineDefinition}
  {state : PipelineState} {now : InputTime} {db : PipelineDb} {n : ℕ} {α : Type}
  {Q : α → PipelineDb → ℕ → Prop} {E : EngineError → PipelineDb → ℕ → Prop}

def StorageSafe (E : EngineError → PipelineDb → ℕ → Prop) (n : ℕ) : Prop :=
  ∀ err db' n', err.isStorage = true → n ≤ n' → E err db' n'

theorem StorageSafe.mono {n' : ℕ} (h : StorageSafe E n) (hn : n ≤ n') : StorageSafe E n' :=
  fun err db' m he hm => h err db' m he (hn.trans hm)

def observationRow (engine : PipelineEngine) (definition : PipelineDefinition)
    (state : PipelineState) (value : ObservationValue) (time : InputTime) : OutboxRow where
  pipelineId := definition.id
  topic := observationTopic engine.edgeNodeId definition.id value.kind
  payload := some ⟨state.seriesId, state.nextSequence, time.uptimeMs, time.unixEpochMs, value.toJson⟩
  retain := true
  createdAt := time

def publishedState (state : PipelineState) (value : ObservationValue) (time : InputTime) :
    PipelineState :=
  { state with
    nextSequence := (state.nextSequence + 1) % 2 ^ 64
    lastValue := some value
    lastPublishedAt := some time }

def clearRow (engine : PipelineEngine) (definition : PipelineDefinition) (now : InputTime) :
    OutboxRow where
  pipelineId := definition.id
  topic := observationTopic engine.edgeNodeId definition.id definition.kind
  payload := none
  retain := true
  createdAt := now

theorem stored_query {f : PipelineDb → α} (hE : StorageSafe E n) (h : Q (f db) db n) :
    wp (stored (query .sqlite f)) Q E db n :=
  wp_mapError (wp_query (hE _ _ _ rfl le_rfl) h)

theorem insertDefinition_wp {Q : Unit → PipelineDb → ℕ → Prop} {time : ℤ} (hE : StorageSafe E n)
    (hQ : definition.id ∉ db.definitions → Q () { db with
      definitions := db.definitions.insert definition.id
        (PipelineStore.definitionRow env.sha256 definition time time) } n) :
    wp (stored (PipelineStore.insertDefinition env.sha256 definition time)) Q E db n := by
  refine wp_mapError (wp_stmt (hE _ _ _ rfl le_rfl) (fun a db' h => ?_) fun e _ =>
    hE _ _ _ rfl le_rfl)
  split_ifs at h with hin
  simp only [Except.ok.injEq, Prod.mk.injEq] at h
  obtain ⟨-, rfl⟩ := h
  exact hQ hin

theorem updateDefinition_wp {Q : Bool → PipelineDb → ℕ → Prop} {time : ℤ} {row : DefinitionRow}
    (hrow : db.definitions.lookup definition.id = some row) (hE : StorageSafe E n)
    (hQ : Q true { db with
      definitions := db.definitions.insert definition.id
        (PipelineStore.definitionRow env.sha256 definition row.createdAt time) } n) :
    wp (stored (PipelineStore.updateDefinition env.sha256 definition time)) Q E db n := by
  refine wp_mapError (wp_stmt (hE _ _ _ rfl le_rfl) (fun a db' h => ?_) fun e _ =>
    hE _ _ _ rfl le_rfl)
  simp only [hrow, Except.ok.injEq, Prod.mk.injEq] at h
  obtain ⟨rfl, rfl⟩ := h
  exact hQ

theorem deleteDefinition_wp {Q : Bool → PipelineDb → ℕ → Prop} {id : PipelineId}
    (hE : StorageSafe E n)
    (hQ : ∀ b, Q b { db with
      definitions := db.definitions.erase id, states := db.states.erase id } n) :
    wp (stored (PipelineStore.deleteDefinition id)) Q E db n := by
  refine wp_mapError (wp_stmt (hE _ _ _ rfl le_rfl) (fun a db' h => ?_) fun e _ =>
    hE _ _ _ rfl le_rfl)
  simp only [Except.ok.injEq, Prod.mk.injEq] at h
  obtain ⟨rfl, rfl⟩ := h
  exact hQ _

theorem putState_wp {Q : Unit → PipelineDb → ℕ → Prop} {id : PipelineId} {time : ℤ}
    (hE : StorageSafe E n)
    (hQ : Q () { db with states := db.states.insert id (PipelineStore.rowOfState state time) } n) :
    wp (stored (PipelineStore.putState id state time)) Q E db n := by
  refine wp_mapError (wp_stmt (hE _ _ _ rfl le_rfl) (fun a db' h => ?_) fun e _ =>
    hE _ _ _ rfl le_rfl)
  split_ifs at h
  simp only [Except.ok.injEq, Prod.mk.injEq] at h
  obtain ⟨-, rfl⟩ := h
  exact hQ

theorem enqueue_wp {Q : ℕ → PipelineDb → ℕ → Prop} {r : OutboxRow} (hE : StorageSafe E n)
    (hQ : ∀ seq outbox, db.outbox.insert r = some outbox → Q seq { db with outbox := outbox } n) :
    wp (queued (Outbox.enqueue r.pipelineId r.topic r.payload r.retain r.createdAt)) Q E db n := by
  refine wp_mapError (wp_stmt (hE _ _ _ rfl le_rfl) (fun a db' h => ?_) fun e _ =>
    hE _ _ _ rfl le_rfl)
  split at h
  · rename_i outbox ho
    simp only [Except.ok.injEq, Prod.mk.injEq] at h
    obtain ⟨rfl, rfl⟩ := h
    exact hQ _ outbox ho
  · simp at h

theorem publish_wp {Q : Observation × PipelineState → PipelineDb → ℕ → Prop}
    {value : ObservationValue} (hE : StorageSafe E n)
    (hQ : ∀ outbox, db.outbox.insert (observationRow engine definition state value now) = some outbox →
      Q (⟨definition.id, state.seriesId, state.nextSequence, now, value⟩,
        publishedState state value now) { db with outbox := outbox } n) :
    wp (publish engine definition state value now) Q E db n := by
  unfold publish
  refine wp_bind (enqueue_wp (r := observationRow engine definition state value now) hE ?_)
  exact fun seq outbox ho => wp_pure (hQ outbox ho)

theorem enqueueDeletion_wp {Q : Unit → PipelineDb → ℕ → Prop} (hE : StorageSafe E n)
    (hQ : ∀ outbox, db.outbox.insert (clearRow engine definition now) = some outbox →
      Q () { db with outbox := outbox } n) :
    wp (enqueueDeletion engine definition now) Q E db n := by
  unfold enqueueDeletion
  refine wp_bind (enqueue_wp (r := clearRow engine definition now) hE ?_)
  exact fun seq outbox ho => wp_pure (hQ outbox ho)

def freshState (env : Outside) (definition : PipelineDefinition) (n : ℕ) : PipelineState where
  structuralHash := definition.structuralHash env.sha256
  seriesId := env.uuid n
  nextSequence := 1
  evaluation := {}
  lastValue := none
  lastPublishedAt := none

def Started (env : Outside) (engine : PipelineEngine) (definition : PipelineDefinition)
    (now : InputTime) (n : ℕ) (db db' : PipelineDb) : Prop :=
  if definition.kind = .accumulatedCount then
    ∃ outbox, db.outbox.insert (observationRow engine definition (freshState env definition n)
        (.accumulatedCount 0) now) = some outbox
      ∧ db' = { db with
        outbox := outbox
        states := db.states.insert definition.id (PipelineStore.rowOfState
          (publishedState (freshState env definition n) (.accumulatedCount 0) now) now.uptimeMs) }
  else
    db' = { db with
      states := db.states.insert definition.id
        (PipelineStore.rowOfState (freshState env definition n) now.uptimeMs) }

theorem Started.definitions {db' : PipelineDb} (h : Started env engine definition now n db db') :
    db'.definitions = db.definitions := by
  unfold Started at h
  split_ifs at h
  · obtain ⟨_, -, rfl⟩ := h
    rfl
  · rw [h]

theorem Started.row {db' : PipelineDb} (h : Started env engine definition now n db db') :
    ∃ row, db'.states.lookup definition.id = some row
      ∧ row.structuralHash = definition.structuralHash env.sha256 ∧ row.seriesId = env.uuid n
      ∧ row.evaluation = {} := by
  unfold Started at h
  split_ifs at h
  · obtain ⟨outbox, -, rfl⟩ := h
    exact ⟨_, AList.lookup_insert _, rfl, rfl, rfl⟩
  · subst h
    exact ⟨_, AList.lookup_insert _, rfl, rfl, rfl⟩

theorem startSeries_wp {Q : SeriesStart → PipelineDb → ℕ → Prop} (hE : StorageSafe E n)
    (hQ : ∀ r db', Started env engine definition now n db db' → Q r db' (n + 1)) :
    wp (startSeries env engine definition now) Q E db n := by
  unfold startSeries
  refine wp_bind (wp_draw ?_)
  have hE' : StorageSafe E (n + 1) := hE.mono (Nat.le_succ n)
  dsimp only
  split_ifs with hk
  · refine wp_bind (publish_wp hE' fun outbox ho => wp_bind (putState_wp hE' (wp_pure ?_)))
    refine hQ _ _ ?_
    rw [Started, if_pos hk]
    exact ⟨outbox, ho, rfl⟩
  · refine wp_bind (putState_wp hE' (wp_pure (hQ _ _ ?_)))
    rw [Started, if_neg hk]
    rfl

def Advanced (engine : PipelineEngine) (definition : PipelineDefinition) (state : PipelineState)
    (time : InputTime) (evaluation : Evaluation) (next : EvaluationState) (db db' : PipelineDb) :
    Prop :=
  match observedValue definition.kind evaluation with
  | none => db' = { db with
      states := db.states.insert definition.id
        (PipelineStore.rowOfState { state with evaluation := next } time.uptimeMs) }
  | some value => ∃ outbox, db.outbox.insert (observationRow engine definition
        { state with evaluation := next } value time) = some outbox
      ∧ db' = { db with
        outbox := outbox
        states := db.states.insert definition.id (PipelineStore.rowOfState
          (publishedState { state with evaluation := next } value time) time.uptimeMs) }

theorem Advanced.definitions {db' : PipelineDb} {evaluation : Evaluation} {next : EvaluationState}
    (h : Advanced engine definition state now evaluation next db db') :
    db'.definitions = db.definitions := by
  unfold Advanced at h
  split at h
  · rw [h]
  · obtain ⟨_, -, rfl⟩ := h
    rfl

theorem advance_wp {Q : DeliveryOutcome → PipelineDb → ℕ → Prop} {input : F64}
    (hE : StorageSafe E n) (herr : ∀ e, E (.evaluator e) db n)
    (hQ : ∀ r evaluation next db',
      evaluate definition state.evaluation input now.uptimeMs = .ok (evaluation, next) →
      Advanced engine definition state now evaluation next db db' → Q r db' n) :
    wp (advance engine definition state input now) Q E db n := by
  unfold advance
  refine wp_bind (wp_ofExcept (fun r hr => ?_) fun e he => ?_)
  · rcases hv : evaluate definition state.evaluation input now.uptimeMs with e | ⟨evaluation, next⟩ <;>
      simp only [hv, Except.mapError, reduceCtorEq, Except.ok.injEq] at hr
    subst hr
    have hadv := fun r db' => hQ r evaluation next db' hv
    unfold Advanced at hadv
    dsimp only
    rcases ho : observedValue definition.kind evaluation with _ | value <;>
      simp only [ho] at hadv ⊢
    · exact wp_bind (putState_wp hE (wp_pure (hadv _ _ rfl)))
    · refine wp_bind (publish_wp hE fun outbox ho => wp_bind (putState_wp hE (wp_pure ?_)))
      exact hadv _ _ ⟨outbox, ho, rfl⟩
  · rcases hv : evaluate definition state.evaluation input now.uptimeMs with e' | r <;>
      simp only [hv, Except.mapError, reduceCtorEq, Except.error.injEq] at he
    subst he
    exact herr e'

def OnlyState (definition : PipelineDefinition) (db db' : PipelineDb) : Prop :=
  db'.definitions = db.definitions
    ∧ ∀ id, id ≠ definition.id → db'.states.lookup id = db.states.lookup id

theorem onlyState_started {db' : PipelineDb} (hs : Started env engine definition now n db db') :
    OnlyState definition db db' := by
  refine ⟨hs.definitions, fun id hid => ?_⟩
  unfold Started at hs
  split_ifs at hs
  · obtain ⟨outbox, -, rfl⟩ := hs
    exact AList.lookup_insert_ne hid
  · subst hs
    exact AList.lookup_insert_ne hid

theorem onlyState_advanced {db' : PipelineDb} {evaluation : Evaluation} {next : EvaluationState}
    (ha : Advanced engine definition state now evaluation next db db') :
    OnlyState definition db db' := by
  refine ⟨ha.definitions, fun id hid => ?_⟩
  unfold Advanced at ha
  split at ha
  · subst ha
    exact AList.lookup_insert_ne hid
  · obtain ⟨outbox, -, rfl⟩ := ha
    exact AList.lookup_insert_ne hid

theorem OnlyState.trans {db' db'' : PipelineDb} (h : OnlyState definition db db')
    (h' : OnlyState definition db' db'') : OnlyState definition db db'' :=
  ⟨h'.1.trans h.1, fun id hid => (h'.2 id hid).trans (h.2 id hid)⟩

theorem restartedState_wp {Q : PipelineState → PipelineDb → ℕ → Prop} (hE : StorageSafe E n)
    (hstart : ∀ db' row, Started env engine definition now n db db' →
      db'.states.lookup definition.id = some row → Q (PipelineStore.stateOfRow row) db' (n + 1)) :
    wp (do
      let _ ← startSeries env engine definition now
      match ← stored (PipelineStore.getState definition.id) with
      | some state => pure state
      | none => Tx.fail (.notFound definition.id.value)) Q E db n := by
  refine wp_bind (startSeries_wp hE fun r db' hs => ?_)
  refine wp_bind (stored_query (hE.mono (Nat.le_succ n)) ?_)
  obtain ⟨row, hrow, -⟩ := hs.row
  rw [hrow]
  exact wp_pure (hstart db' row hs hrow)

theorem usableState_wp {Q : PipelineState → PipelineDb → ℕ → Prop} (hE : StorageSafe E n)
    (hcont : ∀ row, db.states.lookup definition.id = some row →
      Q (PipelineStore.stateOfRow row) db n)
    (hstart : ∀ db' row, Started env engine definition now n db db' →
      db'.states.lookup definition.id = some row → Q (PipelineStore.stateOfRow row) db' (n + 1)) :
    wp (usableState env engine definition now) Q E db n := by
  unfold usableState
  refine wp_bind (stored_query hE ?_)
  rcases hrow : db.states.lookup definition.id with _ | row
  · exact restartedState_wp hE hstart
  · simp only [Option.map_some]
    split_ifs
    · exact wp_pure (hcont row hrow)
    · exact restartedState_wp hE hstart

end PipelineEngine

end EdgeNode
