import EdgeNode.Proofs.Definitions

/-!
# Settled pipelines

After every committed call each stored pipeline has a state that was started under the structural
hash of its definition (`settled_run`). So a delivery never has to start a series, and is the shares
of the pipelines the reading is routed to, one after the other (`deliver_wp`): for each an outcome, a
new state row and at most one publication (`share`).
-/

namespace EdgeNode

open Tx PipelineEngine

/-! ## The share of one pipeline -/

structure Share where
  outcome : Except EngineError DeliveryOutcome
  state : StateRow
  published : Option OutboxRow

def evaluated (engine : PipelineEngine) (d : PipelineDefinition) (row : StateRow) (input : F64)
    (time : InputTime) : Share :=
  match evaluate d (PipelineStore.stateOfRow row).evaluation input time.uptimeMs with
  | .error e => ⟨.error (.evaluator e), row, none⟩
  | .ok (evaluation, next) =>
    let state := { PipelineStore.stateOfRow row with evaluation := next }
    match observedValue d.kind evaluation with
    | none => ⟨.ok .silent, PipelineStore.rowOfState state time.uptimeMs, none⟩
    | some value =>
      ⟨.ok (.published ⟨d.id, state.seriesId, state.nextSequence, time, value⟩),
        PipelineStore.rowOfState (publishedState state value time) time.uptimeMs,
        some (observationRow engine d state value time)⟩

def share (engine : PipelineEngine) (reading : AcceptedReading) (d : PipelineDefinition)
    (row : StateRow) : Share :=
  match reading.values[d.input.valueIndex]? with
  | none => ⟨.error (.missingValue d.input.valueIndex), row, none⟩
  | some input => evaluated engine d row input reading.receivedAt

structure Share.Done (x : Share) (d : PipelineDefinition) (db db' : PipelineDb) : Prop where
  definitions : db'.definitions = db.definitions
  state : db'.states.lookup d.id = some x.state
  others : ∀ id, id ≠ d.id → db'.states.lookup id = db.states.lookup id
  outbox : match x.published with
    | none => db'.outbox = db.outbox
    | some r => db.outbox.insert r = some db'.outbox

section Shares

variable {env : Outside} {engine : PipelineEngine} {reading : AcceptedReading}
  {d : PipelineDefinition} {row : StateRow} {input : F64} {time : InputTime} {db db' : PipelineDb}
  {n : ℕ}

/-- A share is an error that leaves everything as it is, or a state of the same series with at most
one row of the pipeline. -/
theorem evaluated_cases :
    (∃ e, evaluated engine d row input time = ⟨.error e, row, none⟩)
      ∨ ∃ o state published, evaluated engine d row input time = ⟨.ok o, state, published⟩
        ∧ state.structuralHash = row.structuralHash ∧ ∀ r ∈ published, r.pipelineId = d.id := by
  unfold evaluated
  rcases evaluate d (PipelineStore.stateOfRow row).evaluation input time.uptimeMs with
    e | ⟨evaluation, next⟩
  · exact .inl ⟨_, rfl⟩
  · right
    rcases ho : observedValue d.kind evaluation with _ | value <;> simp only [ho]
    · exact ⟨_, _, _, rfl, rfl, by simp⟩
    · exact ⟨_, _, _, rfl, rfl, by simp [observationRow]⟩

theorem share_cases (engine : PipelineEngine) (reading : AcceptedReading) (d : PipelineDefinition)
    (row : StateRow) :
    (∃ e, share engine reading d row = ⟨.error e, row, none⟩)
      ∨ ∃ o state published, share engine reading d row = ⟨.ok o, state, published⟩
        ∧ state.structuralHash = row.structuralHash ∧ ∀ r ∈ published, r.pipelineId = d.id := by
  unfold share
  rcases reading.values[d.input.valueIndex]? with _ | input
  · exact .inl ⟨_, rfl⟩
  · exact evaluated_cases

theorem share_error {e : EngineError} (h : (share engine reading d row).outcome = .error e) :
    (share engine reading d row).state = row ∧ (share engine reading d row).published = none := by
  rcases share_cases engine reading d row with
    ⟨e, hx⟩ | ⟨o, state, published, hx, -⟩ <;> rw [hx] at h ⊢
  · exact ⟨rfl, rfl⟩
  · exact nomatch h

theorem share_published {r : OutboxRow} (h : (share engine reading d row).published = some r) :
    r.pipelineId = d.id := by
  rcases share_cases engine reading d row with
    ⟨e, hx⟩ | ⟨o, state, published, hx, -, hr⟩ <;> rw [hx] at h
  · exact nomatch h
  · exact hr r h

theorem share_structuralHash :
    (share engine reading d row).state.structuralHash = row.structuralHash := by
  rcases share_cases engine reading d row with
    ⟨e, hx⟩ | ⟨o, state, published, hx, hhash, -⟩ <;> rw [hx]
  exact hhash

theorem advance_shares :
    wp (advance engine d (PipelineStore.stateOfRow row) input time)
      (fun o db' n' => (evaluated engine d row input time).outcome = .ok o
        ∧ (evaluated engine d row input time).Done d db db' ∧ n' = n)
      (fun e db' n' => e.isStorage = true ∧ n ≤ n'
        ∨ ((evaluated engine d row input time).outcome = .error e ∧ db' = db ∧ n' = n)) db n := by
  have hE : StorageSafe (fun e db' n' => e.isStorage = true ∧ n ≤ n'
      ∨ ((evaluated engine d row input time).outcome = .error e ∧ db' = db ∧ n' = n)) n :=
    fun _ _ _ he hn => .inl ⟨he, hn⟩
  unfold advance evaluated at *
  rcases hv : evaluate d (PipelineStore.stateOfRow row).evaluation input time.uptimeMs with
    e | ⟨evaluation, next⟩ <;> simp only [hv] at hE ⊢
  · exact wp_bind (wp_fail (.inr ⟨rfl, rfl, rfl⟩))
  · refine wp_bind (wp_pure ?_)
    dsimp only
    rcases ho : observedValue d.kind evaluation with _ | value <;> simp only [ho] at hE ⊢
    · refine wp_bind (putState_wp hE (wp_pure ⟨rfl, ⟨rfl, ?_, fun id hid => ?_, rfl⟩, rfl⟩))
      · exact AList.lookup_insert _
      · exact AList.lookup_insert_ne hid
    · refine wp_bind (publish_wp hE fun outbox hins => wp_bind (putState_wp hE (wp_pure
        ⟨rfl, ⟨rfl, ?_, fun id hid => ?_, hins⟩, rfl⟩)))
      · exact AList.lookup_insert _
      · exact AList.lookup_insert_ne hid

theorem process_shares (hrow : db.states.lookup d.id = some row)
    (hhash : row.structuralHash = d.structuralHash env.sha256) :
    wp (process env engine d input time)
      (fun o db' n' => (evaluated engine d row input time).outcome = .ok o
        ∧ (evaluated engine d row input time).Done d db db' ∧ n' = n)
      (fun e db' n' => e.isStorage = true ∧ n ≤ n'
        ∨ ((evaluated engine d row input time).outcome = .error e ∧ db' = db ∧ n' = n)) db n := by
  unfold process usableState
  refine wp_bind (wp_bind (stored_query (fun _ _ _ he hn => .inl ⟨he, hn⟩) ?_))
  rw [hrow]
  simp only [Option.map_some]
  rw [if_pos (show (PipelineStore.stateOfRow row).structuralHash = _ from hhash)]
  exact wp_pure advance_shares

theorem deliverTo_shares (hrow : db.states.lookup d.id = some row)
    (hhash : row.structuralHash = d.structuralHash env.sha256) :
    wp (deliverTo env engine reading d)
      (fun r db' n' => r = (d.id, (share engine reading d row).outcome)
        ∧ (share engine reading d row).Done d db db' ∧ n' = n)
      (fun e _ n' => e.isStorage = true ∧ n ≤ n') db n := by
  unfold deliverTo share
  refine wp_bind (wp_attempt ?_)
  rcases reading.values[d.input.valueIndex]? with _ | input <;> dsimp only
  · exact wp_fail (wp_pure ⟨rfl, ⟨rfl, hrow, fun _ _ => rfl, rfl⟩, rfl⟩)
  · refine wp_mono (process_shares hrow hhash) (fun o db' n' h => wp_pure ⟨?_, h.2⟩)
      fun e db' n' h => ?_
    · rw [h.1]
    · by_cases he : e.isStorage = true
      · rw [if_pos he]
        exact wp_fail ⟨he, h.elim And.right fun h' => h'.2.2.ge⟩
      · rw [if_neg he]
        obtain ⟨houtcome, rfl, rfl⟩ := h.resolve_left fun h' => he h'.1
        rcases evaluated_cases with ⟨e', hx⟩ | ⟨o, _, _, hx, -⟩ <;> rw [hx] at houtcome ⊢
        · exact wp_pure ⟨by rw [houtcome], ⟨rfl, hrow, fun _ _ => rfl, rfl⟩, rfl⟩
        · exact nomatch houtcome

structure Delivered (engine : PipelineEngine) (reading : AcceptedReading) (db : PipelineDb)
    (ds : List PipelineDefinition) (outcomes : List PipelineDelivery) (db' : PipelineDb) :
    Prop where
  definitions : db'.definitions = db.definitions
  outcomes : List.Forall₂ (fun d o => ∃ row, db.states.lookup d.id = some row
    ∧ o = (d.id, (share engine reading d row).outcome)) ds outcomes
  states : ∀ d ∈ ds, ∃ row, db.states.lookup d.id = some row
    ∧ db'.states.lookup d.id = some (share engine reading d row).state
  others : ∀ id, (∀ d ∈ ds, d.id ≠ id) → db'.states.lookup id = db.states.lookup id
  outbox : db.outbox.Appends db'.outbox (ds.filterMap fun d =>
    (db.states.lookup d.id).bind fun row => (share engine reading d row).published)

theorem Delivered.nil : Delivered engine reading db [] [] db where
  definitions := rfl
  outcomes := .nil
  states := fun _ hd => nomatch hd
  others := fun _ _ => rfl
  outbox := .refl _

theorem Delivered.snoc {ds : List PipelineDefinition} {outcomes : List PipelineDelivery}
    {db'' : PipelineDb} (h : Delivered engine reading db ds outcomes db')
    (hd : ∀ e ∈ ds, e.id ≠ d.id) (hrow : db.states.lookup d.id = some row)
    (hx : (share engine reading d row).Done d db' db'') :
    Delivered engine reading db (ds ++ [d])
      (outcomes ++ [(d.id, (share engine reading d row).outcome)]) db'' where
  definitions := hx.definitions.trans h.definitions
  outcomes := List.rel_append h.outcomes (.cons ⟨row, hrow, rfl⟩ .nil)
  states e he := by
    rcases List.mem_append.1 he with he | he
    · obtain ⟨r, hr, hr'⟩ := h.states e he
      exact ⟨r, hr, by rw [hx.others e.id (hd e he), hr']⟩
    · obtain rfl := List.mem_singleton.1 he
      exact ⟨row, hrow, hx.state⟩
  others id hid := by
    rw [hx.others id fun hne => hid d (by simp) hne.symm]
    exact h.others id fun e he => hid e (List.mem_append_left _ he)
  outbox := by
    have hout := hx.outbox
    rw [List.filterMap_append]
    rcases hp : (share engine reading d row).published with _ | r <;> rw [hp] at hout
    · rw [hout]
      simpa [hrow, hp] using h.outbox
    · simpa [hrow, hp] using h.outbox.insert hout

/-- A delivery to settled pipelines. Only the database makes it fail. -/
theorem deliver_wp (hkeyed : db.Keyed)
    (hsettled : ∀ d ∈ routedTo db reading, ∃ row, db.states.lookup d.id = some row
      ∧ row.structuralHash = d.structuralHash env.sha256) :
    wp (deliver env engine reading)
      (fun outcomes db' n' => Delivered engine reading db (routedTo db reading) outcomes db'
        ∧ n' = n)
      (fun e _ n' => e.isStorage = true ∧ n ≤ n') db n := by
  unfold deliver
  refine wp_bind (stored_query (fun _ _ _ he hn => ⟨he, hn⟩) ?_)
  show wp (Tx.traverse _ (routedTo db reading)) _ _ _ _
  have hids := routedTo_ids hkeyed reading
  -- the loop has come some way down the list, and the pipelines ahead are as they were
  refine wp_imp (wp_traverse_results (I := fun outcomes rest db' n' =>
    ∃ ds, routedTo db reading = ds ++ rest ∧ Delivered engine reading db ds outcomes db' ∧ n' = n)
    ?_ [] ⟨[], rfl, .nil, rfl⟩) fun outcomes db' n' h => ?_
  · rintro outcomes d rest db' n' ⟨ds, hds, hdel, rfl⟩
    obtain ⟨row, hrow, hhash⟩ := hsettled d (by rw [hds]; simp)
    rw [hds, List.pairwise_append] at hids
    have hne : ∀ e ∈ ds, e.id ≠ d.id := fun e he => hids.2.2 e he d (by simp)
    have hrow' : db'.states.lookup d.id = some row := by
      rw [hdel.others d.id hne, hrow]
    refine wp_imp (deliverTo_shares hrow' hhash) fun r db'' n'' hr => ?_
    obtain ⟨rfl, hx, rfl⟩ := hr
    exact ⟨ds ++ [d], by rw [hds]; simp, hdel.snoc hne hrow hx, rfl⟩
  · obtain ⟨ds, hds, hdel, rfl⟩ := h
    rw [List.append_nil] at hds
    exact ⟨hds ▸ hdel, rfl⟩

end Shares

/-! ## Every pipeline is settled -/

section Settled

variable {env : Outside} {engine : PipelineEngine} {d : PipelineDefinition} {db db' : PipelineDb}
  {n n₀ : ℕ} {now : InputTime} {id : PipelineId}

def SettledAt (env : Outside) (db : PipelineDb) (id : PipelineId) : Prop :=
  ∀ row, db.definitions.lookup id = some row → ∃ state, db.states.lookup id = some state
    ∧ state.structuralHash = row.definition.structuralHash env.sha256

structure Settled (env : Outside) (db : PipelineDb) : Prop where
  keyed : db.Keyed
  all : ∀ id, SettledAt env db id

theorem Settled.routed (h : Settled env db) {reading : AcceptedReading}
    (hd : d ∈ routedTo db reading) : ∃ row, db.states.lookup d.id = some row
      ∧ row.structuralHash = d.structuralHash env.sha256 := by
  obtain ⟨row, hrow, rfl, -⟩ := (mem_routedTo h.keyed).1 hd
  exact h.all _ row hrow

theorem Settled.started (hkeyed : db.Keyed) (h : ∀ id, id ≠ d.id → SettledAt env db id)
    {row : DefinitionRow} (hrow : db.definitions.lookup d.id = some row) (hd : row.definition = d)
    (hs : Started env engine d now n db db') : Settled env db' where
  keyed := by rw [PipelineDb.Keyed, hs.definitions]; exact hkeyed
  all id r hr := by
    rw [hs.definitions] at hr
    by_cases hid : id = d.id
    · subst hid
      obtain rfl := Option.some.inj (hrow.symm.trans hr)
      obtain ⟨state, hstate, hhash, -⟩ := hs.row
      exact ⟨state, hstate, by rw [hhash, hd]⟩
    · rw [(onlyState_started hs).2 id hid]
      exact h id hid r hr

theorem Settled.erase (h : Settled env db) (id : PipelineId) : Settled env
    { db with definitions := db.definitions.erase id, states := db.states.erase id } where
  keyed := h.keyed.erase id
  all i r hr := by
    by_cases hi : i = id
    · subst hi
      simp at hr
    · rw [AList.lookup_erase_ne hi] at hr ⊢
      exact h.all i r hr

theorem Settled.defined (h : Settled env db) (row : DefinitionRow) (i : PipelineId)
    (hi : i ≠ row.definition.id) : SettledAt env
      { db with definitions := db.definitions.insert row.definition.id row } i := by
  intro r hr
  rw [AList.lookup_insert_ne hi] at hr
  exact h.all i r hr

def Settles (env : Outside) (n₀ : ℕ) {α : Type} : α → PipelineDb → ℕ → Prop :=
  Again (fun db _ => Settled env db) n₀

def SettlesUnlessStorage (env : Outside) (n₀ : ℕ) : EngineError → PipelineDb → ℕ → Prop :=
  AgainUnlessStorage (fun db _ => Settled env db) n₀

theorem insert_settles (hn : n₀ ≤ n) (h : Settled env db) :
    wp (do
      stored (PipelineStore.insertDefinition env.sha256 d now.uptimeMs)
      startSeries env engine d now) (Settles env n₀) (SettlesUnlessStorage env n₀) db n := by
  refine wp_bind (insertDefinition_wp (storageSafe_again hn) fun hnot => ?_)
  refine startSeries_wp (storageSafe_again hn) fun _ db' hs => ⟨hn.trans (Nat.le_succ n), ?_⟩
  exact .started (h.keyed.insert _)
    (h.defined (PipelineStore.definitionRow env.sha256 d now.uptimeMs now.uptimeMs))
    (AList.lookup_insert _) rfl hs

theorem continue_settles (hn : n₀ ≤ n) (hkeyed : db.Keyed)
    (h : ∀ id, id ≠ d.id → SettledAt env db id) (hd : db.Stores d) :
    wp (do
      match ← stored (PipelineStore.getState d.id) with
      | some state =>
        if state.structuralHash = d.structuralHash env.sha256 then pure none
        else some <$> startSeries env engine d now
      | none => some <$> startSeries env engine d now)
      (SeriesClosed.Undisturbed (fun db _ => Settled env db) n₀ db)
      (SettlesUnlessStorage env n₀) db n := by
  obtain ⟨row, hrow, hrd⟩ := hd
  have hstart : wp (some <$> startSeries env engine d now)
      (SeriesClosed.Undisturbed (fun db _ => Settled env db) n₀ db)
      (SettlesUnlessStorage env n₀) db n :=
    wp_bind (startSeries_wp (storageSafe_again hn) fun _ db' hs => wp_pure
      ⟨hn.trans (Nat.le_succ n), .started hkeyed h hrow hrd hs, hs.definitions⟩)
  refine wp_bind (stored_query (storageSafe_again hn) ?_)
  rcases hstate : db.states.lookup d.id with _ | state <;>
    simp only [Option.map_none, Option.map_some]
  · exact hstart
  · by_cases hhash : state.structuralHash = d.structuralHash env.sha256
    · rw [if_pos (show (PipelineStore.stateOfRow state).structuralHash = _ from hhash)]
      refine wp_pure ⟨hn, ⟨hkeyed, fun id r hr => ?_⟩, rfl⟩
      by_cases hid : id = d.id
      · subst hid
        obtain rfl := Option.some.inj (hrow.symm.trans hr)
        exact ⟨state, hstate, by rw [hhash, hrd]⟩
      · exact h id hid r hr
    · rw [if_neg (show ¬ (PipelineStore.stateOfRow state).structuralHash = _ from hhash)]
      exact hstart

theorem create_settles (h : Settled env db) :
    wp (create env engine d now) (Settles env n) (SettlesUnlessStorage env n) db n := by
  unfold create
  refine wp_bind (wp_ofExcept (fun _ _ => ?_) fun _ _ => ⟨le_rfl, .inr h⟩)
  refine wp_bind (stored_query (storageSafe_again le_rfl) ?_)
  rcases db.definitions.lookup d.id with _ | row
  · exact insert_settles le_rfl h
  · exact wp_fail ⟨le_rfl, .inr h⟩

theorem update_settles (h : Settled env db) :
    wp (update env engine d now) (Settles env n) (SettlesUnlessStorage env n) db n := by
  unfold update
  refine wp_bind (wp_ofExcept (fun _ _ => ?_) fun _ _ => ⟨le_rfl, .inr h⟩)
  refine wp_bind (stored_query (storageSafe_again le_rfl) ?_)
  rcases hrow : db.definitions.lookup d.id with _ | row
  · exact wp_fail ⟨le_rfl, .inr h⟩
  simp only [Option.map_some]
  by_cases hk : row.definition.kind ≠ d.kind
  · rw [if_pos hk]
    exact wp_fail ⟨le_rfl, .inr h⟩
  · rw [if_neg hk]
    refine wp_bind (updateDefinition_wp hrow (storageSafe_again le_rfl) ?_)
    let written := PipelineStore.definitionRow env.sha256 d row.createdAt now.uptimeMs
    exact wp_imp (continue_settles le_rfl (h.keyed.insert written) (h.defined written)
      ⟨written, AList.lookup_insert _, rfl⟩) fun _ _ _ h' => h'.again

theorem delete_settles (h : Settled env db) :
    wp (delete engine id now) (Settles env n) (SettlesUnlessStorage env n) db n := by
  unfold delete
  refine wp_bind (stored_query (storageSafe_again le_rfl) ?_)
  rcases db.definitions.lookup id with _ | row
  · exact wp_fail ⟨le_rfl, .inr h⟩
  · refine wp_bind (deleteDefinition_wp (storageSafe_again le_rfl) fun _ =>
      enqueueDeletion_wp (storageSafe_again le_rfl) fun outbox _ => ⟨le_rfl, ?_⟩)
    exact ⟨(h.erase id).keyed, (h.erase id).all⟩

theorem reset_settles (h : Settled env db) :
    wp (reset env engine id now) (Settles env n) (SettlesUnlessStorage env n) db n := by
  unfold reset
  refine wp_bind (stored_query (storageSafe_again le_rfl) ?_)
  rcases hrow : db.definitions.lookup id with _ | row
  · exact wp_fail ⟨le_rfl, .inr h⟩
  · refine startSeries_wp (storageSafe_again le_rfl) fun _ db' hs => ⟨Nat.le_succ n, ?_⟩
    have hid := h.keyed id row hrow
    exact .started h.keyed (fun i _ => h.all i) (by rwa [hid]) rfl hs

theorem importDefinitions_settles {definitions : List PipelineDefinition} (h : Settled env db) :
    wp (importDefinitions env engine definitions now) (Settles env n) (SettlesUnlessStorage env n)
      db n := by
  unfold importDefinitions
  refine wp_bind (wp_ofExcept (fun _ _ => ?_) fun _ _ => ⟨le_rfl, .inr h⟩)
  rcases duplicateId definitions [] with _ | id
  · refine wp_bind (stored_query (storageSafe_again le_rfl) ?_)
    refine wp_bind (wp_imp (wp_forEach (I := fun _ => Settles env n ()) ?_ ⟨le_rfl, h⟩) ?_)
    · rintro d _ db' n' ⟨hn', h'⟩
      refine wp_bind (deleteDefinition_wp (storageSafe_again hn') fun _ => ?_)
      split_ifs
      · exact wp_pure ⟨hn', h'.erase _⟩
      · exact enqueueDeletion_wp (storageSafe_again hn') fun outbox _ =>
          ⟨hn', (h'.erase _).keyed, (h'.erase _).all⟩
    · rintro _ db' n' ⟨hn', h'⟩
      refine wp_traverse (I := fun _ => Settles env n ()) ?_ ⟨hn', h'⟩
      rintro d _ db' n' ⟨hn', h'⟩
      exact insert_settles hn' h'
  · exact wp_fail ⟨le_rfl, .inr h⟩

theorem reconcile_settles (h : Settled env db) :
    wp (reconcile env engine now) (Settles env n) (SettlesUnlessStorage env n) db n := by
  unfold reconcile
  refine wp_bind (wp_mapError (wp_exec (storageSafe_again le_rfl _ _ _ rfl le_rfl) ?_))
  refine wp_bind (stored_query (storageSafe_again le_rfl) (wp_bind (wp_imp
    (SeriesClosed.traverse_keeps (I := fun db _ => Settled env db) (fun d db n hn h hd =>
      continue_settles hn h.keyed (fun i _ => h.all i) hd) le_rfl ⟨h.keyed, h.all⟩ fun d hd => ?_)
    fun _ _ _ h' => wp_pure h')))
  obtain ⟨r, hr, rfl⟩ := List.mem_map.1 hd
  exact h.keyed.stores_of_mem hr

theorem deliver_settles {reading : AcceptedReading} (h : Settled env db) :
    wp (deliver env engine reading) (Settles env n) (SettlesUnlessStorage env n) db n := by
  refine wp_mono (deliver_wp h.keyed fun d hd => h.routed hd) ?_
    fun e db' n' he => ⟨he.2, .inl he.1⟩
  rintro outcomes db' n' ⟨hdel, rfl⟩
  refine ⟨le_rfl, ⟨?_, fun id row hrow => ?_⟩⟩
  · rw [PipelineDb.Keyed, hdel.definitions]
    exact h.keyed
  · rw [hdel.definitions] at hrow
    obtain ⟨state, hstate, hhash⟩ := h.all id row hrow
    by_cases hid : ∃ d ∈ routedTo db reading, d.id = id
    · obtain ⟨d, hd, rfl⟩ := hid
      obtain ⟨state', hstate', hafter⟩ := hdel.states d hd
      obtain rfl := Option.some.inj (hstate.symm.trans hstate')
      exact ⟨_, hafter, by rw [share_structuralHash, hhash]⟩
    · push Not at hid
      exact ⟨state, by rw [hdel.others id hid, hstate], hhash⟩

theorem perform_settles (call : EngineCall) (h : Settled env db) :
    wp (call.perform env engine) (Settles env n) (SettlesUnlessStorage env n) db n := by
  have hunit : ∀ {α : Type} {m : Tx PipelineDb EngineError α},
      wp m (Settles env n) (SettlesUnlessStorage env n) db n →
      wp (m >>= fun _ => pure ()) (Settles env n) (SettlesUnlessStorage env n) db n :=
    fun hm => wp_bind (wp_imp hm fun _ _ _ h' => wp_pure h')
  cases call with
  | create definition now => exact hunit (create_settles h)
  | update definition now => exact hunit (update_settles h)
  | delete id now => exact delete_settles h
  | reset id now => exact hunit (reset_settles h)
  | importDefinitions definitions now => exact hunit (importDefinitions_settles h)
  | reconcile now => exact hunit (reconcile_settles h)
  | deliver reading => exact hunit (deliver_settles h)

theorem settled_run (env : Outside) (engine : PipelineEngine) (steps : List EngineStep) :
    Settled env (EngineRun.run env engine steps).db :=
  EngineRun.invariant (I := fun db _ => Settled env db) (fun _ _ _ _ h => h)
    (fun _ _ _ h => ⟨h.keyed, h.all⟩) (fun _ _ _ h => h) (fun _ c _ _ h => perform_settles c h)
    steps EngineRun.init (EngineRun.along_true env engine steps _)
    ⟨fun _ _ h => (nomatch h), fun _ _ h => (nomatch h)⟩

end Settled

end EdgeNode
