import EdgeNode.Lib.Keyed
import EdgeNode.Proofs.Settled

/-!
# Pipelines do not disturb each other

What a delivery does to a pipeline is the share of that pipeline, which depends on its definition,
its own state row and the reading. So it is the same without the other pipelines, and a pipeline the
reading does not go to is left as it was.
-/

namespace EdgeNode

open Tx PipelineEngine

section Alone

variable {env : Outside} {engine : PipelineEngine} {reading : AcceptedReading}
  {d : PipelineDefinition} {row : StateRow} {input : F64} {time : InputTime} {db db' : PipelineDb}
  {n : ℕ}

theorem stored_query_sure {α : Type} {f : PipelineDb → α} {Q : α → PipelineDb → ℕ → Prop}
    {E : EngineError → PipelineDb → ℕ → Prop} (h : Q (f db) db n) :
    sure (stored (query .sqlite f)) Q E db n :=
  sure_mapError (sure_query h)

theorem putState_sure {id : PipelineId} {state : PipelineState} {at' : ℤ}
    {Q : Unit → PipelineDb → ℕ → Prop} {E : EngineError → PipelineDb → ℕ → Prop}
    (hstored : id ∈ db.definitions)
    (h : Q () { db with states := db.states.insert id (PipelineStore.rowOfState state at') } n) :
    sure (stored (PipelineStore.putState id state at')) Q E db n := by
  refine sure_mapError (sure_stmt (fun _ db' hok => ?_) fun _ herr => ?_)
  · rw [if_pos hstored] at hok
    simp only [Except.ok.injEq, Prod.mk.injEq] at hok
    obtain ⟨-, rfl⟩ := hok
    exact h
  · rw [if_pos hstored] at herr
    exact nomatch herr

theorem process_sure (hstored : d.id ∈ db.definitions)
    (hrow : db.states.lookup d.id = some row)
    (hhash : row.structuralHash = d.structuralHash env.sha256)
    (hroom : ∀ r, (evaluated engine d row input time).published = some r →
      db.outbox.lastId < maxRowId) :
    sure (process env engine d input time) (fun _ _ _ => True) (fun e _ _ => e.isStorage = false)
      db n := by
  unfold process usableState
  refine sure_bind (sure_bind (stored_query_sure ?_))
  rw [hrow]
  simp only [Option.map_some]
  rw [if_pos (show (PipelineStore.stateOfRow row).structuralHash = _ from hhash)]
  refine sure_pure ?_
  unfold advance
  unfold evaluated at hroom
  rcases hv : evaluate d (PipelineStore.stateOfRow row).evaluation input time.uptimeMs with
    e | ⟨evaluation, next⟩ <;> simp only [hv] at hroom ⊢
  · exact sure_bind (sure_fail rfl)
  · refine sure_bind (sure_pure ?_)
    dsimp only
    rcases ho : observedValue d.kind evaluation with _ | value <;> simp only [ho] at hroom ⊢
    · exact sure_bind (putState_sure hstored (sure_pure trivial))
    · have hleft := hroom _ rfl
      unfold publish
      refine sure_bind (sure_bind (sure_mapError (sure_stmt (fun _ db' hok => ?_) fun _ herr => ?_)))
      · refine sure_pure (sure_bind (putState_sure ?_ (sure_pure trivial)))
        split at hok
        · simp only [Except.ok.injEq, Prod.mk.injEq] at hok
          obtain ⟨-, rfl⟩ := hok
          exact hstored
        · cases hok
      · split at herr
        · cases herr
        · rename_i hnone
          have := AutoTable.insert_eq_none.1 hnone
          omega

theorem deliverTo_run (hstored : d.id ∈ db.definitions) (hrow : db.states.lookup d.id = some row)
    (hhash : row.structuralHash = d.structuralHash env.sha256)
    (hroom : ∀ r, (share engine reading d row).published = some r → db.outbox.lastId < maxRowId) :
    ∃ r conn, deliverTo env engine reading d ⟨db, [], n⟩ = (.ok r, conn) := by
  unfold share at hroom
  unfold deliverTo
  rw [bind_ok (attempt_run _ _)]
  rcases hvalue : reading.values[d.input.valueIndex]? with _ | input <;> simp only [hvalue] at hroom ⊢
  · exact ⟨_, _, rfl⟩
  · have hsure := process_sure (n := n) hstored hrow hhash hroom
    rcases hr : process env engine d input reading.receivedAt ⟨db, [], n⟩ with ⟨e | o, conn⟩
    · refine ⟨(d.id, .error e), conn, ?_⟩
      have he := hsure.error hr
      dsimp only
      rw [he]
      rfl
    · exact ⟨_, _, rfl⟩

/-! ## One pipeline alone -/

def PipelineDb.alone (db : PipelineDb) (reading : AcceptedReading) (d : PipelineDefinition) :
    PipelineDb :=
  let kept : PipelineId → Bool := fun id =>
    id = d.id || !((routedTo db reading).any fun e => e.id = id)
  { db with
    definitions := EdgeNode.Keyed.retain (fun id _ => kept id) db.definitions
    states := EdgeNode.Keyed.retain (fun id _ => kept id) db.states }

theorem PipelineDb.lookup_alone {id : PipelineId} {r : DefinitionRow} :
    (db.alone reading d).definitions.lookup id = some r ↔ db.definitions.lookup id = some r
      ∧ (id = d.id ∨ ∀ e ∈ routedTo db reading, e.id ≠ id) := by
  unfold PipelineDb.alone
  rw [EdgeNode.Keyed.lookup_retain, Option.filter_eq_some_iff]
  simp

theorem PipelineDb.state_alone : (db.alone reading d).states.lookup d.id = db.states.lookup d.id := by
  unfold PipelineDb.alone
  rw [EdgeNode.Keyed.lookup_retain]
  rcases db.states.lookup d.id with _ | r <;> simp

theorem PipelineDb.Keyed.alone (h : db.Keyed) : (db.alone reading d).Keyed :=
  fun id r hr => h id r (PipelineDb.lookup_alone.1 hr).1

theorem routedTo_alone (h : db.Keyed) (hd : d ∈ routedTo db reading) :
    routedTo (db.alone reading d) reading = [d] := by
  have hids := routedTo_ids (show (db.alone reading d).Keyed from h.alone) reading
  have hmem : ∀ e, e ∈ routedTo (db.alone reading d) reading ↔ e = d := by
    intro e
    rw [mem_routedTo h.alone]
    constructor
    · rintro ⟨r, hr, rfl, hroutes⟩
      obtain ⟨hstored, hkept⟩ := PipelineDb.lookup_alone.1 hr
      have he : r.definition ∈ routedTo db reading :=
        (mem_routedTo h).2 ⟨r, hstored, rfl, hroutes⟩
      have hid : r.definition.id = d.id := hkept.resolve_right fun hall => hall _ he rfl
      obtain ⟨r', hr', rfl, -⟩ := (mem_routedTo h).1 hd
      rw [hid, hr'] at hstored
      rw [Option.some.inj hstored]
    · rintro rfl
      obtain ⟨r, hr, hrd, hroutes⟩ := (mem_routedTo h).1 hd
      exact ⟨r, PipelineDb.lookup_alone.2 ⟨hr, .inl rfl⟩, hrd, hroutes⟩
  rcases hl : routedTo (db.alone reading d) reading with _ | ⟨e, _ | ⟨e', es⟩⟩ <;>
    rw [hl] at hmem hids
  · exact absurd ((hmem d).2 rfl) List.not_mem_nil
  · rw [(hmem e).1 List.mem_cons_self]
  · have he := (hmem e).1 List.mem_cons_self
    have he' := (hmem e').1 (by simp)
    exact absurd (by rw [he, he']) (List.rel_of_pairwise_cons hids (List.mem_cons_self (a := e')))

theorem deliver_alone (hsettled : Settled env db) (hd : d ∈ routedTo db reading)
    (hrow : db.states.lookup d.id = some row)
    (hroom : ∀ r, (share engine reading d row).published = some r → db.outbox.lastId < maxRowId) :
    ∃ conn, deliver env engine reading ⟨db.alone reading d, [], n⟩
        = (.ok [(d.id, (share engine reading d row).outcome)], conn)
      ∧ Delivered engine reading (db.alone reading d) [d]
        [(d.id, (share engine reading d row).outcome)] conn.db := by
  have hkeyed : (db.alone reading d).Keyed := hsettled.keyed.alone
  have hrouted := routedTo_alone hsettled.keyed hd
  obtain ⟨row', hrow', hhash⟩ := hsettled.routed hd
  obtain rfl := Option.some.inj (hrow.symm.trans hrow')
  have hrow₁ : (db.alone reading d).states.lookup d.id = some row := by
    rw [PipelineDb.state_alone, hrow]
  have hstored : d.id ∈ (db.alone reading d).definitions := by
    obtain ⟨r, hr, -⟩ := (mem_routedTo hkeyed).1 (show d ∈ routedTo (db.alone reading d) reading by
      rw [hrouted]
      exact List.mem_cons_self)
    exact AList.lookup_isSome.1 (by rw [hr]; rfl)
  obtain ⟨r, conn, hrun⟩ : ∃ r conn, deliverTo env engine reading d
      ⟨db.alone reading d, [], n⟩ = (.ok r, conn) := deliverTo_run hstored hrow₁ hhash hroom
  have hquery : stored (PipelineStore.definitionsForInput reading.adapter reading.subject
      reading.measurementKey reading.channelIndex) ⟨db.alone reading d, [], n⟩
        = (.ok [d], ⟨db.alone reading d, [], n⟩) := by
    rw [← hrouted]
    rfl
  have hdeliver : deliver env engine reading ⟨db.alone reading d, [], n⟩ = (.ok [r], conn) := by
    unfold deliver
    rw [bind_ok hquery]
    unfold Tx.traverse
    rw [bind_ok hrun]
    rfl
  have hw : wp (deliver env engine reading) (fun outcomes db' n' =>
      Delivered engine reading (db.alone reading d) (routedTo (db.alone reading d) reading) outcomes
        db' ∧ n' = n) (fun e _ n' => e.isStorage = true ∧ n ≤ n') (db.alone reading d) n := by
    refine deliver_wp hkeyed fun e he => ?_
    rw [hrouted, List.mem_singleton] at he
    exact ⟨row, he ▸ hrow₁, he ▸ hhash⟩
  have hdone := hw []
  rw [hdeliver, hrouted] at hdone
  have houtcome : r = (d.id, (share engine reading d row).outcome) := by
    obtain ⟨⟨row', hrow', h⟩, -⟩ := List.forall₂_cons.1 hdone.1.outcomes
    rw [h, ← Option.some.inj (hrow₁.symm.trans hrow')]
  exact ⟨conn, by rw [hdeliver, houtcome], houtcome ▸ hdone.1⟩

end Alone

/-! ## Every pipeline by itself -/

theorem exists_of_forall₂ {α β : Type} {R : α → β → Prop} {as : List α} {bs : List β}
    (h : List.Forall₂ R as bs) {a : α} (ha : a ∈ as) : ∃ b ∈ bs, R a b := by
  induction h with
  | nil => exact nomatch ha
  | @cons a' b _ _ hr _ ih =>
    rcases List.mem_cons.1 ha with rfl | ha
    · exact ⟨b, List.mem_cons_self, hr⟩
    · obtain ⟨b', hb', hr'⟩ := ih ha
      exact ⟨b', List.mem_cons_of_mem b hb', hr'⟩

def addedRows (db db' : PipelineDb) (id : PipelineId) : List OutboxRow :=
  ((db'.outbox.rows.drop db.outbox.rows.length).map Prod.snd).filter fun r => r.pipelineId = id

section Added

variable {env : Outside} {engine : PipelineEngine} {reading : AcceptedReading}
  {d : PipelineDefinition} {row : StateRow} {db db' : PipelineDb} {ds : List PipelineDefinition}
  {outcomes : List PipelineDelivery}

theorem addedRows_eq {new : List OutboxRow} (h : db.outbox.Appends db'.outbox new)
    (id : PipelineId) : addedRows db db' id = new.filter fun r => r.pipelineId = id := by
  obtain ⟨added, hrows, rfl⟩ := h.rows
  rw [addedRows, hrows, List.drop_left]

def sharedRows (engine : PipelineEngine) (reading : AcceptedReading) (db : PipelineDb)
    (ds : List PipelineDefinition) : List OutboxRow :=
  ds.filterMap fun d =>
    (db.states.lookup d.id).bind fun row => (share engine reading d row).published

theorem filter_sharedRows_eq_nil {id : PipelineId} (hid : ∀ d ∈ ds, d.id ≠ id) :
    ((sharedRows engine reading db ds).filter fun r => r.pipelineId = id) = [] := by
  rw [List.filter_eq_nil_iff]
  intro r hr
  obtain ⟨d, hd, hr⟩ := List.mem_filterMap.1 hr
  obtain ⟨row, -, hr⟩ := Option.bind_eq_some_iff.1 hr
  simpa [share_published hr] using hid d hd

theorem Delivered.addedRows_eq_nil (h : Delivered engine reading db ds outcomes db')
    {id : PipelineId} (hid : ∀ d ∈ ds, d.id ≠ id) : addedRows db db' id = [] :=
  (addedRows_eq h.outbox id).trans (filter_sharedRows_eq_nil hid)

theorem Delivered.addedRows_eq_share (h : Delivered engine reading db ds outcomes db')
    (hids : ds.Pairwise fun d e => d.id ≠ e.id) (hd : d ∈ ds)
    (hrow : db.states.lookup d.id = some row) :
    addedRows db db' d.id = (share engine reading d row).published.toList := by
  obtain ⟨front, back, rfl⟩ := List.append_of_mem hd
  obtain ⟨-, hback, hfront⟩ := List.pairwise_append.1 hids
  have hfront : ∀ e ∈ front, e.id ≠ d.id := fun e he => hfront e he d List.mem_cons_self
  have hback : ∀ e ∈ back, e.id ≠ d.id := fun e he => (List.rel_of_pairwise_cons hback he).symm
  have hown : (share engine reading d row).published.toList.filter (fun r => r.pipelineId = d.id)
      = (share engine reading d row).published.toList := by
    rw [List.filter_eq_self]
    intro r hr
    simpa using share_published (Option.mem_toList.1 hr)
  have hsplit : sharedRows engine reading db (front ++ d :: back)
      = sharedRows engine reading db front ++ (share engine reading d row).published.toList
        ++ sharedRows engine reading db back := by
    unfold sharedRows
    rw [List.filterMap_append, List.filterMap_cons, hrow, Option.bind_some, List.append_assoc]
    rcases (share engine reading d row).published with _ | r <;> rfl
  refine (addedRows_eq h.outbox d.id).trans ?_
  change (sharedRows engine reading db (front ++ d :: back)).filter _ = _
  rw [hsplit, List.filter_append, List.filter_append, filter_sharedRows_eq_nil hfront,
    filter_sharedRows_eq_nil hback, hown, List.append_nil, List.nil_append]

end Added

/-- In every state the engine reaches, a delivery gives each pipeline the reading goes to the outcome,
the state row and the outbox rows it gets when it is alone; a pipeline that discards its input keeps
its state row and publishes nothing; and all other pipelines are left as they were. -/
theorem deliver_isolates (env : Outside) (engine : PipelineEngine) (steps : List EngineStep)
    (reading : AcceptedReading) (faults : List Bool) (outcomes : List PipelineDelivery)
    (conn : Conn PipelineDb)
    (hdeliver : engine.deliver env reading ⟨(EngineRun.run env engine steps).db, faults,
      (EngineRun.run env engine steps).draws⟩ = (.ok outcomes, conn)) :
    let s := EngineRun.run env engine steps
    outcomes.map Prod.fst = (routedTo s.db reading).map PipelineDefinition.id
      ∧ (∀ d ∈ routedTo s.db reading, ∃ outcome lone,
        (d.id, outcome) ∈ outcomes
          ∧ engine.deliver env reading ⟨s.db.alone reading d, [], s.draws⟩
            = (.ok [(d.id, outcome)], lone)
          ∧ conn.db.states.lookup d.id = lone.db.states.lookup d.id
          ∧ addedRows s.db conn.db d.id = addedRows (s.db.alone reading d) lone.db d.id
          ∧ ((∃ e, outcome = .error e) → conn.db.states.lookup d.id = s.db.states.lookup d.id
            ∧ addedRows s.db conn.db d.id = []))
      ∧ (∀ id, (∀ d ∈ routedTo s.db reading, d.id ≠ id) →
        conn.db.states.lookup id = s.db.states.lookup id ∧ addedRows s.db conn.db id = [])
      ∧ conn.db.definitions = s.db.definitions
      ∧ s.db.outbox.rows <+: conn.db.outbox.rows := by
  intro s
  have hsettled : Settled env s.db := settled_run env engine steps
  have hids := routedTo_ids hsettled.keyed reading
  have hw : wp (deliver env engine reading) (fun outcomes db' n' =>
      Delivered engine reading s.db (routedTo s.db reading) outcomes db' ∧ n' = s.draws)
      (fun e _ n' => e.isStorage = true ∧ s.draws ≤ n') s.db s.draws :=
    deliver_wp hsettled.keyed fun d hd => hsettled.routed hd
  have hdone := hw faults
  rw [hdeliver] at hdone
  obtain ⟨hdone, -⟩ := hdone
  refine ⟨?_, fun d hd => ?_, fun id hid => ⟨hdone.others id hid, hdone.addedRows_eq_nil hid⟩,
    hdone.definitions, ?_⟩
  · have hfst : List.Forall₂ (fun (d : PipelineDefinition) (o : PipelineDelivery) => d.id = o.1)
        (routedTo s.db reading) outcomes :=
      hdone.outcomes.imp fun d o ⟨_, _, ho⟩ => by rw [ho]
    have hmap := List.forall₂_map_left_iff.2 (List.forall₂_map_right_iff.2 hfst)
    rw [List.forall₂_eq_eq_eq] at hmap
    exact hmap.symm
  · obtain ⟨row, hrow, hafter⟩ := hdone.states d hd
    have hadded := hdone.addedRows_eq_share hids hd hrow
    have hroom : ∀ r, (share engine reading d row).published = some r →
        s.db.outbox.lastId < maxRowId := by
      intro r hr
      refine hdone.outbox.room fun hnil => ?_
      have hmem : r ∈ addedRows s.db conn.db d.id := by
        rw [hadded, hr]
        exact List.mem_singleton_self r
      rw [addedRows_eq hdone.outbox, hnil] at hmem
      exact List.not_mem_nil hmem
    obtain ⟨lone, hlone, hdone₁⟩ : ∃ lone, deliver env engine reading
        ⟨s.db.alone reading d, [], s.draws⟩
          = (.ok [(d.id, (share engine reading d row).outcome)], lone)
        ∧ Delivered engine reading (s.db.alone reading d) [d]
          [(d.id, (share engine reading d row).outcome)] lone.db :=
      deliver_alone hsettled hd hrow hroom
    have hrow₁ : (s.db.alone reading d).states.lookup d.id = some row := by
      rw [PipelineDb.state_alone, hrow]
    obtain ⟨row₁, hrow₁', hafter₁⟩ := hdone₁.states d List.mem_cons_self
    obtain rfl := Option.some.inj (hrow₁.symm.trans hrow₁')
    have hadded₁ := hdone₁.addedRows_eq_share (List.pairwise_singleton _ d) List.mem_cons_self hrow₁
    refine ⟨_, lone, ?_, hlone, by rw [hafter, hafter₁], by rw [hadded, hadded₁], ?_⟩
    · obtain ⟨o, ho, row', hrow', rfl⟩ := exists_of_forall₂ hdone.outcomes hd
      rwa [Option.some.inj (hrow.symm.trans hrow')]
    · rintro ⟨e, he⟩
      obtain ⟨hstate, hpublished⟩ := share_error he
      exact ⟨by rw [hafter, hstate, hrow], by rw [hadded, hpublished]; rfl⟩
  · obtain ⟨added, hrows, -⟩ := hdone.outbox.rows
    exact ⟨added, hrows.symm⟩

def doorAndLid : List EngineStep :=
  [.call (.create door ⟨0, none⟩) [] true, .call (.create lid ⟨0, none⟩) [] true]

theorem doorAndLid_isolated :
    let s := EngineRun.run unary gate doorAndLid
    let conn := (gate.deliver unary (contact 1 1) ⟨s.db, [], s.draws⟩).2
    (routedTo s.db (contact 1 1)).map PipelineDefinition.id = [door.id, lid.id]
      ∧ ∀ d ∈ routedTo s.db (contact 1 1), ∃ outcome lone,
        gate.deliver unary (contact 1 1) ⟨s.db.alone (contact 1 1) d, [], s.draws⟩
            = (.ok [(d.id, outcome)], lone)
          ∧ conn.db.states.lookup d.id = lone.db.states.lookup d.id := by
  have hrouted : (routedTo (EngineRun.run unary gate doorAndLid).db (contact 1 1)).map
      PipelineDefinition.id = [door.id, lid.id] := by decide +kernel
  have hok : (gate.deliver unary (contact 1 1) ⟨(EngineRun.run unary gate doorAndLid).db, [],
      (EngineRun.run unary gate doorAndLid).draws⟩).1.isOk = true := by decide +kernel
  have hisolated := deliver_isolates unary gate doorAndLid (contact 1 1) []
  generalize EngineRun.run unary gate doorAndLid = s at hrouted hok hisolated ⊢
  intro s' conn
  refine ⟨hrouted, fun d hd => ?_⟩
  rcases hr : gate.deliver unary (contact 1 1) ⟨s.db, [], s.draws⟩ with ⟨e | outcomes, conn'⟩ <;>
    rw [hr] at hok
  · exact nomatch hok
  · obtain ⟨outcome, lone, -, hlone, hstate, -⟩ := (hisolated outcomes conn' hr).2.1 d hd
    refine ⟨outcome, lone, hlone, ?_⟩
    rw [show conn = conn' from congrArg Prod.snd hr]
    exact hstate

end EdgeNode
