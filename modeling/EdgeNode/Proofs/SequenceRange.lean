import EdgeNode.Proofs.Sequences

/-!
# The range of sequence numbers

The contract gives a sequence number between 1 and 2^53 - 1. The engine counts on without a limit. As
long as no reading goes to a pipeline whose next number is past the range, every number stays in it.
-/

namespace EdgeNode

open Tx PipelineEngine

def maxSequence : ℕ := 2 ^ 53 - 1

structure InRange (db : PipelineDb) : Prop where
  ids : db.Keyed
  next : ∀ id row, db.states.lookup id = some row →
    1 ≤ (PipelineStore.stateOfRow row).nextSequence
      ∧ (PipelineStore.stateOfRow row).nextSequence ≤ maxSequence + 1
  given : ∀ r ∈ db.outbox.ever, ∀ p ∈ r.2.payload, 1 ≤ p.sequence ∧ p.sequence ≤ maxSequence

def NumbersLeft (s : EngineRun) : EngineStep → Prop
  | .call (.deliver reading) _ _ => ∀ d ∈ routedTo s.db reading, ∀ row ∈ s.db.states.lookup d.id,
      (PipelineStore.stateOfRow row).nextSequence ≤ maxSequence
  | _ => True

namespace InRange

variable {env : Outside} {engine : PipelineEngine} {db db' : PipelineDb} {n n₀ : ℕ} {now : InputTime}
  {definition : PipelineDefinition} {outbox : AutoTable OutboxRow}

theorem mem_insert {r : OutboxRow} {x : ℕ × OutboxRow} (h : db.outbox.insert r = some outbox)
    (hx : x ∈ outbox.ever) : x ∈ db.outbox.ever ∨ x.2 = r := by
  unfold AutoTable.insert at h
  split_ifs at h
  cases h
  rcases List.mem_append.1 hx with hx | hx
  · exact .inl hx
  · exact .inr (by rw [List.mem_singleton.1 hx])

theorem erased (h : InRange db) (id : PipelineId) :
    InRange { db with definitions := db.definitions.erase id, states := db.states.erase id } where
  ids := h.ids.erase id
  next id' row hrow := by
    by_cases hid : id' = id
    · subst hid
      rw [AList.lookup_erase] at hrow
      cases hrow
    · rw [AList.lookup_erase_ne hid] at hrow
      exact h.next id' row hrow
  given := h.given

theorem cleared (h : InRange db) (ho : db.outbox.insert (clearRow engine definition now) = some outbox) :
    InRange { db with outbox := outbox } where
  ids := h.ids
  next := h.next
  given r hr p hp := by
    rcases mem_insert ho hr with hr | hr
    · exact h.given r hr p hp
    · rw [hr] at hp
      cases hp

theorem put (h : InRange db) {id : PipelineId} {state : PipelineState} {time : ℤ}
    (hstate : 1 ≤ state.nextSequence ∧ state.nextSequence ≤ maxSequence + 1)
    (hgiven : ∀ r ∈ outbox.ever, ∀ p ∈ r.2.payload, 1 ≤ p.sequence ∧ p.sequence ≤ maxSequence) :
    InRange { db with
      outbox := outbox
      states := db.states.insert id (PipelineStore.rowOfState state time) } where
  ids := h.ids
  next id' row hrow := by
    by_cases hid : id' = id
    · subst hid
      rw [AList.lookup_insert] at hrow
      cases hrow
      have hlt : state.nextSequence < 2 ^ 64 := by
        unfold maxSequence at hstate
        omega
      have hstored : (PipelineStore.stateOfRow (PipelineStore.rowOfState state time)).nextSequence
          = state.nextSequence := (toU64_toI64 _).trans (Nat.mod_eq_of_lt hlt)
      rwa [hstored]
    · rw [AList.lookup_insert_ne hid] at hrow
      exact h.next id' row hrow
  given := hgiven

theorem publishes (h : InRange db) {state : PipelineState} {value : ObservationValue}
    (hstate : 1 ≤ state.nextSequence ∧ state.nextSequence ≤ maxSequence)
    (ho : db.outbox.insert (observationRow engine definition state value now) = some outbox) :
    ∀ r ∈ outbox.ever, ∀ p ∈ r.2.payload, 1 ≤ p.sequence ∧ p.sequence ≤ maxSequence := by
  intro r hr p hp
  rcases mem_insert ho hr with hr | hr
  · exact h.given r hr p hp
  · rw [hr] at hp
    cases hp
    exact hstate

theorem started (h : InRange db) (hs : Started env engine definition now n db db') :
    InRange db' ∧ ∀ row ∈ db'.states.lookup definition.id,
      (PipelineStore.stateOfRow row).nextSequence ≤ maxSequence := by
  have hfresh : (freshState env definition n).nextSequence = 1 := rfl
  unfold Started at hs
  split_ifs at hs
  · obtain ⟨outbox, ho, rfl⟩ := hs
    have hnext : (publishedState (freshState env definition n) (.accumulatedCount 0) now).nextSequence
        = 2 := rfl
    refine ⟨h.put (by rw [hnext]; decide) (h.publishes (by rw [hfresh]; decide) ho), ?_⟩
    rintro row hrow
    simp only [AList.lookup_insert, Option.mem_some_iff] at hrow
    subst hrow
    show toU64 (toI64 2) ≤ _
    decide
  · subst hs
    refine ⟨h.put (by rw [hfresh]; decide) h.given, fun row hrow => ?_⟩
    simp only [AList.lookup_insert, Option.mem_some_iff] at hrow
    subst hrow
    show toU64 (toI64 1) ≤ _
    decide

theorem advanced (h : InRange db) {row : StateRow} {evaluation : Evaluation} {next : EvaluationState}
    (hrow : db.states.lookup definition.id = some row)
    (hleft : (PipelineStore.stateOfRow row).nextSequence ≤ maxSequence)
    (ha : Advanced engine definition (PipelineStore.stateOfRow row) now evaluation next db db') :
    InRange db' := by
  have hpos := (h.next _ row hrow).1
  unfold Advanced at ha
  split at ha
  · subst ha
    exact h.put ⟨hpos, Nat.le_succ_of_le hleft⟩ h.given
  · obtain ⟨outbox, ho, rfl⟩ := ha
    refine h.put ?_ (h.publishes ⟨hpos, hleft⟩ ho)
    show 1 ≤ ((PipelineStore.stateOfRow row).nextSequence + 1) % 2 ^ 64
      ∧ ((PipelineStore.stateOfRow row).nextSequence + 1) % 2 ^ 64 ≤ _
    unfold maxSequence at hleft ⊢
    omega

theorem closed : SeriesClosed env engine fun db _ => InRange db where
  ids h := h.ids
  renamed _ h := ⟨h.ids, h.next, h.given⟩
  defined row h _ _ := ⟨h.ids.insert row, h.next, h.given⟩
  deleted h _ ho := (h.erased _).cleared ho
  started h _ hs := (h.started hs).1

theorem process_range {input : F64} (hn : n₀ ≤ n) (h : InRange db)
    (hleft : ∀ row ∈ db.states.lookup definition.id,
      (PipelineStore.stateOfRow row).nextSequence ≤ maxSequence) :
    wp (process env engine definition input now)
      (fun _ db' n' => n₀ ≤ n' ∧ InRange db' ∧ OnlyState definition db db')
      (fun e db' n' => n₀ ≤ n' ∧ (e.isStorage = true ∨ InRange db' ∧ OnlyState definition db db'))
      db n := by
  have hE : ∀ {n}, n₀ ≤ n → StorageSafe (fun e db' n' => n₀ ≤ n' ∧ (e.isStorage = true
      ∨ InRange db' ∧ OnlyState definition db db')) n :=
    fun hn _ _ _ he hn' => ⟨hn.trans hn', .inl he⟩
  have hsame : OnlyState definition db db := ⟨rfl, fun _ _ => rfl⟩
  unfold process
  refine wp_bind (usableState_wp (hE hn) (fun row hrow => ?_) fun db' row hst hrow => ?_)
  · refine advance_wp (hE hn) (fun _ => ⟨hn, .inr ⟨h, hsame⟩⟩) fun _ _ _ _ _ ha => ?_
    exact ⟨hn, h.advanced hrow (hleft row hrow) ha, onlyState_advanced ha⟩
  · obtain ⟨h', hleft'⟩ := h.started hst
    have honly := onlyState_started hst
    have hn' := hn.trans (Nat.le_succ n)
    refine advance_wp (hE hn') (fun _ => ⟨hn', .inr ⟨h', honly⟩⟩) fun _ _ _ _ _ ha => ?_
    exact ⟨hn', h'.advanced hrow (hleft' row hrow) ha, honly.trans (onlyState_advanced ha)⟩

theorem deliver_range {reading : AcceptedReading} (h : InRange db)
    (hleft : ∀ d ∈ routedTo db reading, ∀ row ∈ db.states.lookup d.id,
      (PipelineStore.stateOfRow row).nextSequence ≤ maxSequence) :
    wp (deliver env engine reading) (Again (fun db _ => InRange db) n)
      (AgainUnlessStorage (fun db _ => InRange db) n) db n := by
  unfold deliver
  refine wp_bind (stored_query (storageSafe_again le_rfl) ?_)
  show wp (Tx.traverse _ (routedTo db reading)) _ _ _ _
  refine wp_imp (wp_traverse (I := fun ds db' n' => n ≤ n' ∧ InRange db'
    ∧ ds.Pairwise (fun d e => d.id ≠ e.id)
    ∧ ∀ d ∈ ds, ∀ row ∈ db'.states.lookup d.id,
      (PipelineStore.stateOfRow row).nextSequence ≤ maxSequence) ?_
    ⟨le_rfl, h, routedTo_ids h.ids reading, hleft⟩) fun _ _ _ h' => ⟨h'.1, h'.2.1⟩
  rintro d ds db' n' ⟨hn', h', hpair, hleft'⟩
  obtain ⟨hne, hpair⟩ := List.pairwise_cons.1 hpair
  have hrest : ∀ db'', OnlyState d db' db'' → ∀ e ∈ ds, ∀ row ∈ db''.states.lookup e.id,
      (PipelineStore.stateOfRow row).nextSequence ≤ maxSequence := by
    intro db'' honly e he row hrow
    rw [honly.2 e.id (Ne.symm (hne e he))] at hrow
    exact hleft' e (List.mem_cons_of_mem d he) row hrow
  unfold deliverTo
  refine wp_bind (wp_attempt ?_)
  split
  · refine wp_fail (wp_pure ⟨hn', h', hpair, fun e he => hleft' e (List.mem_cons_of_mem d he)⟩)
  · refine wp_mono (process_range hn' h' (hleft' d List.mem_cons_self))
      (fun _ db'' _ hp => wp_pure ⟨hp.1, hp.2.1, hpair, hrest db'' hp.2.2⟩) ?_
    rintro e db'' n'' ⟨hn'', hp⟩
    dsimp only
    split_ifs with he
    · exact wp_fail ⟨hn'', .inl he⟩
    · obtain ⟨hp, honly⟩ := hp.resolve_left he
      exact wp_pure ⟨hn'', hp, hpair, hrest db'' honly⟩

theorem perform_range (call : EngineCall) (h : InRange db)
    (hleft : ∀ reading, call = .deliver reading → ∀ d ∈ routedTo db reading,
      ∀ row ∈ db.states.lookup d.id, (PipelineStore.stateOfRow row).nextSequence ≤ maxSequence) :
    wp (call.perform env engine) (Again (fun db _ => InRange db) n)
      (AgainUnlessStorage (fun db _ => InRange db) n) db n :=
  closed.perform_keeps call h
    (fun _ _ _ => closed.importDefinitions_keeps (fun id h' => h'.erased id)
      (fun h' ho => h'.cleared ho) h)
    fun reading hcall => h.deliver_range (hleft reading hcall)

end InRange

/-- While numbers are left in the series a reading goes to, every number ever enqueued is in the
contract's range. -/
theorem run_sequences_in_range (env : Outside) (engine : PipelineEngine) (steps : List EngineStep)
    (hleft : EngineRun.Along env engine NumbersLeft EngineRun.init steps) :
    ∀ r ∈ (EngineRun.run env engine steps).db.outbox.ever, ∀ p ∈ r.2.payload,
      1 ≤ p.sequence ∧ p.sequence ≤ 2 ^ 53 - 1 := by
  have hinit : InRange EngineRun.init.db :=
    ⟨fun _ _ h => (nomatch h), fun _ _ h => (nomatch h), fun _ h => (nomatch h)⟩
  refine (EngineRun.invariant (I := fun db _ => InRange db) (fun _ _ _ _ h => h)
    (fun _ _ seq h => ⟨h.ids, h.next, h.given⟩) (fun _ _ _ h => h)
    (fun s c _ hP h => InRange.perform_range c h fun reading hc => ?_)
    steps EngineRun.init hleft hinit).given
  subst hc
  exact hP

def thermometer : PipelineDefinition where
  id := ⟨"thermometer", by decide⟩
  kind := .measurement
  input := { adapter := "bravepi", measurementKey := "contact" }
  unit := some "C"

theorem opened_numbersLeft :
    EngineRun.Along unary gate NumbersLeft EngineRun.init (opened thermometer) := by
  refine ⟨trivial, ?_, ?_, trivial⟩
  · show ∀ d ∈ _, _
    decide +kernel
  · show ∀ d ∈ _, _
    decide +kernel

theorem opened_in_range :
    EngineRun.Along unary gate NumbersLeft EngineRun.init (opened thermometer)
      ∧ ∀ r ∈ (EngineRun.run unary gate (opened thermometer)).db.outbox.ever, ∀ p ∈ r.2.payload,
        1 ≤ p.sequence ∧ p.sequence ≤ 2 ^ 53 - 1 :=
  ⟨opened_numbersLeft, run_sequences_in_range unary gate (opened thermometer) opened_numbersLeft⟩

/-! ## A series that runs on -/

structure Published (k : ℕ) (s : EngineRun) : Prop where
  stored : s.db.definitions
    = AList.insert thermometer.id (PipelineStore.definitionRow unary.sha256 thermometer 0 0) ∅
  series : ∃ row, s.db.states.lookup thermometer.id = some row
    ∧ row.structuralHash = thermometer.structuralHash unary.sha256
    ∧ (PipelineStore.stateOfRow row).nextSequence = k + 1
  count : s.db.outbox.lastId = k
  last : 0 < k → ∃ r ∈ s.db.outbox.ever, ∃ p ∈ r.2.payload, p.sequence = k

theorem published_created : Published 0 (EngineRun.step unary gate EngineRun.init
    (.call (.create thermometer ⟨0, none⟩) [] true)) where
  stored := rfl
  series := ⟨_, rfl, rfl, rfl⟩
  count := rfl
  last h := absurd h (lt_irrefl 0)

section Succeeds

variable {env : Outside} {engine : PipelineEngine} {db : PipelineDb} {n : ℕ}
  {definition : PipelineDefinition} {state : PipelineState} {value : ObservationValue}
  {now : InputTime}

theorem usableState_run {row : StateRow} (hrow : db.states.lookup definition.id = some row)
    (hhash : row.structuralHash = definition.structuralHash env.sha256) :
    usableState env engine definition now ⟨db, [], n⟩
      = (.ok (PipelineStore.stateOfRow row), ⟨db, [], n⟩) := by
  have hget : stored (PipelineStore.getState definition.id) ⟨db, [], n⟩
      = (.ok (some (PipelineStore.stateOfRow row)), ⟨db, [], n⟩) := by
    unfold stored PipelineStore.getState
    rw [mapError_query, query_succeeds (by simp), hrow]
    rfl
  unfold usableState
  refine (bind_ok hget).trans ?_
  dsimp only
  rw [if_pos (by exact hhash)]
  rfl

theorem publish_run {outbox : AutoTable OutboxRow}
    (ho : db.outbox.insert (observationRow engine definition state value now) = some outbox) :
    ∃ o, publish engine definition state value now ⟨db, [], n⟩
      = (.ok (o, publishedState state value now), ⟨{ db with outbox := outbox }, [], n⟩) := by
  let r := observationRow engine definition state value now
  have hq : queued (Outbox.enqueue r.pipelineId r.topic r.payload r.retain r.createdAt) ⟨db, [], n⟩
      = (.ok outbox.lastId, ⟨{ db with outbox := outbox }, [], n⟩) := by
    simp only [queued, mapError, Outbox.enqueue, stmt, r, ho]
    rfl
  unfold publish
  exact ⟨_, bind_ok hq⟩

theorem putState_run (state : PipelineState) (time : ℤ) (hd : definition.id ∈ db.definitions) :
    stored (PipelineStore.putState definition.id state time) ⟨db, [], n⟩
      = (.ok (), ⟨{ db with
          states := db.states.insert definition.id (PipelineStore.rowOfState state time) }, [], n⟩) := by
  simp only [stored, mapError, PipelineStore.putState, stmt, if_pos hd]
  rfl

end Succeeds

def valued (state : PipelineState) : PipelineState :=
  publishedState { state with evaluation := { state.evaluation with initialized := true } }
    (.measurement (.finite 1 0)) ⟨1, none⟩

def valueRow (state : PipelineState) : OutboxRow :=
  observationRow gate thermometer
    { state with evaluation := { state.evaluation with initialized := true } }
    (.measurement (.finite 1 0)) ⟨1, none⟩

def valuedDb (db : PipelineDb) (outbox : AutoTable OutboxRow) (row : StateRow) : PipelineDb :=
  { db with
    outbox := outbox
    states := db.states.insert thermometer.id
      (PipelineStore.rowOfState (valued (PipelineStore.stateOfRow row)) 1) }

theorem deliver_run {db : PipelineDb} {n : ℕ} {row : StateRow} {outbox : AutoTable OutboxRow}
    (hd : thermometer.id ∈ db.definitions) (hrouted : routedTo db (contact 1 1) = [thermometer])
    (hrow : db.states.lookup thermometer.id = some row)
    (hhash : row.structuralHash = thermometer.structuralHash unary.sha256)
    (ho : db.outbox.insert (valueRow (PipelineStore.stateOfRow row)) = some outbox) :
    ∃ a, deliver unary gate (contact 1 1) ⟨db, [], n⟩ = (.ok a, ⟨valuedDb db outbox row, [], n⟩) := by
  have hvalue : evaluate thermometer (PipelineStore.stateOfRow row).evaluation (.finite 1 0) 1
      = .ok (⟨true, some (.finite 1 0), none, none, .finite 1 0⟩,
        { (PipelineStore.stateOfRow row).evaluation with initialized := true }) := rfl
  obtain ⟨o, hpublish⟩ := publish_run (n := n) ho
  have hadvance : advance gate thermometer (PipelineStore.stateOfRow row) (.finite 1 0) ⟨1, none⟩
      ⟨db, [], n⟩ = (.ok (.published o), ⟨valuedDb db outbox row, [], n⟩) := by
    unfold advance
    refine (bind_ok (b := (_, _)) (by rw [hvalue]; rfl)).trans ?_
    refine (bind_ok hpublish).trans ?_
    exact bind_ok (putState_run _ 1 hd)
  have hprocess : process unary gate thermometer (.finite 1 0) ⟨1, none⟩ ⟨db, [], n⟩
      = (.ok (.published o), ⟨valuedDb db outbox row, [], n⟩) :=
    (bind_ok (usableState_run hrow hhash)).trans hadvance
  have hto : deliverTo unary gate (contact 1 1) thermometer ⟨db, [], n⟩
      = (.ok (thermometer.id, .ok (.published o)), ⟨valuedDb db outbox row, [], n⟩) := by
    unfold deliverTo
    refine (bind_ok ((attempt_run _ _).trans (congrArg (fun r => (Except.ok r.1, r.2)) hprocess))).trans
      ?_
    rfl
  have hread : stored (PipelineStore.definitionsForInput "bravepi" none "contact" none)
      ⟨db, [], n⟩ = (.ok [thermometer], ⟨db, [], n⟩) := by
    unfold stored PipelineStore.definitionsForInput
    rw [mapError_query, query_succeeds (by simp)]
    exact Prod.ext (congrArg Except.ok hrouted) rfl
  unfold deliver
  refine ⟨[(thermometer.id, .ok (.published o))], (bind_ok hread).trans ?_⟩
  refine (bind_ok hto).trans ?_
  rfl

theorem published_step {k : ℕ} {s : EngineRun} (h : Published k s) (hk : k < maxRowId) :
    Published (k + 1) (EngineRun.step unary gate s (.call (.deliver (contact 1 1)) [] true)) := by
  obtain ⟨row, hrow, hhash, hnext⟩ := h.series
  have hd : thermometer.id ∈ s.db.definitions := by
    rw [h.stored]
    exact (AList.mem_insert _).2 (.inl rfl)
  have hrouted : routedTo s.db (contact 1 1) = [thermometer] := by
    unfold routedTo PipelineStore.rowsById
    rw [h.stored]
    rfl
  obtain ⟨outbox, ho⟩ : ∃ outbox,
      s.db.outbox.insert (valueRow (PipelineStore.stateOfRow row)) = some outbox :=
    ⟨_, dif_pos (h.count ▸ hk)⟩
  obtain ⟨a, hdeliver⟩ := deliver_run (n := s.draws) hd hrouted hrow hhash ho
  have hperform : (EngineCall.deliver (contact 1 1)).perform unary gate ⟨s.db, [], s.draws⟩
      = (.ok (), ⟨valuedDb s.db outbox row, [], s.draws⟩) := bind_ok hdeliver
  have hlt : k + 2 < 2 ^ 64 := by
    unfold maxRowId at hk
    omega
  rw [AutoTable.insert, dif_pos (h.count ▸ hk)] at ho
  cases ho
  simp only [EngineRun.step, hperform]
  refine ⟨h.stored, ⟨_, AList.lookup_insert _, hhash, ?_⟩, congrArg (· + 1) h.count, fun _ => ?_⟩
  · show toU64 (toI64 (((PipelineStore.stateOfRow row).nextSequence + 1) % 2 ^ 64)) = k + 1 + 1
    rw [hnext, toU64_toI64]
    omega
  · exact ⟨_, List.mem_append.2 (.inr (List.mem_singleton.2 rfl)), _, rfl, hnext⟩

theorem published_run : ∀ k ≤ maxRowId, Published k (EngineRun.run unary gate
    (.call (.create thermometer ⟨0, none⟩) [] true
      :: List.replicate k (.call (.deliver (contact 1 1)) [] true)))
  | 0, _ => published_created
  | k + 1, hk => by
    have ih := published_run k (Nat.le_of_succ_le hk)
    rw [List.replicate_succ', ← List.cons_append, EngineRun.run, List.foldl_append]
    exact published_step ih hk

/-- The value after the last number of the range is enqueued under 2^53. -/
theorem sequence_leaves_range : ∃ r ∈ (EngineRun.run unary gate
      (.call (.create thermometer ⟨0, none⟩) [] true
        :: List.replicate (2 ^ 53) (.call (.deliver (contact 1 1)) [] true))).db.outbox.ever,
    ∃ p ∈ r.2.payload, ¬ (1 ≤ p.sequence ∧ p.sequence ≤ 2 ^ 53 - 1) := by
  have hroom : 2 ^ 53 ≤ maxRowId := by
    unfold maxRowId
    norm_num
  obtain ⟨r, hr, p, hp, hseq⟩ := (published_run (2 ^ 53) hroom).last (by norm_num)
  refine ⟨r, hr, p, hp, ?_⟩
  rw [hseq]
  norm_num

end EdgeNode
