import EdgeNode.Lib.JsonText
import EdgeNode.Proofs.Settled

/-!
# A series goes on exactly while the structure stays

Two definitions have the same hashed text exactly when their structural fields agree
(`structuralText_inj`). An update and the reconciliation at startup compare the hash of the
definition with the one the state was started under: they leave the state row alone if the structure
is the same, and start a series with an identifier never drawn before if it is not.
-/

namespace EdgeNode

open Tx PipelineEngine

/-! ## The text -/

structure SameStructure (d d' : PipelineDefinition) : Prop where
  id : d.id = d'.id
  kind : d.kind = d'.kind
  input : d.input = d'.input
  trigger : d.trigger = d'.trigger
  unit : d.unit = d'.unit

theorem PipelineInput.toJson_inj {i i' : PipelineInput} (h : i.toJson = i'.toJson) : i = i' := by
  have hmem := Json.mem_iff_of_object_eq h
  have hadapter : i.adapter = i'.adapter := by
    simpa [Option.bind_eq_some_iff] using hmem ("adapter", .str i.adapter)
  have hsubject : ∀ s, i.subject = some s ↔ i'.subject = some s := by
    intro s
    simpa [Option.bind_eq_some_iff] using hmem ("subject", .str s)
  have hkey : i.measurementKey = i'.measurementKey := by
    simpa [Option.bind_eq_some_iff] using hmem ("measurement_key", .str i.measurementKey)
  have hchannel : ∀ c, i.channelIndex = some c ↔ i'.channelIndex = some c := by
    intro c
    simpa [Option.bind_eq_some_iff] using hmem ("channel_index", .int c)
  have hvalue : i.valueIndex = i'.valueIndex := by
    simpa [Option.bind_eq_some_iff] using hmem ("value_index", .int i.valueIndex)
  obtain ⟨adapter, subject, key, channel, value⟩ := i
  obtain ⟨adapter', subject', key', channel', value'⟩ := i'
  obtain rfl : subject = subject' := Option.ext hsubject
  obtain rfl : channel = channel' := Option.ext hchannel
  simp_all

theorem optionJson_inj {α : Type} {f : α → Json} (hf : Function.Injective f)
    (hnull : ∀ a, f a ≠ .null) {o o' : Option α} (h : optionJson f o = optionJson f o') : o = o' := by
  rcases o with _ | a <;> rcases o' with _ | a'
  · rfl
  · exact absurd h.symm (hnull a')
  · exact absurd h (hnull a)
  · rw [hf h]

theorem PipelineKind.key_inj {k k' : PipelineKind} (h : k.key = k'.key) : k = k' := by
  cases k <;> cases k' <;> first | rfl | exact absurd h (by decide)

theorem PipelineInput.toJson_integral (i : PipelineInput) : i.toJson.integral := by
  unfold PipelineInput.toJson
  rw [Json.integral_object]
  rintro ⟨key, value⟩ hf
  simp only [List.mem_append, List.mem_cons, List.not_mem_nil, Option.mem_toList,
    Option.map_eq_some_iff, Prod.mk.injEq, or_false] at hf
  rcases hf with (((⟨-, rfl⟩ | ⟨_, -, -, rfl⟩) | ⟨-, rfl⟩) | ⟨_, -, -, rfl⟩) | ⟨-, rfl⟩ <;> trivial

/-- The text determines the structural fields, whatever the others are. -/
theorem structuralText_inj {d d' : PipelineDefinition} :
    d.structuralText = d'.structuralText ↔ SameStructure d d' := by
  constructor
  · intro h
    have hintegral : ∀ d : PipelineDefinition, (Json.object [("id", .str d.id.value),
        ("kind", .str d.kind.key), ("input", d.input.toJson),
        ("trigger", optionJson Trigger.toJson d.trigger),
        ("unit", optionJson Json.str d.unit)]).integral := by
      intro d
      rw [Json.integral_object]
      have htrigger : (optionJson Trigger.toJson d.trigger).integral := by
        rcases d.trigger with _ | ⟨⟨⟩⟩ <;> trivial
      have hunit : (optionJson Json.str d.unit).integral := by
        rcases d.unit with _ | unit <;> trivial
      simpa [Json.integral] using ⟨d.input.toJson_integral, htrigger, hunit⟩
    have hmem := Json.mem_iff_of_object_eq
      (Json.compact_inj (hintegral d) (hintegral d') (String.ofList_injective h))
    have hid : d.id.value = d'.id.value := by simpa using hmem ("id", .str d.id.value)
    have hkind : d.kind.key = d'.kind.key := by simpa using hmem ("kind", .str d.kind.key)
    have hinput : d.input.toJson = d'.input.toJson := by
      simpa using hmem ("input", d.input.toJson)
    have htrigger : optionJson Trigger.toJson d.trigger = optionJson Trigger.toJson d'.trigger := by
      simpa using hmem ("trigger", optionJson Trigger.toJson d.trigger)
    have hunit : optionJson Json.str d.unit = optionJson Json.str d'.unit := by
      simpa using hmem ("unit", optionJson Json.str d.unit)
    exact ⟨PipelineId.value_injective hid, PipelineKind.key_inj hkind,
      PipelineInput.toJson_inj hinput,
      optionJson_inj (f := Trigger.toJson) (fun _ _ _ => rfl) (fun t h => by cases t; cases h)
        htrigger,
      optionJson_inj (fun _ _ h => Json.str.inj h) (fun _ h => by cases h) hunit⟩
  · rintro ⟨hid, hkind, hinput, htrigger, hunit⟩
    unfold PipelineDefinition.structuralText
    rw [hid, hkind, hinput, htrigger, hunit]

theorem structuralHash_inj {sha256 : String → String} (hsha : Function.Injective sha256)
    {d d' : PipelineDefinition} :
    d.structuralHash sha256 = d'.structuralHash sha256 ↔ SameStructure d d' :=
  hsha.eq_iff.trans structuralText_inj

/-! ## Updates and the start of the node -/

section Continued

variable {env : Outside} {engine : PipelineEngine} {d : PipelineDefinition} {db db' : PipelineDb}
  {n n₀ : ℕ} {now : InputTime} {before after : StateRow}

def SeriesKept (before after : StateRow) : Prop :=
  after.seriesId = before.seriesId ∧ after.nextSequence = before.nextSequence
    ∧ after.evaluation = before.evaluation

/-- The state row of `d` is left alone if it was started under its hash; otherwise it is one of a
series with an identifier drawn since. -/
def Continued (env : Outside) (d : PipelineDefinition) (n : ℕ) (before after : StateRow) : Prop :=
  (before.structuralHash = d.structuralHash env.sha256 ∧ after = before)
    ∨ (before.structuralHash ≠ d.structuralHash env.sha256 ∧ ∃ m, n ≤ m ∧ after.seriesId = env.uuid m)

theorem continue_wp (hn : n₀ ≤ n) :
    wp (do
      match ← stored (PipelineStore.getState d.id) with
      | some state =>
        if state.structuralHash = d.structuralHash env.sha256 then pure none
        else some <$> startSeries env engine d now
      | none => some <$> startSeries env engine d now)
      (fun _ db' n' => n₀ ≤ n' ∧ OnlyState d db db' ∧ ∀ before, db.states.lookup d.id = some before →
        ∃ after, db'.states.lookup d.id = some after ∧ Continued env d n₀ before after)
      (fun _ _ _ => True) db n := by
  have hE : ∀ {n}, StorageSafe (fun _ _ _ => True) n := fun _ _ _ _ _ => trivial
  have hstart : (∀ before, db.states.lookup d.id = some before →
      before.structuralHash ≠ d.structuralHash env.sha256) →
      wp (some <$> startSeries env engine d now)
        (fun _ db' n' => n₀ ≤ n' ∧ OnlyState d db db'
          ∧ ∀ before, db.states.lookup d.id = some before →
            ∃ after, db'.states.lookup d.id = some after ∧ Continued env d n₀ before after)
        (fun _ _ _ => True) db n := by
    intro hhash
    refine wp_bind (startSeries_wp hE fun _ db' hs => wp_pure
      ⟨hn.trans (Nat.le_succ n), onlyState_started hs, fun before hbefore => ?_⟩)
    obtain ⟨after, hafter, -, hseries, -⟩ := hs.row
    exact ⟨after, hafter, .inr ⟨hhash before hbefore, n, hn, hseries⟩⟩
  refine wp_bind (stored_query hE ?_)
  rcases hstate : db.states.lookup d.id with _ | state <;>
    simp only [Option.map_none, Option.map_some]
  · rw [hstate] at hstart
    exact hstart fun _ h => nomatch h
  · rw [hstate] at hstart
    by_cases hhash : state.structuralHash = d.structuralHash env.sha256
    · rw [if_pos (show (PipelineStore.stateOfRow state).structuralHash = _ from hhash)]
      refine wp_pure ⟨hn, ⟨rfl, fun _ _ => rfl⟩, fun before hbefore => ⟨before, ?_, ?_⟩⟩
      · rw [hstate, hbefore]
      · obtain rfl := Option.some.inj hbefore
        exact .inl ⟨hhash, rfl⟩
    · rw [if_neg (show ¬ (PipelineStore.stateOfRow state).structuralHash = _ from hhash)]
      refine hstart fun before hbefore => ?_
      obtain rfl := Option.some.inj hbefore
      exact hhash

theorem update_continues {row : DefinitionRow}
    (hrow : db.definitions.lookup d.id = some row)
    (hbefore : db.states.lookup d.id = some before) :
    wp (update env engine d now)
      (fun _ db' _ => ∃ after, db'.states.lookup d.id = some after ∧ Continued env d n before after)
      (fun _ _ _ => True) db n := by
  have hE : ∀ {n}, StorageSafe (fun _ _ _ => True) n := fun _ _ _ _ _ => trivial
  unfold update
  refine wp_bind (wp_ofExcept (fun _ _ => ?_) fun _ _ => trivial)
  refine wp_bind (stored_query hE ?_)
  rw [hrow]
  simp only [Option.map_some]
  split_ifs
  · exact wp_fail trivial
  · exact wp_bind (updateDefinition_wp hrow hE (wp_imp (continue_wp le_rfl)
      fun _ _ _ h => h.2.2 before hbefore))

theorem reconcile_continues (hkeyed : db.Keyed) {id : PipelineId} {row : DefinitionRow}
    (hrow : db.definitions.lookup id = some row) (hbefore : db.states.lookup id = some before) :
    wp (reconcile env engine now)
      (fun _ db' _ => ∃ after, db'.states.lookup id = some after
        ∧ Continued env row.definition n before after)
      (fun _ _ _ => True) db n := by
  have hE : ∀ {n}, StorageSafe (fun _ _ _ => True) n := fun _ _ _ _ _ => trivial
  have hid := hkeyed id row hrow
  unfold reconcile
  refine wp_bind (wp_mapError (wp_exec trivial (wp_bind (stored_query hE (wp_bind ?_)))))
  -- before the loop comes to the pipeline its row is untouched, after that it is done with
  refine wp_imp (wp_traverse (I := fun ds db' n' => n ≤ n'
    ∧ ds.Pairwise (fun d e => d.id ≠ e.id) ∧ (∀ d ∈ ds, d.id = id → d = row.definition)
    ∧ ((∃ d ∈ ds, d.id = id) → db'.states.lookup id = some before)
    ∧ ((∀ d ∈ ds, d.id ≠ id) → ∃ after, db'.states.lookup id = some after
      ∧ Continued env row.definition n before after)) ?_ ?_) fun _ _ _ h => wp_pure ?_
  · rintro d ds db' n' ⟨hn', hpair, hrows, hahead, hdone⟩
    obtain ⟨hne, hpair⟩ := List.pairwise_cons.1 hpair
    have hrows' : ∀ e ∈ ds, e.id = id → e = row.definition :=
      fun e he => hrows e (List.mem_cons_of_mem d he)
    refine wp_imp (continue_wp hn') fun _ db'' n'' h => ⟨h.1, hpair, hrows', ?_, fun hgone => ?_⟩
    · rintro ⟨e, he, rfl⟩
      rw [h.2.1.2 e.id (Ne.symm (hne e he))]
      exact hahead ⟨e, List.mem_cons_of_mem d he, rfl⟩
    · by_cases hd : d.id = id
      · obtain ⟨after, hafter, hcont⟩ := h.2.2 before (by
          rw [hd]
          exact hahead ⟨d, List.mem_cons_self, hd⟩)
        rw [hrows d List.mem_cons_self hd] at hafter hcont
        exact ⟨after, by rwa [hid] at hafter, hcont⟩
      · rw [h.2.1.2 id (Ne.symm hd)]
        refine hdone fun e he => ?_
        rcases List.mem_cons.1 he with rfl | he
        · exact hd
        · exact hgone e he
  · refine ⟨le_rfl, PipelineStore.rowsById_ids hkeyed, fun d hd hdid => ?_, fun _ => hbefore,
      fun hgone => ?_⟩
    · obtain ⟨r, hr, rfl⟩ := List.mem_map.1 hd
      have hr' := PipelineStore.mem_rowsById.1 hr
      rw [← hkeyed _ _ hr', hdid] at hr'
      rw [Option.some.inj (hrow.symm.trans hr')]
    · exact absurd hid (hgone _ (List.mem_map.2 ⟨(id, row), PipelineStore.mem_rowsById.2 hrow, rfl⟩))
  · exact h.2.2.2.2 fun _ hd => nomatch hd

/-- With the state started under `d₀` and identifiers that are new, the series goes on exactly if the
structure is that of `d₀`. -/
theorem Continued.kept_iff (hsha : Function.Injective env.sha256) {d₀ : PipelineDefinition}
    (hbefore : before.structuralHash = d₀.structuralHash env.sha256)
    (hfresh : ∀ m, n ≤ m → before.seriesId ≠ env.uuid m) (h : Continued env d n before after) :
    SeriesKept before after ↔ SameStructure d₀ d := by
  rw [← structuralHash_inj hsha, ← hbefore]
  constructor
  · intro hkept
    rcases h with h | ⟨-, m, hm, hseries⟩
    · exact h.1
    · exact absurd (hkept.1.symm.trans hseries) (hfresh m hm)
  · intro hsame
    rcases h with ⟨-, rfl⟩ | h
    · exact ⟨rfl, rfl, rfl⟩
    · exact absurd hsame h.1

end Continued

/-- The hashed texts of two definitions are equal exactly if the structural fields are. So, with a
digest that does not collide: in every state the engine reaches, a successful update keeps the
series of the stored pipeline exactly if it keeps the structure; and a reconciliation does, whatever
definitions it finds in the place of those the series were last continued under. -/
theorem series_kept_iff_structure_kept (env : Outside) (engine : PipelineEngine)
    (hsha : Function.Injective env.sha256) (huuid : Function.Injective env.uuid) :
    (∀ d d' : PipelineDefinition, d.structuralText = d'.structuralText ↔ SameStructure d d')
      ∧ (∀ (steps : List EngineStep) (d : PipelineDefinition) (row : DefinitionRow)
        (now : InputTime) (faults : List Bool) (started : Option SeriesStart)
        (conn : Conn PipelineDb),
        let s := EngineRun.run env engine steps
        s.db.definitions.lookup d.id = some row →
        engine.update env d now ⟨s.db, faults, s.draws⟩ = (.ok started, conn) →
        ∃ before after, s.db.states.lookup d.id = some before
          ∧ conn.db.states.lookup d.id = some after
          ∧ (SeriesKept before after ↔ SameStructure row.definition d))
      ∧ ∀ (steps : List EngineStep) (definitions : AList fun _ : PipelineId => DefinitionRow)
        (id : PipelineId) (row row' : DefinitionRow) (now : InputTime) (faults : List Bool)
        (started : List SeriesStart) (conn : Conn PipelineDb),
        let s := EngineRun.run env engine steps
        let found := { s.db with definitions := definitions }
        found.Keyed → s.db.definitions.lookup id = some row → definitions.lookup id = some row' →
        engine.reconcile env now ⟨found, faults, s.draws⟩ = (.ok started, conn) →
        ∃ before after, s.db.states.lookup id = some before
          ∧ conn.db.states.lookup id = some after
          ∧ (SeriesKept before after ↔ SameStructure row.definition row'.definition) := by
  refine ⟨fun d d' => structuralText_inj, ?_, ?_⟩
  · intro steps d row now faults started conn s hrow hupdate
    obtain ⟨before, hbefore, hhash⟩ := (settled_run env engine steps).all d.id row hrow
    have hfresh := (engineInv_run env engine huuid steps).fresh
    have hw : wp (update env engine d now) (fun _ db' _ => ∃ after,
        db'.states.lookup d.id = some after ∧ Continued env d s.draws before after)
        (fun _ _ _ => True) s.db s.draws := update_continues hrow hbefore
    have hw := hw faults
    rw [hupdate] at hw
    obtain ⟨after, hafter, hcont⟩ := hw
    exact ⟨before, after, hbefore, hafter,
      hcont.kept_iff hsha hhash fun m hm => (hfresh m hm).2 d.id before hbefore⟩
  · intro steps definitions id row row' now faults started conn s found hkeyed hrow hrow' hreconcile
    obtain ⟨before, hbefore, hhash⟩ := (settled_run env engine steps).all id row hrow
    have hfresh := (engineInv_run env engine huuid steps).fresh
    have hw : wp (reconcile env engine now) (fun _ db' _ => ∃ after,
        db'.states.lookup id = some after ∧ Continued env row'.definition s.draws before after)
        (fun _ _ _ => True) found s.draws := reconcile_continues hkeyed hrow' hbefore
    have hw := hw faults
    rw [hreconcile] at hw
    obtain ⟨after, hafter, hcont⟩ := hw
    exact ⟨before, after, hbefore, hafter,
      hcont.kept_iff hsha hhash fun m hm => (hfresh m hm).2 id before hbefore⟩

def doorTuned : PipelineDefinition :=
  { door with
    displayName := some "front door"
    detector := some ⟨.highActive, .finite 2 0, .finite 1 0, 0, 0⟩ }

theorem doorTuned_keeps_series :
    let s := EngineRun.run unary gate (opened door)
    let conn := (gate.update unary doorTuned ⟨3, none⟩ ⟨s.db, [], s.draws⟩).2
    ∃ before after, s.db.states.lookup doorTuned.id = some before
      ∧ conn.db.states.lookup doorTuned.id = some after ∧ SeriesKept before after := by
  have hstored : ((EngineRun.run unary gate (opened door)).db.definitions.lookup
      doorTuned.id).map DefinitionRow.definition = some door := by decide +kernel
  have hok : (gate.update unary doorTuned ⟨3, none⟩
      ⟨(EngineRun.run unary gate (opened door)).db, [],
        (EngineRun.run unary gate (opened door)).draws⟩).1.isOk = true := by decide +kernel
  have hseries := (series_kept_iff_structure_kept unary gate (fun _ _ h => h) unary_injective).2.1
    (opened door) doorTuned
  generalize EngineRun.run unary gate (opened door) = s at hstored hok hseries ⊢
  intro s' conn
  obtain ⟨row, hrow, hdoor⟩ := Option.map_eq_some_iff.1 hstored
  rcases hr : gate.update unary doorTuned ⟨3, none⟩ ⟨s.db, [], s.draws⟩ with ⟨e | started, conn'⟩ <;>
    rw [hr] at hok
  · exact nomatch hok
  · obtain ⟨before, after, hbefore, hafter, hiff⟩ := hseries row ⟨3, none⟩ [] started conn' hrow hr
    refine ⟨before, after, hbefore, ?_, hiff.2 ?_⟩
    · rw [show conn = conn' from congrArg Prod.snd hr]
      exact hafter
    · rw [hdoor]
      exact ⟨rfl, rfl, rfl, rfl, rfl⟩

end EdgeNode
