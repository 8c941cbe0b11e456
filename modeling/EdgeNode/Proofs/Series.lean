import EdgeNode.Proofs.EngineSpec
import EdgeNode.Proofs.Evaluator

/-!
# A series numbers its observations

The rows a series has published lie on one topic and are numbered from 1 without a gap; those of a
count carry their number less one, those of a state alternate (`SeriesRows`).

What carries the induction is that a series belongs to one pipeline at a time, and that the
identifiers still to be drawn occur nowhere: a row is then appended only to the series of the state
that is written with it.
-/

namespace EdgeNode

open Tx PipelineEngine

/-! ## Rows of one series -/

section Rows

variable {topic : String} {kind : PipelineKind} {rows : List (String × Payload)} {p : Payload}
  {t t' : AutoTable OutboxRow} {r : OutboxRow}

structure SeriesRows (topic : String) (kind : PipelineKind) (rows : List (String × Payload)) :
    Prop where
  topics : ∀ r ∈ rows, r.1 = topic
  sequences : rows.map (·.2.sequence) = List.range' 1 rows.length
  counts : kind = .accumulatedCount → ∀ r ∈ rows, r.2.value = .int ((r.2.sequence : ℤ) - 1)
  alternates : kind = .state →
    ∃ bs : List Bool, rows.map (·.2.value) = bs.map Json.bool ∧ bs.IsChain (· ≠ ·)

structure Continues (kind : PipelineKind) (rows : List (String × Payload))
    (state : PipelineState) : Prop where
  next : state.nextSequence = rows.length + 1
  counts : kind = .accumulatedCount → (rows.length : ℤ) = state.evaluation.counter + 1
    ∧ 0 ≤ state.evaluation.counter ∧ state.evaluation.counter ≤ maxSafeInteger
  states : kind = .state → if state.evaluation.initialized
    then (rows.map (·.2.value)).getLast? = some (.bool state.evaluation.active) else rows = []

theorem SeriesRows.nil : SeriesRows topic kind [] where
  topics := by simp
  sequences := rfl
  counts := by simp
  alternates := fun _ => ⟨[], rfl, List.isChain_nil⟩

theorem SeriesRows.append (h : SeriesRows topic kind rows) (hseq : p.sequence = rows.length + 1)
    (hcount : kind = .accumulatedCount → p.value = .int ((p.sequence : ℤ) - 1))
    (hstate : kind = .state →
      ∃ b, p.value = .bool b ∧ (rows.map (·.2.value)).getLast? ≠ some (.bool b)) :
    SeriesRows topic kind (rows ++ [(topic, p)]) where
  topics := by
    intro r hr
    rcases List.mem_append.1 hr with hr | hr
    · exact h.topics r hr
    · rw [List.mem_singleton.1 hr]
  sequences := by
    rw [List.map_append, h.sequences, List.length_append, List.length_singleton,
      List.range'_1_concat]
    simp [hseq, Nat.add_comm]
  counts := by
    intro hk r hr
    rcases List.mem_append.1 hr with hr | hr
    · exact h.counts hk r hr
    · rw [List.mem_singleton.1 hr]
      exact hcount hk
  alternates := by
    intro hk
    obtain ⟨bs, hbs, hchain⟩ := h.alternates hk
    obtain ⟨b, hb, hlast⟩ := hstate hk
    refine ⟨bs ++ [b], by simp [hbs, hb], List.isChain_append.2 ⟨hchain, by simp, ?_⟩⟩
    intro x hx y hy hxy
    simp only [List.head?_cons, Option.mem_some_iff] at hy
    subst hy hxy
    rw [hbs, List.getLast?_map, Option.mem_def.1 hx] at hlast
    exact hlast rfl

theorem publishedRows_append (ever : List (ℕ × OutboxRow)) (r : ℕ × OutboxRow) (s : String) :
    publishedRows (ever ++ [r]) s = publishedRows ever s
      ++ (r.2.payload.bind fun p => if p.seriesId = s then some (r.2.topic, p) else none).toList := by
  simp only [publishedRows, List.filterMap_append]
  congr 1

theorem publishedRows_insert_same (h : t.insert r = some t') (hp : r.payload = some p) :
    publishedRows t'.ever p.seriesId = publishedRows t.ever p.seriesId ++ [(r.topic, p)] := by
  rw [(AutoTable.insert_eq_some h).2.2.1, publishedRows_append]
  simp [hp]

theorem publishedRows_insert_other (h : t.insert r = some t') (hp : r.payload = some p)
    {s : String} (hs : p.seriesId ≠ s) : publishedRows t'.ever s = publishedRows t.ever s := by
  rw [(AutoTable.insert_eq_some h).2.2.1, publishedRows_append]
  simp [hp, hs]

theorem publishedRows_insert_clear (h : t.insert r = some t') (hp : r.payload = none) (s : String) :
    publishedRows t'.ever s = publishedRows t.ever s := by
  rw [(AutoTable.insert_eq_some h).2.2.1, publishedRows_append]
  simp [hp]

theorem publishedRows_length_lt (h : t.insert r = some t') (s : String) :
    (publishedRows t.ever s).length + 2 < 2 ^ 64 := by
  have h1 : (publishedRows t.ever s).length ≤ t.ever.length := List.length_filterMap_le _ _
  have h2 := (AutoTable.insert_eq_some h).2.2.2
  rw [t.ever_length] at h1
  unfold maxRowId at h2
  omega

end Rows

/-! ## The invariant of the engine -/

section Inv

variable {env : Outside} {engine : PipelineEngine} {definition : PipelineDefinition}
  {db db' : PipelineDb} {n n' : ℕ} {now : InputTime}

def PipelineDb.rowsOf (db : PipelineDb) (s : String) : List (String × Payload) :=
  publishedRows db.outbox.ever s

structure EngineInv (env : Outside) (engine : PipelineEngine) (db : PipelineDb) (n : ℕ) :
    Prop where
  ids : db.Keyed
  states : ∀ id row, db.states.lookup id = some row →
    ∃ drow, db.definitions.lookup id = some drow
      ∧ SeriesRows (observationTopic engine.edgeNodeId id drow.definition.kind)
          drow.definition.kind (db.rowsOf row.seriesId)
      ∧ Continues drow.definition.kind (db.rowsOf row.seriesId) (PipelineStore.stateOfRow row)
  series : ∀ s, db.rowsOf s = []
    ∨ ∃ id kind, SeriesRows (observationTopic engine.edgeNodeId id kind) kind (db.rowsOf s)
  apart : ∀ id id' row row', db.states.lookup id = some row → db.states.lookup id' = some row' →
    row.seriesId = row'.seriesId → id = id'
  fresh : ∀ i, n ≤ i → db.rowsOf (env.uuid i) = []
    ∧ ∀ id row, db.states.lookup id = some row → row.seriesId ≠ env.uuid i

theorem EngineInv.init : EngineInv env engine PipelineDb.empty 0 where
  ids := by simp [PipelineDb.Keyed, PipelineDb.empty]
  states := by simp [PipelineDb.empty]
  series := fun _ => .inl rfl
  apart := by simp [PipelineDb.empty]
  fresh := fun _ _ => ⟨rfl, by simp [PipelineDb.empty]⟩

theorem EngineInv.mono (h : EngineInv env engine db n) (hn : n ≤ n') :
    EngineInv env engine db n' :=
  { h with fresh := fun i hi => h.fresh i (hn.trans hi) }

/-- The invariant speaks of the history of the outbox, not of the rows still queued. -/
theorem EngineInv.delivered (h : EngineInv env engine db n) (outboxSeq : ℕ) :
    EngineInv env engine { db with outbox := db.outbox.delete outboxSeq } n where
  ids := h.ids
  states := h.states
  series := h.series
  apart := h.apart
  fresh := h.fresh

theorem EngineInv.cleared (h : EngineInv env engine db n) {r : OutboxRow}
    {outbox : AutoTable OutboxRow} (hp : r.payload = none) (ho : db.outbox.insert r = some outbox) :
    EngineInv env engine { db with outbox := outbox } n := by
  have hrows : ∀ s, ({ db with outbox := outbox } : PipelineDb).rowsOf s = db.rowsOf s :=
    publishedRows_insert_clear ho hp
  refine ⟨h.ids, ?_, ?_, h.apart, ?_⟩
  · simpa only [hrows] using h.states
  · simpa only [hrows] using h.series
  · simpa only [hrows] using h.fresh

theorem EngineInv.erased (h : EngineInv env engine db n) (id : PipelineId) :
    EngineInv env engine
      { db with definitions := db.definitions.erase id, states := db.states.erase id } n := by
  have hl : ∀ i row, (db.states.erase id).lookup i = some row →
      i ≠ id ∧ db.states.lookup i = some row := by
    intro i row hb
    by_cases hi : i = id
    · subst hi
      simp at hb
    · exact ⟨hi, by rwa [AList.lookup_erase_ne hi] at hb⟩
  refine ⟨h.ids.erase id, fun i row hr => ?_, h.series,
    fun i i' row row' hr hr' => h.apart i i' row row' (hl _ _ hr).2 (hl _ _ hr').2,
    fun i hi => ⟨(h.fresh i hi).1, fun id' row hr => (h.fresh i hi).2 id' row (hl _ _ hr).2⟩⟩
  obtain ⟨hne, hr⟩ := hl _ _ hr
  obtain ⟨drow, hd, hrest⟩ := h.states i row hr
  exact ⟨drow, by rwa [AList.lookup_erase_ne hne], hrest⟩

theorem EngineInv.defined (h : EngineInv env engine db n) {row : DefinitionRow}
    (hkind : ∀ old, db.definitions.lookup row.definition.id = some old →
      old.definition.kind = row.definition.kind) :
    EngineInv env engine
      { db with definitions := db.definitions.insert row.definition.id row } n := by
  refine ⟨h.ids.insert row, fun i r hr => ?_, h.series, h.apart, h.fresh⟩
  obtain ⟨drow, hd, hser, hcont⟩ := h.states i r hr
  by_cases hi : i = row.definition.id
  · subst hi
    refine ⟨row, AList.lookup_insert _, ?_⟩
    rw [← hkind drow hd]
    exact ⟨hser, hcont⟩
  · exact ⟨drow, by rwa [AList.lookup_insert_ne hi], hser, hcont⟩

theorem EngineInv.put (h : EngineInv env engine db n) (hn : n ≤ n') {id : PipelineId}
    {drow : DefinitionRow} {row : StateRow} (outbox : AutoTable OutboxRow)
    (hd : db.definitions.lookup id = some drow)
    (hother : ∀ s, s ≠ row.seriesId →
      publishedRows outbox.ever s = publishedRows db.outbox.ever s)
    (hser : SeriesRows (observationTopic engine.edgeNodeId id drow.definition.kind)
      drow.definition.kind (publishedRows outbox.ever row.seriesId))
    (hcont : Continues drow.definition.kind (publishedRows outbox.ever row.seriesId)
      (PipelineStore.stateOfRow row))
    (hapart : ∀ i r, db.states.lookup i = some r → r.seriesId = row.seriesId → i = id)
    (hfresh : ∀ i, n' ≤ i → row.seriesId ≠ env.uuid i) :
    EngineInv env engine { db with outbox := outbox, states := db.states.insert id row } n' := by
  have hlook : ∀ i r, (db.states.insert id row).lookup i = some r →
      (i = id ∧ r = row) ∨ (i ≠ id ∧ db.states.lookup i = some r) := by
    intro i r hr
    by_cases hi : i = id
    · subst hi
      rw [AList.lookup_insert] at hr
      exact .inl ⟨rfl, by simpa using hr.symm⟩
    · exact .inr ⟨hi, by rwa [AList.lookup_insert_ne hi] at hr⟩
  refine ⟨h.ids, fun i r hr => ?_, fun s => ?_, fun i i' r r' hr hr' hs => ?_, fun i hi => ?_⟩
  · rcases hlook i r hr with ⟨rfl, rfl⟩ | ⟨hi, hr⟩
    · exact ⟨drow, hd, hser, hcont⟩
    · have hs : r.seriesId ≠ row.seriesId := fun hs => hi (hapart i r hr hs)
      obtain ⟨d, hd', hrest⟩ := h.states i r hr
      refine ⟨d, hd', ?_⟩
      simp only [PipelineDb.rowsOf, hother _ hs] at hrest ⊢
      exact hrest
  · by_cases hs : s = row.seriesId
    · subst hs
      exact .inr ⟨id, _, hser⟩
    · simpa only [PipelineDb.rowsOf, hother s hs] using h.series s
  · rcases hlook i r hr with ⟨hi, hrow⟩ | ⟨-, hl⟩ <;>
      rcases hlook i' r' hr' with ⟨hi', hrow'⟩ | ⟨-, hl'⟩
    · rw [hi, hi']
    · rw [hi, hapart i' r' hl' (by rw [← hs, hrow])]
    · rw [hi', hapart i r hl (by rw [hs, hrow'])]
    · exact h.apart i i' r r' hl hl' hs
  · obtain ⟨hrows, hst⟩ := h.fresh i (hn.trans hi)
    refine ⟨?_, fun id' r hr => ?_⟩
    · simpa only [PipelineDb.rowsOf, hother _ (hfresh i hi).symm] using hrows
    · rcases hlook id' r hr with ⟨rfl, rfl⟩ | ⟨-, hr⟩
      · exact hfresh i hi
      · exact hst id' r hr

end Inv

/-! ## Starting and advancing a series -/

section Steps

variable {env : Outside} {engine : PipelineEngine} {definition : PipelineDefinition}
  {db db' : PipelineDb} {n : ℕ} {now : InputTime} {drow : DefinitionRow} {srow : StateRow}
  {evaluation : Evaluation} {next : EvaluationState} {state : PipelineState} {time : ℤ}

theorem toU64_toI64 (m : ℕ) : toU64 (toI64 m) = m % 2 ^ 64 := by
  unfold toU64 toI64
  split_ifs <;> omega

theorem toU64_lt (i : ℤ) : toU64 i < 2 ^ 64 := by
  unfold toU64
  omega

theorem stateOfRow_rowOfState (time : ℤ) (h : state.nextSequence < 2 ^ 64) :
    (PipelineStore.stateOfRow (PipelineStore.rowOfState state time)).nextSequence
        = state.nextSequence
      ∧ (PipelineStore.stateOfRow (PipelineStore.rowOfState state time)).evaluation
        = state.evaluation :=
  ⟨(toU64_toI64 _).trans (Nat.mod_eq_of_lt h), rfl⟩

theorem Continues.stored {kind : PipelineKind} {rows : List (String × Payload)}
    (h : Continues kind rows state) (hlt : state.nextSequence < 2 ^ 64) :
    Continues kind rows (PipelineStore.stateOfRow (PipelineStore.rowOfState state time)) := by
  obtain ⟨hnext, heval⟩ := stateOfRow_rowOfState time hlt
  refine ⟨hnext.trans h.next, ?_, ?_⟩ <;> rw [heval]
  · exact h.counts
  · exact h.states

theorem maxSafeInteger_nonneg : 0 ≤ maxSafeInteger := by decide

theorem EngineInv.started (huuid : Function.Injective env.uuid) (h : EngineInv env engine db n)
    (hd : db.definitions.lookup definition.id = some drow)
    (hk : drow.definition.kind = definition.kind)
    (hs : Started env engine definition now n db db') :
    EngineInv env engine db' (n + 1) := by
  obtain ⟨hnone, hunused⟩ := h.fresh n le_rfl
  have hfresh : ∀ i, n + 1 ≤ i → env.uuid n ≠ env.uuid i := fun i hi he => by
    have := huuid he
    omega
  unfold Started at hs
  split_ifs at hs with hc
  · obtain ⟨outbox, ho, rfl⟩ := hs
    have hrows : publishedRows outbox.ever (env.uuid n) = db.rowsOf (env.uuid n) ++ [_] :=
      publishedRows_insert_same ho rfl
    rw [hnone] at hrows
    refine h.put (Nat.le_succ n) outbox hd (fun s hs => publishedRows_insert_other ho rfl
      (Ne.symm hs)) ?_ ?_ (fun i r hr he => absurd he (hunused i r hr)) hfresh
    · change SeriesRows _ _ (publishedRows outbox.ever (env.uuid n))
      rw [hrows, hk, hc]
      refine SeriesRows.append ?_ rfl (fun _ => rfl) nofun
      exact SeriesRows.nil
    · change Continues _ (publishedRows outbox.ever (env.uuid n)) _
      rw [hrows, hk, hc]
      exact Continues.stored ⟨rfl, fun _ => ⟨rfl, le_rfl, maxSafeInteger_nonneg⟩, nofun⟩
        (Nat.mod_lt _ (by decide))
  · subst hs
    have hrows : publishedRows db.outbox.ever (env.uuid n) = [] := hnone
    refine h.put (Nat.le_succ n) db.outbox hd (fun _ _ => rfl) ?_ ?_
      (fun i r hr he => absurd he (hunused i r hr)) hfresh
    · change SeriesRows _ _ (publishedRows db.outbox.ever (env.uuid n))
      rw [hrows]
      exact SeriesRows.nil
    · change Continues _ (publishedRows db.outbox.ever (env.uuid n)) _
      rw [hrows, hk]
      exact Continues.stored ⟨rfl, fun h' => absurd h' hc, fun _ => rfl⟩ (by norm_num [freshState])

theorem observedValue_kind {kind : PipelineKind} {value : ObservationValue}
    (h : observedValue kind evaluation = some value) : value.kind = kind := by
  unfold observedValue at h
  split_ifs at h
  cases kind <;> simp only [Option.map_eq_some_iff] at h <;> obtain ⟨v, -, rfl⟩ := h <;> rfl

theorem Continues.silent {rows : List (String × Payload)} {input : F64} {receivedAt : ℤ}
    (h : Continues definition.kind rows state)
    (hv : evaluate definition state.evaluation input receivedAt = .ok (evaluation, next))
    (ho : observedValue definition.kind evaluation = none) :
    Continues definition.kind rows { state with evaluation := next } := by
  refine ⟨h.next, fun hk => ?_, fun hk => ?_⟩
  · rcases evaluate_count hk hv with ⟨he, hi, -, -⟩ | ⟨-, hcounter⟩
    · simp [observedValue, he, hk, hi] at ho
    · rw [hcounter]
      exact h.counts hk
  · obtain ⟨hinit, ⟨he, hb, -⟩ | ⟨-, hinit₀, hact⟩⟩ := evaluate_state hk hv
    · simp [observedValue, he, hk, hb] at ho
    · have := h.states hk
      rw [if_pos hinit₀, ← hact] at this
      rw [if_pos hinit]
      exact this

theorem SeriesRows.published {topic : String} {rows : List (String × Payload)} {input : F64}
    {receivedAt : ℤ} {value : ObservationValue} (hser : SeriesRows topic definition.kind rows)
    (h : Continues definition.kind rows state)
    (hv : evaluate definition state.evaluation input receivedAt = .ok (evaluation, next))
    (ho : observedValue definition.kind evaluation = some value) {u : ℤ} {e : Option ℤ} :
    SeriesRows topic definition.kind
      (rows ++ [(topic, ⟨state.seriesId, state.nextSequence, u, e, value.toJson⟩)]) := by
  refine hser.append h.next (fun hk => ?_) (fun hk => ?_)
  · rcases evaluate_count hk hv with ⟨he, hi, -, -⟩ | ⟨he, -⟩
    · simp only [observedValue, he, hk, hi, Bool.not_true, Bool.false_eq_true, ↓reduceIte,
        Option.map_some, Option.some.injEq] at ho
      subst ho
      have hlen := (h.counts hk).1
      simp only [ObservationValue.toJson, h.next, Json.int.injEq]
      omega
    · simp [observedValue, he] at ho
  · obtain ⟨hinit, ⟨he, hb, hne⟩ | ⟨he, -, -⟩⟩ := evaluate_state hk hv
    · simp only [observedValue, he, hk, hb, Bool.not_true, Bool.false_eq_true, ↓reduceIte,
        Option.map_some, Option.some.injEq] at ho
      subst ho
      refine ⟨next.active, rfl, fun hlast => ?_⟩
      have hst := h.states hk
      split_ifs at hst with hi
      · rw [hst] at hlast
        simp only [Option.some.injEq, Json.bool.injEq] at hlast
        exact hne hi hlast
      · rw [hst] at hlast
        simp at hlast
    · simp [observedValue, he] at ho

theorem Continues.published {rows : List (String × Payload)} {input : F64} {receivedAt : ℤ}
    {value : ObservationValue} {r : String × Payload} (h : Continues definition.kind rows state)
    (hv : evaluate definition state.evaluation input receivedAt = .ok (evaluation, next))
    (ho : observedValue definition.kind evaluation = some value) (hr : r.2.value = value.toJson)
    (hlen : rows.length + 2 < 2 ^ 64) :
    Continues definition.kind (rows ++ [r])
      (publishedState { state with evaluation := next } value now) := by
  refine ⟨?_, fun hk => ?_, fun hk => ?_⟩
  · change (state.nextSequence + 1) % 2 ^ 64 = _
    rw [h.next, Nat.mod_eq_of_lt (by omega)]
    simp
  · rcases evaluate_count hk hv with ⟨-, -, hcounter, hlt⟩ | ⟨he, -⟩
    · have := h.counts hk
      simp only [publishedState, hcounter, List.length_append, List.length_singleton]
      push_cast
      omega
    · simp [observedValue, he] at ho
  · obtain ⟨hinit, ⟨he, hb, -⟩ | ⟨he, -, -⟩⟩ := evaluate_state hk hv
    · simp only [observedValue, he, hk, hb, Bool.not_true, Bool.false_eq_true, ↓reduceIte,
        Option.map_some, Option.some.injEq] at ho
      subst ho
      simp [publishedState, hinit, hr, ObservationValue.toJson]
    · simp [observedValue, he] at ho

theorem EngineInv.advanced (h : EngineInv env engine db n)
    (hd : db.definitions.lookup definition.id = some drow)
    (hk : drow.definition.kind = definition.kind)
    (hst : db.states.lookup definition.id = some srow) {input : F64}
    (hv : evaluate definition (PipelineStore.stateOfRow srow).evaluation input now.uptimeMs
      = .ok (evaluation, next))
    (ha : Advanced engine definition (PipelineStore.stateOfRow srow) now evaluation next db db') :
    EngineInv env engine db' n := by
  obtain ⟨drow', hd', hser, hcont⟩ := h.states _ srow hst
  obtain rfl : drow = drow' := by simpa [hd] using hd'
  rw [hk] at hser hcont
  have hapart : ∀ i r, db.states.lookup i = some r → r.seriesId = srow.seriesId →
      i = definition.id := fun i r hr hs => h.apart i _ r srow hr hst hs
  have hfresh : ∀ i, n ≤ i → srow.seriesId ≠ env.uuid i := fun i hi => (h.fresh i hi).2 _ _ hst
  unfold Advanced at ha
  rcases ho : observedValue definition.kind evaluation with _ | value <;> simp only [ho] at ha
  · subst ha
    refine h.put le_rfl db.outbox hd (fun _ _ => rfl) ?_ ?_ hapart hfresh
    · rw [hk]
      exact hser
    · rw [hk]
      exact (hcont.silent hv ho).stored (toU64_lt _)
  · obtain ⟨outbox, hins, rfl⟩ := ha
    have hrows : publishedRows outbox.ever srow.seriesId = db.rowsOf srow.seriesId ++ [_] :=
      publishedRows_insert_same hins rfl
    have hlen := publishedRows_length_lt hins srow.seriesId
    refine h.put le_rfl outbox hd (fun s hs => publishedRows_insert_other hins rfl
      (Ne.symm hs)) ?_ ?_ hapart hfresh
    · change SeriesRows _ _ (publishedRows outbox.ever srow.seriesId)
      rw [hrows, hk]
      have := hser.published hcont hv ho (u := now.uptimeMs) (e := now.unixEpochMs)
      rwa [← observedValue_kind ho] at this ⊢
    · change Continues _ (publishedRows outbox.ever srow.seriesId) _
      rw [hrows, hk]
      refine (hcont.published hv ho rfl hlen).stored ?_
      exact Nat.mod_lt _ (by decide)

end Steps

end EdgeNode
