import EdgeNode.Publish.Outlet

/-!
# What reaches the archive

What an operation of the outlet can do is said once (`Effect`). A row the cursor of the target has
passed was in a batch that target acknowledged (`Accounted`), and a reading from before the
activation is never published (`Parted`): each holds after every run, by the cases of `Effect`.
-/

namespace EdgeNode

namespace Outlet

open Machine

variable {db db' : Db} {log log' : AutoTable PublicationRow} {row : PublicationRow} {s s' : State}

/-! ## What an operation does -/

def SameCursor (t t' : DeliveryTarget) : Prop :=
  t'.cursorEpoch = t.cursorEpoch ∧ t'.cursorPubSeq = t.cursorPubSeq

/-- Rows deleted, and rows added under new numbers; a publication added is of a reading added with
it. -/
structure Written (db : Db) (readings' : AutoTable ReadingRow) (log' : AutoTable PublicationRow) :
    Prop where
  readings : db.readings.lastId ≤ readings'.lastId
  stored : ∀ r ∈ readings'.rows, r ∈ db.readings.rows ∨ db.readings.lastId < r.1
  lastId : db.log.lastId ≤ log'.lastId
  rows : ∀ r ∈ log'.rows, r ∈ db.log.rows ∨ r.2.epoch = db.epoch ∧ db.log.lastId < r.1
  ever : ∀ r ∈ log'.ever, r ∈ db.log.ever ∨ ∀ seq ∈ r.2.readingSeq, db.readings.lastId < seq
  discovery : db.activation.state = .discoveryOnly → log'.lastId = db.log.lastId

inductive Effect (db : Db) : Db → Prop where
  | written {readings' : AutoTable ReadingRow} {log' : AutoTable PublicationRow}
      (h : Written db readings' log') : Effect db { db with readings := readings', log := log' }
  | renewed (newEpoch : String) : Effect db { db with epoch := newEpoch }
  | retargeted {targets' : List DeliveryTarget}
      (h : ∀ t' ∈ targets', (∃ t ∈ db.targets, SameCursor t t') ∨ t'.cursorEpoch = none) :
      Effect db { db with targets := targets' }
  | installed {t : DeliveryTarget} (ht : t.cursorEpoch = none)
      (hstate : db.activation.state = .standalone) (hlog : db.log.lastId = 0) :
      Effect db { db with
        targets := [t], activation := { db.activation with state := .discoveryOnly } }
  | activated {q : ActivationRequest} {res : ActivationResult}
      (hstate : db.activation.state = .discoveryOnly) (hlog : db.log.lastId = 0)
      (hres : res.discardThroughReadingSeq = maxReadingSeq db) :
      Effect db { db with activation :=
        ⟨.active, some res.discardThroughReadingSeq, 0, some q, some res⟩ }
  | cleaned {boundary upto : ℤ} {readings' : AutoTable ReadingRow}
      (hb : db.activation.discardThrough = some boundary)
      (hupto : upto ≤ boundary ∨ upto = db.activation.cleanupThrough)
      (hlast : readings'.lastId = db.readings.lastId)
      (hrows : ∀ r ∈ readings'.rows, r ∈ db.readings.rows ∧
        (db.activation.cleanupThrough < r.1 → upto < r.1)) :
      Effect db { db with
        readings := readings', activation := { db.activation with cleanupThrough := upto } }

theorem Effect.refl (db : Db) : Effect db db :=
  .written ⟨le_rfl, fun _ => .inl, le_rfl, fun _ => .inl, fun _ => .inl, fun _ => rfl⟩

/-- A row added to the log, with the readings as they are or with one more. -/
theorem Effect.published {readings' : AutoTable ReadingRow} (hrow : row.epoch = db.epoch)
    (hlog : db.log.insert row = some log') (hstate : db.activation.state ≠ .discoveryOnly)
    (hle : db.readings.lastId ≤ readings'.lastId)
    (hr : ∀ r ∈ readings'.rows, r ∈ db.readings.rows ∨ db.readings.lastId < r.1)
    (hseq : ∀ seq ∈ row.readingSeq, db.readings.lastId < seq) :
    Effect db { db with readings := readings', log := log' } := by
  have hlast := (AutoTable.insert_eq_some hlog).2.1
  refine .written ⟨hle, hr, by omega, fun r h => ?_, fun r h => ?_, fun h => absurd h hstate⟩
  · exact ((AutoTable.mem_insert hlog).1 h).imp_right fun h => by rw [h]; exact ⟨hrow, by simp⟩
  · exact ((AutoTable.mem_insert hlog).2 h).imp_right fun h => by rw [h]; exact hseq

theorem enqueue_ok {kind : PublicationKind} {readingSeq : Option ℕ} {now : ℤ}
    (h : enqueue db kind readingSeq now = .ok db') :
    ∃ log', db.log.insert ⟨db.epoch, kind, readingSeq, now⟩ = some log'
      ∧ db.activation.state ≠ .discoveryOnly ∧ db' = { db with log := log' } := by
  unfold enqueue at h
  split at h
  · cases h
  · rename_i hstate
    split at h <;> cases h
    rename_i log' hlog
    exact ⟨log', hlog, hstate, rfl⟩

theorem enqueue_effect {kind : PublicationKind} {now : ℤ} (h : enqueue db kind none now = .ok db') :
    Effect db db' := by
  obtain ⟨log', hlog, hstate, rfl⟩ := enqueue_ok h
  exact .published rfl hlog hstate le_rfl (fun _ => .inl) (by simp)

theorem storeReading_effect {r : NewReading} (h : storeReading db r = .ok db') : Effect db db' := by
  unfold storeReading at h
  rcases hr : db.readings.insert r.row with _ | readings' <;> simp only [hr] at h
  · cases h
  · have hlast := (AutoTable.insert_eq_some hr).2.1
    have hrows : ∀ x ∈ readings'.rows, x ∈ db.readings.rows ∨ db.readings.lastId < x.1 :=
      fun x hx => ((AutoTable.mem_insert hr).1 hx).imp_right fun h => by simp [h]
    split at h
    · cases h
      exact .written ⟨by omega, hrows, le_rfl, fun _ => .inl, fun _ => .inl, fun _ => rfl⟩
    · obtain ⟨log', hlog, hstate, rfl⟩ := enqueue_ok h
      exact .published rfl hlog hstate (hlast ▸ Nat.le_succ _) hrows (by simp [hlast])

theorem mapTarget_effect {targetId : String} {f : DeliveryTarget → DeliveryTarget}
    (hf : ∀ t, SameCursor t (f t)) : Effect db (mapTarget db targetId f) := by
  refine .retargeted fun t' ht' => ?_
  obtain ⟨t, ht, rfl⟩ := List.mem_map.1 ht'
  refine .inl ⟨t, ht, ?_⟩
  split_ifs
  · exact hf t
  · exact ⟨rfl, rfl⟩

theorem runTargetAdd_effect {owned : Bool} {endpoint token : String} {version : ℕ}
    (h : runTargetAdd db owned endpoint token version = .ok db') : Effect db db' := by
  unfold runTargetAdd at h
  split_ifs at h
  cases h
  exact .retargeted fun t ht => .inr (by rw [List.mem_singleton.1 ht])

theorem runTargetRemove_effect {abandon : Bool} (h : runTargetRemove db abandon = .ok db') :
    Effect db db' := by
  unfold runTargetRemove at h
  split at h
  · cases h
  · split_ifs at h
    cases h
    exact .retargeted fun t ht => .inl ⟨t, List.mem_of_mem_filter ht, rfl, rfl⟩

theorem installEdgeTarget_effect {target : DeliveryTarget}
    (h : installEdgeTarget db target = .ok db') : Effect db db' := by
  unfold installEdgeTarget at h
  split_ifs at h with hcursor hstate hunused <;> cases h
  simp only [unusedStream, Bool.not_eq_true', Bool.not_eq_false, Bool.and_eq_true, beq_iff_eq,
    List.length_eq_zero_iff] at hunused
  rw [hunused.1.1.1]
  exact .installed (by simpa using fun h => hcursor (.inr h)) (by simpa using hstate) hunused.1.2

theorem applyActivation_ok {q : ActivationRequest} {now : ℤ} {res : ActivationResult}
    (h : applyActivation db q now = .ok (res, db')) :
    q.validate = .ok () ∧ 0 ≤ now ∧ q.edgeNodeId = db.edgeNodeId ∧ q.expectedLedgerEpoch = db.epoch ∧
      (db.activation.state = .active ∧ db.activation.request = some q
          ∧ db.activation.result = some res ∧ res.validate = .ok () ∧ db' = db
        ∨ db.activation.state = .discoveryOnly ∧ unusedStream db 1
          ∧ res = ⟨1, q.activationId, q.edgeId, db.edgeNodeId, db.epoch, "applied",
            maxReadingSeq db, 1, now⟩
          ∧ db' = { db with activation :=
            ⟨.active, some res.discardThroughReadingSeq, 0, some q, some res⟩ }) := by
  rcases hv : q.validate with e | ⟨⟩
  · rw [applyActivation, hv] at h
    cases h
  · simp only [applyActivation, hv, invalid, bind, Except.bind, pure, Except.pure] at h
    rcases hs : db.activation.state <;> simp only [hs] at h <;>
      split_ifs at h with hnow hid hepoch hlast <;> try cases h
    · simp only [Bool.not_eq_true', Bool.not_eq_false] at hlast
      exact ⟨rfl, by omega, not_not.1 hid, not_not.1 hepoch, .inr ⟨rfl, hlast, rfl, rfl⟩⟩
    · rcases hr : db.activation.result with _ | result <;> simp only [hr] at h
      · cases h
      · rcases hrv : result.validate with e | ⟨⟩ <;> simp only [hrv] at h <;> cases h
        exact ⟨rfl, by omega, not_not.1 hid, not_not.1 hepoch,
          .inl ⟨rfl, not_not.1 hlast, rfl, hrv, rfl⟩⟩

theorem applyActivation_effect {q : ActivationRequest} {now : ℤ} {res : ActivationResult}
    (h : applyActivation db q now = .ok (res, db')) : Effect db db' := by
  obtain ⟨-, -, -, -, ⟨-, -, -, -, rfl⟩ | ⟨hstate, hunused, hres, rfl⟩⟩ := applyActivation_ok h
  · exact .refl _
  · simp only [unusedStream, Bool.and_eq_true, beq_iff_eq] at hunused
    exact .activated hstate hunused.1.2 (by rw [hres])

/-- What a cleanup does: nothing is left between the last one and the one it ends at. -/
theorem cleanup_ok {limit n : ℕ} (h : cleanupPreActivationBatch db limit = .ok (n, db')) :
    db' = db ∨ ∃ boundary upto readings', db.activation.discardThrough = some boundary
      ∧ (upto ≤ boundary ∨ upto = db.activation.cleanupThrough)
      ∧ readings'.lastId = db.readings.lastId
      ∧ (∀ r, r ∈ readings'.rows ↔
        r ∈ db.readings.rows ∧ (db.activation.cleanupThrough < r.1 → upto < r.1))
      ∧ db' = { db with
        readings := readings', activation := { db.activation with cleanupThrough := upto } } := by
  unfold cleanupPreActivationBatch at h
  split_ifs at h with hidle
  · cases h
    exact .inl rfl
  · obtain ⟨hlimit, -⟩ := not_or.1 hidle
    split at h
    · cases h
    · rename_i boundary hb
      simp only at h
      split at h <;> cases h <;> rename_i hl
      · -- nothing is left up to the boundary
        simp only [List.getLast?_eq_none_iff, List.take_eq_nil_iff, hlimit, false_or,
          List.filter_eq_nil_iff, within, Bool.and_eq_true, decide_eq_true_eq, not_and,
          not_le] at hl
        refine .inr ⟨boundary, max db.activation.cleanupThrough boundary, db.readings,
          hb, by omega, rfl, fun r => ?_, rfl⟩
        exact ⟨fun hr => ⟨hr, fun hlt => max_lt hlt (hl r hr hlt)⟩, And.left⟩
      · rename_i last
        have hlast := (List.mem_filter.1 (List.mem_of_mem_take (List.mem_of_getLast? hl))).2
        simp only [within, Bool.and_eq_true, decide_eq_true_eq] at hlast
        refine .inr ⟨boundary, last.1, db.readings.deleteWhere _, hb, .inl hlast.2, rfl, fun r => ?_, rfl⟩
        simp [AutoTable.deleteWhere, within, imp_iff_not_or]

theorem cleanup_effect {limit n : ℕ} (h : cleanupPreActivationBatch db limit = .ok (n, db')) :
    Effect db db' := by
  obtain rfl | ⟨boundary, upto, readings', hb, hupto, hlast, hrows, rfl⟩ := cleanup_ok h
  · exact .refl _
  · exact .cleaned hb hupto hlast fun r => (hrows r).1

theorem kept_effect {ε : Type} {res : Except ε Db} (h : ∀ db', res = .ok db' → Effect db db') :
    Effect db (kept db res) := by
  rcases hres : res with e | db'
  · exact .refl _
  · exact h db' hres

theorem kept_map_effect {ε α : Type} {res : Except ε (α × Db)}
    (h : ∀ a db', res = .ok (a, db') → Effect db db') :
    Effect db (kept db (res.map Prod.snd)) := by
  rcases hres : res with e | ⟨a, db'⟩
  · exact .refl _
  · exact h a db' hres

theorem commit_effect (e : Event) : Effect db (commit db e) := by
  cases e with
  | store r => exact kept_effect fun _ => storeReading_effect
  | annotate | smoke => exact kept_effect fun _ => enqueue_effect
  | renew epoch => exact .renewed epoch
  | targetAdd owned endpoint token version => exact kept_effect fun _ => runTargetAdd_effect
  | targetSmokeOk => exact mapTarget_effect fun t => ⟨rfl, rfl⟩
  | setToken id token => exact mapTarget_effect fun t => ⟨rfl, rfl⟩
  | targetRemove abandon => exact kept_effect fun _ => runTargetRemove_effect
  | install target => exact kept_effect fun _ => installEdgeTarget_effect
  | activate request now => exact kept_map_effect fun _ _ => applyActivation_effect
  | cleanup limit => exact kept_map_effect fun _ _ => cleanup_effect
  | purge seqs =>
    exact .written ⟨le_rfl, fun _ h => .inl (List.mem_of_mem_filter h), le_rfl,
      fun _ h => .inl (List.mem_of_mem_filter h), fun _ => .inl, fun _ => rfl⟩
  | quarantine seqs =>
    exact .written ⟨le_rfl, fun _ => .inl, le_rfl, fun _ h => .inl (List.mem_of_mem_filter h),
      fun _ => .inl, fun _ => rfl⟩
  | prepare | answer | restart => exact .refl _

/-! ## The rows a cursor has passed -/

/-- Every row of the epoch up to a point was sent or delivered, and later ones come after it. -/
def Covers (s : State) (e : String) (upto : ℤ) (sent : List (ℕ × PublicationRow)) : Prop :=
  e ∈ s.used ∧ (s.db.epoch = e → upto ≤ s.db.log.lastId) ∧
    ∀ r ∈ s.db.log.rows, r.2.epoch = e → (r.1 : ℤ) ≤ upto → r ∈ sent ∨ r ∈ s.delivered

structure Accounted (s : State) : Prop where
  epoch : s.db.epoch ∈ s.used
  cursor : ∀ t ∈ s.db.targets, ∀ e ∈ t.cursorEpoch, Covers s e t.cursorPubSeq []
  posted : ∀ p ∈ s.posted, Covers s p.batch.currentEpoch p.batch.cursorEnd p.sent

/-- A new epoch is one never used before, and a target is registered between two cycles. -/
def Orderly (s : State) (e : Event) : Prop :=
  ((commit s.db e).epoch = s.db.epoch ∨ (commit s.db e).epoch ∉ s.used) ∧
    (s.db.targets = [] → (commit s.db e).targets ≠ [] → s.posted = none)

/-- The log goes on under the epoch it has, or nothing is added to it. -/
theorem Effect.rows (h : Effect db db') :
    db.log.lastId ≤ db'.log.lastId ∧ ∀ r ∈ db'.log.rows, r ∈ db.log.rows
      ∨ r.2.epoch = db.epoch ∧ db.log.lastId < r.1 := by
  cases h with
  | written h => exact ⟨h.lastId, h.rows⟩
  | renewed | retargeted | installed | activated | cleaned => exact ⟨le_rfl, fun _ => .inl⟩

theorem Effect.cursor (h : Effect db db') : ∀ t' ∈ db'.targets,
    (∃ t ∈ db.targets, SameCursor t t') ∨ t'.cursorEpoch = none := by
  cases h with
  | written | renewed | activated | cleaned => exact fun t ht => .inl ⟨t, ht, rfl, rfl⟩
  | retargeted h => exact h
  | installed ht => exact fun t h => .inr (List.mem_singleton.1 h ▸ ht)

theorem Covers.mono {e : String} {upto : ℤ} {sent : List (ℕ × PublicationRow)}
    (h : Covers s e upto sent) (hx : Effect s.db s'.db)
    (hepoch : s'.db.epoch = s.db.epoch ∨ s'.db.epoch ∉ s.used) (hused : s.used ⊆ s'.used)
    (hdelivered : s.delivered ⊆ s'.delivered) : Covers s' e upto sent := by
  obtain ⟨he, hlast, hrows⟩ := h
  obtain ⟨hle, hnew⟩ := hx.rows
  refine ⟨hused he, fun h => ?_, fun r hr hre hup => ?_⟩
  · have := hlast ((hepoch.resolve_right fun hn => hn (h ▸ he)).symm.trans h)
    omega
  · rcases hnew r hr with hr | ⟨hre', hgt⟩
    · exact (hrows r hr hre hup).imp_right fun h => hdelivered h
    · have := hlast (hre'.symm.trans hre)
      omega

theorem covers_zero {e : String} (he : e ∈ s.used) : Covers s e 0 [] := by
  refine ⟨he, fun _ => by omega, fun r hr _ hle => ?_⟩
  have := AutoTable.key_pos hr
  omega

theorem Accounted.committed (h : Accounted s) (hx : Effect s.db db')
    (hepoch : db'.epoch = s.db.epoch ∨ db'.epoch ∉ s.used)
    (hposted : s.db.targets = [] → db'.targets ≠ [] → s.posted = none) :
    Accounted (committed s db') := by
  have hused : s.used ⊆ (Outlet.committed s db').used := List.subset_cons_self ..
  have hold : ¬(s.db.targets = [] ∧ db'.targets ≠ []) →
      s.delivered ⊆ (Outlet.committed s db').delivered := by
    intro hnew
    simp [Outlet.committed, hnew]
  refine ⟨List.mem_cons_self, fun t' ht' e he => ?_, fun p hp => ?_⟩
  · rcases hx.cursor t' ht' with ⟨t, ht, hsame⟩ | hnone
    · rw [hsame.2]
      exact (h.cursor t ht e (hsame.1 ▸ he)).mono hx hepoch hused
        (hold fun hnew => List.ne_nil_of_mem ht hnew.1)
    · rw [hnone] at he
      cases he
  · exact (h.posted p hp).mono hx hepoch hused
      (hold fun hnew => by cases (hposted hnew.1 hnew.2).symm.trans hp)

/-! ## A batch -/

theorem selectedRecordCount_le : ∀ (lens : List ℕ) (total selected : ℕ),
    selected ≤ selectedRecordCount lens total selected
      ∧ selectedRecordCount lens total selected ≤ selected + lens.length
  | [], _, _ => by simp [selectedRecordCount]
  | len :: lens, total, selected => by
    have ih := selectedRecordCount_le lens (total + len) (selected + 1)
    rw [selectedRecordCount, List.length_cons]
    split_ifs <;> omega

theorem selectedRecordCount_pos {lens : List ℕ} (h : lens ≠ []) :
    1 ≤ selectedRecordCount lens 0 0 := by
  rcases lens with _ | ⟨len, lens⟩
  · exact absurd rfl h
  · rw [selectedRecordCount, if_neg (by simp)]
    exact (selectedRecordCount_le _ _ _).1

theorem length_of_mapM_ok {α β ε : Type} {f : α → Except ε β} :
    ∀ {l : List α} {l' : List β}, l.mapM f = .ok l' → l'.length = l.length
  | [], l', h => by
    cases h
    rfl
  | a :: l, l', h => by
    rw [List.mapM_cons] at h
    rcases hb : f a with e | b <;> rw [hb] at h
    · cases h
    · rcases hl : l.mapM f with e | bs <;> simp only [hl] at h <;> cases h
      rw [List.length_cons, List.length_cons, length_of_mapM_ok hl]

/-- What the target of a cycle has not acknowledged. -/
def backlog (db : Db) (t : DeliveryTarget) : List (ℕ × PublicationRow) :=
  pending db db.epoch (effectiveCursor db.epoch t.toTargetRow)

/-- The batch of a cycle: the first rows of the backlog, at least one. -/
theorem prepareBatch_eq {format : Format} {t : DeliveryTarget} {records : List Json}
    (ht : targetGet db = some t) (hresp : t.archiveResponsible = true)
    (hurl : "https://".toList.isPrefixOf t.endpointUrl.toList = true) (hne : backlog db t ≠ [])
    (hrec : ((backlog db t).take batchLimit).mapM format.materialize = .ok records) :
    ∃ n last b, prepareBatch format db = .ok (some b) ∧ (backlog db t)[n]? = some last
      ∧ b.currentEpoch = db.epoch ∧ b.targetId = t.targetId ∧ b.cursorEnd = last.1
      ∧ sentRows db b = (backlog db t).take (n + 1) := by
  have hlen := length_of_mapM_ok hrec
  have hpos : 0 < records.length := by
    rw [hlen, List.length_take, batchLimit]
    have := List.length_pos_iff.2 hne
    omega
  have hcount := selectedRecordCount_le (records.map format.size) 0 0
  have hone : 1 ≤ selectedRecordCount (records.map format.size) 0 0 :=
    selectedRecordCount_pos (by simpa using List.length_pos_iff.1 hpos)
  generalize hk : selectedRecordCount (records.map format.size) 0 0 = k at hcount hone
  rw [List.length_map, hlen, List.length_take] at hcount
  obtain ⟨n, rfl⟩ : ∃ n, k = n + 1 := ⟨k - 1, by omega⟩
  have hlast : (backlog db t)[n]? = some _ := List.getElem?_eq_getElem (by omega)
  have htake : ((backlog db t).take batchLimit)[n]? = some _ :=
    (List.getElem?_take_of_lt (by omega)).trans hlast
  refine ⟨n, (backlog db t)[n], ⟨records.take (n + 1), effectiveCursor db.epoch t.toTargetRow + 1,
    (backlog db t)[n].1, t.endpointUrl, t.credentialToken, t.targetId, db.epoch⟩, ?_, hlast, rfl, rfl,
    rfl, ?_⟩
  · have hrows : selectBatch db db.epoch (effectiveCursor db.epoch t.toTargetRow) batchLimit
        = (backlog db t).take batchLimit := rfl
    have hne' : ((backlog db t).take batchLimit).isEmpty = false := by
      simpa [batchLimit] using hne
    have hrec' : records.isEmpty = false := by simpa using List.length_pos_iff.1 hpos
    simp only [prepareBatch, ht, hresp, hurl, hrows, hne', hrec, hrec', hk, Nat.add_sub_cancel,
      htake, bind, Except.bind, Bool.not_true, Bool.false_eq_true, if_false]
  · rw [sentRows, List.length_take, min_eq_left (by rw [hlen, List.length_take]; omega),
      add_sub_cancel_right, selectBatch, List.take_take, min_eq_left (by omega)]
    exact rfl

theorem prepareBatch_some {format : Format} {b : PreparedBatch}
    (h : prepareBatch format db = .ok (some b)) :
    ∃ t n last, targetGet db = some t ∧ (backlog db t)[n]? = some last ∧ b.currentEpoch = db.epoch
      ∧ b.targetId = t.targetId ∧ b.cursorEnd = last.1
      ∧ sentRows db b = (backlog db t).take (n + 1) := by
  have hrun := h
  rcases ht : targetGet db with _ | t <;> simp only [prepareBatch, ht] at hrun
  · cases hrun
  · split_ifs at hrun with hresp hurl hne
    · cases hrun
    · cases hrun
    · rcases hrec : (selectBatch db db.epoch (effectiveCursor db.epoch t.toTargetRow)
        batchLimit).mapM format.materialize with e | records
      · rw [hrec] at hrun
        cases hrun
      · obtain ⟨n, last, b', hb', hrest⟩ := prepareBatch_eq ht (by simpa using hresp)
          (by simpa using hurl) (fun hnil => hne (by rw [backlog] at hnil; simp [selectBatch, hnil]))
          hrec
        obtain rfl : b' = b := by simpa using hb'.symm.trans h
        exact ⟨t, n, last, rfl, hrest⟩

/-! ## Every step keeps the account -/

theorem step_cases {e : Event} (h : step s e = some s') :
    (∃ format b, s.posted = none ∧ prepareBatch format s.db = .ok (some b)
        ∧ s' = { s with posted := some ⟨b, sentRows s.db b⟩ })
      ∨ (∃ p ack db', s.posted = some p ∧ advanceCursorAfterAck s.db p.batch ack = .ok db'
        ∧ s' = { s with db := db', posted := none, delivered := p.sent ++ s.delivered })
      ∨ s' = s ∨ s' = { s with posted := none } ∨ s' = committed s (commit s.db e) := by
  cases e with
  | prepare format =>
    simp only [step] at h
    split_ifs at h with hp
    split at h <;> cases h
    · rename_i b hb
      exact .inl ⟨format, b, by simpa using hp, hb, rfl⟩
    · exact .inr (.inr (.inl rfl))
  | answer ack =>
    obtain ⟨p, hp, rfl⟩ := Option.map_eq_some_iff.1 h
    rcases ack with _ | ack
    · exact .inr (.inr (.inr (.inl rfl)))
    · rcases hack : advanceCursorAfterAck s.db p.batch ack with e | db'
      · exact .inr (.inr (.inr (.inl (by simp [hack]))))
      · exact .inr (.inl ⟨p, ack, db', hp, hack, by simp [hack]⟩)
  | restart => exact .inr (.inr (.inr (.inl (Option.some.inj h).symm)))
  | _ => exact .inr (.inr (.inr (.inr (Option.some.inj h).symm)))

theorem advanceCursorAfterAck_ok {b : PreparedBatch} {ack : AckResponse}
    (h : advanceCursorAfterAck db b ack = .ok db') :
    db' = db ∨ db' = targetAdvanceCursor db b.targetId b.currentEpoch b.cursorEnd := by
  unfold advanceCursorAfterAck at h
  split_ifs at h
  split at h
  · cases h
  · split_ifs at h <;> cases h
    · exact .inl rfl
    · exact .inr rfl

theorem effectiveCursor_covers (h : Accounted s) {t : DeliveryTarget} (ht : t ∈ s.db.targets) :
    Covers s s.db.epoch (effectiveCursor s.db.epoch t.toTargetRow) [] := by
  unfold effectiveCursor
  split_ifs with he
  · exact h.cursor t ht _ he
  · exact covers_zero h.epoch

theorem Accounted.delivered (h : Accounted s) {t : DeliveryTarget} (ht : t ∈ s.db.targets)
    {r : ℕ × PublicationRow} (hr : r ∈ s.db.log.rows) (he : r.2.epoch = s.db.epoch)
    (hle : (r.1 : ℤ) ≤ effectiveCursor s.db.epoch t.toTargetRow) : r ∈ s.delivered :=
  ((effectiveCursor_covers h ht).2.2 r hr he hle).resolve_left List.not_mem_nil

theorem Accounted.delivered_all (h : Accounted s) {t : DeliveryTarget} (ht : t ∈ s.db.targets)
    (hnil : backlog s.db t = []) : ∀ r ∈ s.db.log.rows, r.2.epoch = s.db.epoch → r ∈ s.delivered := by
  intro r hr he
  have hle := List.filter_eq_nil_iff.1 hnil r hr
  exact h.delivered ht hr he (by simpa [he] using hle)

theorem Accounted.prepared (h : Accounted s) {format : Format} {b : PreparedBatch}
    (hb : prepareBatch format s.db = .ok (some b)) :
    Covers s b.currentEpoch b.cursorEnd (sentRows s.db b) := by
  obtain ⟨t, n, last, ht, hlast, hepoch, -, hend, hsent⟩ := prepareBatch_some hb
  have hmem := List.mem_of_mem_filter (List.mem_of_getElem? hlast)
  rw [hepoch, hend, hsent]
  refine ⟨h.epoch, fun _ => ?_, fun r hr hre hle => ?_⟩
  · exact_mod_cast AutoTable.key_le_lastId (s.db.log.live.subset hmem)
  · by_cases hcur : (r.1 : ℤ) ≤ effectiveCursor s.db.epoch t.toTargetRow
    · exact .inr (h.delivered (List.mem_of_mem_head? ht) hr hre hcur)
    · have hsorted : ((backlog s.db t).map Prod.fst).Pairwise (· < ·) :=
        s.db.log.rows_sorted.sublist (List.filter_sublist.map _)
      refine .inl (AutoTable.mem_take_of_le hsorted hlast (List.mem_filter.2 ⟨hr, ?_⟩)
        (by exact_mod_cast hle))
      simpa [hre] using hcur

theorem Accounted.step {e : Event} (h : Accounted s) (ho : Orderly s e)
    (hs : step s e = some s') : Accounted s' := by
  obtain ⟨format, b, -, hb, rfl⟩ | ⟨p, ack, db', hp, hack, rfl⟩ | rfl | rfl | rfl := step_cases hs
  · refine ⟨h.epoch, h.cursor, fun p hp => ?_⟩
    cases hp
    exact h.prepared hb
  · -- the rows of the batch are delivered, so the new cursor covers what the batch did
    have hp := h.posted p hp
    have hmore : ∀ {e upto}, Covers s e upto [] →
        Covers { s with posted := none, delivered := p.sent ++ s.delivered } e upto [] :=
      fun hc => ⟨hc.1, hc.2.1, fun r hr he hle =>
        .inr (List.mem_append_right _ ((hc.2.2 r hr he hle).resolve_left List.not_mem_nil))⟩
    rcases advanceCursorAfterAck_ok hack with rfl | rfl
    · exact ⟨h.epoch, fun t ht e he => hmore (h.cursor t ht e he), fun q hq => by cases hq⟩
    · refine ⟨h.epoch, fun t' ht' e he => ?_, fun q hq => by cases hq⟩
      obtain ⟨t, ht, rfl⟩ := List.mem_map.1 ht'
      split_ifs at he ⊢
      · cases he
        exact ⟨hp.1, hp.2.1, fun r hr he hle => .inr (List.mem_append.2 (hp.2.2 r hr he hle))⟩
      · exact hmore (h.cursor t ht e he)
  · exact h
  · exact ⟨h.epoch, h.cursor, fun q hq => by cases hq⟩
  · exact h.committed (commit_effect e) ho.1 ho.2

theorem accounted_run {id epoch : String} {es : List Event}
    (ho : Along step Orderly (initial id epoch) es) (hr : run step (initial id epoch) es = some s) :
    Accounted s :=
  run_invariant_along (fun _ _ _ ho h hs => Accounted.step h ho hs) ho
    ⟨List.mem_singleton_self _, by simp [initial], by simp [initial]⟩ hr

/-- Retention drops no row of the log that the registered target has not acknowledged, but for the
rows of the readings it purges. -/
theorem purge_keeps_undelivered {id epoch : String} {es : List Event} {seqs : List ℕ}
    (ho : Along step Orderly (initial id epoch) es) (hr : run step (initial id epoch) es = some s) :
    ∀ r ∈ s.db.log.rows, r ∉ s.delivered → Retention.refersTo seqs r = false →
      r ∈ (purge s.db seqs).log.rows := by
  intro r hmem hnot hother
  refine List.mem_filter.2 ⟨hmem, ?_⟩
  simp only [hother, Bool.or_false, Bool.not_eq_true']
  rcases ht : targetGet s.db with _ | t
  · rfl
  · simp only [Option.map_some, custodyCursor]
    rcases hresp : t.archiveResponsible
    · rfl
    · simp only [Retention.acked, Bool.not_true, Bool.false_eq_true, if_false, Option.any_some,
        Bool.and_eq_false_imp, beq_iff_eq, decide_eq_false_iff_not]
      exact fun he hle =>
        hnot ((accounted_run ho hr).delivered (List.mem_of_mem_head? ht) hmem he hle)

instance (s : State) (e : Event) : Decidable (Orderly s e) := inferInstanceAs (Decidable (_ ∧ _))

def sample : NewReading := ⟨1, 5, none, .edgeNode, [], none, none, false⟩

def plainFormat : Format := ⟨fun _ => .ok .null, fun _ => 4⟩

def archive : DeliveryTarget := ⟨⟨archiveId, true, none, 0⟩, "https://archive", "token", 1⟩

/-- A target is registered and takes part, and a reading is published. -/
def registration : List Event :=
  [.targetAdd true "https://archive" "token" 1, .targetSmokeOk, .store sample]

def shipment : List Event :=
  registration ++ [.prepare plainFormat, .answer (some ⟨"archive:e1:1:1", 1⟩)]

theorem registration_run :
    ∃ s, run step (initial "node" "e1") registration = some s ∧ s.posted = none
      ∧ s.db.targets = [archive] ∧ (backlog s.db archive).length = 1 := by
  have hend : (run step (initial "node" "e1") registration).map (fun s =>
      (s.posted.isNone, s.db.targets, (backlog s.db archive).length)) = some (true, [archive], 1) := by
    decide +kernel
  obtain ⟨s, hr, hs⟩ := Option.map_eq_some_iff.1 hend
  simp only [Prod.mk.injEq, Option.isNone_iff_eq_none] at hs
  exact ⟨s, hr, hs⟩

theorem registration_survives_purge :
    ∃ s, run step (initial "node" "e1") registration = some s
      ∧ ∀ r ∈ s.db.log.rows, r ∉ s.delivered → Retention.refersTo [] r = false →
        r ∈ (purge s.db []).log.rows := by
  obtain ⟨s, hr, -⟩ := registration_run
  exact ⟨s, hr, purge_keeps_undelivered (by decide +kernel) hr⟩

/-- A target let go without abandoning custody has acknowledged all the current epoch's log holds. -/
theorem removed_target_has_all {id epoch : String} {es : List Event}
    (ho : Along step Orderly (initial id epoch) es) (hr : run step (initial id epoch) es = some s)
    (h : runTargetRemove s.db false = .ok db') :
    ∀ r ∈ s.db.log.rows, r.2.epoch = s.db.epoch → r ∈ s.delivered := by
  rcases ht : targetGet s.db with _ | t <;> simp only [runTargetRemove, ht] at h
  · cases h
  · split_ifs at h with hun
    exact (accounted_run ho hr).delivered_all (List.mem_of_mem_head? ht)
      (by simpa [anyUnackedForTarget, backlog] using hun)

theorem shipment_lets_target_go :
    ∃ s db', run step (initial "node" "e1") shipment = some s ∧ s.db.log.rows.length = 1
      ∧ runTargetRemove s.db false = .ok db'
      ∧ ∀ r ∈ s.db.log.rows, r.2.epoch = s.db.epoch → r ∈ s.delivered := by
  have hend : (run step (initial "node" "e1") shipment).map (fun s =>
      (s.db.log.rows.length, (runTargetRemove s.db false).isOk)) = some (1, true) := by decide +kernel
  obtain ⟨s, hr, hs⟩ := Option.map_eq_some_iff.1 hend
  simp only [Prod.mk.injEq] at hs
  rcases hok : runTargetRemove s.db false with e | db'
  · rw [hok] at hs
    cases hs.2
  · exact ⟨s, db', hr, hs.1, hok, removed_target_has_all (by decide +kernel) hr hok⟩

/-! ## A cycle that is answered -/

/-- A cycle of which the archive takes and acknowledges the batch. -/
def round (format : Format) (s : State) : Option State :=
  (step s (.prepare format)).bind fun s =>
    match s.posted with
    | none => some s
    | some p => step s (.answer (some ⟨publicationId p.batch, p.batch.cursorEnd⟩))

def rounds (format : Format) : ℕ → State → Option State
  | 0, s => some s
  | n + 1, s => (round format s).bind (rounds format n)

theorem mapM_ok {α β ε : Type} {f : α → Except ε β} :
    ∀ {l : List α}, (∀ a ∈ l, ∃ b, f a = .ok b) → ∃ l', l.mapM f = .ok l'
  | [], _ => ⟨[], rfl⟩
  | a :: l, h => by
    obtain ⟨b, hb⟩ := h a List.mem_cons_self
    obtain ⟨bs, hbs⟩ := mapM_ok fun a' ha' => h a' (List.mem_cons_of_mem a ha')
    exact ⟨b :: bs, by rw [List.mapM_cons, hb]; simp [hbs, bind, Except.bind, pure, Except.pure]⟩

theorem orderly_of_same {e : Event} (h : commit s.db e = s.db) : Orderly s e := by
  rw [Orderly, h]
  exact ⟨.inl rfl, fun hnil hne => absurd hnil hne⟩

structure Delivers (format : Format) (t : DeliveryTarget) (s : State) : Prop where
  accounted : Accounted s
  idle : s.posted = none
  targets : s.db.targets = [t]
  responsible : t.archiveResponsible = true
  https : "https://".toList.isPrefixOf t.endpointUrl.toList = true
  materialize : ∀ r ∈ s.db.log.rows, ∃ j, format.materialize r = .ok j

/-- What is pending after a cursor has moved on is what comes after it of what was pending. -/
theorem backlog_advance {t : DeliveryTarget} {upto : ℤ}
    (h : effectiveCursor db.epoch t.toTargetRow < upto) :
    backlog (targetAdvanceCursor db t.targetId db.epoch upto)
        { t with cursorEpoch := some db.epoch, cursorPubSeq := upto }
      = (backlog db t).filter fun r => decide (upto < (r.1 : ℤ)) := by
  simp only [backlog, pending, effectiveCursor, targetAdvanceCursor, mapTarget, if_true,
    List.filter_filter]
  refine List.filter_congr fun r _ => ?_
  have hold : upto < (r.1 : ℤ) → effectiveCursor db.epoch t.toTargetRow < r.1 := h.trans
  rw [effectiveCursor] at hold
  grind

/-- The acknowledgement of a batch past the cursor moves the cursor to its end. -/
theorem advance_eq {t : DeliveryTarget} {b : PreparedBatch} (ht : targetGet db = some t)
    (hid : b.targetId = t.targetId) (hepoch : b.currentEpoch = db.epoch)
    (hcur : effectiveCursor db.epoch t.toTargetRow < b.cursorEnd) :
    advanceCursorAfterAck db b ⟨publicationId b, b.cursorEnd⟩
      = .ok (targetAdvanceCursor db t.targetId db.epoch b.cursorEnd) := by
  have hnot : ¬(t.cursorEpoch = some db.epoch ∧ b.cursorEnd < t.cursorPubSeq) := by
    rintro ⟨he, hlt⟩
    rw [effectiveCursor, if_pos he] at hcur
    omega
  simp only [advanceCursorAfterAck, ht, hid, hepoch, ne_eq, not_true, if_false, if_neg hnot]

theorem round_delivers {format : Format} {t : DeliveryTarget} (h : Delivers format t s)
    (hne : backlog s.db t ≠ []) :
    ∃ t' s', round format s = some s' ∧ Delivers format t' s' ∧ s'.db.log = s.db.log
      ∧ s'.db.epoch = s.db.epoch ∧ (backlog s'.db t').length < (backlog s.db t).length := by
  have hget : targetGet s.db = some t := by rw [targetGet, h.targets]; rfl
  obtain ⟨records, hrec⟩ := mapM_ok (l := (backlog s.db t).take batchLimit) (f := format.materialize)
    fun r hr => h.materialize r (List.mem_of_mem_filter (List.mem_of_mem_take hr))
  obtain ⟨n, last, b, hb, hlast, hepoch, hid, hend, -⟩ :=
    prepareBatch_eq hget h.responsible h.https hne hrec
  have hmem := List.mem_of_getElem? hlast
  have hcur : effectiveCursor s.db.epoch t.toTargetRow < b.cursorEnd := by
    simpa [hend] using (Bool.and_eq_true_iff.1 (List.mem_filter.1 hmem).2).2
  have hprepare : step s (.prepare format) = some { s with posted := some ⟨b, sentRows s.db b⟩ } := by
    simp [step, h.idle, hb]
  have hanswer : step { s with posted := some ⟨b, sentRows s.db b⟩ }
      (.answer (some ⟨publicationId b, b.cursorEnd⟩)) = some { s with
        db := targetAdvanceCursor s.db t.targetId s.db.epoch b.cursorEnd, posted := none,
        delivered := sentRows s.db b ++ s.delivered } := by
    simp [step, advance_eq hget hid hepoch hcur]
  refine ⟨{ t with cursorEpoch := some s.db.epoch, cursorPubSeq := b.cursorEnd }, _,
    (congrArg (Option.bind · _) hprepare).trans hanswer, ⟨?_, rfl, ?_, h.responsible, h.https, h.materialize⟩, rfl,
    rfl, ?_⟩
  · exact (h.accounted.step (orderly_of_same rfl) hprepare).step (orderly_of_same rfl) hanswer
  · simp [targetAdvanceCursor, mapTarget, h.targets]
  · -- the last row of the batch is not pending any more
    rw [backlog_advance hcur]
    exact List.length_filter_lt_length_iff_exists.2 ⟨last, hmem, by simp [hend]⟩

theorem rounds_deliver {format : Format} : ∀ (k : ℕ) {t : DeliveryTarget} {s : State},
    Delivers format t s → (backlog s.db t).length ≤ k →
      ∃ n ≤ k, ∃ s', rounds format n s = some s' ∧ s'.db.log = s.db.log
        ∧ ∀ r ∈ s.db.log.rows, r.2.epoch = s.db.epoch → r ∈ s'.delivered
  | k, t, s, h, hk => by
    by_cases hnil : backlog s.db t = []
    · exact ⟨0, Nat.zero_le k, s, rfl, rfl, h.accounted.delivered_all (by simp [h.targets]) hnil⟩
    · obtain ⟨t', s₁, hround, h₁, hlog, hepoch, hlt⟩ := round_delivers h hnil
      obtain ⟨k, rfl⟩ : ∃ j, k = j + 1 := ⟨k - 1, by omega⟩
      obtain ⟨n, hn, s', hs', hlog', hall⟩ := rounds_deliver k h₁ (by omega)
      refine ⟨n + 1, by omega, s', ?_, hlog'.trans hlog, fun r hr he => ?_⟩
      · rw [rounds, hround]
        exact hs'
      · exact hall r (hlog ▸ hr) (he.trans hepoch.symm)

/-- An archive that answers gets everything: from whatever state a run leads to, there are as many
cycles as rows waiting, or fewer, after which all rows of the epoch are acknowledged. -/
theorem answered_cycles_deliver_all {id epoch : String} {es : List Event} {format : Format}
    {t : DeliveryTarget} (ho : Along step Orderly (initial id epoch) es)
    (hr : run step (initial id epoch) es = some s) (hidle : s.posted = none)
    (ht : s.db.targets = [t]) (hresp : t.archiveResponsible = true)
    (hurl : "https://".toList.isPrefixOf t.endpointUrl.toList = true)
    (hmat : ∀ r ∈ s.db.log.rows, ∃ j, format.materialize r = .ok j) :
    ∃ n ≤ (backlog s.db t).length, ∃ s', rounds format n s = some s' ∧ s'.db.log = s.db.log
      ∧ ∀ r ∈ s.db.log.rows, r.2.epoch = s.db.epoch → r ∈ s'.delivered :=
  rounds_deliver _ ⟨accounted_run ho hr, hidle, ht, hresp, hurl, hmat⟩ le_rfl

theorem registration_is_delivered :
    ∃ s, run step (initial "node" "e1") registration = some s ∧ ∃ n ≤ 1, ∃ s',
      rounds plainFormat n s = some s' ∧ s'.db.log = s.db.log
        ∧ ∀ r ∈ s.db.log.rows, r.2.epoch = s.db.epoch → r ∈ s'.delivered := by
  obtain ⟨s, hr, hidle, ht, hone⟩ := registration_run
  have hall := answered_cycles_deliver_all (by decide +kernel) hr hidle ht rfl (by decide +kernel)
    fun r _ => show ∃ j, plainFormat.materialize r = .ok j from ⟨.null, rfl⟩
  rw [hone] at hall
  exact ⟨s, hr, hall⟩

end Outlet

end EdgeNode
