import EdgeNode.Publish.Retention

/-!
# What a purge deletes

A batch takes its readings and the log rows that refer to them (`swept`), so whether one of the
readings left is in custody does not change (`selectDoomed_swept`). After the last round all readings
that were doomed at the start are gone, and no others.
-/

namespace EdgeNode

namespace Retention

open Tx

variable {ρ : Type} {db : NodeDb ρ} {scan : Scan} {cutoff : ℤ} {epoch : String} {cursor : Option ℤ}
  {gone seqs : List ℕ} {n total : ℕ}

def swept (gone : List ℕ) (db : NodeDb ρ) : NodeDb ρ :=
  { db with
    readings := db.readings.deleteWhere fun r => r.1 ∈ gone
    publications := db.publications.deleteWhere (refersTo gone) }

theorem swept_swept (gone seqs : List ℕ) (db : NodeDb ρ) :
    swept seqs (swept gone db) = swept (gone ++ seqs) db := by
  have hrefers : ∀ p : ℕ × PublicationRow,
      (refersTo gone p || refersTo seqs p) = refersTo (gone ++ seqs) p := by
    intro p
    rcases hseq : p.2.readingSeq with _ | seq <;> simp [refersTo, hseq, List.mem_append]
  unfold swept
  simp only [AutoTable.deleteWhere_deleteWhere, hrefers, List.mem_append, Bool.decide_or]

theorem swept_nil (db : NodeDb ρ) : swept [] db = db := by
  have hrefers : refersTo [] = fun _ => false := by
    funext p
    rcases hseq : p.2.readingSeq with _ | seq <;> simp [refersTo, hseq]
  simp [swept, hrefers, AutoTable.deleteWhere]

theorem mem_swept_readings {r : ℕ × ReadingRow} :
    r ∈ (swept gone db).readings.rows ↔ r ∈ db.readings.rows ∧ r.1 ∉ gone := by
  simp [swept, AutoTable.deleteWhere]

theorem mem_swept_publications {p : ℕ × PublicationRow} :
    p ∈ (swept gone db).publications.rows ↔ p ∈ db.publications.rows ∧ refersTo gone p = false := by
  simp [swept, AutoTable.deleteWhere]

theorem inCustody_swept {r : ℕ × ReadingRow} {eff : ℤ} (hr : r.1 ∉ gone) :
    inCustody (swept gone db).publications.rows epoch eff r
      = inCustody db.publications.rows epoch eff r := by
  unfold inCustody
  congr 1
  rw [Bool.eq_iff_iff, List.any_eq_true, List.any_eq_true]
  refine exists_congr fun p => ?_
  rw [mem_swept_publications, and_assoc]
  refine and_congr_right fun _ => and_iff_right_of_imp fun hp => ?_
  simp only [Bool.and_eq_true, beq_iff_eq] at hp
  simp [refersTo, hp.2, hr]

theorem doomed_swept {r : ℕ × ReadingRow} (hr : r.1 ∉ gone) :
    doomed (swept gone db).publications.rows cutoff epoch cursor r
      = doomed db.publications.rows cutoff epoch cursor r := by
  cases cursor with
  | none => rfl
  | some eff => simp only [doomed, inCustody_swept hr]

theorem mem_selectDoomed {seq : ℕ} : seq ∈ selectDoomed db cutoff epoch cursor ↔
    ∃ r ∈ db.readings.rows, r.1 = seq ∧ doomed db.publications.rows cutoff epoch cursor r = true := by
  simp only [selectDoomed, List.mem_map, List.mem_filter]
  exact ⟨fun ⟨r, ⟨hr, hd⟩, hseq⟩ => ⟨r, hr, hseq, hd⟩, fun ⟨r, hr, hseq, hd⟩ => ⟨r, ⟨hr, hd⟩, hseq⟩⟩

theorem mem_selectDoomed_swept {seq : ℕ} : seq ∈ selectDoomed (swept gone db) cutoff epoch cursor ↔
    seq ∈ selectDoomed db cutoff epoch cursor ∧ seq ∉ gone := by
  rw [mem_selectDoomed, mem_selectDoomed]
  constructor
  · rintro ⟨r, hr, rfl, hd⟩
    obtain ⟨hr, hgone⟩ := mem_swept_readings.1 hr
    rw [doomed_swept hgone] at hd
    exact ⟨⟨r, hr, rfl, hd⟩, hgone⟩
  · rintro ⟨⟨r, hr, rfl, hd⟩, hgone⟩
    exact ⟨r, mem_swept_readings.2 ⟨hr, hgone⟩, rfl, by rwa [doomed_swept hgone]⟩

/-! ## The loop -/

structure Purging (cutoff : ℤ) (epoch : String) (cursor : Option ℤ) (start : NodeDb ρ)
    (gone : List ℕ) (total : ℕ) (db : NodeDb ρ) : Prop where
  swept : db = swept gone start
  doomed : ∀ seq ∈ gone, seq ∈ selectDoomed start cutoff epoch cursor
  counted : total + db.readings.rows.length = start.readings.rows.length

theorem Purging.batch {start : NodeDb ρ} (h : Purging cutoff epoch cursor start gone total db)
    (hseqs : ∀ seq ∈ seqs, seq ∈ selectDoomed db cutoff epoch cursor) :
    Purging cutoff epoch cursor start (gone ++ seqs)
      (total + db.readings.rows.countP fun r => r.1 ∈ seqs) (Retention.swept seqs db) := by
  refine ⟨by rw [h.swept, swept_swept], fun seq hseq => ?_, ?_⟩
  · rcases List.mem_append.1 hseq with hseq | hseq
    · exact h.doomed seq hseq
    · have := hseqs seq hseq
      rw [h.swept, mem_selectDoomed_swept] at this
      exact this.1
  · have hsplit := List.length_eq_countP_add_countP (fun r : ℕ × ReadingRow => decide (r.1 ∈ seqs))
      (l := db.readings.rows)
    have hleft : (Retention.swept seqs db).readings.rows.length
        = db.readings.rows.countP fun r => !decide (r.1 ∈ seqs) := List.countP_eq_length_filter.symm
    have hcounted := h.counted
    simp only [decide_not, Bool.not_eq_true, Bool.decide_eq_false] at hsplit
    omega

def Purged (cutoff : ℤ) (epoch : String) (cursor : Option ℤ) (start : NodeDb ρ) (total : ℕ)
    (db : NodeDb ρ) : Prop :=
  ∃ gone, Purging cutoff epoch cursor start gone total db
    ∧ ∀ seq ∈ selectDoomed start cutoff epoch cursor, seq ∈ gone

theorem Purging.over {start : NodeDb ρ} (h : Purging cutoff epoch cursor start gone total db)
    (hnone : ∀ seq, seq ∉ selectDoomed db cutoff epoch cursor) :
    Purged cutoff epoch cursor start total db := by
  refine ⟨gone, h, fun seq hseq => ?_⟩
  by_contra hgone
  refine hnone seq ?_
  rw [h.swept, mem_selectDoomed_swept]
  exact ⟨hseq, hgone⟩

theorem sweep_sure {α : Type} {Q : α → NodeDb ρ → ℕ → Prop} {E : PublishError → NodeDb ρ → ℕ → Prop}
    {k : ℕ → Tx (NodeDb ρ) PublishError α} (hseqs : ¬ seqs.isEmpty = true)
    (h : sure (k (db.readings.rows.countP fun r => r.1 ∈ seqs)) Q E (swept seqs db) n) :
    sure (do
      let _ ← pruneOutboxByReadingSeqs seqs
      let deleted ← deleteReadings seqs
      k deleted) Q E db n := by
  unfold pruneOutboxByReadingSeqs
  rw [if_neg hseqs]
  refine sure_bind (sure_stmt (fun a db' hdb => ?_) (fun e he => nomatch he))
  cases hdb
  refine sure_bind (sure_stmt (fun a db' hdb => ?_) (fun e he => nomatch he))
  cases hdb
  exact h

theorem purgeRound_sure {start : NodeDb ρ} (h : Purging cutoff epoch cursor start gone total db) :
    sure (purgeRound scan cutoff epoch cursor total)
      (fun r db' _ => r.elim
        (fun total' => (∃ gone', Purging cutoff epoch cursor start gone' total' db')
          ∧ db'.readings.rows.length < db.readings.rows.length)
        fun total' => Purged cutoff epoch cursor start total' db')
      (fun _ _ _ => False) db n := by
  unfold purgeRound
  refine sure_bind (sure_draw (sure_bind (sure_query ?_)))
  set found := scan.order n (selectDoomed db cutoff epoch cursor)
  have hmem : ∀ seq, seq ∈ found ↔ seq ∈ selectDoomed db cutoff epoch cursor :=
    fun seq => (scan.perm n _).mem_iff
  set seqs := found.take purgeBatch with hseqs
  have hbatch : Purging cutoff epoch cursor start (gone ++ seqs)
      (total + db.readings.rows.countP fun r => r.1 ∈ seqs) (swept seqs db) :=
    h.batch fun seq hseq => (hmem seq).1 (List.mem_of_mem_take hseq)
  have hpos : 0 < purgeBatch := by decide
  by_cases hempty : seqs.isEmpty = true
  · rw [if_pos hempty]
    refine sure_pure (h.over fun seq hseq => ?_)
    have hnil : found.take purgeBatch = [] := List.isEmpty_iff.1 hempty
    rw [List.take_eq_nil_iff] at hnil
    rw [← hmem, hnil.resolve_left hpos.ne'] at hseq
    cases hseq
  · rw [if_neg hempty]
    refine sweep_sure hempty ?_
    by_cases hlast : seqs.length < purgeBatch
    · -- the scan found less than a batch, so the batch was all there was
      rw [if_pos hlast]
      refine sure_pure (hbatch.over fun seq hseq => ?_)
      have hall : seqs = found := by
        rw [hseqs, List.length_take] at hlast
        exact List.take_of_length_le (by omega)
      obtain ⟨hseq, hleft⟩ := mem_selectDoomed_swept.1 hseq
      rw [hall, hmem] at hleft
      exact hleft hseq
    · rw [if_neg hlast]
      refine sure_pure ⟨⟨_, hbatch⟩, ?_⟩
      obtain ⟨seq, hseq⟩ := List.exists_mem_of_ne_nil seqs (by simpa using hempty)
      obtain ⟨r, hr, rfl, -⟩ := mem_selectDoomed.1 ((hmem seq).1 (List.mem_of_mem_take hseq))
      have hcount : 0 < db.readings.rows.countP fun r => r.1 ∈ seqs :=
        List.countP_pos_iff.2 ⟨r, hr, by simpa using hseq⟩
      have hbefore := h.counted
      have hafter := hbatch.counted
      omega

theorem purgeLoop_sure (start : NodeDb ρ) :
    sure (purgeLoop scan cutoff epoch cursor) (fun total db' _ =>
      Purged cutoff epoch cursor start total db') (fun _ _ _ => False) start n := by
  have hstart : Purging cutoff epoch cursor start [] 0 start := by
    exact ⟨(swept_nil start).symm, fun _ h => (nomatch h), Nat.zero_add _⟩
  unfold purgeLoop
  refine sure_bind (sure_contents (sure_repeatUntil (μ := fun db => db.readings.rows.length)
    (I := fun total db _ => ∃ gone, Purging cutoff epoch cursor start gone total db)
    (fun total db n h => ?_) ⟨[], hstart⟩ (Nat.lt_succ_self _)))
  obtain ⟨gone, h⟩ := h
  exact purgeRound_sure h

/-! ## The purge -/

/-- A reading that must not be lost: it is not quarantined, and a target that is responsible for the
archive has not acknowledged a measurement publication of it in the current epoch. -/
def Protected (db : NodeDb ρ) (epoch : String) (target : Option TargetRow) (r : ℕ × ReadingRow) :
    Prop :=
  ∃ t ∈ target, t.archiveResponsible = true ∧ r.2.quarantined = false
    ∧ ∃ p ∈ db.publications.rows, p.2.kind = .measurement ∧ p.2.epoch = epoch
      ∧ p.2.readingSeq = some r.1 ∧ effectiveCursor epoch t < (p.1 : ℤ)

theorem inCustody_iff {eff : ℤ} {r : ℕ × ReadingRow} :
    inCustody db.publications.rows epoch eff r = true ↔ r.2.quarantined = false
      ∧ ∃ p ∈ db.publications.rows, p.2.kind = .measurement ∧ p.2.epoch = epoch
        ∧ p.2.readingSeq = some r.1 ∧ eff < (p.1 : ℤ) := by
  simp only [inCustody, awaited, Bool.and_eq_true, Bool.not_eq_true', List.any_eq_true, beq_iff_eq,
    decide_eq_true_eq]
  refine and_congr_right fun _ => exists_congr fun p => and_congr_right fun _ => ?_
  exact ⟨fun h => ⟨h.1.1.1, h.1.1.2, h.2, h.1.2⟩, fun h => ⟨⟨⟨h.1, h.2.1⟩, h.2.2.2⟩, h.2.2.1⟩⟩

theorem doomed_iff {target : Option TargetRow} {r : ℕ × ReadingRow} :
    doomed db.publications.rows cutoff epoch (custodyCursor epoch target) r = true ↔
      r.2.receivedAtMs < cutoff ∧ ¬ Protected db epoch target r := by
  unfold doomed
  rw [Bool.and_eq_true, decide_eq_true_eq]
  refine and_congr_right fun _ => ?_
  rcases target with _ | t
  · simp [custodyCursor, Protected]
  · by_cases ht : t.archiveResponsible = true
    · simp only [custodyCursor, ht, Bool.not_true, Bool.false_eq_true, if_false, Bool.not_eq_true',
        Protected, Option.mem_some_iff, exists_eq_left', true_and]
      rw [← inCustody_iff, Bool.not_eq_true]
    · simp [custodyCursor, ht, Protected]

def pruned (epoch : String) (cursor : Option ℤ) (db : NodeDb ρ) : NodeDb ρ :=
  match cursor with
  | some eff => { db with publications := db.publications.deleteWhere (acked epoch eff) }
  | none => db

theorem doomed_pruned {r : ℕ × ReadingRow} :
    doomed (pruned epoch cursor db).publications.rows cutoff epoch cursor r
      = doomed db.publications.rows cutoff epoch cursor r := by
  cases cursor with
  | none => rfl
  | some eff =>
    simp only [doomed]
    congr 2
    rw [Bool.eq_iff_iff, inCustody_iff, inCustody_iff]
    refine and_congr_right fun _ => exists_congr fun p => ?_
    have hmem : p ∈ (pruned epoch (some eff) db).publications.rows
        ↔ p ∈ db.publications.rows ∧ acked epoch eff p = false := by
      simp [pruned, AutoTable.deleteWhere]
    rw [hmem, and_assoc]
    refine and_congr_right fun _ => and_iff_right_of_imp fun hp => ?_
    simp [acked, hp.2.2.2]

theorem purge_sure (scan : Scan) (cutoff : ℤ) (epoch : String) (cursor : Option ℤ) (db : NodeDb ρ)
    (n : ℕ) :
    sure (purgeReadingsCustodyAware scan cutoff epoch cursor) (fun total db' _ =>
      Purged cutoff epoch cursor (pruned epoch cursor db) total db') (fun _ _ _ => False) db n := by
  cases cursor with
  | none => exact purgeLoop_sure db
  | some eff =>
    refine sure_bind (sure_stmt (fun a db' hdb => ?_) (fun e he => nomatch he))
    cases hdb
    exact purgeLoop_sure (pruned epoch (some eff) db)

/-- A purge that no statement fails in ends. A purge that ends has deleted the readings before the
cutoff but the protected ones, and no row of the log refers to a reading it deleted. -/
theorem purge_deletes_exactly (scan : Scan) (cutoff : ℤ) (epoch : String)
    (target : Option TargetRow) (db : NodeDb ρ) (n : ℕ) :
    (∃ total c, purgeReadingsCustodyAware scan cutoff epoch (custodyCursor epoch target) ⟨db, [], n⟩
      = (.ok total, c))
    ∧ ∀ faults total c, purgeReadingsCustodyAware scan cutoff epoch (custodyCursor epoch target)
        ⟨db, faults, n⟩ = (.ok total, c) →
      (∀ r, r ∈ c.db.readings.rows ↔ r ∈ db.readings.rows
        ∧ (cutoff ≤ r.2.receivedAtMs ∨ Protected db epoch target r))
      ∧ total + c.db.readings.rows.length = db.readings.rows.length
      ∧ ∀ p ∈ c.db.publications.rows, ∀ r ∈ db.readings.rows, p.2.readingSeq = some r.1 →
        r ∈ c.db.readings.rows := by
  have hsure := purge_sure scan cutoff epoch (custodyCursor epoch target) db n
  refine ⟨?_, fun faults total c hr => ?_⟩
  · obtain ⟨total, db', n', hr, -⟩ := hsure.ok
    exact ⟨total, _, hr⟩
  set start := pruned epoch (custodyCursor epoch target) db with hstart
  have hreadings : start.readings = db.readings := by
    rw [hstart]
    unfold pruned
    split <;> rfl
  obtain ⟨gone, hpurging, hall⟩ := hsure.result hr
  have hgone : ∀ r ∈ db.readings.rows, r.1 ∈ gone ↔
      r.2.receivedAtMs < cutoff ∧ ¬ Protected db epoch target r := by
    intro r hmem
    rw [← doomed_iff, ← doomed_pruned, ← hstart]
    rw [← hreadings] at hmem
    constructor
    · intro hg
      obtain ⟨r', hr', hseq, hd⟩ := mem_selectDoomed.1 (hpurging.doomed _ hg)
      rwa [show r = r' from Prod.ext hseq.symm
        (AutoTable.rows_unique (hseq ▸ hmem : (r'.1, r.2) ∈ start.readings.rows) hr')]
    · exact fun hd => hall _ (mem_selectDoomed.2 ⟨r, hmem, rfl, hd⟩)
  have hleft : ∀ r, r ∈ c.db.readings.rows ↔ r ∈ db.readings.rows ∧ r.1 ∉ gone := by
    intro r
    rw [hpurging.swept, mem_swept_readings, hreadings]
  refine ⟨fun r => ?_, hreadings ▸ hpurging.counted, fun p hp r hmem hseq => ?_⟩
  · rw [hleft]
    refine and_congr_right fun hmem => ?_
    rw [hgone r hmem, not_and_or, not_lt, not_not]
  · rw [hleft]
    refine ⟨hmem, fun hg => ?_⟩
    rw [hpurging.swept, mem_swept_publications] at hp
    simp [refersTo, hseq, hg] at hp

end Retention

end EdgeNode
