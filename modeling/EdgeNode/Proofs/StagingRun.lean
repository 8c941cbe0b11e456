import EdgeNode.Proofs.Staging

/-!
# The limits and pins of staging over whole runs

A batch is only inserted where the rows that are left have room for it, and a pin is only set, or
inherited by new rows, where the limits less the reserve have room for it. Sums are compared in
saturating arithmetic, which is exact for everything a database file can hold. The reserve is for
subjects that are not there yet: the young rows of a batch's own subjects cannot make room for it
either.
-/

namespace EdgeNode

open Tx

structure StagingBounds.Ordered (limits : StagingBounds) : Prop where
  rows : limits.reserveRows ≤ limits.principalRows ∧ limits.principalRows ≤ limits.globalRows
  bytes : limits.reserveBytes ≤ limits.principalBytes ∧ limits.principalBytes ≤ limits.globalBytes

def StagingHealth.plus (h h' : StagingHealth) : StagingHealth where
  rows := h.rows + h'.rows
  bytes := h.bytes + h'.bytes
  pinnedRows := h.pinnedRows + h'.pinnedRows
  pinnedBytes := h.pinnedBytes + h'.pinnedBytes

namespace Staging

variable {principalId : String} {receivedAtMs : ℤ} {sightings : List StagedSighting}
  {limits : StagingBounds} {db : StagingDb} {n : ℕ} {rows new kept : List (ℕ × StagedRow)}
  {s : StagingSubject}

/-! ## The sums of a batch -/

theorem health_append (l m : List (ℕ × StagedRow)) :
    health (l ++ m) = (health l).plus (health m) := by
  simp [health, StagingHealth.plus, totalBytes_append]

theorem health_batch {batch : List (StagedSighting × Bool)}
    (h : new.map Prod.snd = batchRows principalId receivedAtMs batch) :
    health new = ⟨batch.length, bytesOf (batch.map Prod.fst),
      ((batch.filter Prod.snd).map Prod.fst).length,
      bytesOf ((batch.filter Prod.snd).map Prod.fst)⟩ := by
  induction batch generalizing new with
  | nil =>
    obtain rfl : new = [] := by simpa [batchRows] using h
    rfl
  | cons s batch ih =>
    obtain ⟨row, new, rfl, hrow, hnew⟩ := List.map_eq_cons_iff.1 h
    have hsum := ih hnew
    simp only [health, StagingHealth.mk.injEq] at hsum ⊢
    obtain ⟨hrows, hbytes, hpinned, hpinnedBytes⟩ := hsum
    have hp : row.2.pinned = s.2 := by rw [hrow]; rfl
    have hb : row.2.payloadBytes = s.1.payloadJson.utf8ByteSize := by rw [hrow]; rfl
    refine ⟨?_, ?_, ?_, ?_⟩
    · simp only [List.length_cons, Nat.cast_add]
      omega
    · simp only [totalBytes, bytesOf, List.map_cons, List.sum_cons, hb] at hbytes ⊢
      omega
    · rw [List.filter_cons, List.filter_cons, hp]
      split_ifs
      · simp only [List.map_cons, List.length_cons, Nat.cast_add]
        omega
      · exact hpinned
    · rw [List.filter_cons, List.filter_cons, hp]
      split_ifs
      · simp only [totalBytes, bytesOf, List.map_cons, List.sum_cons, hb] at hpinnedBytes ⊢
        omega
      · exact hpinnedBytes

theorem pinsOf_length : (pinsOf rows principalId sightings).length = sightings.length :=
  List.length_map _

theorem health_new (h : new.map Prod.snd = batchRows principalId receivedAtMs
      (sightings.zip (pinsOf rows principalId sightings))) :
    health new = ⟨sightings.length, bytesOf sightings,
      (inheritedOf rows principalId sightings).length,
      bytesOf (inheritedOf rows principalId sightings)⟩ := by
  rw [health_batch h, List.length_zip, pinsOf_length, Nat.min_self,
    List.map_fst_zip pinsOf_length.ge]
  rfl

theorem mem_new (h : new.map Prod.snd = batchRows principalId receivedAtMs
      (sightings.zip (pinsOf rows principalId sightings))) {r : ℕ × StagedRow} (hr : r ∈ new) :
    r.2.principalId = principalId ∧ r.2.pinned = isPinned rows r.2.subject
      ∧ 0 ≤ r.2.payloadBytes := by
  have hmem : r.2 ∈ new.map Prod.snd := List.mem_map_of_mem hr
  rw [h] at hmem
  obtain ⟨⟨sighting, pinned⟩, hzip, hrow⟩ := List.mem_map.1 hmem
  have hpin : pinned = isPinned rows (principalId, sighting.hardwareId) := by
    unfold pinsOf at hzip
    rw [← List.map_id sightings, List.map_map, List.zip_map'] at hzip
    obtain ⟨s', -, hs'⟩ := List.mem_map.1 hzip
    rw [Prod.mk.injEq] at hs'
    rw [← hs'.2, ← hs'.1]
    rfl
  rw [← hrow]
  exact ⟨rfl, hpin, by simp [stagedRow]⟩

theorem ofPrincipal_append (l m : List (ℕ × StagedRow)) (p : String) :
    ofPrincipal (l ++ m) p = ofPrincipal l p ++ ofPrincipal m p := List.filter_append _ _

theorem ofPrincipal_self (h : ∀ r ∈ new, r.2.principalId = principalId) :
    ofPrincipal new principalId = new :=
  List.filter_eq_self.2 fun r hr => by simp [h r hr]

theorem ofPrincipal_other {p : String} (h : ∀ r ∈ new, r.2.principalId = principalId)
    (hp : p ≠ principalId) : ofPrincipal new p = [] :=
  List.filter_eq_nil_iff.2 fun r hr => by simp [h r hr, hp.symm]

/-! ## Within the limits -/

structure Within (rowLimit byteLimit reserveRows reserveBytes : ℤ) (h : StagingHealth) : Prop where
  rows : h.rows ≤ rowLimit
  bytes : h.bytes ≤ byteLimit
  pinnedRows : h.pinnedRows ≤ rowLimit - reserveRows
  pinnedBytes : h.pinnedBytes ≤ byteLimit - reserveBytes

theorem Within.atMost {rowLimit byteLimit reserveRows reserveBytes : ℤ} {h h' : StagingHealth}
    (hw : Within rowLimit byteLimit reserveRows reserveBytes h') (hle : AtMost h h') :
    Within rowLimit byteLimit reserveRows reserveBytes h :=
  ⟨hle.rows.trans hw.rows, hle.bytes.trans hw.bytes, hle.pinnedRows.trans hw.pinnedRows,
    hle.pinnedBytes.trans hw.pinnedBytes⟩

def Uniform (rows : List (ℕ × StagedRow)) : Prop :=
  ∀ r ∈ rows, ∀ r' ∈ rows, r.2.subject = r'.2.subject → r.2.pinned = r'.2.pinned

structure Bounded (limits : StagingBounds) (rows : List (ℕ × StagedRow)) : Prop where
  sized : Sized rows
  all : Within limits.globalRows limits.globalBytes limits.reserveRows limits.reserveBytes
    (health rows)
  principal : ∀ p, Within limits.principalRows limits.principalBytes limits.reserveRows
    limits.reserveBytes (health (ofPrincipal rows p))
  uniform : Uniform rows

theorem Uniform.pinned_eq (h : Uniform rows) {r : ℕ × StagedRow} (hr : r ∈ rows) :
    r.2.pinned = isPinned rows r.2.subject := by
  cases hp : r.2.pinned
  · refine (Bool.eq_false_iff.2 fun hpinned => ?_).symm
    obtain ⟨r', hr', hs⟩ := List.any_eq_true.1 hpinned
    rw [Bool.and_eq_true, beq_iff_eq] at hs
    rw [h r hr r' hr' hs.1.symm, hs.2] at hp
    simp at hp
  · exact (isPinned_of_mem hr hp).symm

theorem uniform_of_pinned_eq (pins : StagingSubject → Bool)
    (h : ∀ r ∈ rows, r.2.pinned = pins r.2.subject) : Uniform rows := by
  intro r hr r' hr' hs
  rw [h r hr, h r' hr', hs]

structure Storable (rows : List (ℕ × StagedRow)) : Prop where
  keys : rows.length ≤ maxRowId
  bytes : totalBytes rows ≤ maxDatabaseBytes

theorem Storable.sublist {rows' : List (ℕ × StagedRow)} (h : Storable rows) (hs : Sized rows)
    (hsub : rows'.Sublist rows) : Storable rows' :=
  ⟨hsub.length_le.trans h.keys, (totalBytes_le_of_sublist hsub hs).trans h.bytes⟩

theorem saturatingAdd_stored {a b m : ℤ} (ha : 0 ≤ a + b) (hm : a + b ≤ I64.maxValue)
    (h : I64.saturatingAdd a b ≤ m) : a + b ≤ m := by
  unfold I64.saturatingAdd at h
  rwa [I64.saturate_eq ⟨(by decide : I64.minValue ≤ 0).trans ha, hm⟩] at h

theorem Storable.range (h : Storable rows) (hs : Sized rows) :
    (0 ≤ (health rows).rows ∧ (health rows).rows ≤ I64.maxValue)
      ∧ (0 ≤ (health rows).bytes ∧ (health rows).bytes ≤ I64.maxValue)
      ∧ (0 ≤ (health rows).pinnedRows ∧ (health rows).pinnedRows ≤ I64.maxValue)
      ∧ (0 ≤ (health rows).pinnedBytes ∧ (health rows).pinnedBytes ≤ I64.maxValue) := by
  have hle : AtMost (health (rows.filter fun r => r.2.pinned)) (health rows) :=
    health_atMost List.filter_sublist hs
  have hzero : AtMost (health []) (health rows) := health_atMost (List.nil_sublist _) hs
  have hrows : (health rows).rows ≤ I64.maxValue := by
    have := h.keys
    unfold maxRowId at this
    simp only [health, I64.maxValue]
    omega
  have hbytes : (health rows).bytes ≤ I64.maxValue :=
    h.bytes.trans (by decide : maxDatabaseBytes ≤ I64.maxValue)
  exact ⟨⟨hzero.rows, hrows⟩, ⟨hzero.bytes, hbytes⟩, ⟨hzero.pinnedRows, hle.rows.trans hrows⟩,
    ⟨hzero.pinnedBytes, hle.bytes.trans hbytes⟩⟩

/-- Rows within the limits, the part of them that was kept and what a check found room for beside
it. Pinned rows are all kept. -/
theorem Within.staged {rowLimit byteLimit reserveRows reserveBytes : ℤ}
    (hw : Within rowLimit byteLimit reserveRows reserveBytes (health rows))
    (hs : Sized (kept ++ new)) (hstored : Storable (kept ++ new))
    (hroom : ¬ Over rowLimit byteLimit (health new).rows (health new).bytes (health kept))
    (hpinned : kept.filter (fun r => r.2.pinned) = rows.filter fun r => r.2.pinned)
    (hpins : (health new).pinnedRows = 0 ∧ (health new).pinnedBytes = 0
      ∨ I64.saturatingAdd (health rows).pinnedRows (health new).pinnedRows ≤ rowLimit - reserveRows
        ∧ I64.saturatingAdd (health rows).pinnedBytes (health new).pinnedBytes
          ≤ byteLimit - reserveBytes) :
    Within rowLimit byteLimit reserveRows reserveBytes (health (kept ++ new)) := by
  have hpr : (health kept).pinnedRows = (health rows).pinnedRows := by simp only [health, hpinned]
  have hpb : (health kept).pinnedBytes = (health rows).pinnedBytes := by simp only [health, hpinned]
  obtain ⟨hr, hb, hr', hb'⟩ := hstored.range hs
  rw [health_append] at hr hb hr' hb' ⊢
  simp only [StagingHealth.plus, hpr, hpb] at hr hb hr' hb' ⊢
  simp only [Over, not_or, not_lt] at hroom
  refine ⟨saturatingAdd_stored hr.1 hr.2 hroom.1, saturatingAdd_stored hb.1 hb.2 hroom.2, ?_, ?_⟩ <;>
    rcases hpins with hzero | hpins
  · simpa [hzero.1] using hw.pinnedRows
  · exact saturatingAdd_stored hr'.1 hr'.2 hpins.1
  · simpa [hzero.2] using hw.pinnedBytes
  · exact saturatingAdd_stored hb'.1 hb'.2 hpins.2

theorem Cleared.pinned_filter {cutoff : ℤ} {own : List StagingSubject}
    (h : Cleared rows cutoff own kept) :
    kept.filter (fun r => r.2.pinned) = rows.filter fun r => r.2.pinned := by
  refine (h.sublist.filter _).antisymm ?_
  have hstuck : rows.filter (fun r => r.2.pinned)
      = (Staging.stuck rows cutoff own).filter fun r => r.2.pinned := by
    unfold Staging.stuck
    rw [List.filter_filter]
    refine List.filter_congr fun r hr => ?_
    cases hp : r.2.pinned
    · rfl
    · simp [isPinned_of_mem hr hp]
  rw [hstuck]
  exact h.stuck.filter _

theorem Staged.bounded (hb : Bounded limits rows)
    (h : Staged limits principalId receivedAtMs sightings rows kept new)
    (hstored : Storable (kept ++ new)) : Bounded limits (kept ++ new) := by
  have hsub := h.cleared.sublist
  have hmem := fun r (hr : r ∈ new) => mem_new h.rows hr
  have hof : ∀ r ∈ new, r.2.principalId = principalId := fun r hr => (hmem r hr).1
  have hsized : Sized (kept ++ new) := fun r hr => (List.mem_append.1 hr).elim
    (fun hr => hb.sized r (hsub.subset hr)) fun hr => (hmem r hr).2.2
  have hsum := health_new h.rows
  have hnone : (inheritedOf rows principalId sightings).length = 0 →
      (health new).pinnedRows = 0 ∧ (health new).pinnedBytes = 0 := by
    intro hzero
    rw [hsum, List.length_eq_zero_iff.1 hzero]
    exact ⟨rfl, rfl⟩
  have hpinned := h.cleared.pinned_filter
  refine ⟨hsized, ?_, fun p => ?_, ?_⟩
  · refine hb.all.staged hsized hstored (by rw [hsum]; exact h.room.all) hpinned ?_
    exact h.pins.imp hnone fun hp => by rw [hsum]; exact ⟨hp.allRows, hp.allBytes⟩
  · rw [ofPrincipal_append]
    by_cases hp : p = principalId
    · subst hp
      have hpart : (ofPrincipal kept p ++ new).Sublist (kept ++ new) :=
        List.filter_sublist.append (.refl _)
      have hsized' : Sized (ofPrincipal kept p ++ new) := fun r hr => hsized r (hpart.subset hr)
      rw [ofPrincipal_self hof]
      refine (hb.principal p).staged hsized' (hstored.sublist hsized hpart)
        (by rw [hsum]; exact h.room.principal) ?_ ?_
      · unfold ofPrincipal
        rw [List.filter_comm, hpinned, List.filter_comm]
      · exact h.pins.imp hnone fun hp => by rw [hsum]; exact ⟨hp.principalRows, hp.principalBytes⟩
    · rw [ofPrincipal_other hof hp, List.append_nil]
      exact (hb.principal p).atMost (health_atMost (hsub.filter _) (hb.sized.ofPrincipal p))
  · refine uniform_of_pinned_eq (isPinned rows) fun r hr => ?_
    rcases List.mem_append.1 hr with hr | hr
    · exact hb.uniform.pinned_eq (hsub.subset hr)
    · exact (hmem r hr).2.1

/-! ## One pin -/

def pinRows (s : StagingSubject) (pinned : Bool) (rows : List (ℕ × StagedRow)) :
    List (ℕ × StagedRow) :=
  rows.map fun r => if r.2.subject == s then (r.1, { r.2 with pinned := pinned }) else r

theorem pinRows_cons {pinned : Bool} (r : ℕ × StagedRow) :
    pinRows s pinned (r :: rows)
      = (if r.2.subject == s then (r.1, { r.2 with pinned := pinned }) else r)
        :: pinRows s pinned rows := rfl

theorem mem_pinRows {pinned : Bool} {r : ℕ × StagedRow} (h : r ∈ pinRows s pinned rows) :
    ∃ r' ∈ rows, r.2.subject = r'.2.subject ∧ r.2.payloadBytes = r'.2.payloadBytes
      ∧ r.2.pinned = if r.2.subject == s then pinned else r'.2.pinned := by
  obtain ⟨r', hr', rfl⟩ := List.mem_map.1 h
  refine ⟨r', hr', ?_⟩
  by_cases hs : r'.2.subject == s
  · rw [if_pos hs]
    exact ⟨rfl, rfl, (if_pos hs).symm⟩
  · rw [if_neg hs]
    exact ⟨rfl, rfl, (if_neg hs).symm⟩

theorem ofPrincipal_pinRows {pinned : Bool} (p : String) :
    ofPrincipal (pinRows s pinned rows) p = pinRows s pinned (ofPrincipal rows p) := by
  unfold ofPrincipal pinRows
  rw [List.filter_map]
  congr 1
  refine List.filter_congr fun r _ => ?_
  simp only [Function.comp_apply]
  split_ifs <;> rfl

variable (rows s) in
theorem health_pinRows_sums (pinned : Bool) :
    (health (pinRows s pinned rows)).rows = (health rows).rows
      ∧ (health (pinRows s pinned rows)).bytes = (health rows).bytes := by
  refine ⟨by simp [health, pinRows], ?_⟩
  simp only [health, totalBytes, pinRows, List.map_map]
  congr 1
  refine List.map_congr_left fun r _ => ?_
  simp only [Function.comp_apply]
  split_ifs <;> rfl

theorem health_unpin (hs : Sized rows) :
    AtMost (health (pinRows s false rows)) (health rows) := by
  have hsums := health_pinRows_sums rows s false
  have hsub : ((pinRows s false rows).filter fun r => r.2.pinned).Sublist
      (rows.filter fun r => r.2.pinned) := by
    clear hs hsums
    induction rows with
    | nil => exact .slnil
    | cons r rows ih =>
      rw [pinRows_cons]
      split_ifs
      · exact ih.trans ((List.sublist_cons_self r rows).filter _)
      · rw [List.filter_cons, List.filter_cons]
        split_ifs
        · exact ih.cons_cons r
        · exact ih
  exact ⟨hsums.1.le, hsums.2.le, by simpa [health] using hsub.length_le,
    totalBytes_le_of_sublist hsub fun r hr => hs r (List.mem_of_mem_filter hr)⟩

theorem health_pin (hnone : isPinned rows s = false) :
    health (pinRows s true rows) = (health rows).plus
      ⟨0, 0, (rowsOf rows s).length, totalBytes (rowsOf rows s)⟩ := by
  have hsums := health_pinRows_sums rows s true
  have hpinned : (health (pinRows s true rows)).pinnedRows
        = (health rows).pinnedRows + (rowsOf rows s).length
      ∧ (health (pinRows s true rows)).pinnedBytes
        = (health rows).pinnedBytes + totalBytes (rowsOf rows s) := by
    clear hsums
    induction rows with
    | nil => exact ⟨rfl, rfl⟩
    | cons r rows ih =>
      unfold isPinned at hnone ih
      rw [List.any_cons, Bool.or_eq_false_iff] at hnone
      obtain ⟨hrows, hbytes⟩ := ih hnone.2
      simp only [health, rowsOf, totalBytes] at hrows hbytes ⊢
      rw [pinRows_cons, List.filter_cons, List.filter_cons, List.filter_cons]
      by_cases hr : r.2.subject == s
      · have hunpinned : r.2.pinned = false := by simpa [hr] using hnone.1
        rw [if_pos hr, if_pos rfl, if_pos hr, if_neg (by simp [hunpinned])]
        simp only [List.length_cons, List.map_cons, List.sum_cons]
        omega
      · rw [if_neg hr, if_neg hr]
        split_ifs
        · simp only [List.length_cons, List.map_cons, List.sum_cons]
          omega
        · exact ⟨hrows, hbytes⟩
  rcases hh : health (pinRows s true rows) with ⟨a, b, c, d⟩
  rw [hh] at hsums hpinned
  simp only [StagingHealth.plus, StagingHealth.mk.injEq]
  simp only at hsums hpinned
  omega

theorem pinRows_self (hu : Uniform rows) (hp : isPinned rows s) : pinRows s true rows = rows := by
  refine (List.map_congr_left fun r hr => ?_).trans (List.map_id' rows)
  split_ifs with hs
  · rw [beq_iff_eq] at hs
    have hpinned : r.2.pinned = true := by rw [hu.pinned_eq hr, hs, hp]
    rw [← hpinned]
  · rfl

theorem rowsOf_ofPrincipal : rowsOf (ofPrincipal rows s.1) s = rowsOf rows s := by
  unfold rowsOf ofPrincipal
  rw [List.filter_filter]
  refine List.filter_congr fun r _ => ?_
  by_cases hs : r.2.subject = s
  · subst hs
    simp [StagedRow.subject]
  · simp [hs]

theorem rowsOf_ofOther {p : String} (hp : p ≠ s.1) : rowsOf (ofPrincipal rows p) s = [] := by
  refine List.filter_eq_nil_iff.2 fun r hr => ?_
  have hprincipal : r.2.principalId = p := by simpa using (List.mem_filter.1 hr).2
  rw [beq_iff_eq]
  rintro rfl
  exact hp hprincipal.symm

theorem Within.pinned {rowLimit byteLimit reserveRows reserveBytes : ℤ}
    (hw : Within rowLimit byteLimit reserveRows reserveBytes (health rows)) (hs : Sized rows)
    (hstored : Storable rows) (hnone : isPinned rows s = false)
    (hpins : rowsOf rows s = [] ∨
      I64.saturatingAdd (health rows).pinnedRows (rowsOf rows s).length ≤ rowLimit - reserveRows
        ∧ I64.saturatingAdd (health rows).pinnedBytes (totalBytes (rowsOf rows s))
          ≤ byteLimit - reserveBytes) :
    Within rowLimit byteLimit reserveRows reserveBytes (health (pinRows s true rows)) := by
  have hsums := health_pinRows_sums rows s true
  have hsized : Sized (pinRows s true rows) := fun r hr => by
    obtain ⟨r', hr', -, hbytes, -⟩ := mem_pinRows hr
    exact hbytes ▸ hs r' hr'
  have hstored' : Storable (pinRows s true rows) :=
    ⟨by simpa [pinRows] using hstored.keys, hsums.2.trans_le hstored.bytes⟩
  obtain ⟨-, -, hr, hb⟩ := hstored'.range hsized
  rw [health_pin hnone] at hr hb ⊢
  simp only [StagingHealth.plus] at hr hb ⊢
  refine ⟨by simpa using hw.rows, by simpa using hw.bytes, ?_, ?_⟩ <;>
    rcases hpins with hempty | hpins
  · simpa [hempty] using hw.pinnedRows
  · exact saturatingAdd_stored hr.1 hr.2 hpins.1
  · simpa [hempty, totalBytes] using hw.pinnedBytes
  · exact saturatingAdd_stored hb.1 hb.2 hpins.2

theorem Bounded.pin (hb : Bounded limits rows) (hstored : Storable rows) {pinned : Bool}
    (hpins : pinned && !isPinned rows s → PinRoom limits s.1 (rowsOf rows s).length
      (totalBytes (rowsOf rows s)) rows) : Bounded limits (pinRows s pinned rows) := by
  have hsized : Sized (pinRows s pinned rows) := fun r hr => by
    obtain ⟨r', hr', -, hbytes, -⟩ := mem_pinRows hr
    exact hbytes ▸ hb.sized r' hr'
  have huniform : Uniform (pinRows s pinned rows) := by
    refine uniform_of_pinned_eq (fun s' => if s' == s then pinned else isPinned rows s')
      fun r hr => ?_
    obtain ⟨r', hr', hsubject, -, hpinned⟩ := mem_pinRows hr
    rw [hpinned, hb.uniform.pinned_eq hr', hsubject]
  cases pinned with
  | false =>
    refine ⟨hsized, hb.all.atMost (health_unpin hb.sized), fun p => ?_, huniform⟩
    rw [ofPrincipal_pinRows]
    exact (hb.principal p).atMost (health_unpin (hb.sized.ofPrincipal p))
  | true =>
    by_cases hp : isPinned rows s
    · exact (pinRows_self hb.uniform hp).symm ▸ hb
    · rw [Bool.not_eq_true] at hp
      have hroom := hpins (by simp [hp])
      refine ⟨hsized, hb.all.pinned hb.sized hstored hp (.inr ⟨hroom.allRows, hroom.allBytes⟩),
        fun p => ?_, huniform⟩
      have hnone : isPinned (ofPrincipal rows p) s = false := by
        rw [Bool.eq_false_iff] at hp ⊢
        intro hpinned
        obtain ⟨r, hr, hs⟩ := List.any_eq_true.1 hpinned
        exact hp (List.any_eq_true.2 ⟨r, List.mem_of_mem_filter hr, hs⟩)
      rw [ofPrincipal_pinRows]
      refine (hb.principal p).pinned (hb.sized.ofPrincipal p)
        (hstored.sublist hb.sized List.filter_sublist) hnone ?_
      by_cases hps : p = s.1
      · subst hps
        rw [rowsOf_ofPrincipal]
        exact .inr ⟨hroom.principalRows, hroom.principalBytes⟩
      · exact .inl (rowsOf_ofOther hps)

theorem setSightingPin_sure {hardwareId : String} {pinned : Bool} :
    sure (setSightingPin principalId hardwareId pinned limits)
      (fun _ db' _ => (pinned && !isPinned db.staged.rows (principalId, hardwareId) →
          PinRoom limits principalId (rowsOf db.staged.rows (principalId, hardwareId)).length
            (totalBytes (rowsOf db.staged.rows (principalId, hardwareId))) db.staged.rows)
        ∧ db'.staged.rows = pinRows (principalId, hardwareId) pinned db.staged.rows)
      (fun _ _ _ => True) db n := by
  refine sure_bind (sure_bind (sure_query ?_))
  dsimp only
  split_ifs with hempty hpin
  · exact sure_fail trivial
  · refine sure_mono checkPinCapacity_sure (fun _ db' _ h => ?_) fun _ _ _ _ => trivial
    obtain ⟨rfl, hroom⟩ := h
    exact sure_exec ⟨fun _ => hroom, rfl⟩
  · exact sure_pure (sure_exec ⟨fun h => absurd h hpin, rfl⟩)

/-! ## Runs -/

structure Reached (limits : StagingBounds) (staged : AutoTable StagedRow) : Prop where
  bounded : Bounded limits staged.rows
  small : totalBytes staged.rows ≤ maxDatabaseBytes

theorem Reached.storable {staged : AutoTable StagedRow} (h : Reached limits staged) :
    Storable staged.rows := ⟨staged.rows_length_le, h.small⟩

theorem StagingCall.stage_sure :
    sure ((StagingCall.stage principalId receivedAtMs sightings).body limits)
      (fun _ db' _ => Done limits principalId receivedAtMs sightings db.staged db'.staged)
      (fun _ _ _ => True) db n :=
  sure_bind (sure_mono stageSightingsAt_sure (fun _ _ _ h => sure_pure h) fun _ _ _ _ => trivial)

theorem StagingCall.run_reached (h : Reached limits db.staged) (call : StagingCall × List Bool) :
    Reached limits (StagingCall.run limits db call).staged := by
  obtain ⟨call, faults⟩ := call
  have hbody : ∀ c, call.body limits { db := db, faults := faults } = (.ok (), c) →
      totalBytes c.db.staged.rows ≤ maxDatabaseBytes → Bounded limits c.db.staged.rows := by
    intro c hc hsmall
    cases call with
    | stage principalId receivedAtMs sightings =>
      obtain ⟨-, hsame⟩ | ⟨kept, new, hstaged, hrows, -⟩ := stage_sure.result hc
      · exact hsame ▸ h.bounded
      · rw [hrows] at hsmall ⊢
        exact hstaged.bounded h.bounded ⟨hrows ▸ c.db.staged.rows_length_le, hsmall⟩
    | pin principalId hardwareId pinned =>
      obtain ⟨hroom, hrows⟩ := setSightingPin_sure.result hc
      exact hrows ▸ h.bounded.pin h.storable hroom
  unfold run
  split
  · rename_i c hc
    split_ifs with hsmall
    · exact ⟨hbody c hc hsmall, hsmall⟩
    · exact h
  · exact h

theorem stagingRun_reached (ho : limits.Ordered) (hr : 0 ≤ limits.reserveRows)
    (hb : 0 ≤ limits.reserveBytes) (calls : List (StagingCall × List Bool)) :
    Reached limits (stagingRun limits calls).staged := by
  induction calls using List.reverseRecOn with
  | nil =>
    obtain ⟨⟨hrows, hrows'⟩, hbytes, hbytes'⟩ := ho
    have hempty : ∀ {rowLimit byteLimit : ℤ}, limits.reserveRows ≤ rowLimit →
        limits.reserveBytes ≤ byteLimit →
        Within rowLimit byteLimit limits.reserveRows limits.reserveBytes (health []) :=
      fun h h' => ⟨hr.trans h, hb.trans h', by simpa [health] using h,
        by simpa [health, totalBytes] using h'⟩
    exact ⟨⟨by simp [Sized, stagingRun, StagingDb.empty, AutoTable.empty],
      hempty (hrows.trans hrows') (hbytes.trans hbytes'), fun p => hempty hrows hbytes,
      by simp [Uniform, stagingRun, StagingDb.empty, AutoTable.empty]⟩,
      (by decide : (0 : ℤ) ≤ maxDatabaseBytes)⟩
  | append_singleton calls call ih =>
    unfold stagingRun at ih ⊢
    rw [List.foldl_append]
    exact StagingCall.run_reached ih call

theorem StagingCall.stage_keeps_pinned {faults : List Bool} {r : ℕ × StagedRow}
    (hr : r ∈ db.staged.rows) (hp : isPinned db.staged.rows r.2.subject) :
    r ∈ (StagingCall.run limits db
      (.stage principalId receivedAtMs sightings, faults)).staged.rows := by
  unfold run
  split
  · rename_i c hc
    split_ifs
    · obtain ⟨-, hsame⟩ | ⟨kept, new, hstaged, hrows, -⟩ := stage_sure.result hc
      · exact hsame ▸ hr
      · rw [hrows]
        exact List.mem_append_left _ (hstaged.cleared.pinned_mem hr hp)
    · exact hr
  · exact hr

/-- The eviction loop of a call ends within as many rounds as there are rows. -/
theorem evict_terminates {stagedRows stagedBytes : ℤ} {own removed : List StagingSubject}
    {e e' : TimeseriesError} {c : Conn StagingDb} {fuel fuel' : ℕ}
    (h : c.db.staged.rows.length < fuel) (h' : c.db.staged.rows.length < fuel') :
    repeatUntil (evict principalId stagedRows stagedBytes own limits) e fuel removed c
      = repeatUntil (evict principalId stagedRows stagedBytes own limits) e' fuel' removed c := by
  refine repeatUntil_fuel (μ := fun db => db.staged.rows.length)
    (fun removed c removed' c' hc => ?_) h h'
  obtain ⟨principal, victim, hvictim, hstaged⟩ := evict_cases.result hc
  exact hstaged ▸ deleteWhere_shrinks (oldestEvictable_mem hvictim).1

/-- The limits and the pins hold in every state that calls reach, and every call ends. -/
theorem stagingRun_bounded (limits : StagingBounds) (ho : limits.Ordered)
    (hrows : 0 ≤ limits.reserveRows) (hbytes : 0 ≤ limits.reserveBytes)
    (calls : List (StagingCall × List Bool)) :
    Within limits.globalRows limits.globalBytes limits.reserveRows limits.reserveBytes
        (health (stagingRun limits calls).staged.rows)
      ∧ (∀ p, Within limits.principalRows limits.principalBytes limits.reserveRows
          limits.reserveBytes (health (ofPrincipal (stagingRun limits calls).staged.rows p)))
      ∧ Uniform (stagingRun limits calls).staged.rows
      ∧ (∀ principalId receivedAtMs sightings faults, ∀ r ∈ (stagingRun limits calls).staged.rows,
          isPinned (stagingRun limits calls).staged.rows r.2.subject →
          r ∈ (stagingRun limits
            (calls ++ [(.stage principalId receivedAtMs sightings, faults)])).staged.rows)
      ∧ ∀ principalId stagedRows stagedBytes own removed e fuel (c : Conn StagingDb),
          c.db.staged.rows.length < fuel →
          repeatUntil (evict principalId stagedRows stagedBytes own limits) e fuel removed c
            = repeatUntil (evict principalId stagedRows stagedBytes own limits) .sqlite
              (c.db.staged.rows.length + 1) removed c := by
  have h := (stagingRun_reached ho hrows hbytes calls).bounded
  refine ⟨h.all, h.principal, h.uniform, fun principalId receivedAtMs sightings faults r hr hp => ?_,
    fun _ _ _ _ _ _ _ _ hfuel => evict_terminates hfuel (Nat.lt_succ_self _)⟩
  unfold stagingRun at hr hp ⊢
  rw [List.foldl_append]
  exact StagingCall.stage_keeps_pinned hr hp

def smallLimits : StagingLimits where
  globalRows := 4
  principalRows := 4
  globalBytes := 40
  principalBytes := 40
  maxAgeMs := 100
  reserveRows := 1
  reserveBytes := 10
  rowsOrdered := by decide
  bytesOrdered := by decide
  agePositive := by decide

def sighted (hardwareId : String) : StagingCall × List Bool :=
  (.stage "dev_1" 0 [⟨hardwareId, "1"⟩], [])

theorem smallLimits_pinned_within :
    (health (stagingRun smallLimits.toStagingBounds
      [sighted "a", (.pin "dev_1" "a" true, []), sighted "b"]).staged.rows).pinnedRows ≤ 4 - 1 :=
  (stagingRun_bounded smallLimits.toStagingBounds ⟨by decide, by decide⟩ (by decide) (by decide)
    [sighted "a", (.pin "dev_1" "a" true, []), sighted "b"]).1.pinnedRows

/-! ## The reserve -/

theorem inheritedOf_unpinned
    (h : ∀ s ∈ sightings, isPinned rows (principalId, s.hardwareId) = false) :
    inheritedOf rows principalId sightings = [] := by
  unfold inheritedOf
  rw [List.map_eq_nil_iff, List.filter_eq_nil_iff]
  rintro ⟨s, pinned⟩ hs
  obtain ⟨s', hs', hpinned⟩ := List.mem_map.1 (List.of_mem_zip hs).2
  have hs'' := h s' hs'
  rw [hpinned] at hs''
  simp [hs'']

/-- When a batch within the reserve, for subjects that are not pinned, is admitted: exactly when it
fits beside the pinned rows and the young rows of its own subjects, and the table has keys for it. -/
theorem stage_admitted_iff (limits : StagingBounds) (ho : limits.Ordered)
    (hrange : limits.globalBytes ≤ I64.maxValue) (calls : List (StagingCall × List Bool))
    (principalId : String) (receivedAtMs : ℤ) (sightings : List StagedSighting)
    (hrows : (sightings.length : ℤ) ≤ limits.reserveRows)
    (hbytes : bytesOf sightings ≤ limits.reserveBytes)
    (hunpinned : ∀ s ∈ sightings,
      isPinned (stagingRun limits calls).staged.rows (principalId, s.hardwareId) = false) :
    (∃ admission c, stageSightingsAt principalId receivedAtMs sightings limits
        { db := stagingRun limits calls } = (.ok admission, c))
      ↔ sightings = []
        ∨ Room limits principalId sightings.length (bytesOf sightings)
            (stuck (stagingRun limits calls).staged.rows
              (I64.saturatingSub receivedAtMs limits.maxAgeMs) (ownSubjects principalId sightings))
          ∧ (stagingRun limits calls).staged.lastId + sightings.length ≤ maxRowId := by
  have hnonneg := bytesOf_nonneg sightings
  have hreached := stagingRun_reached ho (by omega) (by omega) calls
  have hsized := hreached.bounded.sized
  have hbatch : batchBytes sightings = .ok (bytesOf sightings) := by
    rw [batchBytes_eq, if_pos (hbytes.trans (ho.bytes.1.trans (ho.bytes.2.trans hrange)))]
  constructor
  · rintro ⟨admission, c, hc⟩
    obtain ⟨hempty, -⟩ | ⟨kept, new, hstaged, hrows', hlast⟩ := stageSightingsAt_sure.result hc
    · exact .inl hempty
    · have hkept : Sized kept := fun r hr => hsized r (hstaged.cleared.sublist.subset hr)
      exact .inr ⟨hstaged.room.sublist hkept hstaged.cleared.stuck, hlast ▸ c.db.staged.room⟩
  · intro hfits
    rcases hc : stageSightingsAt principalId receivedAtMs sightings limits
      { db := stagingRun limits calls } with ⟨e | admission, c⟩
    · exfalso
      have hrefused := stageSightingsAt_sure.error hc
      rcases hrefused with hnot | ⟨hne, hinherited | hcrammed | hkeys⟩
      · exact hnot ⟨hrows, hbytes, hrows.trans ho.rows.1, hbytes.trans ho.bytes.1, _, hbatch⟩
      · exact hinherited (by rw [inheritedOf_unpinned hunpinned]; rfl)
      · exact hcrammed hsized (hfits.resolve_left hne).1
      · exact hkeys.not_ge (hfits.resolve_left hne).2
    · exact ⟨admission, c, rfl⟩

instance (rowLimit byteLimit stagedRows stagedBytes : ℤ) (h : StagingHealth) :
    Decidable (Over rowLimit byteLimit stagedRows stagedBytes h) :=
  inferInstanceAs (Decidable (_ ∨ _))

theorem new_subject_admitted : ∃ admission c,
    stageSightingsAt "dev_1" 0 [⟨"b", "1"⟩] smallLimits.toStagingBounds
      { db := stagingRun smallLimits.toStagingBounds (List.replicate 4 (sighted "a")) }
      = (.ok admission, c) :=
  (stage_admitted_iff smallLimits.toStagingBounds ⟨by decide, by decide⟩ (by decide)
    (List.replicate 4 (sighted "a")) "dev_1" 0 [⟨"b", "1"⟩] (by decide) (by decide +kernel)
    (by decide +kernel)).2 (.inr ⟨⟨by decide +kernel, by decide +kernel⟩, by decide +kernel⟩)

/-- A subject that fills its principal's share keeps itself out: one more sighting of it, within the
reserve and not pinned, is refused. -/
theorem own_rows_keep_batch_out :
    (∀ s ∈ [(⟨"a", "1"⟩ : StagedSighting)], isPinned (stagingRun smallLimits.toStagingBounds
        (List.replicate 4 (sighted "a"))).staged.rows ("dev_1", s.hardwareId) = false)
      ∧ (([⟨"a", "1"⟩] : List StagedSighting).length : ℤ) ≤ smallLimits.reserveRows
      ∧ bytesOf [⟨"a", "1"⟩] ≤ smallLimits.reserveBytes
      ∧ (stageSightingsAt "dev_1" 0 [⟨"a", "1"⟩] smallLimits.toStagingBounds
          { db := stagingRun smallLimits.toStagingBounds (List.replicate 4 (sighted "a")) }).1
        = .error (.limit "staging capacity is protected by pin reserve") := by
  refine ⟨by decide +kernel, by decide, by decide +kernel, ?_⟩
  rfl

end Staging

end EdgeNode
