import EdgeNode.Collector.Staging

/-!
# What staging a batch leaves behind

A batch that is admitted leaves a part of the rows that were there, and after them one row for each
of its sightings. It is refused for lack of room exactly when it does not fit beside what can never
make room: the rows of pinned subjects and the young rows of its own subjects.
-/

namespace EdgeNode

open Tx

namespace Staging

variable {principalId : String} {receivedAtMs cutoff : ℤ} {sightings : List StagedSighting}
  {limits : StagingBounds} {db : StagingDb} {n : ℕ} {rows rows' before : List (ℕ × StagedRow)}
  {own : List StagingSubject} {stagedRows stagedBytes : ℤ}

/-! ## Sums over rows -/

theorem totalBytes_append (l m : List (ℕ × StagedRow)) :
    totalBytes (l ++ m) = totalBytes l + totalBytes m := by
  simp [totalBytes]

/-- `CHECK(payload_bytes >= 0)`. -/
def Sized (rows : List (ℕ × StagedRow)) : Prop := ∀ r ∈ rows, 0 ≤ r.2.payloadBytes

theorem totalBytes_le_of_sublist (h : rows'.Sublist rows) (hs : Sized rows) :
    totalBytes rows' ≤ totalBytes rows := by
  refine (h.map _).sum_le_sum fun b hb => ?_
  obtain ⟨r, hr, rfl⟩ := List.mem_map.1 hb
  exact hs r hr

structure AtMost (h h' : StagingHealth) : Prop where
  rows : h.rows ≤ h'.rows
  bytes : h.bytes ≤ h'.bytes
  pinnedRows : h.pinnedRows ≤ h'.pinnedRows
  pinnedBytes : h.pinnedBytes ≤ h'.pinnedBytes

theorem health_atMost (h : rows'.Sublist rows) (hs : Sized rows) :
    AtMost (health rows') (health rows) where
  rows := by simpa [health] using h.length_le
  bytes := totalBytes_le_of_sublist h hs
  pinnedRows := by simpa [health] using (h.filter _).length_le
  pinnedBytes := totalBytes_le_of_sublist (h.filter _) fun r hr => hs r (List.mem_of_mem_filter hr)

def ofPrincipal (rows : List (ℕ × StagedRow)) (principalId : String) : List (ℕ × StagedRow) :=
  rows.filter fun r => r.2.principalId == principalId

theorem Sized.ofPrincipal (hs : Sized rows) (principalId : String) :
    Sized (ofPrincipal rows principalId) := fun r hr => hs r (List.mem_of_mem_filter hr)

theorem principalTotals_all : principalTotals principalId false
    = query .sqlite fun db => ((health (ofPrincipal db.staged.rows principalId)).rows,
      (health (ofPrincipal db.staged.rows principalId)).bytes) := by
  simp [principalTotals, health, ofPrincipal]

theorem principalTotals_pinned : principalTotals principalId true
    = query .sqlite fun db => ((health (ofPrincipal db.staged.rows principalId)).pinnedRows,
      (health (ofPrincipal db.staged.rows principalId)).pinnedBytes) := by
  simp [principalTotals, health, ofPrincipal, List.filter_filter, Bool.and_comm]

/-! ## Room -/

def Over (rowLimit byteLimit stagedRows stagedBytes : ℤ) (h : StagingHealth) : Prop :=
  rowLimit < I64.saturatingAdd h.rows stagedRows ∨ byteLimit < I64.saturatingAdd h.bytes stagedBytes

theorem Over.mono {rowLimit byteLimit : ℤ} {h h' : StagingHealth} (hle : AtMost h h')
    (ho : Over rowLimit byteLimit stagedRows stagedBytes h) :
    Over rowLimit byteLimit stagedRows stagedBytes h' := by
  have := hle.rows
  have := hle.bytes
  exact ho.imp (fun hr => hr.trans_le (I64.saturate_mono (by omega)))
    fun hb => hb.trans_le (I64.saturate_mono (by omega))

structure Room (limits : StagingBounds) (principalId : String) (stagedRows stagedBytes : ℤ)
    (rows : List (ℕ × StagedRow)) : Prop where
  principal : ¬ Over limits.principalRows limits.principalBytes stagedRows stagedBytes
    (health (ofPrincipal rows principalId))
  all : ¬ Over limits.globalRows limits.globalBytes stagedRows stagedBytes (health rows)

theorem Room.sublist (h : Room limits principalId stagedRows stagedBytes rows)
    (hs : Sized rows) (hsub : rows'.Sublist rows) :
    Room limits principalId stagedRows stagedBytes rows' where
  principal ho := h.principal (ho.mono (health_atMost (hsub.filter _) (hs.ofPrincipal _)))
  all ho := h.all (ho.mono (health_atMost hsub hs))

structure PinRoom (limits : StagingBounds) (principalId : String) (addedRows addedBytes : ℤ)
    (rows : List (ℕ × StagedRow)) : Prop where
  principalRows : I64.saturatingAdd (health (ofPrincipal rows principalId)).pinnedRows addedRows
    ≤ limits.principalRows - limits.reserveRows
  principalBytes : I64.saturatingAdd (health (ofPrincipal rows principalId)).pinnedBytes addedBytes
    ≤ limits.principalBytes - limits.reserveBytes
  allRows : I64.saturatingAdd (health rows).pinnedRows addedRows
    ≤ limits.globalRows - limits.reserveRows
  allBytes : I64.saturatingAdd (health rows).pinnedBytes addedBytes
    ≤ limits.globalBytes - limits.reserveBytes

theorem checkPinCapacity_sure {message : String} {addedRows addedBytes : ℤ} :
    sure (checkPinCapacity message principalId addedRows addedBytes limits)
      (fun _ db' _ => db' = db ∧ PinRoom limits principalId addedRows addedBytes db.staged.rows)
      (fun e _ _ => e = .limit message) db n := by
  unfold checkPinCapacity
  rw [principalTotals_pinned]
  refine sure_bind (sure_query (sure_bind (sure_query ?_)))
  dsimp only
  split_ifs with hover
  · exact sure_fail rfl
  · simp only [not_or, not_lt] at hover
    exact sure_pure ⟨rfl, hover.2.1, hover.2.2.2, hover.1, hover.2.2.1⟩

theorem validateInheritedPinCapacity_sure :
    sure (validateInheritedPinCapacity principalId stagedRows stagedBytes limits)
      (fun _ db' _ => db' = db ∧ (stagedRows = 0
        ∨ PinRoom limits principalId stagedRows stagedBytes db.staged.rows))
      (fun _ _ _ => stagedRows ≠ 0) db n := by
  unfold validateInheritedPinCapacity
  split_ifs with hnone
  · exact sure_pure ⟨rfl, .inl hnone⟩
  · exact sure_mono checkPinCapacity_sure (fun _ _ _ h => ⟨h.1, .inr h.2⟩) fun _ _ _ _ => hnone

/-! ## Making room -/

/-- The rows that can never make room for a batch of the subjects `own`. -/
def stuck (before : List (ℕ × StagedRow)) (cutoff : ℤ) (own : List StagingSubject) :
    List (ℕ × StagedRow) :=
  before.filter fun r =>
    isPinned before r.2.subject || (own.contains r.2.subject && decide (cutoff ≤ r.2.receivedAt))

structure Cleared (before : List (ℕ × StagedRow)) (cutoff : ℤ) (own : List StagingSubject)
    (rows : List (ℕ × StagedRow)) : Prop where
  young : rows.Sublist (before.filter fun r => !isExpired before cutoff r)
  stuck : (stuck before cutoff own).Sublist rows

theorem Cleared.sublist (h : Cleared before cutoff own rows) : rows.Sublist before :=
  h.young.trans List.filter_sublist

theorem isPinned_of_mem {r : ℕ × StagedRow} (hr : r ∈ rows) (hp : r.2.pinned) :
    isPinned rows r.2.subject :=
  List.any_eq_true.2 ⟨r, hr, by simp [hp]⟩

theorem Cleared.pinned_mem (h : Cleared before cutoff own rows) {r : ℕ × StagedRow}
    (hr : r ∈ before) (hp : isPinned before r.2.subject) : r ∈ rows :=
  h.stuck.subset (List.mem_filter.2 ⟨hr, by simp [hp]⟩)

theorem Cleared.isPinned_eq (h : Cleared before cutoff own rows) (s : StagingSubject) :
    isPinned rows s = isPinned before s := by
  rw [Bool.eq_iff_iff]
  constructor <;> intro hp <;> obtain ⟨r, hr, hs⟩ := List.any_eq_true.1 hp
  · exact List.any_eq_true.2 ⟨r, h.sublist.subset hr, hs⟩
  · rw [Bool.and_eq_true, beq_iff_eq] at hs
    exact List.any_eq_true.2 ⟨r, h.pinned_mem hr (isPinned_of_mem hr hs.2), by simp [hs]⟩

theorem cleared_expired :
    Cleared before cutoff own (before.filter fun r => !isExpired before cutoff r) where
  young := .refl _
  stuck := by
    refine List.monotone_filter_right before fun r => ?_
    simp only [isExpired, Bool.or_eq_true, Bool.and_eq_true, decide_eq_true_eq,
      Bool.not_and, Bool.not_not, Bool.not_eq_true', decide_eq_false_iff_not, not_lt]
    tauto

theorem oldestEvictable_mem {principal : Option String} {victim : StagingSubject}
    (h : oldestEvictable rows principal own = some victim) :
    (∃ r ∈ rows, r.2.subject = victim) ∧ isPinned rows victim = false
      ∧ own.contains victim = false := by
  obtain ⟨hmem, hp⟩ := List.mem_filter.1 (firstBy_mem h)
  simp only [Bool.and_eq_true, Bool.not_eq_true'] at hp
  exact ⟨by simpa [subjects] using hmem, hp.1.2, hp.2⟩

theorem oldestEvictable_none {principal : Option String}
    (h : oldestEvictable rows principal own = none) {r : ℕ × StagedRow} (hr : r ∈ rows)
    (hp : principal.all fun p => r.2.subject.1 == p) :
    isPinned rows r.2.subject ∨ own.contains r.2.subject := by
  have hempty := firstBy_eq_none.1 h
  have hs : r.2.subject ∈ subjects rows :=
    List.mem_dedup.2 (List.mem_map_of_mem (f := fun r : ℕ × StagedRow => r.2.subject) hr)
  have hnot := List.filter_eq_nil_iff.1 hempty _ hs
  rw [hp] at hnot
  cases hpin : isPinned rows r.2.subject
  · simpa [hpin] using hnot
  · exact .inl rfl

theorem Cleared.evict (h : Cleared before cutoff own rows) {principal : Option String}
    {victim : StagingSubject} (hv : oldestEvictable rows principal own = some victim) :
    Cleared before cutoff own (rows.filter fun r => !(r.2.subject == victim)) where
  young := List.filter_sublist.trans h.young
  stuck := by
    obtain ⟨-, hpin, hown⟩ := oldestEvictable_mem hv
    have hkeep : (Staging.stuck before cutoff own).filter (fun r => !(r.2.subject == victim))
        = Staging.stuck before cutoff own := by
      refine List.filter_eq_self.2 fun r hr => ?_
      obtain ⟨-, hr⟩ := List.mem_filter.1 hr
      by_contra hvictim
      obtain rfl : r.2.subject = victim := by simpa using hvictim
      rw [← h.isPinned_eq, hpin, hown] at hr
      simp at hr
    exact hkeep ▸ h.stuck.filter _

theorem Cleared.none_evictable (h : Cleared before cutoff own rows) {principal : Option String}
    (hv : oldestEvictable rows principal own = none) {p : ℕ × StagedRow → Bool}
    (hp : ∀ r, p r → principal.all fun q => r.2.subject.1 == q) :
    (rows.filter p).Sublist ((Staging.stuck before cutoff own).filter p) := by
  have hall : ∀ r ∈ rows.filter p, (isPinned before r.2.subject
      || (own.contains r.2.subject && decide (cutoff ≤ r.2.receivedAt))) = true := by
    intro r hr
    obtain ⟨hr, hpr⟩ := List.mem_filter.1 hr
    have hyoung := (List.mem_filter.1 (h.young.subset hr)).2
    have hstuck := oldestEvictable_none hv hr (hp r hpr)
    rw [h.isPinned_eq] at hstuck
    simp only [isExpired, Bool.not_and, Bool.not_not, Bool.or_eq_true, Bool.not_eq_true',
      decide_eq_false_iff_not, not_lt] at hyoung
    simp only [Bool.or_eq_true, Bool.and_eq_true, decide_eq_true_eq]
    tauto
  rw [← List.filter_eq_self.2 hall]
  unfold Staging.stuck
  rw [List.filter_comm]
  exact (h.sublist.filter _).filter _

theorem deleteWhere_shrinks {t : AutoTable StagedRow} {victim : StagingSubject}
    (h : ∃ r ∈ t.rows, r.2.subject = victim) :
    (t.deleteWhere fun r => r.2.subject == victim).rows.length < t.rows.length := by
  obtain ⟨r, hr, hs⟩ := h
  exact List.length_filter_lt_length_iff_exists.2 ⟨r, hr, by simp [hs]⟩

def Crammed (limits : StagingBounds) (principalId : String) (stagedRows stagedBytes : ℤ)
    (before : List (ℕ × StagedRow)) (cutoff : ℤ) (own : List StagingSubject) : Prop :=
  Sized before → ¬ Room limits principalId stagedRows stagedBytes (stuck before cutoff own)

theorem evict_cases {removed : List StagingSubject} :
    sure (evict principalId stagedRows stagedBytes own limits removed)
      (fun r db' _ => r.elim
        (fun _ => ∃ principal victim, oldestEvictable db.staged.rows principal own = some victim
          ∧ db'.staged = db.staged.deleteWhere fun r => r.2.subject == victim)
        fun _ => db' = db ∧ Room limits principalId stagedRows stagedBytes db.staged.rows)
      (fun _ _ _ =>
        Over limits.principalRows limits.principalBytes stagedRows stagedBytes
            (health (ofPrincipal db.staged.rows principalId))
          ∧ oldestEvictable db.staged.rows (some principalId) own = none
        ∨ Over limits.globalRows limits.globalBytes stagedRows stagedBytes (health db.staged.rows)
          ∧ oldestEvictable db.staged.rows none own = none) db n := by
  unfold evict
  rw [principalTotals_all]
  refine sure_bind (sure_query (sure_bind (sure_query ?_)))
  dsimp only
  split
  · rename_i hroom
    exact sure_pure ⟨rfl, hroom.1, hroom.2⟩
  · rename_i hover
    refine sure_bind (sure_query ?_)
    split
    · rename_i hnone
      refine sure_fail ?_
      split_ifs at hnone with hprincipal
      · exact .inl ⟨hprincipal, hnone⟩
      · exact .inr ⟨by_contra fun hglobal => hover ⟨hprincipal, hglobal⟩, hnone⟩
    · rename_i victim hvictim
      exact sure_bind (sure_exec (sure_pure ⟨_, victim, hvictim, rfl⟩))

theorem evict_sure {removed : List StagingSubject}
    (h : Cleared before cutoff own db.staged.rows) :
    sure (evict principalId stagedRows stagedBytes own limits removed)
      (fun r db' _ => db'.staged.lastId = db.staged.lastId
        ∧ Cleared before cutoff own db'.staged.rows ∧ r.elim
          (fun _ => db'.staged.rows.length < db.staged.rows.length)
          fun _ => Room limits principalId stagedRows stagedBytes db'.staged.rows)
      (fun _ _ _ => Crammed limits principalId stagedRows stagedBytes before cutoff own) db n := by
  refine sure_mono evict_cases (fun r db' _ hr => ?_) fun _ _ _ hr hs hroom => ?_
  · cases r with
    | inl removed =>
      obtain ⟨principal, victim, hvictim, hstaged⟩ := hr
      rw [hstaged]
      exact ⟨rfl, h.evict hvictim, deleteWhere_shrinks (oldestEvictable_mem hvictim).1⟩
    | inr removed =>
      obtain ⟨rfl, hroom⟩ := hr
      exact ⟨rfl, h, hroom⟩
  · have hstuck : Sized (stuck before cutoff own) := fun r hr => hs r (List.mem_of_mem_filter hr)
    rcases hr with ⟨hover, hnone⟩ | ⟨hover, hnone⟩
    · refine hroom.principal (hover.mono (health_atMost ?_ (hstuck.ofPrincipal _)))
      exact h.none_evictable hnone fun r hr => hr
    · refine hroom.all (hover.mono (health_atMost ?_ hstuck))
      have hall := h.none_evictable hnone (p := fun _ => true) fun _ _ => rfl
      rwa [List.filter_true, List.filter_true] at hall

/-! ## The inserts -/

def RowOf (principalId : String) (receivedAtMs : ℤ) (sighting : StagedSighting)
    (row : ℕ × StagedRow) : Prop :=
  ∃ pinned, row.2 = stagedRow principalId receivedAtMs sighting pinned

theorem subjectPins_sure :
    sure (Tx.traverse (fun s : StagedSighting =>
        query .sqlite fun db : StagingDb => isPinned db.staged.rows (principalId, s.hardwareId))
        sightings)
      (fun pins db' _ => db' = db
        ∧ pins = sightings.map fun s => isPinned db.staged.rows (principalId, s.hardwareId))
      (fun (_ : TimeseriesError) _ _ => False) db n := by
  refine sure_imp (sure_traverse_results
    (I := fun pins rest db' _ => db' = db ∧ pins ++ rest.map (fun s =>
        isPinned db.staged.rows (principalId, s.hardwareId))
      = sightings.map fun s => isPinned db.staged.rows (principalId, s.hardwareId))
    (fun pins s rest db' n' h => sure_query ⟨h.1, ?_⟩) [] ⟨rfl, rfl⟩) fun pins db' _ h => ?_
  · obtain ⟨rfl, h⟩ := h
    simpa using h
  · simpa using h

theorem insertStaged_sure {row : StagedRow} :
    sure (insertStaged row)
      (fun _ db' _ => ∃ id, db'.staged.rows = db.staged.rows ++ [(id, row)]
        ∧ db'.staged.lastId = db.staged.lastId + 1 ∧ db.staged.lastId < maxRowId)
      (fun _ db' _ => db' = db ∧ maxRowId ≤ db.staged.lastId) db n := by
  refine sure_stmt (fun _ db' h => ?_) fun _ h => ?_ <;> split at h
  · rename_i staged hinsert
    simp only [Except.ok.injEq, Prod.mk.injEq, true_and] at h
    subst h
    obtain ⟨hrows, hlast, -, hroom⟩ := AutoTable.insert_eq_some hinsert
    exact ⟨_, hrows, hlast, hroom⟩
  · simp at h
  · simp at h
  · rename_i hnone
    exact ⟨rfl, AutoTable.insert_eq_none.1 hnone⟩

def batchRows (principalId : String) (receivedAtMs : ℤ) (batch : List (StagedSighting × Bool)) :
    List StagedRow :=
  batch.map fun s => stagedRow principalId receivedAtMs s.1 s.2

theorem insertAll_sure {batch : List (StagedSighting × Bool)} :
    sure (Tx.forEach (fun s : StagedSighting × Bool =>
        insertStaged (stagedRow principalId receivedAtMs s.1 s.2)) batch)
      (fun _ db' _ => ∃ new, db'.staged.rows = db.staged.rows ++ new
        ∧ new.map Prod.snd = batchRows principalId receivedAtMs batch
        ∧ db'.staged.lastId = db.staged.lastId + batch.length)
      (fun _ _ _ => maxRowId < db.staged.lastId + batch.length) db n := by
  refine sure_imp (sure_forEach
    (I := fun rest db' _ => ∃ done new, batch = done ++ rest
      ∧ db'.staged.rows = db.staged.rows ++ new
      ∧ new.map Prod.snd = batchRows principalId receivedAtMs done
      ∧ db'.staged.lastId = db.staged.lastId + done.length)
    (fun s rest db' n' h => ?_) ⟨[], [], rfl, by simp, rfl, rfl⟩) fun _ db' _ h => ?_
  · obtain ⟨done, new, rfl, hrows, hnew, hlast⟩ := h
    refine sure_mono insertStaged_sure (fun _ db'' _ h => ?_) fun _ _ _ h => ?_
    · obtain ⟨id, hid, hlast', -⟩ := h
      refine ⟨done ++ [s], new ++ [(id, _)], by simp, by rw [hid, hrows, List.append_assoc], ?_, ?_⟩
      · simp [hnew, batchRows]
      · rw [hlast', hlast, List.length_append, List.length_singleton]
        omega
    · have := h.2
      rw [List.length_append, List.length_cons]
      omega
  · obtain ⟨done, new, hdone, hrows, hnew, hlast⟩ := h
    rw [List.append_nil] at hdone
    subst hdone
    exact ⟨new, hrows, hnew, hlast⟩

theorem deleteSightingIfUnstaged_sure {subject : StagingSubject} :
    sure (deleteSightingIfUnstaged subject) (fun _ db' _ => db'.staged = db.staged)
      (fun _ _ _ => False) db n := by
  unfold deleteSightingIfUnstaged
  split_ifs
  · exact sure_pure rfl
  · refine sure_exec ?_
    split_ifs <;> rfl

/-! ## One batch -/

def pinsOf (rows : List (ℕ × StagedRow)) (principalId : String) (sightings : List StagedSighting) :
    List Bool :=
  sightings.map fun s => isPinned rows (principalId, s.hardwareId)

def inheritedOf (rows : List (ℕ × StagedRow)) (principalId : String)
    (sightings : List StagedSighting) : List StagedSighting :=
  ((sightings.zip (pinsOf rows principalId sightings)).filter Prod.snd).map Prod.fst

def bytesOf (sightings : List StagedSighting) : ℤ :=
  (sightings.map fun s => (s.payloadJson.utf8ByteSize : ℤ)).sum

def ownSubjects (principalId : String) (sightings : List StagedSighting) : List StagingSubject :=
  sightings.map fun s => (principalId, s.hardwareId)

theorem bytesOf_nonneg (sightings : List StagedSighting) : 0 ≤ bytesOf sightings :=
  List.sum_nonneg fun b hb => by
    obtain ⟨s, -, rfl⟩ := List.mem_map.1 hb
    exact Int.natCast_nonneg _

/-- Costs are not negative, so that a sum fits if the whole does. -/
theorem foldlM_cost : ∀ (l : List StagedSighting) (total : ℤ), 0 ≤ total → total ≤ I64.maxValue →
    l.foldlM (fun total s => match I64.checkedAdd total s.payloadJson.utf8ByteSize with
        | some total => .ok total
        | none => .error (.limit "staging envelope byte cost overflowed")) total
      = if total + bytesOf l ≤ I64.maxValue then .ok (total + bytesOf l)
        else (.error (.limit "staging envelope byte cost overflowed") : Except TimeseriesError ℤ)
  | [], total, _, hmax => by simp [bytesOf, pure, Except.pure, hmax]
  | s :: l, total, htotal, hmax => by
    have hcons : bytesOf (s :: l) = s.payloadJson.utf8ByteSize + bytesOf l := rfl
    have hrest := bytesOf_nonneg l
    have hmin : I64.minValue ≤ 0 := by decide
    rw [List.foldlM_cons, hcons, ← add_assoc]
    unfold I64.checkedAdd I64.checked
    by_cases hfits : total + s.payloadJson.utf8ByteSize ≤ I64.maxValue
    · rw [if_pos ⟨by omega, hfits⟩]
      exact foldlM_cost l _ (by omega) hfits
    · rw [if_neg fun h => hfits h.2, if_neg (by omega)]
      rfl

theorem batchBytes_eq : batchBytes sightings
    = if bytesOf sightings ≤ I64.maxValue then .ok (bytesOf sightings)
      else .error (.limit "staging envelope byte cost overflowed") := by
  have h := foldlM_cost sightings 0 le_rfl (by decide)
  rwa [zero_add] at h

structure Staged (limits : StagingBounds) (principalId : String) (receivedAtMs : ℤ)
    (sightings : List StagedSighting) (before : List (ℕ × StagedRow))
    (kept new : List (ℕ × StagedRow)) : Prop where
  cleared : Cleared before (I64.saturatingSub receivedAtMs limits.maxAgeMs)
    (ownSubjects principalId sightings) kept
  room : Room limits principalId sightings.length (bytesOf sightings) kept
  pins : (inheritedOf before principalId sightings).length = 0
    ∨ PinRoom limits principalId (inheritedOf before principalId sightings).length
      (bytesOf (inheritedOf before principalId sightings)) before
  rows : new.map Prod.snd
    = batchRows principalId receivedAtMs (sightings.zip (pinsOf before principalId sightings))

def Done (limits : StagingBounds) (principalId : String) (receivedAtMs : ℤ)
    (sightings : List StagedSighting) (before after : AutoTable StagedRow) : Prop :=
  sightings = [] ∧ after = before
    ∨ ∃ kept new, Staged limits principalId receivedAtMs sightings before.rows kept new
      ∧ after.rows = kept ++ new ∧ after.lastId = before.lastId + sightings.length

/-- Within the reserve, and so not refused before the rows are looked at. -/
def Conforming (limits : StagingBounds) (sightings : List StagedSighting) : Prop :=
  (sightings.length : ℤ) ≤ limits.reserveRows ∧ bytesOf sightings ≤ limits.reserveBytes
    ∧ (sightings.length : ℤ) ≤ limits.principalRows ∧ bytesOf sightings ≤ limits.principalBytes
    ∧ ∃ b, batchBytes sightings = .ok b

def Refused (limits : StagingBounds) (principalId : String) (receivedAtMs : ℤ)
    (sightings : List StagedSighting) (staged : AutoTable StagedRow) : Prop :=
  ¬ Conforming limits sightings ∨ sightings ≠ []
    ∧ ((inheritedOf staged.rows principalId sightings).length ≠ 0
      ∨ Crammed limits principalId sightings.length (bytesOf sightings) staged.rows
        (I64.saturatingSub receivedAtMs limits.maxAgeMs) (ownSubjects principalId sightings)
      ∨ maxRowId < staged.lastId + sightings.length)

theorem stageSightingsAt_sure :
    sure (stageSightingsAt principalId receivedAtMs sightings limits)
      (fun _ db' _ => Done limits principalId receivedAtMs sightings db.staged db'.staged)
      (fun _ _ _ => Refused limits principalId receivedAtMs sightings db.staged) db n := by
  unfold stageSightingsAt
  refine sure_bind (sure_ofExcept (fun stagedBytes hbytes => ?_) fun e he => .inl ?_)
  swap
  · rintro ⟨-, -, -, -, b, hb⟩
    simp [he] at hb
  obtain rfl : stagedBytes = bytesOf sightings := by
    rw [batchBytes_eq] at hbytes
    split_ifs at hbytes
    exact (Except.ok.inj hbytes).symm
  split_ifs with hlarge hempty
  · refine sure_fail (.inl fun hc => ?_)
    obtain ⟨h₁, h₂, h₃, h₄, -⟩ := hc
    omega
  · exact sure_pure (.inl ⟨List.isEmpty_iff.1 hempty, rfl⟩)
  · have hne : sightings ≠ [] := fun h => hempty (by simp [h])
    refine sure_bind (sure_mono subjectPins_sure (fun pins db₁ _ h₁ => ?_) fun _ _ _ h => h.elim)
    obtain ⟨rfl, rfl⟩ := h₁
    refine sure_bind (sure_mono validateInheritedPinCapacity_sure (fun _ db₂ _ h₂ => ?_)
      fun _ _ _ h => .inr ⟨hne, .inl (by exact_mod_cast h)⟩)
    obtain ⟨rfl, hpins⟩ := h₂
    refine sure_bind (sure_query (sure_bind (sure_exec (sure_bind (sure_contents ?_)))))
    refine sure_bind (sure_mono (sure_repeatUntil (μ := fun db => db.staged.rows.length)
      (I := fun _ db' _ => db'.staged.lastId = db₂.staged.lastId
        ∧ Cleared db₂.staged.rows (I64.saturatingSub receivedAtMs limits.maxAgeMs)
          (ownSubjects principalId sightings) db'.staged.rows)
      (Q := fun _ db' _ => db'.staged.lastId = db₂.staged.lastId
        ∧ Cleared db₂.staged.rows (I64.saturatingSub receivedAtMs limits.maxAgeMs)
          (ownSubjects principalId sightings) db'.staged.rows
        ∧ Room limits principalId sightings.length (bytesOf sightings) db'.staged.rows)
      (fun _ db' _ h => sure_imp (evict_sure h.2) fun r db'' _ h' => ?_)
      ⟨rfl, cleared_expired⟩ (Nat.lt_succ_self _)) (fun removed db₃ _ h₃ => ?_)
      fun _ _ _ h => .inr ⟨hne, .inr (.inl h)⟩)
    · have hlast := h'.1.trans h.1
      cases r with
      | inl removed => exact ⟨⟨hlast, h'.2.1⟩, h'.2.2⟩
      | inr removed => exact ⟨hlast, h'.2.1, h'.2.2⟩
    obtain ⟨hlast, hcleared, hroom⟩ := h₃
    have hlen : (sightings.zip (pinsOf db₂.staged.rows principalId sightings)).length
        = sightings.length := by simp [pinsOf]
    refine sure_bind (sure_mono insertAll_sure (fun _ db₄ _ h₄ => ?_) fun _ _ _ h =>
      .inr ⟨hne, .inr (.inr (by rw [hlast] at h; exact hlen ▸ h))⟩)
    obtain ⟨new, hrows, hnew, hlast'⟩ := h₄
    refine sure_bind (sure_mono (sure_forEach (I := fun _ db' _ => db'.staged = db₄.staged)
      (fun s _ db' _ h => sure_imp deleteSightingIfUnstaged_sure fun _ _ _ h' => h'.trans h) rfl)
      (fun _ db₅ _ h₅ => sure_pure (.inr ⟨db₃.staged.rows, new, ⟨hcleared, hroom, ?_, hnew⟩, ?_, ?_⟩))
      fun _ _ _ h => h.elim)
    · exact hpins.imp_left fun h => by exact_mod_cast h
    · rw [h₅, hrows]
    · rw [h₅, hlast', hlast]
      exact congrArg _ hlen

def Admitted (principalId : String) (receivedAtMs : ℤ) (sightings : List StagedSighting)
    (before after : List (ℕ × StagedRow)) : Prop :=
  ∃ kept new, kept.Sublist before ∧ after = kept ++ new
    ∧ List.Forall₂ (RowOf principalId receivedAtMs) sightings new

theorem rowsOf_batchRows {pins : List Bool} (hpins : pins.length = sightings.length)
    {new : List (ℕ × StagedRow)}
    (h : new.map Prod.snd = batchRows principalId receivedAtMs (sightings.zip pins)) :
    List.Forall₂ (RowOf principalId receivedAtMs) sightings new := by
  have hrow : ∀ s : StagedSighting × Bool, ∀ r : ℕ × StagedRow,
      r.2 = stagedRow principalId receivedAtMs s.1 s.2 → RowOf principalId receivedAtMs s.1 r :=
    fun s r hr => ⟨s.2, hr⟩
  have hall : List.Forall₂ (fun (s : StagedSighting × Bool) (r : ℕ × StagedRow) =>
      RowOf principalId receivedAtMs s.1 r) (sightings.zip pins) new := by
    have heq : List.Forall₂ Eq (new.map Prod.snd)
        (batchRows principalId receivedAtMs (sightings.zip pins)) := List.forall₂_eq_eq_eq ▸ h
    unfold batchRows at heq
    rw [List.forall₂_map_left_iff, List.forall₂_map_right_iff] at heq
    exact heq.flip.imp fun s r hr => hrow s r hr
  have hfst : (sightings.zip pins).map Prod.fst = sightings := List.map_fst_zip (by omega)
  rw [← hfst, List.forall₂_map_left_iff]
  exact hall

theorem stageSightingsAt_wp :
    wp (stageSightingsAt principalId receivedAtMs sightings limits)
      (fun _ db' _ => Admitted principalId receivedAtMs sightings db.staged.rows db'.staged.rows)
      (fun _ _ _ => True) db n := by
  refine wp_imp stageSightingsAt_sure.wp fun _ db' _ h => ?_
  obtain ⟨rfl, hsame⟩ | ⟨kept, new, hstaged, hrows, -⟩ := h
  · exact ⟨db.staged.rows, [], .refl _, by simp [hsame], .nil⟩
  · exact ⟨kept, new, hstaged.cleared.sublist, hrows,
      rowsOf_batchRows (by simp [pinsOf]) hstaged.rows⟩

end Staging

end EdgeNode
