import EdgeNode.Collector.Sightings
import EdgeNode.Proofs.Envelope

/-!
# What is staged has been sighted

A staged row is inserted before its sighting is noted, in one transaction, and a sighting is only
deleted by a statement that finds no staged row of its hardware. So every staged row has a sighting
of its hardware.
-/

namespace EdgeNode

open Tx

variable {ρ : Type} {db : StagingDb} {pending : List String} {n : ℕ}

/-- Every staged row has a sighting of its hardware, or is of hardware that is still to be noted. -/
def SightedBut (pending : List String) (db : StagingDb) : Prop :=
  ∀ r ∈ db.staged.rows, r.2.hardwareId ∈ pending ∨ (db.sightings.lookup r.2.hardwareId).isSome

def Sighted (db : StagingDb) : Prop :=
  ∀ r ∈ db.staged.rows, (db.sightings.lookup r.2.hardwareId).isSome

theorem sightedBut_nil : SightedBut [] db ↔ Sighted db := by
  simp [SightedBut, Sighted]

theorem SightedBut.deleteWhere (h : SightedBut pending db) (p : ℕ × StagedRow → Bool) :
    SightedBut pending { db with staged := db.staged.deleteWhere p } :=
  fun r hr => h r (List.mem_of_mem_filter hr)

namespace Staging

variable {principalId : String} {stagedRows stagedBytes : ℤ} {own removed : List StagingSubject}
  {limits : StagingBounds} {row : StagedRow} {subject : StagingSubject}

theorem evict_sighted (h : SightedBut pending db) :
    wp (evict principalId stagedRows stagedBytes own limits removed)
      (fun r db' _ => SightedBut pending db'
        ∧ r.elim (fun _ => db'.staged.rows.length < db.staged.rows.length) fun _ => True)
      (fun _ _ _ => True) db n := by
  unfold evict
  refine wp_bind (wp_query trivial (wp_bind (wp_query trivial ?_)))
  dsimp only
  split
  · exact wp_pure ⟨h, trivial⟩
  · refine wp_bind (wp_query trivial ?_)
    split
    · exact wp_fail trivial
    · rename_i victim hvictim
      exact wp_bind (wp_exec trivial (wp_pure
        ⟨h.deleteWhere _, deleteWhere_shrinks (oldestEvictable_mem hvictim).1⟩))

theorem insertStaged_sighted (h : SightedBut pending db) (hrow : row.hardwareId ∈ pending) :
    wp (insertStaged row) (fun _ db' _ => SightedBut pending db') (fun _ _ _ => True) db n := by
  refine wp_stmt trivial (fun _ db' hinsert => ?_) fun _ _ => trivial
  split at hinsert
  · rename_i staged hstaged
    obtain ⟨-, rfl⟩ := Prod.mk.inj (Except.ok.inj hinsert)
    intro r hr
    rw [(AutoTable.insert_eq_some hstaged).1] at hr
    rcases List.mem_append.1 hr with hr | hr
    · exact h r hr
    · rw [List.mem_singleton.1 hr]
      exact .inl hrow
  · exact absurd hinsert (by simp)

theorem deleteSightingIfUnstaged_sighted (h : SightedBut pending db) :
    wp (deleteSightingIfUnstaged subject) (fun _ db' _ => SightedBut pending db') (fun _ _ _ => True)
      db n := by
  unfold deleteSightingIfUnstaged
  split_ifs
  · exact wp_pure h
  · refine wp_exec trivial ?_
    split_ifs with hgone
    · intro r hr
      have hother : r.2.hardwareId ≠ subject.2 := by
        rintro heq
        rw [Bool.and_eq_true, Bool.not_eq_true', List.any_eq_false] at hgone
        exact hgone.2 r hr (by simp [heq])
      rw [AList.lookup_erase_ne hother]
      exact h r hr
    · exact h

theorem stageSightingsAt_sighted {receivedAtMs : ℤ} {sightings : List StagedSighting}
    (h : Sighted db) :
    wp (stageSightingsAt principalId receivedAtMs sightings limits)
      (fun _ db' _ => SightedBut (sightings.map StagedSighting.hardwareId) db')
      (fun _ _ _ => True) db n := by
  have hbatch : SightedBut (sightings.map StagedSighting.hardwareId) db :=
    fun r hr => .inr (h r hr)
  unfold stageSightingsAt
  refine wp_bind (wp_ofExcept (fun stagedBytes _ => ?_) fun _ _ => trivial)
  split_ifs
  · exact wp_fail trivial
  · exact wp_pure hbatch
  · refine wp_bind (wp_imp subjectPins_sure.wp fun pins _ _ hpins => ?_)
    obtain ⟨rfl, -⟩ := hpins
    refine wp_bind (wp_imp (validateInheritedPinCapacity_sure).wp fun _ db₁ _ hsame => ?_)
    obtain rfl := hsame.1
    refine wp_bind (wp_query trivial (wp_bind (wp_exec trivial (wp_bind (wp_contents ?_)))))
    refine wp_bind (wp_imp (wp_repeatUntil (μ := fun db => db.staged.rows.length)
      (I := fun _ db' _ => SightedBut (sightings.map StagedSighting.hardwareId) db')
      (Q := fun _ db' _ => SightedBut (sightings.map StagedSighting.hardwareId) db')
      (fun _ _ _ hI => wp_imp (evict_sighted hI) fun r db' _ h' => ?_) (hbatch.deleteWhere _)
      (Nat.lt_succ_self _)) fun removed db₂ _ h₂ => ?_)
    · cases r with
      | inl removed => exact h'
      | inr removed => exact h'.1
    refine wp_bind (wp_imp (wp_forEach
      (I := fun rest db' _ => SightedBut (sightings.map StagedSighting.hardwareId) db'
        ∧ ∀ s ∈ rest, s.1.hardwareId ∈ sightings.map StagedSighting.hardwareId)
      (fun s rest _ _ hI => wp_imp (insertStaged_sighted hI.1 (hI.2 s List.mem_cons_self))
        fun _ _ _ h' => ⟨h', fun s' hs' => hI.2 s' (List.mem_cons_of_mem _ hs')⟩)
      ⟨h₂, fun s hs => List.mem_map_of_mem (List.of_mem_zip hs).1⟩) fun _ db₃ _ h₃ => ?_)
    exact wp_bind (wp_imp (wp_forEach (I := fun _ db' _ =>
      SightedBut (sightings.map StagedSighting.hardwareId) db')
      (fun _ _ _ _ hI => deleteSightingIfUnstaged_sighted hI) h₃.1) fun _ _ _ h₄ => wp_pure h₄)

end Staging

namespace Ledger

theorem recordSighting_sighted {host : Host} {hardwareId source : String}
    (h : SightedBut (hardwareId :: pending) db) :
    wp (recordSighting host hardwareId source) (fun _ db' _ => SightedBut pending db')
      (fun _ _ _ => True) db n := by
  refine wp_bind (wp_draw (wp_exec trivial fun r hr => ?_))
  dsimp only at hr ⊢
  by_cases heq : r.2.hardwareId = hardwareId
  · rw [heq, AList.lookup_insert]
    exact .inr rfl
  · rw [AList.lookup_insert_ne heq]
    exact (h r hr).imp_left fun hmem => (List.mem_cons.1 hmem).resolve_left heq

theorem isStaged_of_mem {r : ℕ × StagedRow} (hr : r ∈ db.staged.rows) :
    isStaged db r.2.hardwareId = true :=
  List.any_eq_true.2 ⟨r, hr, beq_self_eq_true _⟩

theorem deleteUnstaged_sighted {p : StagingDb → String → SightingRow → Bool} (h : Sighted db) :
    wp (deleteUnstaged p) (fun _ db' _ => Sighted db') (fun _ _ _ => True) db n := by
  refine wp_stmt trivial (fun _ db' hdelete r hr => ?_) fun _ _ => trivial
  obtain ⟨-, rfl⟩ := Prod.mk.inj (Except.ok.inj hdelete)
  dsimp only at hr ⊢
  -- The guard of the statement spares the sighting of a staged row.
  rw [Keyed.lookup_retain, isStaged_of_mem hr]
  simpa using h r hr

theorem retainSightings_sighted {nowMs : ℤ} (h : Sighted db) :
    wp (retainSightings nowMs) (fun _ db' _ => Sighted db') (fun _ db' _ => Sighted db') db n := by
  have hpurge : wp (purgeSightings nowMs) (fun _ db' _ => Sighted db') (fun _ _ _ => True) db n := by
    unfold purgeSightings
    refine wp_bind (wp_query trivial (wp_bind (wp_imp (deleteUnstaged_sighted h) fun _ _ _ h₁ => ?_)))
    exact wp_bind (wp_imp (deleteUnstaged_sighted h₁) fun _ _ _ h₂ => wp_pure h₂)
  refine wp_transaction h (wp_bind (wp_mono hpurge (fun _ _ _ h' => ?_) fun _ _ _ _ => h))
  exact wp_pure ⟨h', h⟩

end Ledger

namespace Collector

variable {c : Components ρ} {w : Work ρ}

theorem stagePending_sighted {principalId : String} {receivedAt : ℤ} {batch : List StagedSighting}
    (h : Sighted w.db.staging) :
    wp (stagePending c principalId receivedAt batch) (fun _ w' _ => Sighted w'.db.staging)
      (fun _ _ _ => True) w n := by
  unfold stagePending
  split_ifs with hempty
  · exact wp_pure h
  · refine wp_bind (wp_onPart (wp_imp (Staging.stageSightingsAt_sighted h) fun bounded st _ hst => ?_))
    refine wp_bind (wp_imp (wp_forEach (I := fun rest (w' : Work ρ) _ =>
        SightedBut (rest.map StagedSighting.hardwareId) w'.db.staging)
      (fun _ _ _ _ h' => wp_onPart (Ledger.recordSighting_sighted h')) hst) fun _ w₂ _ h₂ => ?_)
    rw [List.map_nil, sightedBut_nil] at h₂
    split_ifs
    · refine wp_imp (onLedger_wp _) fun _ w₃ _ h₃ => ?_
      rw [h₃.staging]
      exact h₂
    · exact wp_pure h₂

theorem processItems_sighted {principal : IngestPrincipal} {clock : FreshnessSnapshot}
    {items : List ReadingItem} (h : Sighted w.db.staging) :
    wp (processItems c principal clock items) (fun _ w' _ => Sighted w'.db.staging)
      (fun _ _ _ => True) w n := by
  unfold processItems
  refine wp_bind (wp_imp (onLedger_wp _) fun epoch w₁ _ h₁ => ?_)
  refine wp_bind (wp_imp processAll_wp fun outcomes w₂ _ h₂ => ?_)
  have hstaging : Sighted w₂.db.staging := by rwa [h₂.staging, h₁.staging]
  exact wp_bind (wp_imp (stagePending_sighted hstaging) fun _ _ _ h₃ => wp_pure h₃)

theorem admittedEnvelope_sighted {clock : FreshnessSnapshot} {request : IngestRequest}
    {commit : Bool} (h : Sighted w.db.staging) :
    wp (admittedEnvelope c clock request commit) (fun _ w' _ => Sighted w'.db.staging)
      (fun _ _ _ => True) w n := by
  unfold admittedEnvelope
  split_ifs
  · exact wp_fail trivial
  · refine wp_bind (wp_mapError (wp_imp (onLedger_wp _) fun generation w₁ _ h₁ => ?_))
    have hclaim : ClaimKeeps (fun _ _ _ => True) (.ok clock) request (syncCache generation w₁).db.dedup :=
      fun _ _ _ => wp_trivial _
    refine wp_bind (wp_modify (wp_bind (wp_mapError (wp_imp (claimEnvelope_wp hclaim)
      fun claimed w₂ _ h₂ => ?_))))
    obtain ⟨rows, hdb, -⟩ := h₂
    have hstaging : Sighted w₂.db.staging := by
      rw [hdb, syncCache_db]
      exact h₁.staging ▸ h
    split_ifs
    · refine wp_bind (wp_mapError (wp_imp (processItems_sighted hstaging) fun _ w₃ _ h₃ => ?_))
      unfold concludeEnvelope
      cases commit with
      | true => exact wp_pure h₃
      | false => exact wp_bind (wp_bind (wp_modify (wp_pure (wp_pure h₃))))
    · exact wp_pure hstaging

theorem envelopeBody_sighted {clock : Except String FreshnessSnapshot} {request : IngestRequest}
    {commit : Bool} (h : Sighted w.db.staging) :
    wp (envelopeBody c clock request commit) (fun _ w' _ => Sighted w'.db.staging)
      (fun _ _ _ => True) w n := by
  unfold envelopeBody
  refine wp_bind (wp_mapError (wp_imp authentication_wp fun current w₁ _ h₁ => ?_))
  rw [← h₁] at h
  split_ifs
  · split
    · refine wp_bind (wp_mapError ?_)
      unfold noteRejection
      split_ifs
      · exact wp_imp emitIntrusion_wp fun _ _ _ h₂ => wp_pure (h₂ ▸ h)
      · exact wp_pure (wp_pure h)
    · exact wp_bind (wp_ofExcept (fun _ _ => admittedEnvelope_sighted h) fun _ _ => trivial)
  · exact wp_fail trivial

theorem accept_sighted (s : State ρ) (o : Circumstances) (request : IngestRequest) (commit : Bool)
    (h : Sighted s.db.staging) : Sighted (accept c s o request commit).2.db.staging := by
  have hwp : wp (processEnvelopeMode c o.clock request commit) (fun _ w' _ => Sighted w'.db.staging)
      (fun _ w' _ => Sighted w'.db.staging) s.toWork s.draws := by
    refine wp_bind (wp_transaction h (wp_mono (envelopeBody_sighted h) (fun r w' _ h' => ?_)
      fun _ _ _ _ => h))
    obtain ⟨ending, status⟩ := r
    cases ending with
    | drop => exact wp_pure h
    | commit => exact ⟨wp_pure h', h⟩
    | rollback => exact ⟨wp_pure h, h⟩
  have hrun := hwp o.faults
  unfold accept
  rcases hr : processEnvelopeMode c o.clock request commit ⟨s.toWork, o.faults, s.draws⟩ with
    ⟨e | ack, conn⟩ <;> rw [hr] at hrun
  · cases e <;> exact hrun
  · exact hrun

theorem serveSighting_sighted (s : State ρ) (event : SightingEvent) (h : Sighted s.db.staging) :
    Sighted (serveSighting c s event).db.staging := by
  cases event with
  | submit o request => exact accept_sighted s o request true h
  | validate o request => exact accept_sighted s o request false h
  | retain nowMs faults => exact (Ledger.retainSightings_sighted h).after faults

/-- From a database with nothing staged, whatever is submitted and whenever retention passes, each
staged row can be approved: its hardware has a sighting. -/
theorem staged_rows_sighted (c : Components ρ) (s : State ρ) (events : List SightingEvent) :
    Sighted (events.foldl (serveSighting c)
      { s with db := { s.db with staging := .empty } }).db.staging := by
  refine List.foldlRecOn events _ (motive := fun s : State ρ => Sighted s.db.staging) ?_
    fun s hs event _ => serveSighting_sighted s event hs
  exact fun r hr => absurd hr List.not_mem_nil

end Collector

end EdgeNode
