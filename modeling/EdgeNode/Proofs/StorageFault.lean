import EdgeNode.Collector.Faults
import EdgeNode.Lib.History
import EdgeNode.Proofs.ExactlyOnce

/-!
# When the storage fault is present

Every answer to a submission ends the fault, also the one to an envelope that was rejected as a whole
or was there before, for which nothing was written. As long as no such answer is given while the
fault is present, it is there exactly from a submission that failed until one that wrote.
-/

namespace EdgeNode

open Tx

namespace Dedup

/-- A claim that is granted leaves a row that was not there; one that is refused meets its row. -/
theorem tryClaimEnvelopeBoundedAt_changes {principalId envelopeId : String} {nowMs : ℤ}
    {bounds : DedupBounds} {rows : DedupTable} {n : ℕ} (hage : 0 ≤ bounds.maxAgeMs)
    (hnow : I64.minValue ≤ nowMs) :
    wp (tryClaimEnvelopeBoundedAt principalId envelopeId nowMs bounds)
      (fun claimed rows' _ => if claimed then rows' ≠ rows
        else ∃ r ∈ rows, r.isFor principalId envelopeId
          ∧ I64.saturatingSub nowMs bounds.maxAgeMs ≤ r.receivedAt)
      (fun _ _ _ => True) rows n := by
  refine wp_bind (wp_query trivial ?_)
  split_ifs with hexists
  · obtain ⟨r, hr, hfor⟩ := List.any_eq_true.1 hexists
    rw [Bool.and_eq_true, decide_eq_true_eq] at hfor
    exact wp_pure ⟨r, hr, hfor.1, hfor.2⟩
  · have hcutoff : I64.saturatingSub nowMs bounds.maxAgeMs ≤ nowMs :=
      I64.saturate_le (by omega) hnow
    have hfree : (⟨principalId, envelopeId, nowMs⟩ : DedupRow) ∉ rows := fun hr =>
      hexists (List.any_eq_true.2 ⟨_, hr, by simpa [DedupRow.isFor] using hcutoff⟩)
    have hnew : ∀ {rows' : DedupTable}, ⟨principalId, envelopeId, nowMs⟩ ∈ rows' → rows' ≠ rows :=
      fun hr heq => hfree (heq ▸ hr)
    refine wp_bind (wp_stmt trivial (fun refreshed rows₁ h => ?_) (by simp))
    rw [Except.ok.injEq, Prod.mk.injEq] at h
    obtain ⟨hrefreshed, rfl⟩ := h
    split_ifs with hone
    · -- the row that was renewed has the time of this claim
      have hpos : 0 < rows.countP
          fun r => r.isFor principalId envelopeId && decide (r.receivedAt < nowMs) := by omega
      obtain ⟨r, hr, hold⟩ := List.countP_pos_iff.1 hpos
      refine wp_pure (hnew (List.mem_map.2 ⟨r, hr, ?_⟩))
      rw [if_pos hold]
      obtain ⟨hsender, henvelope⟩ := isFor_iff.1 (Bool.and_eq_true _ _ ▸ hold).1
      rw [← hsender, ← henvelope]
    · refine wp_bind (wp_contents (wp_bind (wp_imp (wp_mono (wp_trivial _)
        (fun _ _ _ _ => trivial) fun _ _ _ _ => trivial) fun _ rows₂ _ _ => ?_)))
      refine wp_bind (wp_stmt trivial (fun _ rows₃ h => wp_pure ?_) fun _ _ => trivial)
      split_ifs at h
      obtain ⟨-, rfl⟩ := Prod.mk.injEq .. ▸ Except.ok.inj h
      exact hnew (List.mem_append_right _ List.mem_cons_self)

end Dedup

namespace Collector

variable {ρ : Type} {c : Components ρ}

/-- Whether the claim of the envelope meets one that still stands. -/
def meetsClaim (rows : DedupTable) (request : IngestRequest) :
    Except String FreshnessSnapshot → Bool
  | .ok snapshot => rows.any fun r =>
      r.isFor request.principal.principalId request.envelope.envelopeId
        && decide (I64.saturatingSub snapshot.receivedAtMs DedupLimits.default.maxAgeMs ≤ r.receivedAt)
  | .error _ => false

theorem envelopeBody_rejects {clock : Except String FreshnessSnapshot} {request : IngestRequest}
    {commit : Bool} {w : Work ρ} {n : ℕ} :
    wp (envelopeBody c clock request commit)
      (fun r _ _ => ∀ rejection, r.2 = .rejected rejection → envelopeRejection request = some rejection)
      (fun _ _ _ => True) w n := by
  have hwp : ∀ {α : Type} (m : Tx (Work ρ) ProcessError α) {w n},
      wp m (fun _ _ _ => True) (fun _ _ _ => True) w n := fun m => wp_trivial m
  refine wp_bind (wp_imp (hwp _) fun current w₁ _ _ => ?_)
  split_ifs
  · split
    · rename_i rejection hrejection
      refine wp_bind (wp_imp (hwp _) fun _ _ _ _ => wp_pure ?_)
      rintro _ ⟨⟩
      exact hrejection
    · refine wp_bind (wp_imp (hwp _) fun snapshot _ _ _ => ?_)
      unfold admittedEnvelope
      split_ifs
      · exact wp_fail trivial
      · refine wp_bind (wp_imp (hwp _) fun _ _ _ _ => wp_bind (wp_modify ?_))
        refine wp_bind (wp_imp (hwp _) fun claimed _ _ _ => ?_)
        split_ifs
        · refine wp_bind (wp_imp (hwp _) fun _ _ _ _ => wp_bind (wp_imp (hwp _) ?_))
          exact fun _ _ _ _ => wp_pure nofun
        · exact wp_pure nofun
  · exact wp_fail trivial

theorem accept_db (s : State ρ) (o : Circumstances) (request : IngestRequest) (commit : Bool) :
    (accept c s o request commit).2.db
      = (processEnvelopeMode c o.clock request commit ⟨s.toWork, o.faults, s.draws⟩).2.db.db := by
  unfold accept
  rcases processEnvelopeMode c o.clock request commit ⟨s.toWork, o.faults, s.draws⟩ with
    ⟨(_ | _ | _) | _, _⟩ <;> rfl

inductive Ended (s : State ρ) (o : Circumstances) (request : IngestRequest) :
    Except ProcessError EnvelopeAck → NodeDb ρ → Prop
  | wrote {ack statuses after} : ack.status = .accepted statuses → after ≠ s.db →
      Ended s o request (.ok ack) after
  | idle {ack} : (envelopeRejection request).isSome ∨ meetsClaim s.db.dedup request o.clock →
      (∀ statuses, ack.status ≠ .accepted statuses) → Ended s o request (.ok ack) s.db
  | stopped {e} : Ended s o request (.error e) s.db

theorem submission_ended (s : State ρ) {o : Circumstances} (ho : o.Readable)
    (request : IngestRequest) :
    Ended s o request (outcome c s o request true) (accept c s o request true).2.db := by
  let K : FreshnessSnapshot → Bool → DedupTable → Prop := fun snapshot claimed rows =>
    if claimed then rows ≠ s.db.dedup
    else meetsClaim s.db.dedup request (.ok snapshot)
  have hK : ClaimKeeps K o.clock request s.db.dedup := by
    intro snapshot n hclock
    refine wp_imp (Dedup.tryClaimEnvelopeBoundedAt_changes (by decide) (ho snapshot hclock).1) ?_
    intro claimed rows _ h
    cases claimed with
    | true => exact h
    | false =>
      obtain ⟨r, hr, hfor, hwithin⟩ := h
      exact List.any_eq_true.2 ⟨r, hr, by simpa [hfor] using hwithin⟩
  have hanswered := processEnvelopeMode_wp (c := c) (w := s.toWork) (n := s.draws) hK
  have hrejects : wp (processEnvelopeMode c o.clock request true)
      (fun ack _ _ => ∀ rejection, ack.status = .rejected rejection →
        envelopeRejection request = some rejection) (fun _ _ _ => True) s.toWork s.draws := by
    refine wp_bind (wp_transaction trivial (wp_mono envelopeBody_rejects (fun r _ _ h => ?_)
      fun _ _ _ _ => trivial))
    obtain ⟨_ | _ | _, status⟩ := r
    · exact wp_pure h
    · exact ⟨wp_pure h, trivial⟩
    · exact ⟨wp_pure h, trivial⟩
  have h := wp_and hanswered hrejects o.faults
  rw [accept_db]
  unfold outcome
  rcases hr : processEnvelopeMode c o.clock request true ⟨s.toWork, o.faults, s.draws⟩ with
    ⟨e | ack, conn⟩ <;> rw [hr] at h
  · rw [show conn.db.db = s.db from h.1]
    exact .stopped
  · obtain ⟨⟨-, hack⟩, hrejected⟩ := h
    rcases hack with ⟨hsame, hstatus⟩ | ⟨snapshot, statuses, -, hstatus, hclaim, -⟩
    · rw [show conn.db.db = s.db from hsame]
      rcases hstatus with ⟨rejection, hstatus⟩ | ⟨hstatus, snapshot, rows, hclock, hmet⟩
      · exact .idle (.inl (by rw [hrejected rejection hstatus]; rfl)) (by simp [hstatus])
      · exact .idle (.inr (hclock ▸ hmet)) (by simp [hstatus])
    · exact .wrote hstatus fun heq => hclaim (congrArg NodeDb.dedup heq)

namespace Intake

variable {delivery : PipelineDelivery} {describe : StorageCause → String} {s s' : Intake ρ}

def Outstanding : List (InputTransaction ρ) → Prop :=
  Standing (fun t => t.failed) fun t => t.after ≠ t.before

theorem outstanding_concat {transactions : List (InputTransaction ρ)} {t : InputTransaction ρ} :
    Outstanding (transactions ++ [t]) ↔ t.failed ∨ Outstanding transactions ∧ t.after = t.before := by
  unfold Outstanding
  rw [standing_concat, not_not]

/-- While the fault is present, no submission comes that is answered without a write: one that is
rejected as a whole, or that was there before. -/
def NoIdleAnswer (s : Intake ρ) : Event ρ → Prop
  | .submit o request _ => s.faults.storage.isSome →
      (envelopeRejection request).isSome = false ∧ meetsClaim s.db.dedup request o.clock = false
  | _ => True

instance (s : Intake ρ) : ∀ e, Decidable (NoIdleAnswer s e)
  | .submit o request _ => inferInstanceAs (Decidable (s.faults.storage.isSome →
      (envelopeRejection request).isSome = false ∧ meetsClaim s.db.dedup request o.clock = false))
  | .validate _ _ _ | .clear _ | .elsewhere _ => isTrue trivial

def Truthful (s : Intake ρ) : Prop :=
  s.faults.storage.isSome ↔ Outstanding s.transactions

theorem Truthful.submitted {o : Circumstances} {request : IngestRequest} (h : Truthful s)
    (ho : o.Readable) (hidle : NoIdleAnswer s (.submit o request ho)) :
    Truthful (s.submitted c delivery describe o request) := by
  have hended := submission_ended (c := c.withPipelines delivery) s.toState ho request
  unfold Truthful at h ⊢
  unfold Intake.submitted
  dsimp only
  rw [outstanding_concat]
  generalize outcome (c.withPipelines delivery) s.toState o request true = ends at hended ⊢
  generalize (accept (c.withPipelines delivery) s.toState o request true).2 = after at hended ⊢
  obtain ⟨⟨db, cache, signals, discards⟩, draws⟩ := after
  cases hended with
  | wrote hstatus hne =>
    simp [noteOutcome, DeviceFaultSnapshot.storageWriteSucceeded, failed, hne]
  | idle hcause _ =>
    have hnone : ¬ s.faults.storage.isSome := fun hsome => by
      obtain ⟨hrejection, hclaim⟩ := hidle hsome
      rcases hcause with hcause | hcause
      · simp [hrejection] at hcause
      · simp [hclaim] at hcause
    simp [noteOutcome, DeviceFaultSnapshot.storageWriteSucceeded, failed, ← h, hnone]
  | @stopped e =>
    cases e with
    | storage cause =>
      simp only [noteOutcome, DeviceFaultSnapshot.storageWriteFailed, failed, true_or, iff_true]
      cases s.faults.storage <;> rfl
    | clockUntrusted => simpa [noteOutcome, failed] using h
    | authenticationStale => simpa [noteOutcome, failed] using h

theorem Truthful.step {e : Event ρ} (hidle : NoIdleAnswer s e) (h : Truthful s)
    (hs : step c delivery describe s e = some s') : Truthful s' := by
  cases e with
  | submit o request ho =>
    obtain rfl := Option.some.inj hs
    exact h.submitted ho hidle
  | validate o request ho =>
    obtain rfl := Option.some.inj hs
    exact h
  | clear id =>
    obtain rfl := Option.some.inj hs
    exact h
  | elsewhere change =>
    obtain rfl := Option.some.inj hs
    exact h

/-- In every run in which no submission is answered without a write while the storage fault is
present, the fault is present exactly when a submission failed on storage and none has written since. -/
theorem storage_fault_truthful (c : Components ρ) (delivery : PipelineDelivery)
    (describe : StorageCause → String) {start s : Intake ρ} {events : List (Event ρ)}
    (hfaults : start.faults.storage = none) (htransactions : start.transactions = [])
    (hidle : Machine.Along (Intake.step c delivery describe) NoIdleAnswer start events)
    (hrun : Machine.run (Intake.step c delivery describe) start events = some s) :
    s.faults.storage.isSome ↔ Outstanding s.transactions := by
  have hstart : Truthful start := by
    unfold Truthful
    rw [hfaults, htransactions]
    exact iff_of_false (by simp) not_standing_nil
  have h : Truthful s :=
    Machine.run_invariant_along (fun _ _ _ hi h hs => h.step hi hs) hidle hstart hrun
  exact h

/-! ## An answer that ends the fault -/

open Ingest (bench benchComponents benchRequest)

def benchDelivery : PipelineDelivery := ⟨⟨⟨"edge", by decide⟩⟩, ∅⟩

def benchIntake : Intake Unit := { bench.collector with }

theorem readable_at (faults : List Bool) {snapshot : FreshnessSnapshot}
    (h : I64.inRange snapshot.receivedAtMs) : Circumstances.Readable ⟨faults, .ok snapshot⟩ := by
  rintro _ ⟨⟩
  exact h

def benchSubmission (faults : List Bool) (request : IngestRequest) : Event Unit :=
  .submit ⟨faults, .ok ⟨1000, none⟩⟩ request (readable_at faults (by decide))

def straySource : IngestRequest := { benchRequest with envelope.source := "other" }

def failingWrites : List (Event Unit) :=
  [benchSubmission [true] benchRequest, benchSubmission [] benchRequest,
    benchSubmission [true] { benchRequest with envelope.envelopeId := "e2" }]

theorem failingWrites_truthful :
    ∃ s, Machine.run (Intake.step benchComponents benchDelivery fun _ => "full") benchIntake
        failingWrites = some s
      ∧ s.faults.storage.isSome ∧ (s.faults.storage.isSome ↔ Outstanding s.transactions) := by
  have hrun : (Machine.run (Intake.step benchComponents benchDelivery fun _ => "full") benchIntake
      failingWrites).map (fun s => s.faults.storage.isSome) = some true := by decide +kernel
  obtain ⟨s, hs, hstorage⟩ := Option.map_eq_some_iff.1 hrun
  exact ⟨s, hs, hstorage, storage_fault_truthful _ _ _ rfl rfl (by decide +kernel) hs⟩

/-- A write fails, and the next envelope is rejected for its source: the fault is gone, and nothing
was written. -/
theorem rejection_ends_fault :
    ∃ s, Machine.run (Intake.step benchComponents benchDelivery fun _ => "full") benchIntake
        [benchSubmission [true] benchRequest, benchSubmission [] straySource] = some s
      ∧ ¬ s.faults.storage.isSome ∧ Outstanding s.transactions := by
  let first := benchIntake.submitted benchComponents benchDelivery (fun _ => "full")
    ⟨[true], .ok ⟨1000, none⟩⟩ benchRequest
  let second := first.submitted benchComponents benchDelivery (fun _ => "full")
    ⟨[], .ok ⟨1000, none⟩⟩ straySource
  refine ⟨second, rfl, by decide +kernel, [], ⟨true, benchIntake.db, first.db⟩,
    [⟨false, first.db, second.db⟩], rfl, rfl, fun t ht => ?_⟩
  rw [List.mem_singleton.1 ht]
  exact not_not_intro rfl

end Intake

end Collector

end EdgeNode
