import EdgeNode.Proofs.Beside
import EdgeNode.Proofs.Dedup
import EdgeNode.Proofs.Envelope
import EdgeNode.Proofs.ExactlyOnce

/-!
# Validation

A validation runs the transaction of a submission up to its end and rolls it back. It makes no claim,
so its database differs from the submission's in the claims, and the items do not look at those:
an envelope whose claim would be granted has the same outcome in both.
-/

namespace EdgeNode

open Tx

namespace Collector

variable {ρ : Type} {c : Components ρ} {clock : Except String FreshnessSnapshot}
  {request : IngestRequest} {w : Work ρ} {n : ℕ}

/-! ## Up to the claim -/

variable (c clock request) in
/-- What a request goes through before its claim: it is rejected as a whole, or goes on under a
clock state. -/
def beforeClaim : Tx (Work ρ) ProcessError (Rejection ⊕ FreshnessSnapshot) := do
  if ← (onNode (authenticationIsCurrentAtSerialization request.principal)).mapError .storage then
    match envelopeRejection request with
    | some rejection =>
      (noteRejection c request).mapError .storage
      pure (.inl rejection)
    | none =>
      let clock ← Tx.ofExcept (clock.mapError fun e => .storage (.clock e))
      if clock.trustedWallTimeMs.isNone && request.envelope.items.any requiresAbsoluteTime then
        Tx.fail .clockUntrusted
      else
        let generation ← (onLedger Ledger.currentGeneration).mapError .storage
        Tx.modify (syncCache generation)
        pure (.inr clock)
  else Tx.fail .authenticationStale

variable (c clock request) in
def untilClaim : Tx (Work ρ) ProcessError (Rejection ⊕ FreshnessSnapshot) := do
  Tx.query (.storage .sqlite) fun _ => ()
  beforeClaim c clock request

variable (c request) in
def fromClaim (commit : Bool) :
    Rejection ⊕ FreshnessSnapshot → Tx (Work ρ) ProcessError (Tx.Ending × AckStatus)
  | .inl rejection => pure (.drop, .rejected rejection)
  | .inr clock => do
    if ← (claimEnvelope request clock.receivedAtMs commit).mapError .storage then
      let items ← (processItems c request.principal clock request.envelope.items).mapError .storage
      let ending ← concludeEnvelope commit
      pure (ending, .accepted items)
    else pure (.drop, .duplicate)

theorem envelopeBody_eq (commit : Bool) :
    envelopeBody c clock request commit
      = beforeClaim c clock request >>= fromClaim c request commit := by
  unfold envelopeBody beforeClaim
  rw [bind_assoc]
  congr 1
  funext current
  split_ifs
  · cases envelopeRejection request with
    | some rejection =>
      dsimp only
      rw [bind_assoc]
      rfl
    | none =>
      dsimp only
      rw [bind_assoc]
      congr 1
      funext snapshot
      unfold admittedEnvelope
      split_ifs
      · rfl
      · rw [bind_assoc]
        rfl
  · rfl

variable (c clock request w n) in
theorem beforeClaim_sure :
    sure (beforeClaim c clock request)
      (fun r w' _ => w'.db = w.db ∧ ∀ snapshot, r = .inr snapshot → clock = .ok snapshot)
      (fun _ _ _ => True) w n := by
  have hcurrent : sure (onNode (authenticationIsCurrentAtSerialization request.principal))
      (fun _ w' _ => w'.db = w.db) (fun _ _ _ => True) w n := by
    refine sure_on ?_
    unfold authenticationIsCurrentAtSerialization
    split_ifs
    · exact sure_pure rfl
    · split
      · exact sure_query rfl
      · exact sure_pure rfl
  refine sure_bind (sure_mapError (sure_imp hcurrent fun current w₁ n₁ h₁ => ?_))
  split_ifs
  · cases envelopeRejection request with
    | some rejection =>
      have hnote : sure (noteRejection c request) (fun _ w' _ => w'.db = w₁.db)
          (fun _ _ _ => True) w₁ n₁ := by
        unfold noteRejection emitIntrusion
        split_ifs
        · exact sure_modify rfl
        · exact sure_modify rfl
        · exact sure_pure rfl
      exact sure_bind (sure_mapError (sure_imp hnote fun _ _ _ h₂ => sure_pure ⟨h₂.trans h₁, nofun⟩))
    | none =>
      refine sure_bind (sure_ofExcept (fun snapshot hclock => ?_) fun _ _ => trivial)
      split_ifs
      · exact sure_fail trivial
      · have hgeneration : sure (onLedger Ledger.currentGeneration) (fun _ w' _ => w'.db = w₁.db)
            (fun _ _ _ => True) w₁ n₁ := by
          unfold onLedger onNode
          exact sure_on (sure_on (sure_mapError (sure_query rfl)))
        refine sure_bind (sure_mapError (sure_imp hgeneration fun generation w₂ _ h₂ => ?_))
        refine sure_bind (sure_modify (sure_pure ⟨?_, ?_⟩))
        · rw [syncCache_db, h₂, h₁]
        · rintro _ ⟨⟩
          cases clock with
          | error e => cases hclock
          | ok snapshot' => exact congrArg Except.ok (Except.ok.inj hclock)
  · exact sure_fail trivial

/-! ## From the claim on -/

def sameCache : CacheRelation := fun _ cache cache' => cache' = cache

theorem tracks_sameCache (c : Components ρ) :
    Tracks Eq c (fun _ _ => True) sameCache where
  stepwise := stepwise_eq
  stable := fun _ h => h
  grows := fun _ => trivial
  policyLocal := fun _ _ => local_eq _
  policySafe := fun _ _ _ _ => wp_trivial _
  hardware := by
    intro dedup w w' n hardwareId hb
    have hsame : w'.cache = w.cache := hb.cache
    refine sim_contents ?_
    rw [hsame]
    split
    · exact sim_pure hb
    · refine Agree.bind (agree_onPart (local_eq _) hb rfl (fun _ => rfl)
        (wp_mono (wp_trivial _) (fun _ _ _ _ => hsame) fun _ _ _ => id)) fun found w w' n hb => ?_
      cases found with
      | none => exact .pure hb _
      | some found =>
        refine Agree.bind (.modify ⟨hb.db, hb.signals, hb.discards, ?_⟩) fun _ _ _ _ hb => .pure hb _
        have hsame : w'.cache = w.cache := hb.cache
        simp only [sameCache, hsame]
  series := by
    intro dedup w w' n systemId key channel variant quarantine hb
    have hsame : w'.cache = w.cache := hb.cache
    refine sim_contents ?_
    rw [hsame]
    split
    · exact sim_pure hb
    · refine Agree.bind (agree_onPart (local_eq _) hb rfl (fun _ => rfl)
        (wp_mono (wp_trivial _) (fun _ _ _ _ => hsame) fun _ _ _ => id)) fun id w w' n hb => ?_
      refine Agree.bind (.modify ⟨hb.db, hb.signals, hb.discards, ?_⟩) fun _ _ _ _ hb => .pure hb _
      have hsame : w'.cache = w.cache := hb.cache
      simp only [sameCache, hsame]

theorem claimEnvelope_granted {snapshot : FreshnessSnapshot}
    (hkeys : Dedup.DistinctKeys w.db.dedup) (hnow : I64.minValue ≤ snapshot.receivedAtMs)
    (hfree : ∀ r ∈ w.db.dedup,
      r.isFor request.principal.principalId request.envelope.envelopeId →
        r.receivedAt < I64.saturatingSub snapshot.receivedAtMs DedupLimits.default.maxAgeMs) :
    ∃ rows, claimEnvelope request snapshot.receivedAtMs true ⟨w, [], n⟩
      = (.ok true, ⟨{ w with db := { w.db with dedup := rows } }, [], n⟩) := by
  obtain ⟨claimed, rows, _, hclaim, houtcome, rfl⟩ := (Dedup.tryClaimEnvelopeBoundedAt_sure
    request.principal.principalId request.envelope.envelopeId
    DedupLimits.default.positive hnow hkeys (n := n)).ok
  cases claimed with
  | false =>
    obtain ⟨-, r, hr, hfor, hyoung⟩ := houtcome
    exact absurd (hfree r hr hfor) hyoung.not_gt
  | true =>
    refine ⟨rows, ?_⟩
    simp only [claimEnvelope, if_true, onDedup, onNode, on, mapError, hclaim]
    rfl

theorem fromClaim_claimed {snapshot : FreshnessSnapshot} {commit : Bool} {conn conn' : Conn (Work ρ)}
    (h : claimEnvelope request snapshot.receivedAtMs commit conn = (.ok true, conn')) :
    ∃ x : Work ρ, fromClaim c request commit (.inr snapshot) conn
      = match processItems c request.principal snapshot request.envelope.items conn' with
        | (.error e, conn) => (.error (.storage e), conn)
        | (.ok items, conn) =>
          (.ok (if commit then .commit else .rollback, .accepted items), { conn with db := x }) := by
  have hclaim : (claimEnvelope request snapshot.receivedAtMs commit).mapError ProcessError.storage
      conn = (.ok true, conn') := by
    simp only [mapError, h]
    rfl
  dsimp only [fromClaim]
  rw [bind_ok hclaim, if_pos rfl]
  rcases hitems : processItems c request.principal snapshot request.envelope.items conn' with
    ⟨e | items, conn⟩
  · refine ⟨conn.db, bind_error ?_⟩
    simp only [mapError, hitems]
    rfl
  · have hitems' : (processItems c request.principal snapshot request.envelope.items).mapError
        ProcessError.storage conn' = (.ok items, conn) := by
      simp only [mapError, hitems]
      rfl
    rw [bind_ok hitems']
    cases commit with
    | true => exact ⟨conn.db, rfl⟩
    | false => exact ⟨_, rfl⟩

/-- Two bodies of a transaction with the same answer: both fail, both are dropped, or one is
committed and the other rolled back, before the same faults. -/
inductive SameAnswer {σ ε α : Type} : Except ε (Ending × α) × Conn σ →
    Except ε (Ending × α) × Conn σ → Prop
  | error (e : ε) (c c' : Conn σ) : SameAnswer (.error e, c) (.error e, c')
  | drop (a : α) (c c' : Conn σ) : SameAnswer (.ok (.drop, a), c) (.ok (.drop, a), c')
  | ended (a : α) (c c' : Conn σ) : c'.faults = c.faults →
      SameAnswer (.ok (.commit, a), c) (.ok (.rollback, a), c')

theorem SameAnswer.transaction {σ ε α : Type} {e : ε} {undo : σ → σ → σ}
    {m m' : Tx σ ε (Ending × α)} {db : σ} {n : ℕ} (h : SameAnswer (m ⟨db, [], n⟩) (m' ⟨db, [], n⟩)) :
    (Tx.transaction e undo m ⟨db, [], n⟩).1 = (Tx.transaction e undo m' ⟨db, [], n⟩).1 := by
  rw [transaction_result (by simp), transaction_result (by simp), List.tail_nil]
  generalize m ⟨db, [], n⟩ = r at h ⊢
  generalize m' ⟨db, [], n⟩ = r' at h ⊢
  cases h with
  | error | drop => rfl
  | ended a c c' hfaults => simp only [hfaults]

theorem fromClaim_sameAnswer {snapshot : FreshnessSnapshot}
    (hkeys : Dedup.DistinctKeys w.db.dedup) (hnow : I64.minValue ≤ snapshot.receivedAtMs)
    (hfree : ∀ r ∈ w.db.dedup,
      r.isFor request.principal.principalId request.envelope.envelopeId →
        r.receivedAt < I64.saturatingSub snapshot.receivedAtMs DedupLimits.default.maxAgeMs) :
    SameAnswer (fromClaim c request true (.inr snapshot) ⟨w, [], n⟩)
      (fromClaim c request false (.inr snapshot) ⟨w, [], n⟩) := by
  obtain ⟨rows, hclaim⟩ := claimEnvelope_granted (n := n) hkeys hnow hfree
  obtain ⟨x, hsubmit⟩ := fromClaim_claimed (c := c) hclaim
  have hnone : claimEnvelope request snapshot.receivedAtMs false ⟨w, [], n⟩
      = (.ok true, ⟨w, [], n⟩) := rfl
  obtain ⟨y, hvalidate⟩ := fromClaim_claimed (c := c) hnone
  -- The validation works on the contents without the claim.
  have hbeside : Beside w.db.dedup sameCache { w with db := { w.db with dedup := rows } } w :=
    ⟨rfl, rfl, rfl, rfl⟩
  obtain ⟨after, -, hrest⟩ := processItems_agree (tracks_sameCache c) (n := n)
    request.principal snapshot request.envelope.items hbeside []
  obtain ⟨_, rfl, hsame⟩ := hrest _ rfl
  rw [hsubmit, hvalidate, hsame]
  rcases processItems c request.principal snapshot request.envelope.items
    ⟨{ w with db := { w.db with dedup := rows } }, [], n⟩ with ⟨e | items, conn⟩
  · exact .error _ _ _
  · exact .ended _ _ _ rfl

/-! ## Answers -/

def errorClass : ProcessError → SubmitError
  | .storage _ => .noAck
  | .clockUntrusted => .clockUntrusted
  | .authenticationStale => .authenticationStale

theorem accept_result (s : State ρ) (o : Circumstances) (commit : Bool) :
    (accept c s o request commit).1
      = ((Tx.transaction (.storage .sqlite) (fun before after => { after with db := before.db })
          (envelopeBody c o.clock request commit)
          { db := s.toWork, faults := o.faults, draws := s.draws }).1.mapError errorClass).map
        fun status => ⟨request.envelope.envelopeId, status⟩ := by
  unfold accept processEnvelopeMode
  rcases hr : Tx.transaction (.storage .sqlite) (fun before after => { after with db := before.db })
    (envelopeBody c o.clock request commit) ⟨s.toWork, o.faults, s.draws⟩ with ⟨e | status, conn⟩
  · rw [bind_error hr, hr]
    cases e <;> rfl
  · rw [bind_ok hr, hr]
    rfl

structure Reports (ack : EnvelopeAck) (report : ValidationReport) : Prop where
  envelopeId : report.envelopeId = ack.envelopeId
  envelope : ∀ rejection, ack.status = .rejected rejection → report.issues = [⟨none, rejection⟩]
  items : ∀ statuses, ack.status = .accepted statuses →
    (∀ issue, issue ∈ report.issues ↔ ∃ i rejection, issue = ⟨some i, rejection⟩
      ∧ statuses[i]? = some (.itemRejected rejection))
    ∧ report.issues.Pairwise fun a b => ∀ i j, a.itemIndex = some i → b.itemIndex = some j → i < j
  valid : report.valid ↔ report.issues = []

theorem mem_itemIssues {statuses : List ItemStatus} {issue : ValidationIssue} :
    issue ∈ itemIssues statuses ↔ ∃ i rejection, issue = ⟨some i, rejection⟩
      ∧ statuses[i]? = some (.itemRejected rejection) := by
  unfold itemIssues
  rw [List.mem_filterMap]
  constructor
  · rintro ⟨⟨status, i⟩, hmem, h⟩
    have hi : statuses[i]? = some status := by simpa using List.mem_zipIdx_iff_getElem?.1 hmem
    cases status with
    | stored => simp at h
    | itemRejected rejection => exact ⟨i, rejection, by simpa using h.symm, hi⟩
  · rintro ⟨i, rejection, rfl, h⟩
    exact ⟨(.itemRejected rejection, i), List.mem_zipIdx_iff_getElem?.2 h, rfl⟩

theorem itemIssues_ordered (statuses : List ItemStatus) :
    (itemIssues statuses).Pairwise fun a b =>
      ∀ i j, a.itemIndex = some i → b.itemIndex = some j → i < j := by
  have hindices : statuses.zipIdx.Pairwise fun a b => a.2 < b.2 := by
    have := List.pairwise_lt_range' (s := 0) (n := statuses.length)
    rwa [← List.zipIdx_map_snd, List.pairwise_map] at this
  refine List.pairwise_filterMap.2 (hindices.imp fun {a b} hlt issue ha issue' hb i j hi hj => ?_)
  obtain ⟨_ | rejection, k⟩ := a
  · simp at ha
  obtain ⟨_ | rejection', k'⟩ := b
  · simp at hb
  obtain rfl := Option.some.inj ha
  obtain rfl := Option.some.inj hb
  obtain rfl := Option.some.inj hi
  obtain rfl := Option.some.inj hj
  exact hlt

theorem reports_validationReport (ack : EnvelopeAck) : Reports ack (validationReportFromAck ack) := by
  obtain ⟨envelopeId, status⟩ := ack
  refine ⟨rfl, ?_, ?_, ?_⟩
  · rintro rejection ⟨⟩
    rfl
  · rintro statuses ⟨⟩
    exact ⟨fun _ => mem_itemIssues, itemIssues_ordered statuses⟩
  · exact List.isEmpty_iff

theorem validate_keeps_database (s : State ρ) (o : Circumstances) (request : IngestRequest) :
    (validate c s o request).2.db = s.db := by
  have h : wp (processEnvelopeMode c o.clock request false) (fun _ w' _ => w'.db = s.db)
      (fun _ w' _ => w'.db = s.db) s.toWork s.draws := by
    refine wp_bind (wp_transaction rfl (wp_mono (envelopeBody_wp (K := fun _ _ _ => True)
      fun _ _ _ => wp_trivial _) (fun r w' _ h => ?_) fun _ _ _ _ => rfl))
    obtain ⟨_ | _ | _, status⟩ := r
    · exact wp_pure rfl
    · exact absurd h.1 (by simp)
    · exact ⟨wp_pure rfl, rfl⟩
  have := h o.faults
  unfold validate accept
  rcases hr : processEnvelopeMode c o.clock request false ⟨s.toWork, o.faults, s.draws⟩ with
    ⟨e | ack, conn⟩ <;> rw [hr] at this
  · cases e <;> exact this
  · exact this

theorem accept_of_untilClaim_error (s : State ρ) (o : Circumstances) (commit : Bool)
    {e : ProcessError} {conn : Conn (Work ρ)}
    (h : untilClaim c o.clock request ⟨s.toWork, o.faults, s.draws⟩ = (.error e, conn)) :
    (accept c s o request commit).1 = .error (errorClass e) := by
  rw [accept_result]
  unfold untilClaim at h
  by_cases hbegin : o.faults.head? = some true
  · have hfault : Tx.query (ProcessError.storage .sqlite) (fun _ : Work ρ => ())
        ⟨s.toWork, o.faults, s.draws⟩
        = (.error (.storage .sqlite), ⟨s.toWork, o.faults.tail, s.draws⟩) := stmt_fault hbegin
    rw [bind_error hfault] at h
    obtain rfl := Except.error.inj (congrArg Prod.fst h)
    rw [transaction_unbegun hbegin]
    rfl
  · have hok : Tx.query (ProcessError.storage .sqlite) (fun _ : Work ρ => ())
        ⟨s.toWork, o.faults, s.draws⟩
        = (.ok (), ⟨s.toWork, o.faults.tail, s.draws⟩) := stmt_ok hbegin rfl
    rw [bind_ok hok] at h
    rw [transaction_result hbegin, envelopeBody_eq, bind_error h]
    rfl

/-- The envelope has no claim within the age, in a table that keeps its primary key. -/
structure Unclaimed (rows : DedupTable) (clock : Except String FreshnessSnapshot)
    (request : IngestRequest) : Prop where
  keys : Dedup.DistinctKeys rows
  reading : ∀ snapshot, clock = .ok snapshot → I64.minValue ≤ snapshot.receivedAtMs
  old : ∀ snapshot, clock = .ok snapshot → ∀ r ∈ rows,
    r.isFor request.principal.principalId request.envelope.envelopeId →
      r.receivedAt < I64.saturatingSub snapshot.receivedAtMs DedupLimits.default.maxAgeMs

theorem accept_mode_eq (s : State ρ) (h : Unclaimed s.db.dedup clock request) :
    (accept c s { clock := clock } request true).1
      = (accept c s { clock := clock } request false).1 := by
  have hbody : SameAnswer (envelopeBody c clock request true ⟨s.toWork, [], s.draws⟩)
      (envelopeBody c clock request false ⟨s.toWork, [], s.draws⟩) := by
    rw [envelopeBody_eq, envelopeBody_eq]
    obtain ⟨hs, hbefore⟩ := beforeClaim_sure c clock request s.toWork s.draws []
    rcases hr : beforeClaim c clock request ⟨s.toWork, [], s.draws⟩ with
      ⟨e | rejection | snapshot, w, faults, n⟩ <;> rw [hr] at hbefore hs
    · rw [bind_error hr, bind_error hr]
      exact .error _ _ _
    · rw [bind_ok hr, bind_ok hr]
      exact .drop _ _ _
    · rw [bind_ok hr, bind_ok hr]
      obtain ⟨hdb, hclock⟩ : w.db = s.db ∧ _ := hbefore
      obtain rfl : faults = [] := List.suffix_nil.1 hs
      rw [← hdb] at h
      exact fromClaim_sameAnswer h.keys (h.reading _ (hclock _ rfl)) (h.old _ (hclock _ rfl))
  rw [accept_result, accept_result, hbody.transaction]

/-- What a validation says of an envelope that is not yet claimed is what a submission from the same
state answers: its report names exactly the rejection of the envelope or of the items, in order, and
is valid if there are none. When a request fails before its claim, whatever statement fails, both
fail alike; and a validation leaves every table as it was. -/
theorem validate_predicts_submit (c : Components ρ) (s : State ρ)
    (clock : Except String FreshnessSnapshot) (request : IngestRequest) :
    (Unclaimed s.db.dedup clock request →
      (∀ ack, (submit c s { clock := clock } request).1 = .ok ack →
        ∃ report, (validate c s { clock := clock } request).1 = .ok report ∧ Reports ack report)
      ∧ ∀ e, (submit c s { clock := clock } request).1 = .error e →
        (validate c s { clock := clock } request).1 = .error e)
    ∧ (∀ faults e conn,
      untilClaim c clock request ⟨s.toWork, faults, s.draws⟩ = (.error e, conn) →
        (submit c s ⟨faults, clock⟩ request).1 = .error (errorClass e)
        ∧ (validate c s ⟨faults, clock⟩ request).1 = .error (errorClass e))
    ∧ ∀ faults, (validate c s ⟨faults, clock⟩ request).2.db = s.db := by
  refine ⟨fun h => ⟨fun ack hack => ?_, fun e he => ?_⟩, fun faults e conn h => ?_,
    fun faults => validate_keeps_database s _ request⟩
  · refine ⟨validationReportFromAck ack, ?_, reports_validationReport ack⟩
    rw [submit, accept_mode_eq s h] at hack
    simp only [validate, hack]
    rfl
  · rw [submit, accept_mode_eq s h] at he
    simp only [validate, he]
    rfl
  · refine ⟨accept_of_untilClaim_error s ⟨faults, clock⟩ true h, ?_⟩
    simp only [validate, accept_of_untilClaim_error s ⟨faults, clock⟩ false h]
    rfl

def mixedRequest : IngestRequest :=
  { Ingest.benchRequest with envelope.items :=
      [Ingest.benchReading, { Ingest.benchReading with measurementKey := "" }] }

theorem mixedRequest_reported :
    ∃ report,
      (validate Ingest.benchComponents Ingest.bench.collector { clock := .ok ⟨1000, none⟩ }
        mixedRequest).1 = .ok report
      ∧ Reports ⟨"e1", .accepted [.stored .durable none, .itemRejected
          ⟨.malformedMeasurementKey, "measurement_key is empty",
            some "/items/1/measurement_key", some "canonical measurement key"⟩]⟩ report := by
  have hfree : Unclaimed Ingest.bench.collector.db.dedup (.ok ⟨1000, none⟩) mixedRequest := by
    refine ⟨.nil, ?_, fun _ _ r hr => nomatch hr⟩
    rintro _ ⟨⟩
    decide
  exact ((validate_predicts_submit _ Ingest.bench.collector _ _).1 hfree).1 _ (by decide +kernel)

end Collector

end EdgeNode
