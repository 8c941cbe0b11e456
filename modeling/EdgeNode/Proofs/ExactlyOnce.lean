import EdgeNode.Ingest.Run
import EdgeNode.Proofs.Dedup
import EdgeNode.Proofs.Envelope

/-!
# An envelope is stored once

An answer may be lost after the commit, and the client then sends the envelope again. The claim is
made in the transaction that stores the envelope, so a timely repetition finds its claim and stores
nothing.
-/

namespace EdgeNode

open Tx

namespace Ingest

variable {ρ : Type} {c : Collector.Components ρ} {s s' : System ρ} {request : IngestRequest}
  {o : Collector.Circumstances} {log log' : List (Transaction ρ)}

/-! ## What is asked of a run -/

/-- The envelope is the one its identifier has stood for, the clock does not go back, and a
repetition is timely. -/
def Orderly (s : System ρ) (request : IngestRequest) (o : Collector.Circumstances) : Prop :=
  (∀ t ∈ s.log, t.request.principal.principalId = request.principal.principalId →
      t.request.envelope.envelopeId = request.envelope.envelopeId →
      t.request.envelope = request.envelope)
    ∧ ∀ snapshot ∈ o.clock.toOption, s.nowMs ≤ snapshot.receivedAtMs
      ∧ I64.minValue ≤ snapshot.receivedAtMs
      ∧ Dedup.Timely .default s.claims request.principal.principalId request.envelope.envelopeId
        snapshot.receivedAtMs

instance : Decidable (Orderly s request o) := inferInstanceAs (Decidable (_ ∧ _))

def Undisturbed (s : System ρ) : Event ρ → Prop
  | .send i o _ => ∀ request ∈ s.clients[i]?.bind nextRequest, Orderly s request o
  | .outside request o => Orderly s request o
  | .purge nowMs _ => s.nowMs ≤ nowMs
  | _ => True

instance (e : Event ρ) : Decidable (Undisturbed s e) := by
  cases e <;> unfold Undisturbed <;> infer_instance

structure Fresh (s : System ρ) : Prop where
  log : s.log = []
  dedup : s.collector.db.dedup = []
  resolved : ∀ client ∈ s.clients, client.resolved = []

def Transaction.Faithful (c : Collector.Components ρ) (t : Transaction ρ) : Prop :=
  (∃ ack snapshot statuses, t.answer = .ok ack ∧ ack.status = .accepted statuses
      ∧ t.clock = .ok snapshot
      ∧ Committed c.host t.request.principal.principalId snapshot.receivedAtMs
        t.request.envelope.items statuses t.before t.after)
    ∨ t.committed = false ∧ t.after = t.before

def Known (log : List (Transaction ρ)) (resolved : List Resolution) : Prop :=
  ∀ r ∈ resolved, ∀ ack, r.outcome = .final ack → ∃ t ∈ log, t.request = r.request ∧ t.answer = .ok ack

structure Sound (c : Collector.Components ρ) (s : System ρ) : Prop where
  window : Dedup.Window .default s.claims s.collector.db.dedup s.nowMs
  faithful : ∀ t ∈ s.log, t.Faithful c
  duplicates : ∀ t ∈ s.log, ∀ ack, t.answer = .ok ack → ack.status = .duplicate →
    ∃ t' ∈ s.log, t'.isFor t.request ∧ t'.committed
  finals : ∀ client ∈ s.clients, Known s.log client.resolved

theorem Fresh.sound (h : Fresh s) : Sound c s where
  window := by
    have hclaims : s.claims = [] := by simp [System.claims, h.log]
    rw [hclaims, h.dedup]
    exact .empty _ _
  faithful := by simp [h.log]
  duplicates := by simp [h.log]
  finals client hc := by simp [Known, h.resolved client hc]

/-! ## The clients -/

section Client

variable {client : Client}

theorem Known.mono {resolved : List Resolution} (h : Known log resolved)
    (hsub : ∀ t ∈ log, t ∈ log') : Known log' resolved := fun r hr ack hack =>
  let ⟨t, ht, h'⟩ := h r hr ack hack
  ⟨t, hsub t ht, h'⟩

theorem Known.resolve {receipt : Option ℕ} {outcome : DeliveryOutcome}
    (h : Known log client.resolved)
    (ho : ∀ ack, outcome = .final ack → ∃ t ∈ log, t.request = request ∧ t.answer = .ok ack) :
    Known log (client.resolve receipt request outcome).resolved := by
  unfold Client.resolve
  split
  · intro r hr
    rcases List.mem_append.1 hr with hr | hr
    · exact h r hr
    · obtain rfl := List.mem_singleton.1 hr
      exact ho
  · exact h

theorem Known.abandon {receipt : Option ℕ} {reason : AbandonReason} {retry : Envelope}
    (h : Known log client.resolved) :
    Known log (client.resolve receipt request (.abandonedBeforeFinal reason retry)).resolved :=
  h.resolve (by simp)

theorem Known.foldl {α : Type} {f : Client → α → Client}
    (hf : ∀ client a, Known log client.resolved → Known log (f client a).resolved) :
    ∀ (l : List α) {client : Client}, Known log client.resolved → Known log (l.foldl f client).resolved
  | [], _, h => h
  | a :: l, _, h => Known.foldl hf l (hf _ a h)

theorem Known.abandonAll (h : Known log client.resolved) (reason : AbandonReason) :
    Known log (client.abandonAll reason).resolved :=
  Known.foldl (fun _ _ h => h.abandon) _ (Known.foldl (fun _ _ h => h.abandon) _ h)

theorem Known.dropOldest (h : Known log client.resolved) : Known log client.dropOldest.resolved := by
  unfold Client.dropOldest
  split
  · exact h
  · exact Known.abandon h

theorem Known.pushBounded {submission : Submission} (h : Known log client.resolved) :
    Known log (client.pushBounded submission).resolved := by
  unfold Client.pushBounded
  dsimp only
  split_ifs
  · exact h.dropOldest
  · exact h

theorem Known.answered {answer : Except SubmitError EnvelopeAck} (h : Known log client.resolved)
    (ha : ∀ request ack, client.spool.head?.map SpoolEntry.request = some request →
      answer = .ok ack → ∃ t ∈ log, t.request = request ∧ t.answer = .ok ack) :
    Known log (client.answered answer).resolved := by
  unfold Client.answered
  split
  · exact h
  · rename_i entry rest hspool
    split
    · rename_i ack
      split_ifs
      · exact h
      · refine Known.resolve h fun ack' hack' => ?_
        obtain rfl : ack = ack' := by simpa using hack'
        exact ha entry.request ack (by simp [hspool]) rfl
    · exact h.abandonAll _
    · exact h

end Client

theorem Sound.onClient {i : ℕ} {f : Client → Option Client} (h : Sound c s)
    (hf : ∀ client client', s.clients[i]? = some client → f client = some client' →
      Known s.log client.resolved → Known s.log client'.resolved)
    (hs : onClient s i f = some s') : Sound c s' := by
  obtain ⟨client', hclient', rfl⟩ := Option.map_eq_some_iff.1 hs
  obtain ⟨client, hclient, hfc⟩ := Option.bind_eq_some_iff.1 hclient'
  refine ⟨h.window, h.faithful, h.duplicates, fun x hx => ?_⟩
  rcases List.mem_or_eq_of_mem_set hx with hx | rfl
  · exact h.finals x hx
  · exact hf client x hclient hfc (h.finals client (List.mem_of_getElem? hclient))

/-! ## The collector -/

theorem Orderly.timely (h : Orderly s request o) {snapshot : FreshnessSnapshot}
    (hclock : o.clock = .ok snapshot) :
    s.nowMs ≤ snapshot.receivedAtMs ∧ I64.minValue ≤ snapshot.receivedAtMs
      ∧ Dedup.Timely .default s.claims request.principal.principalId request.envelope.envelopeId
        snapshot.receivedAtMs :=
  h.2 snapshot (by rw [hclock]; rfl)

theorem Orderly.later (h : Orderly s request o) : s.nowMs ≤ (process c s request o).nowMs := by
  unfold process
  rcases hclock : o.clock with e | snapshot
  · exact le_rfl
  · exact (h.timely hclock).1

def ClaimOutcome (claims : DedupTable) (request : IngestRequest) (snapshot : FreshnessSnapshot)
    (claimed : Bool) (rows : DedupTable) : Prop :=
  if claimed then (∀ r ∈ claims,
        r.isFor request.principal.principalId request.envelope.envelopeId = false)
      ∧ Dedup.Window .default (claims ++ [⟨request.principal.principalId,
        request.envelope.envelopeId, snapshot.receivedAtMs⟩]) rows snapshot.receivedAtMs
  else ∃ r ∈ claims, r.isFor request.principal.principalId request.envelope.envelopeId

theorem Sound.claimKeeps (h : Sound c s) (ho : Orderly s request o) :
    Collector.ClaimKeeps (ClaimOutcome s.claims request) o.clock request
      s.collector.db.dedup := by
  intro snapshot n hclock
  obtain ⟨hlater, hmin, htimely⟩ := ho.timely hclock
  exact Dedup.tryClaimEnvelopeBoundedAt_wp (h.window.later hlater) hmin htimely

theorem Orderly.claimed (ho : Orderly s request o) {r : DedupRow} (hr : r ∈ s.claims)
    (hfor : r.isFor request.principal.principalId request.envelope.envelopeId) :
    ∃ t ∈ s.log, t.isFor request ∧ t.committed := by
  obtain ⟨t, ht, hclaim⟩ := List.mem_filterMap.1 hr
  unfold Transaction.claim at hclaim
  split at hclaim
  · rename_i snapshot hcommitted _
    obtain rfl := Option.some.inj hclaim
    obtain ⟨hsender, hid⟩ : t.request.principal.principalId = request.principal.principalId
        ∧ t.request.envelope.envelopeId = request.envelope.envelopeId := by
      simpa [DedupRow.isFor] using hfor
    exact ⟨t, ht, by simp [Transaction.isFor, hsender, ho.1 t ht hsender hid], hcommitted⟩
  · simp at hclaim

namespace Transaction

variable {t : Transaction ρ}

theorem not_committed (h : ∀ ack statuses, t.answer = .ok ack → ack.status ≠ .accepted statuses) :
    t.committed = false := by
  unfold committed
  split
  · rename_i id statuses hanswer
    exact absurd rfl (h _ statuses hanswer)
  · rfl

theorem claim_of_not_committed (h : t.committed = false) : t.claim = none := by
  unfold claim
  rw [h]

theorem claim_of_committed {snapshot : FreshnessSnapshot} (h : t.committed)
    (hclock : t.clock = .ok snapshot) : t.claim = some ⟨t.request.principal.principalId,
      t.request.envelope.envelopeId, snapshot.receivedAtMs⟩ := by
  unfold claim
  rw [h, hclock]

theorem committed_of_accepted {ack : EnvelopeAck} {statuses : List ItemStatus}
    (h : t.answer = .ok ack) (hstatus : ack.status = .accepted statuses) : t.committed := by
  obtain ⟨id, status⟩ := ack
  obtain rfl : status = .accepted statuses := hstatus
  unfold committed
  rw [h]

end Transaction

theorem Sound.append {t : Transaction ρ} {collector : Collector.State ρ} {nowMs : ℤ} (h : Sound c s)
    (hwindow : Dedup.Window .default (s.claims ++ t.claim.toList) collector.db.dedup nowMs)
    (hfaithful : t.Faithful c)
    (hduplicate : ∀ ack, t.answer = .ok ack → ack.status = .duplicate →
      ∃ t' ∈ s.log, t'.isFor t.request ∧ t'.committed) :
    Sound c { s with collector := collector, log := s.log ++ [t], nowMs := nowMs } where
  window := by
    have hclaims : (s.log ++ [t]).filterMap Transaction.claim = s.claims ++ t.claim.toList := by
      rw [List.filterMap_append]
      cases ht : t.claim <;> simp [System.claims, ht]
    rw [← hclaims] at hwindow
    exact hwindow
  faithful t' ht' := by
    rcases List.mem_append.1 ht' with ht' | ht'
    · exact h.faithful t' ht'
    · exact List.mem_singleton.1 ht' ▸ hfaithful
  duplicates t' ht' ack hack hdup := by
    have hfound : ∃ t'' ∈ s.log, t''.isFor t'.request ∧ t''.committed := by
      rcases List.mem_append.1 ht' with ht' | ht'
      · exact h.duplicates t' ht' ack hack hdup
      · obtain rfl := List.mem_singleton.1 ht'
        exact hduplicate ack hack hdup
    obtain ⟨t'', ht'', hrest⟩ := hfound
    exact ⟨t'', List.mem_append_left _ ht'', hrest⟩
  finals client hc := (h.finals client hc).mono fun _ => List.mem_append_left _

theorem Sound.append_unchanged {t : Transaction ρ} {collector : Collector.State ρ} {nowMs : ℤ}
    (h : Sound c s) (hnow : s.nowMs ≤ nowMs) (hnot : t.committed = false)
    (hafter : t.after = t.before) (hdb : collector.db = s.collector.db)
    (hduplicate : ∀ ack, t.answer = .ok ack → ack.status = .duplicate →
      ∃ t' ∈ s.log, t'.isFor t.request ∧ t'.committed) :
    Sound c { s with collector := collector, log := s.log ++ [t], nowMs := nowMs } := by
  refine h.append ?_ (.inr ⟨hnot, hafter⟩) hduplicate
  rw [Transaction.claim_of_not_committed hnot, hdb]
  simpa using h.window.later hnow

theorem Sound.process (h : Sound c s) (ho : Orderly s request o) :
    Sound c (process c s request o) := by
  have hlater : s.nowMs ≤ (Ingest.process c s request o).nowMs := ho.later
  rcases Collector.submit_answered (c := c) s.collector o request (h.claimKeeps ho) with
    ⟨ack, hack, -, hanswered⟩ | ⟨e, he, hdb⟩
  · rcases hanswered with ⟨hdb, hstatus⟩ | ⟨snapshot, statuses, hclock, hstatus, hclaim, hcommitted⟩
    · -- Rejected, or a duplicate, whose claim is in the log.
      refine h.append_unchanged hlater (Transaction.not_committed fun ack' st hack' => ?_) hdb hdb
        fun ack' hack' hdup => ?_ <;>
      obtain rfl : ack = ack' := Except.ok.inj (hack.symm.trans hack')
      · rcases hstatus with ⟨rejection, hstatus⟩ | ⟨hstatus, -⟩ <;> simp [hstatus]
      · rcases hstatus with ⟨rejection, hstatus⟩ | ⟨-, snapshot, rows, -, r, hr, hfor⟩
        · simp [hstatus] at hdup
        · exact ho.claimed hr hfor
    · refine h.append ?_ (.inl ⟨ack, snapshot, statuses, hack, hstatus, hclock, hcommitted⟩)
        fun ack' hack' hdup => ?_
      · rw [Transaction.claim_of_committed (Transaction.committed_of_accepted hack hstatus) hclock,
          hclock]
        exact hclaim.2
      · obtain rfl : ack = ack' := Except.ok.inj (hack.symm.trans hack')
        simp [hstatus] at hdup
  · exact h.append_unchanged hlater
      (Transaction.not_committed fun ack _ hack => (nomatch hack.symm.trans he)) hdb hdb
      fun ack hack => (nomatch hack.symm.trans he)

theorem purge_dedup (nowMs : ℤ) (faults : List Bool) (s : System ρ) :
    (purge nowMs faults s).collector.db.dedup = s.collector.db.dedup
      ∨ (purge nowMs faults s).collector.db.dedup = s.collector.db.dedup.filter
        fun r => !decide (r.receivedAt < nowMs - dedupTtlMs) := by
  rcases faults with _ | ⟨_ | _, fs⟩
  · exact .inr rfl
  · exact .inr rfl
  · exact .inl rfl

theorem Sound.purge {nowMs : ℤ} {faults : List Bool} (h : Sound c s) (hnow : s.nowMs ≤ nowMs) :
    Sound c (purge nowMs faults s) := by
  have hwindow := h.window.later hnow
  refine ⟨?_, h.faithful, h.duplicates, h.finals⟩
  rcases purge_dedup nowMs faults s with hrows | hrows <;> rw [hrows]
  · exact hwindow
  · exact hwindow.purge

/-! ## The run -/

theorem Sound.send {i : ℕ} {delivered : Bool} (h : Sound c s)
    (ho : ∀ request ∈ s.clients[i]?.bind nextRequest, Orderly s request o)
    (hs : send c s i o delivered = some s') : Sound c s' := by
  obtain ⟨request, hrequest, hs⟩ := Option.bind_eq_some_iff.1 hs
  obtain ⟨client, hclient, hnext⟩ := Option.bind_eq_some_iff.1 hrequest
  refine (h.process (ho request hrequest)).onClient (fun client₁ client' hclient₁ hanswered hknown =>
    ?_) hs
  obtain rfl : client = client₁ := Option.some.inj (hclient.symm.trans hclient₁)
  obtain rfl := Option.some.inj hanswered
  refine hknown.answered fun request' ack hrequest' hack => ?_
  -- The answer is the one the log has just taken up, and only when it arrived.
  unfold nextRequest at hnext
  split_ifs at hnext
  obtain rfl : request = request' := Option.some.inj (hnext.symm.trans hrequest')
  cases delivered with
  | true => exact ⟨_, List.mem_append_right _ (List.mem_singleton_self _), rfl, hack⟩
  | false => simp at hack

theorem Sound.step {e : Event ρ} (he : Undisturbed s e) (h : Sound c s)
    (hs : step c s e = some s') : Sound c s' := by
  cases e with
  | trySubmit i submission =>
    refine h.onClient (fun client client' _ hsubmit hknown => ?_) hs
    unfold Client.trySubmit at hsubmit
    split_ifs at hsubmit <;> simp [Except.toOption] at hsubmit
    exact hsubmit ▸ hknown
  | receive i =>
    refine h.onClient (fun client client' _ hreceive hknown => ?_) hs
    unfold Client.receive at hreceive
    split at hreceive
    · split_ifs at hreceive
      obtain rfl := Option.some.inj hreceive
      exact Known.pushBounded hknown
    · simp at hreceive
  | elapse i =>
    refine h.onClient (fun client client' _ helapse hknown => ?_) hs
    unfold Client.elapse at helapse
    split_ifs at helapse
    exact Option.some.inj helapse ▸ hknown
  | shutdown i =>
    refine h.onClient (fun client client' _ hshutdown hknown => ?_) hs
    unfold Client.shutdown at hshutdown
    split_ifs at hshutdown
    exact Option.some.inj hshutdown ▸ hknown.abandonAll _
  | send i o delivered => exact h.send he hs
  | collectorClosed i =>
    refine h.onClient (fun client client' _ hclosed hknown => ?_) hs
    split_ifs at hclosed
    obtain rfl := Option.some.inj hclosed
    exact hknown.answered (by simp)
  | outside request o => exact Option.some.inj hs ▸ h.process he
  | purge nowMs faults => exact Option.some.inj hs ▸ h.purge he
  | elsewhere db =>
    simp only [Ingest.step] at hs
    split_ifs at hs with hdedup
    obtain rfl := Option.some.inj hs
    exact ⟨hdedup ▸ h.window, h.faithful, h.duplicates, h.finals⟩

theorem Transaction.Faithful.claimed {t : Transaction ρ} (h : t.Faithful c) (hcommitted : t.committed)
    (hfor : t.isFor request) : ∃ receivedAt, t.claim
      = some ⟨request.principal.principalId, request.envelope.envelopeId, receivedAt⟩ := by
  rcases h with ⟨ack, snapshot, statuses, -, -, hclock, -⟩ | ⟨hnot, -⟩
  · obtain ⟨hsender, henvelope⟩ : t.request.principal.principalId = request.principal.principalId
        ∧ t.request.envelope = request.envelope := by simpa [Transaction.isFor] using hfor
    exact ⟨snapshot.receivedAtMs, by
      rw [Transaction.claim_of_committed hcommitted hclock, hsender, henvelope]⟩
  · simp [hnot] at hcommitted

theorem Sound.writes_le_one (h : Sound c s) (request : IngestRequest) :
    (s.writes request).length ≤ 1 := by
  have hclaims : s.log.Pairwise fun t t' => ∀ r ∈ t.claim, ∀ r' ∈ t'.claim,
      r.isFor r'.senderId r'.envelopeId = false := List.pairwise_filterMap.1 h.window.distinct
  have hwrites : (s.writes request).Pairwise fun _ _ => False := by
    refine (List.pairwise_filter.2 (hclaims.imp_of_mem fun {t t'} ht ht' hne hfor hfor' => ?_))
    simp only [Bool.and_eq_true] at hfor hfor'
    obtain ⟨at₁, hr⟩ := (h.faithful t ht).claimed hfor.2 hfor.1
    obtain ⟨at₂, hr'⟩ := (h.faithful t' ht').claimed hfor'.2 hfor'.1
    have := hne _ hr _ hr'
    simp [DedupRow.isFor] at this
  rcases hlist : s.writes request with _ | ⟨t, _ | ⟨t', rest⟩⟩
  · simp
  · simp
  · rw [hlist] at hwrites
    exact (List.rel_of_pairwise_cons hwrites List.mem_cons_self).elim

theorem Sound.writes_of_final (h : Sound c s) {client : Client} (hc : client ∈ s.clients)
    {r : Resolution} (hr : r ∈ client.resolved) {ack : EnvelopeAck} (hack : r.outcome = .final ack)
    (hstatus : ack.status = .duplicate ∨ ∃ statuses, ack.status = .accepted statuses) :
    (s.writes r.request).length = 1 := by
  obtain ⟨t, ht, hrequest, hanswer⟩ := h.finals client hc r hr ack hack
  have hwritten : ∃ t' ∈ s.log, t'.isFor r.request ∧ t'.committed := by
    rcases hstatus with hdup | ⟨statuses, haccepted⟩
    · exact hrequest ▸ h.duplicates t ht ack hanswer hdup
    · exact ⟨t, ht, by simp [Transaction.isFor, hrequest],
        Transaction.committed_of_accepted hanswer haccepted⟩
  obtain ⟨t', ht', hfor, hcommitted⟩ := hwritten
  have hmem : t' ∈ s.writes r.request := List.mem_filter.2 ⟨ht', by simp [hfor, hcommitted]⟩
  exact le_antisymm (h.writes_le_one _) (List.length_pos_of_mem hmem)

/-- In every run in which repetitions are timely, the clock does not go back and an identifier stands
for one envelope, no envelope is committed twice, whatever answers are lost. An envelope whose receipt
says accepted or duplicate was committed by exactly one transaction, and a committed transaction is
one that stored what its statuses say. -/
theorem run_stores_envelope_once (c : Collector.Components ρ) (s₀ : System ρ) (hfresh : Fresh s₀)
    (events : List (Event ρ)) (hrun : Machine.Along (step c) Undisturbed s₀ events) (s : System ρ)
    (hs : Machine.run (step c) s₀ events = some s) :
    (∀ request, (s.writes request).length ≤ 1)
    ∧ (∀ client ∈ s.clients, ∀ r ∈ client.resolved, ∀ ack, r.outcome = .final ack →
        (ack.status = .duplicate ∨ ∃ statuses, ack.status = .accepted statuses) →
        (s.writes r.request).length = 1)
    ∧ ∀ t ∈ s.log, t.Faithful c := by
  have h : Sound c s := Machine.run_invariant_along (fun s e s' he h hs => h.step he hs) hrun
    hfresh.sound hs
  exact ⟨h.writes_le_one, fun client hc r hr ack hack => h.writes_of_final hc hr hack, h.faithful⟩

section Bench

def benchComponents : Collector.Components Unit where
  host :=
    { sha256 := id, uuid := fun n => toString n, nowMs := fun n => n, uptimeMs := fun n => n,
      showFloat := fun _ => ['1'], displayFloat := fun _ => "1" }
  policy := permissiveRegistry

def benchReading : ReadingItem where
  subjectHint := some "hw-1"
  measurementKey := "temperature"
  values := [.finite 3 0]
  timeSource := .edgeNode

def benchRequest : IngestRequest where
  principal := .trustedOfficialAdapter "local:bench" "bench"
  envelope := ⟨"e1", "bench", [benchReading]⟩

def benchSensor : DeviceRow where
  hardwareId := "hw-1"
  kind := .individual
  state := .active
  createdAt := 0

def bench : System Unit where
  collector.db :=
    { NodeDb.empty "epoch" () with ledger.devices := AList.singleton ⟨7⟩ benchSensor }
  clients := [{ principal := benchRequest.principal, queueCap := 4, spoolCap := 4 }]

def lostAnswer : List (Event Unit) :=
  [.trySubmit 0 ⟨benchRequest.envelope, some 0⟩, .receive 0, .send 0 ⟨[], .ok ⟨1000, none⟩⟩ false,
    .elapse 0, .send 0 ⟨[], .ok ⟨1100, none⟩⟩ true]

theorem lostAnswer_stored_once :
    (Machine.run (step benchComponents) bench lostAnswer).map
        (fun s => s.clients.flatMap (·.resolved))
        = some [⟨0, benchRequest, .final ⟨"e1", .duplicate⟩⟩]
      ∧ ∃ s, Machine.run (step benchComponents) bench lostAnswer = some s
        ∧ (s.writes benchRequest).length = 1 := by
  have hresolved : (Machine.run (step benchComponents) bench lostAnswer).map
      (fun s => s.clients.flatMap (·.resolved))
      = some [⟨0, benchRequest, .final ⟨"e1", .duplicate⟩⟩] := by decide +kernel
  obtain ⟨s, hs, hr⟩ := Option.map_eq_some_iff.1 hresolved
  have hmem : (⟨0, benchRequest, .final ⟨"e1", .duplicate⟩⟩ : Resolution)
      ∈ s.clients.flatMap (·.resolved) := hr ▸ List.mem_singleton_self _
  obtain ⟨client, hc, hr⟩ := List.mem_flatMap.1 hmem
  exact ⟨hresolved, s, hs, (run_stores_envelope_once benchComponents bench
    ⟨rfl, rfl, by decide +kernel⟩ lostAnswer (by decide +kernel) s hs).2.1 client hc _ hr _ rfl
      (.inl rfl)⟩

end Bench

end Ingest

end EdgeNode
