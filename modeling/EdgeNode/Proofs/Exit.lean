import EdgeNode.Ingest.Exit
import EdgeNode.Proofs.Spool

/-!
# The receipts of a client that exits

Every receipt a call has returned with was told, or is with a submission in the spool, in the queue
or among the dropped ones (`Custody`). Once the channel has reported that it is empty, what is stored
in it and what calls still have to store stays where nobody takes it (`adrift_step`).
-/

namespace EdgeNode

namespace Ingest

variable {client client' : Client} {s s' : ClientTask}

/-! ## The receipts a client answers for -/

namespace Client

def receipts (client : Client) : List ℕ :=
  client.resolved.map Resolution.receipt ++ client.spool.filterMap SpoolEntry.receipt
    ++ client.queue.filterMap Submission.receipt

def Told (client : Client) (receipt : ℕ) : Prop :=
  ∃ resolution ∈ client.resolved, resolution.receipt = receipt

def Has (client : Client) (receipt : ℕ) : Prop :=
  ∃ submission ∈ client.held, submission.receipt = some receipt

theorem mem_receipts {receipt : ℕ} :
    receipt ∈ client.receipts ↔ client.Told receipt ∨ client.Has receipt := by
  simp only [receipts, Told, Has, held, List.mem_append, List.mem_map, List.mem_filterMap, or_assoc,
    or_and_right, exists_or, SpoolEntry.submission]
  simp

structure Alike (client client' : Client) : Prop where
  receipts : client'.receipts.Perm client.receipts
  closed : client'.closed = client.closed

theorem alike_pop {entry : SpoolEntry} {rest : List SpoolEntry}
    (hspool : client.spool = entry :: rest) (outcome : DeliveryOutcome) :
    Alike client ({ client with spool := rest }.resolve entry.receipt entry.request outcome) := by
  rw [resolve_eq]
  refine ⟨?_, rfl⟩
  cases hreceipt : entry.receipt <;> simp [receipts, hspool, hreceipt]

theorem alike_take {submission : Submission} {rest : List Submission}
    (hqueue : client.queue = submission :: rest) (request : IngestRequest)
    (outcome : DeliveryOutcome) :
    Alike client ({ client with queue := rest }.resolve submission.receipt request outcome) := by
  rw [resolve_eq]
  refine ⟨?_, rfl⟩
  cases hreceipt : submission.receipt with
  | none => simp [receipts, hqueue, hreceipt]
  | some receipt => simpa [receipts, hqueue, hreceipt] using List.perm_middle.symm.append_left _

theorem Alike.trans {client'' : Client} (h : Alike client client') (h' : Alike client' client'') :
    Alike client client'' :=
  ⟨h'.receipts.trans h.receipts, h'.closed.trans h.closed⟩

theorem alike_dropOldest (client : Client) : Alike client client.dropOldest := by
  unfold dropOldest
  split
  · exact ⟨List.Perm.refl _, rfl⟩
  · rename_i entry rest hspool
    obtain ⟨hreceipts, hclosed⟩ := alike_pop hspool
      (.abandonedBeforeFinal .spoolOverflow entry.request.envelope)
    exact ⟨hreceipts, hclosed⟩

theorem alike_push {submission : Submission} {rest : List Submission}
    (hqueue : client.queue = submission :: rest) : Alike client { client with
      queue := rest
      spool := client.spool
        ++ [⟨⟨client.principal, submission.envelope⟩, submission.receipt⟩] } := by
  refine ⟨?_, rfl⟩
  cases hreceipt : submission.receipt <;> simp [receipts, hqueue, hreceipt]

theorem alike_receive (h : client.receive = some client') : Alike client client' := by
  unfold receive at h
  split at h
  · rename_i submission rest hqueue
    split_ifs at h
    obtain rfl := Option.some.inj h
    unfold pushBounded
    by_cases hfull : client.spoolCap ≤ client.spool.length
    · have hdropped := alike_dropOldest client
      rw [if_pos hfull]
      rw [dropOldest_eq] at hdropped ⊢
      exact hdropped.trans (alike_push hqueue)
    · rw [if_neg hfull]
      exact alike_push hqueue
  · exact nomatch h

theorem alike_elapse (h : client.elapse = some client') : Alike client client' := by
  unfold elapse at h
  split_ifs at h
  obtain rfl := Option.some.inj h
  exact ⟨List.Perm.refl _, rfl⟩

theorem alike_answered {result : Except SubmitError EnvelopeAck} (h : result ≠ .error .closed) :
    Alike client (client.answered result) := by
  unfold answered
  split
  · exact ⟨List.Perm.refl _, rfl⟩
  · rename_i entry rest hspool
    split
    · rename_i ack
      split_ifs
      · exact ⟨List.Perm.refl _, rfl⟩
      · obtain ⟨hreceipts, hclosed⟩ := alike_pop hspool (.final ack)
        exact ⟨hreceipts, hclosed⟩
    · exact absurd rfl h
    · exact ⟨List.Perm.refl _, rfl⟩

end Client

/-! ## Where the receipts are -/

def TaskPhase.past : TaskPhase → Bool
  | .running | .draining _ => false
  | .leaving _ | .exited => true

namespace ClientTask

/-- Every receipt a call has returned with is told, with the client or with what was dropped, and
no two calls have the same one. -/
structure Custody (s : ClientTask) : Prop where
  account : s.returned.Perm (s.client.receipts ++ s.lost.filterMap Submission.receipt)
  distinct : (s.returned ++ s.permits.filterMap Submission.receipt).Nodup
  numbered : ∀ r ∈ s.returned ++ s.permits.filterMap Submission.receipt, r < s.receipts
  closed : s.phase ≠ .running → s.client.closed = true
  exited : s.phase = .exited → s.client.held = []
  lost : s.phase ≠ .exited → s.lost = []

theorem custody_fresh (principal : IngestPrincipal) (queueCap spoolCap : ℕ) :
    (fresh principal queueCap spoolCap).Custody where
  account := List.Perm.refl _
  distinct := List.nodup_nil
  numbered := by simp [fresh]
  closed h := absurd rfl h
  exited := nofun
  lost _ := rfl

theorem Custody.reserve (h : s.Custody) {submission : Submission}
    (hnew : ∀ r ∈ submission.receipt, r < s.receipts
      ∧ r ∉ s.returned ++ s.permits.filterMap Submission.receipt) :
    (s.reserve submission).Custody := by
  unfold ClientTask.reserve
  split_ifs
  · exact h
  · have hsplit : s.returned ++ (s.permits ++ [submission]).filterMap Submission.receipt
        = s.returned ++ s.permits.filterMap Submission.receipt ++ submission.receipt.toList := by
      cases hreceipt : submission.receipt <;> simp [hreceipt]
    refine ⟨h.account, ?_, fun r hr => ?_, h.closed, h.exited, h.lost⟩
    · rw [hsplit]
      cases hreceipt : submission.receipt with
      | none => simpa using h.distinct
      | some receipt =>
        exact h.distinct.append (List.nodup_singleton receipt)
          (List.disjoint_singleton.2 (hnew receipt hreceipt).2)
    · rw [hsplit] at hr
      rcases List.mem_append.1 hr with hr | hr
      · exact h.numbered r hr
      · exact (hnew r (by simpa using hr)).1

theorem Custody.store (h : s.Custody) {submission : Submission} (hmem : submission ∈ s.permits) :
    (s.store submission).Custody := by
  -- the receipt moves from those on their way to those that were returned
  have hmoved : (s.returned ++ submission.receipt.toList
      ++ (s.permits.erase submission).filterMap Submission.receipt).Perm
      (s.returned ++ s.permits.filterMap Submission.receipt) := by
    rw [List.append_assoc]
    refine List.Perm.append_left _ ?_
    have hperm := (List.perm_cons_erase hmem).filterMap Submission.receipt
    cases hreceipt : submission.receipt <;> simpa [hreceipt] using hperm.symm
  unfold ClientTask.store
  dsimp only
  by_cases hphase : s.phase = .exited
  · rw [if_pos hphase]
    refine ⟨?_, hmoved.nodup_iff.2 h.distinct, fun r hr => h.numbered r (hmoved.mem_iff.1 hr),
      h.closed, h.exited, fun hp => absurd hphase hp⟩
    have haccount := h.account.append_right submission.receipt.toList
    cases hreceipt : submission.receipt <;> simpa [hreceipt] using haccount
  · rw [if_neg hphase]
    refine ⟨?_, hmoved.nodup_iff.2 h.distinct, fun r hr => h.numbered r (hmoved.mem_iff.1 hr),
      h.closed, fun hp => absurd hp hphase, h.lost⟩
    have haccount := h.account.append_right submission.receipt.toList
    rw [h.lost hphase] at haccount ⊢
    cases hreceipt : submission.receipt <;>
      simpa [Client.receipts, hreceipt] using haccount

theorem Custody.alike (h : s.Custody) (halike : s.client.Alike client)
    (hphase : s.phase ≠ .exited) : Custody { s with client := client } where
  account := h.account.trans (halike.receipts.symm.append_right _)
  distinct := h.distinct
  numbered := h.numbered
  closed hp := halike.closed.trans (h.closed hp)
  exited hp := absurd hp hphase
  lost := h.lost

theorem Custody.close (h : s.Custody) (reason : AbandonReason) (hphase : s.phase ≠ .exited) :
    (s.close reason).Custody where
  account := h.account
  distinct := h.distinct
  numbered := h.numbered
  closed _ := rfl
  exited := nofun
  lost _ := h.lost hphase

theorem Custody.exit (h : s.Custody) (hs : s.exit = some s') : s'.Custody := by
  unfold ClientTask.exit at hs
  split at hs
  · rename_i reason hphase hspool
    obtain rfl := Option.some.inj hs
    have hlost := h.lost (by simp [hphase])
    refine ⟨?_, h.distinct, h.numbered, fun _ => h.closed (by simp [hphase]), fun _ => ?_,
      fun hp => absurd rfl hp⟩
    · simpa [Client.receipts, hlost] using h.account
    · simp [Client.held, hspool]
  · cases hs

theorem Custody.step (h : s.Custody) {event : TaskEvent} (hs : s.step event = some s') :
    s'.Custody := by
  cases event with
  | trySubmit envelope =>
    simp only [ClientTask.step] at hs
    split_ifs at hs
    obtain rfl := Option.some.inj hs
    exact h.reserve (by simp)
  | trySubmitWithReceipt envelope =>
    simp only [ClientTask.step] at hs
    split_ifs at hs
    obtain rfl := Option.some.inj hs
    have hmade : Custody { s with receipts := s.receipts + 1 } :=
      ⟨h.account, h.distinct, fun r hr => Nat.lt_succ_of_lt (h.numbered r hr), h.closed, h.exited,
        h.lost⟩
    refine hmade.reserve ?_
    rintro r ⟨⟩
    exact ⟨Nat.lt_succ_self _, fun hr => absurd (h.numbered _ hr) (lt_irrefl _)⟩
  | store submission =>
    simp only [ClientTask.step] at hs
    split_ifs at hs with hmem
    obtain rfl := Option.some.inj hs
    exact h.store hmem
  | handlesDropped =>
    simp only [ClientTask.step] at hs
    split_ifs at hs
    obtain rfl := Option.some.inj hs
    exact ⟨h.account, h.distinct, h.numbered, h.closed, h.exited, h.lost⟩
  | receive =>
    simp only [ClientTask.step] at hs
    split_ifs at hs with hphase
    obtain ⟨client, hclient, rfl⟩ := Option.map_eq_some_iff.1 hs
    exact h.alike (Client.alike_receive hclient) (by simp [hphase])
  | elapse =>
    simp only [ClientTask.step] at hs
    split_ifs at hs with hphase
    obtain ⟨client, hclient, rfl⟩ := Option.map_eq_some_iff.1 hs
    exact h.alike (Client.alike_elapse hclient) (by simp [hphase])
  | answer result =>
    simp only [ClientTask.step] at hs
    split_ifs at hs with hready
    split at hs
    · obtain rfl := Option.some.inj hs
      exact h.close _ (by simp [hready.1])
    · rename_i hother
      obtain rfl := Option.some.inj hs
      exact h.alike (Client.alike_answered hother) (by simp [hready.1])
  | inputEnded =>
    simp only [ClientTask.step] at hs
    split_ifs at hs with hready
    obtain rfl := Option.some.inj hs
    exact h.close _ (by simp [hready.1])
  | take =>
    simp only [ClientTask.step, ClientTask.take] at hs
    split at hs
    · rename_i hphase hqueue
      obtain rfl := Option.some.inj hs
      exact h.alike (Client.alike_take hqueue _ _) (by simp [hphase])
    · exact nomatch hs
  | reportsEmpty =>
    simp only [ClientTask.step, ClientTask.reportsEmpty] at hs
    split at hs
    · rename_i hphase
      split_ifs at hs
      obtain rfl := Option.some.inj hs
      exact ⟨h.account, h.distinct, h.numbered, fun _ => h.closed (by simp [hphase]), nofun,
        fun _ => h.lost (by simp [hphase])⟩
    · exact nomatch hs
  | giveUp =>
    simp only [ClientTask.step, ClientTask.giveUp] at hs
    split at hs
    · rename_i hphase hspool
      obtain rfl := Option.some.inj hs
      exact h.alike (Client.alike_pop hspool _) (by simp [hphase])
    · exact nomatch hs
  | exit => exact h.exit hs

/-! ## What nobody takes any more -/

def adrift (s : ClientTask) : List Submission := s.permits ++ s.client.queue ++ s.lost

theorem adrift_step (h : s.Custody) (hpast : s.phase.past = true) {event : TaskEvent}
    (hs : s.step event = some s') :
    s'.phase.past = true ∧ s'.adrift.Perm s.adrift := by
  have hclosed := h.closed (by intro hp; simp [hp, TaskPhase.past] at hpast)
  have hrunning : s.phase ≠ .running := by intro hp; simp [hp, TaskPhase.past] at hpast
  have hreserve : ∀ (receipts : ℕ) (submission : Submission),
      ({ s with receipts := receipts }.reserve submission)
        = { s with receipts := receipts } := by
    intro receipts submission
    exact if_pos (.inl hclosed)
  cases event with
  | trySubmit envelope =>
    simp only [ClientTask.step] at hs
    split_ifs at hs
    obtain rfl := Option.some.inj hs
    have hsame := hreserve s.receipts ⟨envelope, none⟩
    rw [hsame]
    exact ⟨hpast, List.Perm.refl _⟩
  | trySubmitWithReceipt envelope =>
    simp only [ClientTask.step] at hs
    split_ifs at hs
    obtain rfl := Option.some.inj hs
    rw [hreserve]
    exact ⟨hpast, List.Perm.refl _⟩
  | store submission =>
    simp only [ClientTask.step] at hs
    split_ifs at hs with hmem
    obtain rfl := Option.some.inj hs
    have hstored : ∀ stored, (s.permits.erase submission ++ (stored ++ [submission])).Perm
        (s.permits ++ stored) := by
      intro stored
      rw [← List.append_assoc]
      refine (List.perm_append_singleton submission _).trans ?_
      exact (List.perm_cons_erase hmem).symm.append_right stored
    unfold ClientTask.store
    dsimp only
    split_ifs
    · refine ⟨hpast, ?_⟩
      simpa [adrift] using hstored (s.client.queue ++ s.lost)
    · exact ⟨hpast, (hstored s.client.queue).append_right s.lost⟩
  | handlesDropped =>
    simp only [ClientTask.step] at hs
    split_ifs at hs
    obtain rfl := Option.some.inj hs
    exact ⟨hpast, List.Perm.refl _⟩
  | receive | elapse =>
    simp only [ClientTask.step] at hs
    rw [if_neg hrunning] at hs
    exact nomatch hs
  | answer result =>
    simp only [ClientTask.step] at hs
    rw [if_neg (fun hp => hrunning hp.1)] at hs
    exact nomatch hs
  | inputEnded =>
    simp only [ClientTask.step] at hs
    rw [if_neg (fun hp => hrunning hp.1)] at hs
    exact nomatch hs
  | take =>
    simp only [ClientTask.step, ClientTask.take] at hs
    split at hs
    · rename_i hphase _
      simp [hphase, TaskPhase.past] at hpast
    · exact nomatch hs
  | reportsEmpty =>
    simp only [ClientTask.step, ClientTask.reportsEmpty] at hs
    split at hs
    · rename_i hphase
      simp [hphase, TaskPhase.past] at hpast
    · exact nomatch hs
  | giveUp =>
    simp only [ClientTask.step, ClientTask.giveUp] at hs
    split at hs
    · obtain rfl := Option.some.inj hs
      rw [Client.resolve_eq]
      exact ⟨hpast, List.Perm.refl _⟩
    · exact nomatch hs
  | exit =>
    simp only [ClientTask.step, ClientTask.exit] at hs
    split at hs
    · obtain rfl := Option.some.inj hs
      refine ⟨rfl, ?_⟩
      simpa [adrift] using List.perm_append_comm.append_left s.permits
    · exact nomatch hs

theorem adrift_run (hpast : s.phase.past = true) (h : s.Custody) {events : List TaskEvent}
    (hr : Machine.run step s events = some s') :
    s'.phase.past = true ∧ s'.adrift.Perm s.adrift := by
  have hinv : s'.Custody ∧ s'.phase.past = true ∧ s'.adrift.Perm s.adrift := by
    refine Machine.run_invariant (I := fun t => t.Custody ∧ t.phase.past = true
      ∧ t.adrift.Perm s.adrift) ?_ ⟨h, hpast, List.Perm.refl _⟩ hr
    rintro t event t' ⟨hcustody, hp, hperm⟩ ht
    obtain ⟨hp', hperm'⟩ := adrift_step hcustody hp ht
    exact ⟨hcustody.step ht, hp', hperm'.trans hperm⟩
  exact hinv.2

/-- When the channel reports that it is empty, no receipt is stored in it or about to be. -/
def NoReceiptLeft (s : ClientTask) : TaskEvent → Prop
  | .reportsEmpty => ∀ submission ∈ s.permits ++ s.client.queue, submission.receipt = none
  | _ => True

theorem reserve_phase (submission : Submission) : (s.reserve submission).phase = s.phase := by
  unfold reserve
  split_ifs <;> rfl

theorem step_past {event : TaskEvent} (hs : s.step event = some s')
    (hbefore : s.phase.past = false) (hpast : s'.phase.past = true) :
    event = .reportsEmpty ∧ s'.adrift = s.adrift := by
  have hsame : s'.phase ≠ s.phase := fun h => by simp [h, hbefore] at hpast
  cases event with
  | trySubmit envelope | trySubmitWithReceipt envelope =>
    simp only [ClientTask.step] at hs
    split_ifs at hs
    obtain rfl := Option.some.inj hs
    exact absurd (reserve_phase _) hsame
  | store submission =>
    simp only [ClientTask.step, ClientTask.store] at hs
    split_ifs at hs <;> obtain rfl := Option.some.inj hs <;> exact absurd rfl hsame
  | handlesDropped =>
    simp only [ClientTask.step] at hs
    split_ifs at hs
    obtain rfl := Option.some.inj hs
    exact absurd rfl hsame
  | receive | elapse =>
    simp only [ClientTask.step] at hs
    split_ifs at hs
    obtain ⟨client, -, rfl⟩ := Option.map_eq_some_iff.1 hs
    exact absurd rfl hsame
  | answer result =>
    simp only [ClientTask.step] at hs
    split_ifs at hs
    split at hs <;> obtain rfl := Option.some.inj hs
    · exact nomatch hpast
    · exact absurd rfl hsame
  | inputEnded =>
    simp only [ClientTask.step] at hs
    split_ifs at hs
    obtain rfl := Option.some.inj hs
    exact nomatch hpast
  | take =>
    simp only [ClientTask.step, ClientTask.take] at hs
    split at hs
    · obtain rfl := Option.some.inj hs
      exact absurd rfl hsame
    · exact nomatch hs
  | reportsEmpty =>
    simp only [ClientTask.step, ClientTask.reportsEmpty] at hs
    split at hs
    · split_ifs at hs
      obtain rfl := Option.some.inj hs
      exact ⟨rfl, rfl⟩
    · exact nomatch hs
  | giveUp =>
    simp only [ClientTask.step, ClientTask.giveUp] at hs
    split at hs
    · obtain rfl := Option.some.inj hs
      exact absurd rfl hsame
    · exact nomatch hs
  | exit =>
    simp only [ClientTask.step, ClientTask.exit] at hs
    split at hs
    · rename_i hphase _
      simp [hphase, TaskPhase.past] at hbefore
    · exact nomatch hs

/-- A run meets the condition if and only if no receipt is adrift at its end. -/
theorem noReceiptLeft_iff (h : s.Custody) (hbefore : s.phase.past = false)
    {events : List TaskEvent} (hr : Machine.run step s events = some s') :
    Machine.Along step NoReceiptLeft s events
      ↔ (s'.phase.past = true → ∀ submission ∈ s'.adrift, submission.receipt = none) := by
  constructor
  · intro halong
    have hinv : s'.Custody ∧ (s'.phase.past = true →
        ∀ submission ∈ s'.adrift, submission.receipt = none) := by
      refine Machine.run_invariant_along (I := fun t => t.Custody ∧ (t.phase.past = true →
        ∀ submission ∈ t.adrift, submission.receipt = none)) ?_ halong
        ⟨h, fun hp => nomatch hbefore.symm.trans hp⟩ hr
      rintro t event t' hleft ⟨hcustody, hnone⟩ ht
      refine ⟨hcustody.step ht, fun hp' submission hmem => ?_⟩
      by_cases hp : t.phase.past = true
      · exact hnone hp submission ((adrift_step hcustody hp ht).2.mem_iff.1 hmem)
      · obtain ⟨rfl, hsame⟩ := step_past ht (by simpa using hp) hp'
        have hlost : t.lost = [] := hcustody.lost (by intro he; simp [he, TaskPhase.past] at hp)
        rw [hsame, adrift, hlost, List.append_nil] at hmem
        exact hleft submission hmem
    exact hinv.2
  · intro hnone
    rcases Machine.along_or_broken (P := NoReceiptLeft) hr with
      halong | ⟨before, event, after, t, t', ht, hbroken, hstep, hafter⟩
    · exact halong
    · exfalso
      cases event with
      | reportsEmpty =>
        obtain ⟨submission, hmem, hreceipt⟩ : ∃ submission ∈ t.permits ++ t.client.queue,
            submission.receipt ≠ none := by
          simpa [NoReceiptLeft] using hbroken
        have hcustody : t'.Custody :=
          (Machine.run_invariant (fun _ _ _ hc hs => hc.step hs) h ht).step hstep
        have hmoved : t'.phase.past = true ∧ t'.adrift = t.adrift := by
          simp only [ClientTask.step, ClientTask.reportsEmpty] at hstep
          split at hstep
          · split_ifs at hstep
            obtain rfl := Option.some.inj hstep
            exact ⟨rfl, rfl⟩
          · exact nomatch hstep
        obtain ⟨hpast, hperm⟩ := adrift_run hmoved.1 hcustody hafter
        refine hreceipt (hnone hpast submission (hperm.mem_iff.2 ?_))
        rw [hmoved.2]
        exact List.mem_append_left _ hmem
      | _ => exact hbroken trivial

theorem Custody.told_iff (h : s.Custody) (hexited : s.phase = .exited) (hpermits : s.permits = []) :
    (∀ receipt ∈ s.returned, s.client.Told receipt)
      ↔ ∀ submission ∈ s.adrift, submission.receipt = none := by
  obtain ⟨hspool, hqueue⟩ : s.client.spool = [] ∧ s.client.queue = [] := by
    simpa [Client.held] using h.exited hexited
  have hadrift : s.adrift = s.lost := by simp [adrift, hpermits, hqueue]
  have haccount : s.returned.Perm
      (s.client.resolved.map Resolution.receipt ++ s.lost.filterMap Submission.receipt) := by
    simpa [Client.receipts, hspool, hqueue] using h.account
  have hdistinct : (s.client.resolved.map Resolution.receipt
      ++ s.lost.filterMap Submission.receipt).Nodup := by
    have hd := h.distinct
    rw [hpermits, List.filterMap_nil, List.append_nil] at hd
    exact haccount.nodup_iff.1 hd
  rw [hadrift]
  constructor
  · intro htold submission hmem
    by_contra hsome
    obtain ⟨receipt, hreceipt⟩ := Option.ne_none_iff_exists'.1 hsome
    have hlost : receipt ∈ s.lost.filterMap Submission.receipt :=
      List.mem_filterMap.2 ⟨submission, hmem, hreceipt⟩
    obtain ⟨resolution, hresolved, rfl⟩ :=
      htold receipt (haccount.mem_iff.2 (List.mem_append_right _ hlost))
    exact (List.disjoint_of_nodup_append hdistinct) (List.mem_map_of_mem hresolved) hlost
  · intro hnone receipt hreceipt
    rcases List.mem_append.1 (haccount.mem_iff.1 hreceipt) with hmem | hmem
    · exact List.mem_map.1 hmem
    · obtain ⟨submission, hsub, hsome⟩ := List.mem_filterMap.1 hmem
      cases (hnone submission hsub).symm.trans hsome

/-- As long as no receipt is stored in the channel or about to be when it reports that it is empty,
every receipt a call returned with is told or still with the task. A task that has exited has told
them all, once the calls have returned, if and only if that was so. -/
theorem exit_tells_receipts_iff (principal : IngestPrincipal) (queueCap spoolCap : ℕ)
    (events : List TaskEvent) (s : ClientTask)
    (hr : Machine.run step (fresh principal queueCap spoolCap) events = some s) :
    (Machine.Along step NoReceiptLeft (fresh principal queueCap spoolCap) events →
      ∀ receipt ∈ s.returned, s.client.Told receipt ∨ s.phase ≠ .exited ∧ s.client.Has receipt)
    ∧ (s.phase = .exited → s.permits = [] → ((∀ receipt ∈ s.returned, s.client.Told receipt)
      ↔ Machine.Along step NoReceiptLeft (fresh principal queueCap spoolCap) events)) := by
  have hfresh := custody_fresh principal queueCap spoolCap
  have h : s.Custody := Machine.run_invariant (fun _ _ _ hc hs => hc.step hs) hfresh hr
  have hiff := noReceiptLeft_iff hfresh rfl hr
  refine ⟨fun halong receipt hreceipt => ?_, fun hexited hpermits => ?_⟩
  · rcases List.mem_append.1 (h.account.mem_iff.1 hreceipt) with hmem | hmem
    · rcases Client.mem_receipts.1 hmem with htold | hhas
      · exact .inl htold
      · by_cases hexited : s.phase = .exited
        · obtain ⟨submission, hheld, -⟩ := hhas
          rw [h.exited hexited] at hheld
          exact nomatch hheld
        · exact .inr ⟨hexited, hhas⟩
    · obtain ⟨submission, hlost, hsome⟩ := List.mem_filterMap.1 hmem
      have hexited : s.phase = .exited := by
        by_contra hp
        rw [h.lost hp] at hlost
        exact nomatch hlost
      have hnone := hiff.1 halong (by rw [hexited]; rfl) submission (List.mem_append_right _ hlost)
      exact nomatch hnone.symm.trans hsome
  · rw [h.told_iff hexited hpermits, hiff]
    exact ⟨fun hnone _ => hnone, fun hnone => hnone (by rw [hexited]; rfl)⟩

theorem take_run {reason : AbandonReason} :
    ∀ (queue : List Submission) {s : ClientTask}, s.phase = .draining reason →
      s.client.queue = queue →
      Machine.run step s (List.replicate queue.length .take) = some { s with
        client := { s.client with
          queue := []
          resolved := s.client.resolved ++ List.filterMap (Gone.resolution s.client.principal)
            (queue.map (Gone.abandoned reason)) } }
  | [], s, _, hqueue => by
    have hsame : { s.client with queue := [] } = s.client := by rw [← hqueue]
    simp only [List.length_nil, List.replicate_zero, Machine.run, List.map_nil, List.filterMap_nil,
      List.append_nil, hsame]
  | submission :: rest, s, hphase, hqueue => by
    have hstep : s.step .take = some { s with
        client := { s.client with queue := rest }.resolve submission.receipt
          ⟨s.client.principal, submission.envelope⟩
          (.abandonedBeforeFinal reason submission.envelope) } := by
      simp only [ClientTask.step, ClientTask.take, hphase, hqueue]
    refine Machine.run_cons.2 ⟨_, hstep, ?_⟩
    rw [Client.resolve_eq]
    refine (take_run rest (by exact hphase) rfl).trans ?_
    cases hreceipt : submission.receipt <;> simp [Gone.resolution, Gone.abandoned, hreceipt]

theorem giveUp_run {reason : AbandonReason} :
    ∀ (spool : List SpoolEntry) {s : ClientTask}, s.phase = .leaving reason →
      s.client.spool = spool → (∀ e ∈ spool, e.request.principal = s.client.principal) →
      Machine.run step s (List.replicate spool.length .giveUp) = some { s with
        client := { s.client with
          spool := []
          resolved := s.client.resolved ++ List.filterMap (Gone.resolution s.client.principal)
            (spool.map fun e => Gone.abandoned reason e.submission) } }
  | [], s, _, hspool, _ => by
    have hsame : { s.client with spool := [] } = s.client := by rw [← hspool]
    simp only [List.length_nil, List.replicate_zero, Machine.run, List.map_nil, List.filterMap_nil,
      List.append_nil, hsame]
  | entry :: rest, s, hphase, hspool, hprincipal => by
    have hstep : s.step .giveUp = some { s with
        client := { s.client with spool := rest }.resolve entry.receipt entry.request
          (.abandonedBeforeFinal reason entry.request.envelope) } := by
      simp only [ClientTask.step, ClientTask.giveUp, hphase, hspool]
    obtain ⟨⟨principal, envelope⟩, receipt⟩ := entry
    obtain rfl : principal = s.client.principal := hprincipal _ List.mem_cons_self
    refine Machine.run_cons.2 ⟨_, hstep, ?_⟩
    rw [Client.resolve_eq]
    refine (@giveUp_run reason rest _ ?_ ?_ ?_).trans ?_
    · exact hphase
    · rfl
    · exact fun e he => hprincipal e (List.mem_cons_of_mem _ he)
    · cases receipt <;>
        simp [Gone.resolution, Gone.abandoned, SpoolEntry.submission, List.filterMap_cons]

theorem reportsEmpty_eq {reason : AbandonReason} (hphase : s.phase = .draining reason)
    (hqueue : s.client.queue = []) :
    s.step .reportsEmpty = some { s with phase := .leaving reason } := by
  simp only [ClientTask.step, ClientTask.reportsEmpty, hphase, hqueue, true_or, if_true]

/-- With no call that stores meanwhile the exit is the one step `Client.abandonAll` makes of it. -/
theorem exit_run {reason : AbandonReason} (hphase : s.phase = .draining reason)
    (hclosed : s.client.closed = true)
    (hprincipal : ∀ e ∈ s.client.spool, e.request.principal = s.client.principal) :
    Machine.run step s (List.replicate s.client.queue.length .take ++ .reportsEmpty
        :: (List.replicate s.client.spool.length .giveUp ++ [.exit]))
      = some { s with client := s.client.abandonAll reason, phase := .exited } := by
  refine Machine.run_append.2 ⟨_, take_run _ hphase rfl, ?_⟩
  refine Machine.run_cons.2 ⟨_, reportsEmpty_eq hphase rfl, ?_⟩
  refine Machine.run_append.2 ⟨_, giveUp_run s.client.spool rfl rfl hprincipal, ?_⟩
  rw [Client.abandonAll_eq reason hprincipal]
  simp [Machine.run, ClientTask.step, ClientTask.exit, Client.givenUp, hclosed]

end ClientTask

/-! ## A receipt that is lost -/

def lateEnvelope (id : String) : Envelope := ⟨id, "late", []⟩

def latePrincipal : IngestPrincipal := .trustedOfficialAdapter "local:late" "late"

/-- The collector closes while a second call holds its permit, and the call stores its submission
after the channel has reported that it is empty. -/
def lateStore : List TaskEvent :=
  [.trySubmitWithReceipt (lateEnvelope "1"), .store ⟨lateEnvelope "1", some 0⟩, .receive,
    .trySubmitWithReceipt (lateEnvelope "2"), .answer (.error .closed), .reportsEmpty,
    .store ⟨lateEnvelope "2", some 1⟩, .giveUp, .exit]

theorem lateStore_loses_receipt :
    ∃ s, Machine.run ClientTask.step (.fresh latePrincipal 2 2) lateStore = some s
      ∧ s.phase = .exited ∧ 1 ∈ s.returned ∧ ¬s.client.Told 1 := by
  have hend : (Machine.run ClientTask.step (.fresh latePrincipal 2 2) lateStore).map
      (fun s => (s.phase, s.returned, s.client.resolved.map Resolution.receipt))
      = some (.exited, [0, 1], [0]) := by decide +kernel
  obtain ⟨s, hr, hs⟩ := Option.map_eq_some_iff.1 hend
  simp only [Prod.mk.injEq] at hs
  obtain ⟨hphase, hreturned, hresolved⟩ := hs
  refine ⟨s, hr, hphase, by simp [hreturned], fun htold => ?_⟩
  have hmem := List.mem_map.2 htold
  rw [hresolved] at hmem
  simp at hmem

def storeInTime : List TaskEvent :=
  [.trySubmitWithReceipt (lateEnvelope "1"), .store ⟨lateEnvelope "1", some 0⟩, .receive,
    .trySubmitWithReceipt (lateEnvelope "2"), .answer (.error .closed),
    .store ⟨lateEnvelope "2", some 1⟩, .take, .reportsEmpty, .giveUp, .exit]

instance (s : ClientTask) : ∀ event, Decidable (s.NoReceiptLeft event)
  | .reportsEmpty => inferInstanceAs (Decidable (∀ submission ∈ _, _))
  | .trySubmit _ | .trySubmitWithReceipt _ | .store _ | .handlesDropped | .receive | .elapse
  | .answer _ | .inputEnded | .take | .giveUp | .exit => isTrue trivial

theorem storeInTime_tells_receipts :
    ∃ s, Machine.run ClientTask.step (.fresh latePrincipal 2 2) storeInTime = some s
      ∧ s.phase = .exited ∧ s.returned = [0, 1]
      ∧ ∀ receipt ∈ s.returned, s.client.Told receipt := by
  have hleft : Machine.Along ClientTask.step ClientTask.NoReceiptLeft (.fresh latePrincipal 2 2)
      storeInTime := by decide +kernel
  have hend : (Machine.run ClientTask.step (.fresh latePrincipal 2 2) storeInTime).map
      (fun s => (s.phase, s.permits, s.returned)) = some (.exited, [], [0, 1]) := by decide +kernel
  obtain ⟨s, hr, hs⟩ := Option.map_eq_some_iff.1 hend
  simp only [Prod.mk.injEq] at hs
  obtain ⟨hphase, hpermits, hreturned⟩ := hs
  have htold := (ClientTask.exit_tells_receipts_iff latePrincipal 2 2 storeInTime s hr).2
  exact ⟨s, hr, hphase, hreturned, (htold hphase hpermits).2 hleft⟩

theorem storeInTime_exits_at_once :
    ∃ s, Machine.run ClientTask.step (.fresh latePrincipal 2 2) (storeInTime.take 6) = some s
      ∧ Machine.run ClientTask.step s [.take, .reportsEmpty, .giveUp, .exit]
        = some { s with client := s.client.abandonAll .collectorClosed, phase := .exited } := by
  have hend : (Machine.run ClientTask.step (.fresh latePrincipal 2 2) (storeInTime.take 6)).map
      (fun s => (s.phase, s.client.closed, s.client.queue.length, s.client.spool.length,
        decide (∀ e ∈ s.client.spool, e.request.principal = s.client.principal)))
      = some (.draining .collectorClosed, true, 1, 1, true) := by decide +kernel
  obtain ⟨s, hr, hs⟩ := Option.map_eq_some_iff.1 hend
  simp only [Prod.mk.injEq, decide_eq_true_eq] at hs
  obtain ⟨hphase, hclosed, hqueue, hspool, hprincipal⟩ := hs
  have hexit := ClientTask.exit_run hphase hclosed hprincipal
  rw [hqueue, hspool] at hexit
  exact ⟨s, hr, hexit⟩

end Ingest

end EdgeNode
