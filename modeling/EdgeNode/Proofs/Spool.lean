import EdgeNode.Ingest.Usage

/-!
# The spool of a client

Submissions go through the queue and the spool in order, and leave the spool at its front: with their
final answer, or dropped for room (`Passed`). Receipts are answered once each.
-/

namespace EdgeNode

namespace Ingest

variable {client client' : Client} {s s' : Usage}

theorem Client.resolve_eq (receipt : Option ℕ) (request : IngestRequest)
    (outcome : DeliveryOutcome) : client.resolve receipt request outcome
    = { client with resolved := client.resolved
        ++ (receipt.map fun receipt => ⟨receipt, request, outcome⟩).toList } := by
  cases receipt with
  | none => simp [Client.resolve]
  | some receipt => rfl

/-! ## What has left the client -/

structure Gone where
  submission : Submission
  outcome : DeliveryOutcome

def DeliveryOutcome.isFinal : DeliveryOutcome → Bool
  | .final _ => true
  | .abandonedBeforeFinal _ _ => false

def SpoolEntry.submission (entry : SpoolEntry) : Submission :=
  ⟨entry.request.envelope, entry.receipt⟩

def Gone.resolution (principal : IngestPrincipal) (g : Gone) : Option Resolution :=
  g.submission.receipt.map fun receipt => ⟨receipt, ⟨principal, g.submission.envelope⟩, g.outcome⟩

def Client.held (client : Client) : List Submission :=
  client.spool.map SpoolEntry.submission ++ client.queue

def Gone.Explained (client : Client) (answers : List (SpoolEntry × EnvelopeAck)) (g : Gone) : Prop :=
  match g.outcome with
  | .final ack =>
    (⟨⟨client.principal, g.submission.envelope⟩, g.submission.receipt⟩, ack) ∈ answers
  | .abandonedBeforeFinal reason retry =>
    retry = g.submission.envelope ∧ (client.closed = false → reason = .spoolOverflow)

structure Passed (cap : ℕ) (taken : List Submission) (answers : List (SpoolEntry × EnvelopeAck))
    (client : Client) (gone : List Gone) : Prop where
  capacity : client.spoolCap = cap
  bound : client.spool.length ≤ max cap 1
  principal : ∀ entry ∈ client.spool, entry.request.principal = client.principal
  perm : taken.Perm (gone.map Gone.submission ++ client.held)
  order : ((gone.filter fun g => g.outcome.isFinal).map Gone.submission ++ client.held).Sublist taken
  resolved : client.resolved = gone.filterMap (Gone.resolution client.principal)
  explained : ∀ g ∈ gone, g.Explained client answers

variable {cap : ℕ} {taken : List Submission} {answers : List (SpoolEntry × EnvelopeAck)} {gone : List Gone}

theorem Gone.Explained.mono {g : Gone} {answers' : List (SpoolEntry × EnvelopeAck)}
    (h : g.Explained client answers) (hprincipal : client'.principal = client.principal)
    (hclosed : client'.closed = client.closed) (hanswers : ∀ a ∈ answers, a ∈ answers') :
    g.Explained client' answers' := by
  unfold Gone.Explained at h ⊢
  rw [hprincipal, hclosed]
  split at h
  · exact hanswers _ h
  · exact h

/-! ## The parts of a step -/

theorem Passed.pop {entry : SpoolEntry} {rest : List SpoolEntry} {outcome : DeliveryOutcome}
    (h : Passed cap taken answers client gone) (hspool : client.spool = entry :: rest)
    (hexplained : Gone.Explained client answers ⟨entry.submission, outcome⟩) :
    Passed cap taken answers ({ client with spool := rest }.resolve entry.receipt entry.request outcome)
      (gone ++ [⟨entry.submission, outcome⟩]) := by
  rw [Client.resolve_eq]
  have hprincipal : entry.request.principal = client.principal := h.principal _ (by simp [hspool])
  have hheld : client.held = entry.submission :: (rest.map SpoolEntry.submission ++ client.queue) := by
    simp [Client.held, hspool]
  have hbound := h.bound
  have hperm := h.perm
  have horder := h.order
  rw [hspool, List.length_cons] at hbound
  rw [hheld] at hperm horder
  refine ⟨h.capacity, ?_, fun e he => ?_, ?_, ?_, ?_, fun g hg => ?_⟩
  · dsimp only
    omega
  · exact h.principal e (by simp [hspool, show e ∈ rest from he])
  · simpa [Client.held] using hperm
  · refine List.Sublist.trans ?_ horder
    rw [List.filter_append, List.map_append, List.append_assoc]
    refine (List.Sublist.refl _).append ?_
    cases outcome <;> simp [DeliveryOutcome.isFinal, Client.held]
  · obtain ⟨⟨principal, envelope⟩, receipt⟩ := entry
    obtain rfl : principal = client.principal := hprincipal
    cases receipt <;> simp [h.resolved, Gone.resolution, SpoolEntry.submission]
  · rcases List.mem_append.1 hg with hg | hg
    · exact h.explained g hg
    · exact List.mem_singleton.1 hg ▸ hexplained

theorem Passed.alike (h : Passed cap taken answers client gone) (hspool : client'.spool = client.spool)
    (hqueue : client'.queue = client.queue) (hcap : client'.spoolCap = client.spoolCap)
    (hprincipal : client'.principal = client.principal)
    (hresolved : client'.resolved = client.resolved) (hclosed : client'.closed = client.closed) :
    Passed cap taken answers client' gone := by
  have hheld : client'.held = client.held := by rw [Client.held, Client.held, hspool, hqueue]
  refine ⟨hcap.trans h.capacity, ?_, ?_, ?_, ?_, ?_, fun g hg => ?_⟩
  · rw [hspool]
    exact h.bound
  · rw [hspool, hprincipal]
    exact h.principal
  · rw [hheld]
    exact h.perm
  · rw [hheld]
    exact h.order
  · rw [hresolved, hprincipal]
    exact h.resolved
  · exact (h.explained g hg).mono hprincipal hclosed fun _ => id

theorem Client.dropOldest_eq : client.dropOldest
    = { client with
        spool := client.spool.tail
        resolved := client.resolved ++ (client.spool.head?.bind fun entry =>
          entry.receipt.map fun receipt => ⟨receipt, entry.request,
            .abandonedBeforeFinal .spoolOverflow entry.request.envelope⟩).toList
        events := client.events ++ [.spoolOverflow] } := by
  unfold Client.dropOldest
  split
  · rename_i hspool
    simp [Client.notify, hspool]
  · rename_i entry rest hspool
    rw [Client.resolve_eq]
    simp [Client.notify, hspool]

theorem Passed.dropOldest (h : Passed cap taken answers client gone) :
    ∃ gone', Passed cap taken answers client.dropOldest gone' := by
  unfold Client.dropOldest
  split
  · exact ⟨gone, h.alike rfl rfl rfl rfl rfl rfl⟩
  · rename_i entry rest hspool
    have hexplained : Gone.Explained client answers ⟨entry.submission,
        .abandonedBeforeFinal .spoolOverflow entry.request.envelope⟩ := ⟨rfl, fun _ => rfl⟩
    exact ⟨_, (h.pop hspool hexplained).alike rfl rfl rfl rfl rfl rfl⟩

theorem Passed.push {submission : Submission} {rest : List Submission}
    (h : Passed cap taken answers client gone) (hqueue : client.queue = submission :: rest)
    (hroom : client.spool.length < max cap 1) :
    Passed cap taken answers { client with
      queue := rest
      spool := client.spool
        ++ [⟨⟨client.principal, submission.envelope⟩, submission.receipt⟩] } gone := by
  have hheld : Client.held { client with
      queue := rest
      spool := client.spool ++ [⟨⟨client.principal, submission.envelope⟩, submission.receipt⟩] }
      = client.held := by
    simp [Client.held, hqueue, SpoolEntry.submission]
  refine ⟨h.capacity, ?_, fun e he => ?_, ?_, ?_, h.resolved, h.explained⟩
  · rw [List.length_append]
    exact hroom
  · rcases List.mem_append.1 he with he | he
    · exact h.principal e he
    · obtain rfl := List.mem_singleton.1 he
      rfl
  · rw [hheld]
    exact h.perm
  · rw [hheld]
    exact h.order

theorem Passed.receive (h : Passed cap taken answers client gone) (hreceive : client.receive = some client') :
    ∃ gone', Passed cap taken answers client' gone' := by
  unfold Client.receive at hreceive
  split at hreceive
  · rename_i submission rest hqueue
    split_ifs at hreceive
    obtain rfl := Option.some.inj hreceive
    unfold Client.pushBounded
    have hcapacity := h.capacity
    by_cases hfull : client.spoolCap ≤ client.spool.length
    · obtain ⟨gone', h'⟩ := h.dropOldest
      have hbound := h.bound
      rw [if_pos hfull]
      rw [Client.dropOldest_eq] at h' ⊢
      refine ⟨gone', h'.push hqueue ?_⟩
      simp only [List.length_tail]
      omega
    · rw [if_neg hfull]
      exact ⟨gone, h.push hqueue (by omega)⟩
  · simp at hreceive

/-! ## Giving up -/

def Gone.abandoned (reason : AbandonReason) (submission : Submission) : Gone :=
  ⟨submission, .abandonedBeforeFinal reason submission.envelope⟩

theorem foldl_abandon_queue (client : Client) (reason : AbandonReason) (l : List Submission) :
    l.foldl (fun c s => c.resolve s.receipt ⟨c.principal, s.envelope⟩
      (.abandonedBeforeFinal reason s.envelope)) client
      = { client with
          resolved := client.resolved ++ List.filterMap (Gone.resolution client.principal)
            (l.map (Gone.abandoned reason)) } := by
  induction l generalizing client with
  | nil => simp
  | cons submission l ih =>
    rw [List.foldl_cons, Client.resolve_eq, ih]
    cases hreceipt : submission.receipt <;>
      simp [Gone.abandoned, Gone.resolution, hreceipt]

theorem foldl_abandon_spool (reason : AbandonReason) (l : List SpoolEntry)
    (hprincipal : ∀ e ∈ l, e.request.principal = client.principal) :
    l.foldl (fun c e => c.resolve e.receipt e.request
      (.abandonedBeforeFinal reason e.request.envelope)) client
      = { client with
          resolved := client.resolved ++ List.filterMap (Gone.resolution client.principal)
            (l.map fun e => Gone.abandoned reason e.submission) } := by
  induction l generalizing client with
  | nil => simp
  | cons entry l ih =>
    obtain ⟨⟨principal, envelope⟩, receipt⟩ := entry
    obtain rfl : principal = client.principal := hprincipal _ List.mem_cons_self
    rw [List.foldl_cons, Client.resolve_eq, ih]
    · cases receipt <;>
        simp [Gone.abandoned, Gone.resolution, SpoolEntry.submission, List.filterMap_cons]
    · exact fun e he => hprincipal e (List.mem_cons_of_mem _ he)

def Client.givenUp (client : Client) (reason : AbandonReason) : List Gone :=
  client.queue.map (Gone.abandoned reason)
    ++ client.spool.map fun e => Gone.abandoned reason e.submission

theorem Client.abandonAll_eq (reason : AbandonReason)
    (hprincipal : ∀ e ∈ client.spool, e.request.principal = client.principal) :
    client.abandonAll reason
      = { client with
          queue := []
          spool := []
          closed := true
          resolved := client.resolved
            ++ (client.givenUp reason).filterMap (Gone.resolution client.principal) } := by
  have hqueue := foldl_abandon_queue { client with closed := true } reason client.queue
  unfold Client.abandonAll
  dsimp only at hqueue ⊢
  rw [hqueue, foldl_abandon_spool reason client.spool (by exact hprincipal)]
  simp [Client.givenUp]

theorem Passed.abandonAll (h : Passed cap taken answers client gone) (reason : AbandonReason) :
    ∃ gone', Passed cap taken answers (client.abandonAll reason) gone' := by
  refine ⟨gone ++ client.givenUp reason, ?_⟩
  rw [Client.abandonAll_eq reason h.principal]
  have hsubmissions : (client.givenUp reason).map Gone.submission
      = client.queue ++ client.spool.map SpoolEntry.submission := by
    simp [Client.givenUp, Function.comp_def, Gone.abandoned]
  have hgone : ∀ g ∈ client.givenUp reason, ∃ submission, g = Gone.abandoned reason submission := by
    intro g hg
    rcases List.mem_append.1 hg with hg | hg <;> obtain ⟨_, -, rfl⟩ := List.mem_map.1 hg <;>
      exact ⟨_, rfl⟩
  refine ⟨h.capacity, by simp, by simp, ?_, ?_, ?_, fun g hg => ?_⟩
  · rw [List.map_append, hsubmissions]
    refine h.perm.trans ?_
    simpa [Client.held] using List.Perm.append_left _ List.perm_append_comm
  · refine List.Sublist.trans ?_ h.order
    have hnone : ∀ g ∈ client.givenUp reason, ¬g.outcome.isFinal = true := by
      intro g hg
      obtain ⟨submission, rfl⟩ := hgone g hg
      simp [Gone.abandoned, DeliveryOutcome.isFinal]
    rw [List.filter_append, List.filter_eq_nil_iff.2 hnone, List.append_nil]
    exact (List.Sublist.refl _).append (List.nil_sublist _)
  · simp [h.resolved]
  · rcases List.mem_append.1 hg with hg | hg
    · have hexplained := h.explained g hg
      unfold Gone.Explained at hexplained ⊢
      split at hexplained
      · exact hexplained
      · exact ⟨hexplained.1, by simp⟩
    · obtain ⟨submission, rfl⟩ := hgone g hg
      exact ⟨rfl, by simp⟩

theorem Passed.moreAnswers (h : Passed cap taken answers client gone)
    (more : List (SpoolEntry × EnvelopeAck)) : Passed cap taken (answers ++ more) client gone :=
  ⟨h.capacity, h.bound, h.principal, h.perm, h.order, h.resolved,
    fun g hg => (h.explained g hg).mono rfl rfl fun _ ha => List.mem_append_left _ ha⟩

theorem Passed.answer {result : Except SubmitError EnvelopeAck}
    (h : Passed cap s.taken s.answers s.client gone) :
    ∃ gone', Passed cap (s.answer result).taken (s.answer result).answers (s.answer result).client
      gone' := by
  unfold Usage.answer Client.answered
  cases hspool : s.client.spool with
  | nil => exact ⟨gone, h.moreAnswers _⟩
  | cons entry rest =>
    cases result with
    | ok ack =>
      have hmore := h.moreAnswers [(entry, ack)]
      dsimp only
      by_cases hdeferred : ack.status = .deferred
      · rw [if_pos hdeferred]
        exact ⟨gone, hmore.alike rfl rfl rfl rfl rfl rfl⟩
      · rw [if_neg hdeferred]
        have hprincipal := h.principal entry (by simp [hspool])
        have hexplained : Gone.Explained s.client (s.answers ++ [(entry, ack)])
            ⟨entry.submission, .final ack⟩ := by
          refine List.mem_append_right _ (List.mem_singleton.2 ?_)
          obtain ⟨⟨principal, envelope⟩, receipt⟩ := entry
          obtain rfl : principal = s.client.principal := hprincipal
          rfl
        exact ⟨_, (hmore.pop hspool hexplained).alike rfl rfl rfl rfl rfl rfl⟩
    | error e =>
      cases e with
      | closed => exact (h.moreAnswers []).abandonAll _
      | noAck => exact ⟨gone, (h.moreAnswers []).alike rfl rfl rfl rfl rfl rfl⟩
      | clockUntrusted => exact ⟨gone, (h.moreAnswers []).alike rfl rfl rfl rfl rfl rfl⟩
      | authenticationStale => exact ⟨gone, (h.moreAnswers []).alike rfl rfl rfl rfl rfl rfl⟩

theorem Passed.submit {submission : Submission} (h : Passed cap taken answers client gone)
    (hsubmit : client.trySubmit submission = .ok client') :
    Passed cap (taken ++ [submission]) answers client' gone := by
  unfold Client.trySubmit at hsubmit
  split_ifs at hsubmit
  obtain rfl := Except.ok.inj hsubmit
  have hheld : Client.held { client with queue := client.queue ++ [submission] }
      = client.held ++ [submission] := by
    simp [Client.held]
  refine ⟨h.capacity, h.bound, h.principal, ?_, ?_, h.resolved, h.explained⟩
  · rw [hheld, ← List.append_assoc]
    exact h.perm.append_right _
  · rw [hheld, ← List.append_assoc]
    exact h.order.append (List.Sublist.refl _)

/-! ## Runs -/

/-- What every step preserves: the order of the submissions, and that their receipts are new. -/
structure Usage.Orderly (cap : ℕ) (s : Usage) : Prop where
  passed : ∃ gone, Passed cap s.taken s.answers s.client gone
  distinct : (s.taken.filterMap Submission.receipt).Nodup
  numbered : ∀ r ∈ s.taken.filterMap Submission.receipt, r < s.receipts

theorem Usage.Orderly.submit {submission : Submission} (h : s.Orderly cap)
    (hnew : ∀ r ∈ submission.receipt, r ∉ s.taken.filterMap Submission.receipt ∧ r < s.receipts) :
    (s.submit submission).Orderly cap := by
  unfold Usage.submit
  split
  · rename_i client hsubmit
    obtain ⟨gone, hpassed⟩ := h.passed
    refine ⟨⟨gone, hpassed.submit hsubmit⟩, ?_, ?_⟩
    · rw [List.filterMap_append]
      cases hreceipt : submission.receipt with
      | none => simpa [hreceipt] using h.distinct
      | some receipt =>
        have hsingle : [submission].filterMap Submission.receipt = [receipt] := by simp [hreceipt]
        rw [hsingle]
        exact h.distinct.append (List.nodup_singleton _)
          (List.disjoint_singleton.2 (hnew receipt hreceipt).1)
    · intro r hr
      rw [List.filterMap_append, List.mem_append] at hr
      rcases hr with hr | hr
      · exact h.numbered r hr
      · exact (hnew r (by simpa using hr)).2
  · exact h

theorem Usage.Orderly.submitWithReceipt {envelope : Envelope} (h : s.Orderly cap) :
    (s.submitWithReceipt envelope).Orderly cap := by
  refine Usage.Orderly.submit ⟨h.passed, h.distinct, fun r hr => ?_⟩ ?_
  · exact Nat.lt_succ_of_lt (h.numbered r hr)
  · rintro r ⟨⟩
    exact ⟨fun hr => absurd (h.numbered _ hr) (lt_irrefl _), Nat.lt_succ_self _⟩

theorem Usage.Orderly.onClient {client : Option Client} (h : s.Orderly cap)
    (hclient : ∀ client' gone, client = some client' → Passed cap s.taken s.answers s.client gone →
      ∃ gone', Passed cap s.taken s.answers client' gone')
    (hs : s.onClient client = some s') : s'.Orderly cap := by
  obtain ⟨client', hclient', rfl⟩ := Option.map_eq_some_iff.1 hs
  obtain ⟨gone, hpassed⟩ := h.passed
  exact ⟨hclient client' gone hclient' hpassed, h.distinct, h.numbered⟩

theorem Usage.Orderly.step (h : s.Orderly cap) (e : UsageEvent) (hs : s.step e = some s') :
    s'.Orderly cap := by
  cases e with
  | trySubmit envelope =>
    obtain rfl := Option.some.inj hs
    exact h.submit (by simp)
  | trySubmitWithReceipt envelope =>
    obtain rfl := Option.some.inj hs
    exact h.submitWithReceipt
  | tryRetryWithReceipt retry =>
    obtain rfl := Option.some.inj hs
    exact h.submitWithReceipt
  | receive => exact h.onClient (fun _ _ hreceive hpassed => hpassed.receive hreceive) hs
  | elapse =>
    refine h.onClient (fun client' gone helapse hpassed => ?_) hs
    unfold Client.elapse at helapse
    split_ifs at helapse
    obtain rfl := Option.some.inj helapse
    exact ⟨gone, hpassed.alike rfl rfl rfl rfl rfl rfl⟩
  | answer result =>
    simp only [Usage.step] at hs
    split_ifs at hs
    obtain rfl := Option.some.inj hs
    obtain ⟨gone, hpassed⟩ := h.passed
    exact ⟨hpassed.answer, h.distinct, h.numbered⟩
  | shutdown =>
    refine h.onClient (fun client' gone hshutdown hpassed => ?_) hs
    unfold Client.shutdown at hshutdown
    split_ifs at hshutdown
    obtain rfl := Option.some.inj hshutdown
    exact hpassed.abandonAll _

theorem Usage.fresh_orderly (principal : IngestPrincipal) (queueCap spoolCap : ℕ) :
    (Usage.fresh principal queueCap spoolCap).Orderly spoolCap where
  passed := ⟨[], rfl, by simp [fresh], by simp [fresh], by simp [fresh, Client.held],
    by simp [fresh, Client.held], rfl, by simp⟩
  distinct := by simp [fresh]
  numbered := by simp [fresh]

/-- What taking a submission from the queue does: a full spool drops its oldest entry, whose receipt
gets the envelope back. -/
def Client.Received (client client' : Client) : Prop :=
  ∃ entry, if client.spoolCap ≤ client.spool.length then
      client'.spool = client.spool.tail ++ [entry]
      ∧ client'.resolved = client.resolved ++ (client.spool.head?.bind fun oldest =>
        oldest.receipt.map fun receipt => ⟨receipt, oldest.request,
          .abandonedBeforeFinal .spoolOverflow oldest.request.envelope⟩).toList
    else client'.spool = client.spool ++ [entry] ∧ client'.resolved = client.resolved

theorem Client.received (h : client.receive = some client') : client.Received client' := by
  unfold Client.receive at h
  split at h
  · rename_i submission rest hqueue
    split_ifs at h
    obtain rfl := Option.some.inj h
    refine ⟨⟨⟨client.principal, submission.envelope⟩, submission.receipt⟩, ?_⟩
    unfold Client.pushBounded
    by_cases hfull : client.spoolCap ≤ client.spool.length
    · rw [if_pos hfull, if_pos hfull, Client.dropOldest_eq]
      exact ⟨rfl, rfl⟩
    · rw [if_neg hfull, if_neg hfull]
      exact ⟨rfl, rfl⟩
  · simp at h

/-- Whatever happens to a client, its spool stays within its bound, a final receipt carries the answer
the collector gave for its own entry, final receipts come in the order of the submissions, a receipt
that is given up carries its envelope, before the end only a full spool gives up, and then the oldest
entry, and no receipt is told twice. -/
theorem spool_discipline (principal : IngestPrincipal) (queueCap spoolCap : ℕ)
    (events : List UsageEvent) (s : Usage)
    (hrun : Machine.run Usage.step (.fresh principal queueCap spoolCap) events = some s) :
    s.client.spool.length ≤ max spoolCap 1
    ∧ (∀ r ∈ s.client.resolved, ⟨r.request.envelope, some r.receipt⟩ ∈ s.taken
      ∧ (∀ ack, r.outcome = .final ack → (⟨r.request, some r.receipt⟩, ack) ∈ s.answers)
      ∧ ∀ reason retry, r.outcome = .abandonedBeforeFinal reason retry →
        retry = r.request.envelope ∧ (s.client.closed = false → reason = .spoolOverflow))
    ∧ ((s.client.resolved.filter fun r => r.outcome.isFinal).map Resolution.receipt).Sublist
      (s.taken.filterMap Submission.receipt)
    ∧ (∀ s', s.step .receive = some s' → s.client.Received s'.client)
    ∧ (s.client.resolved.map Resolution.receipt).Nodup := by
  have h : s.Orderly spoolCap := Machine.run_invariant (fun _ e _ h hs => h.step e hs)
    (Usage.fresh_orderly principal queueCap spoolCap) hrun
  obtain ⟨gone, hpassed⟩ := h.passed
  have hreceipts : ∀ l : List Gone, (l.filterMap (Gone.resolution s.client.principal)).map
      Resolution.receipt = (l.map Gone.submission).filterMap Submission.receipt := by
    intro l
    rw [List.map_filterMap, List.filterMap_map]
    congr 1
    funext g
    simp [Gone.resolution, Function.comp_def]
  refine ⟨hpassed.bound, fun r hr => ?_, ?_, fun s' hs' => ?_, ?_⟩
  · rw [hpassed.resolved] at hr
    obtain ⟨⟨⟨envelope, receipt⟩, outcome⟩, hg, hr⟩ := List.mem_filterMap.1 hr
    obtain ⟨receipt, hreceipt, rfl⟩ := Option.map_eq_some_iff.1 hr
    obtain rfl := hreceipt
    have hexplained := hpassed.explained _ hg
    refine ⟨?_, ?_, ?_⟩
    · exact hpassed.perm.mem_iff.2 (List.mem_append_left _ (List.mem_map_of_mem hg))
    · rintro ack rfl
      exact hexplained
    · rintro reason retry rfl
      exact hexplained
  · have hfinals : (gone.filterMap (Gone.resolution s.client.principal)).filter
          (fun r => r.outcome.isFinal)
        = (gone.filter fun g => g.outcome.isFinal).filterMap (Gone.resolution s.client.principal) := by
      rw [List.filter_filterMap, List.filterMap_filter]
      congr 1
      funext g
      cases hreceipt : g.submission.receipt <;> simp [Gone.resolution, hreceipt, Option.filter]
    rw [hpassed.resolved, hfinals, hreceipts]
    exact ((List.sublist_append_left _ _).trans hpassed.order).filterMap _
  · obtain ⟨client', hclient', rfl⟩ := Option.map_eq_some_iff.1 hs'
    exact Client.received hclient'
  · rw [hpassed.resolved, hreceipts]
    have hperm := hpassed.perm.filterMap Submission.receipt
    rw [List.filterMap_append] at hperm
    exact (List.nodup_append.1 (hperm.nodup_iff.1 h.distinct)).1

section Crowded

def crowdedPrincipal : IngestPrincipal := .trustedOfficialAdapter "local:crowded" "crowded"

def crowdedEnvelope (id : String) : Envelope := ⟨id, "crowded", []⟩

def crowdedEvents : List UsageEvent :=
  [.trySubmitWithReceipt (crowdedEnvelope "e1"), .trySubmitWithReceipt (crowdedEnvelope "e2"), .receive,
    .answer (.error .noAck), .receive, .elapse, .answer (.ok ⟨"e2", .accepted []⟩)]

theorem crowded_receipts :
    ∃ s, Machine.run Usage.step (.fresh crowdedPrincipal 4 1) crowdedEvents = some s
      ∧ s.client.resolved = [⟨0, ⟨crowdedPrincipal, crowdedEnvelope "e1"⟩,
          .abandonedBeforeFinal .spoolOverflow (crowdedEnvelope "e1")⟩,
        ⟨1, ⟨crowdedPrincipal, crowdedEnvelope "e2"⟩, .final ⟨"e2", .accepted []⟩⟩]
      ∧ (s.client.resolved.map Resolution.receipt).Nodup := by
  have hresolved : (Machine.run Usage.step (.fresh crowdedPrincipal 4 1) crowdedEvents).map
      (fun s => s.client.resolved)
      = some [⟨0, ⟨crowdedPrincipal, crowdedEnvelope "e1"⟩,
          .abandonedBeforeFinal .spoolOverflow (crowdedEnvelope "e1")⟩,
        ⟨1, ⟨crowdedPrincipal, crowdedEnvelope "e2"⟩, .final ⟨"e2", .accepted []⟩⟩] := by
    decide +kernel
  obtain ⟨s, hrun, hs⟩ := Option.map_eq_some_iff.1 hresolved
  exact ⟨s, hrun, hs, (spool_discipline crowdedPrincipal 4 1 crowdedEvents s hrun).2.2.2.2⟩

end Crowded

end Ingest

end EdgeNode
