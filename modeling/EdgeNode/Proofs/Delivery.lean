import EdgeNode.Proofs.DeliveryWork

/-!
# Rows reach the Broker in order

The events of the waiting task keep the invariant as the pieces of an arm do, so it holds along every
run: with any interleaving of inserts, connections and their loss, packets written, PUBACKs,
heartbeats, notifications, failing deletes and restarts.
-/

namespace EdgeNode

/-! ## Events of the waiting task -/

section Wait

variable {edgeNodeId : EdgeNodeId} {s s' : OutputState} {pkid : ℕ}

theorem slot_of_todo_nil (h : s.todo = []) : s.slot = s.session.inflight.toList := by
  rw [OutputState.slot, h]

theorem DeliveryInv.connAck (h : DeliveryInv s) (hphase : s.phase = .running) :
    DeliveryInv s.connAck := by
  have hsub : (s.received ++ []).Sublist (s.received ++ s.wire) :=
    (List.Sublist.refl _).append (List.nil_sublist _)
  exact ⟨fun p hp => (nomatch hp), Nat.zero_le _, fun _ => List.Perm.refl _,
    fun _ _ he => (nomatch he), fun t ht => .inl (List.mem_singleton.1 ht),
    fun _ => by simp [OutputState.connAck], fun hl => absurd ⟨hphase, rfl⟩ hl, List.nodup_nil,
    fun _ => rfl, h.ordered.sublist hsub⟩

theorem DeliveryInv.packetWritten (h : DeliveryInv s) (htodo : s.todo = [])
    (hs : s.packetWritten pkid = some s') : DeliveryInv s' := by
  unfold OutputState.packetWritten at hs
  split at hs
  swap
  · cases hs
  rename_i packet requests hreq
  split_ifs at hs with hc
  obtain ⟨-, -, hpkid⟩ := hc
  have hs := Option.some.inj hs
  have hout : s'.outstanding = s.outstanding := by
    rw [← hs]
    simp [OutputState.outstanding, hreq, Request.packet]
  have hlive : s'.Live ↔ s.Live := by
    rw [← hs]
    unfold OutputState.Live
    cases s.phase <;> simp [Session.notePacketWritten]
  have hsingle := h.single
  have hslot := h.slot
  rw [OutputState.rowsInFlight, ← hout] at hsingle hslot
  have holdest : CarriesOldest s.db.outbox packet :=
    h.carries packet (by simp [OutputState.outstanding, hreq, Request.packet])
  have htodo' : s'.todo = [] := by rw [← hs, htodo]
  have hinflight : s'.session.inflight = s.session.inflight := by
    rw [← hs]
    cases s.phase <;> rfl
  have hpending : ∀ q ∈ s'.session.pending, ∃ q' ∈ s.session.pending,
      q'.publication = q.publication := by
    rw [← hs]
    intro q hq
    cases hp : s.phase <;> simp only [hp, Session.notePacketWritten] at hq <;>
      first | exact assignPkid_publication hq | exact ⟨q, hq, rfl⟩
  refine ⟨?_, hsingle, fun hl => ?_, fun _ _ he => ?_, by simp [htodo'], by simp [htodo'], fun hl => ?_,
    ?_, fun hl => ?_, ?_⟩
  · rw [hout, ← hs]
    exact h.carries
  · rw [slot_of_todo_nil htodo', hinflight, ← slot_of_todo_nil htodo]
    exact hslot (hlive.1 hl)
  · rw [htodo'] at he
    cases he
  · refine ⟨by simp [htodo'], by simp [htodo'], by simp [htodo'], fun q hq => ?_⟩
    obtain ⟨q', hq', he⟩ := hpending q hq
    rw [← he]
    exact (h.resting (mt hlive.2 hl)).2.2.2 q' hq'
  · rw [← hs]
    simp only [List.map_append, List.map_cons, List.map_nil]
    refine List.nodup_append.2 ⟨h.pkids, List.nodup_singleton _, fun a ha b hb => ?_⟩
    rw [List.mem_singleton.1 hb]
    exact fun he => hpkid (he ▸ ha)
  · have hrec := h.record (hlive.1 hl)
    have hphase : s.phase = .running := (hlive.1 hl).1
    rw [hreq, List.filterMap_cons_some (show (Request.publish packet).packet = some packet from rfl)]
      at hrec
    rw [← hs]
    simp only [hphase, Session.notePacketWritten, hrec, assignPkid_tracked]
  · rw [← hs, ← List.append_assoc]
    exact h.ordered.written holdest

theorem DeliveryInv.pubAck_live (h : DeliveryInv s) (htodo : s.todo = []) (hl : s.Live)
    {packet : Packet} (hmem : (pkid, packet) ∈ s.client.unacked) :
    DeliveryInv ((s.acknowledged pkid packet).notePuback pkid) := by
  set unacked := s.client.unacked.filter fun p => p.1 != pkid with hun
  have hsub : unacked.Sublist s.client.unacked := List.filter_sublist
  have htake : takePkid pkid s.session.pending = some (packet.publication,
      tracked unacked (s.client.requests.filterMap Request.packet)) := by
    rw [h.record hl, takePkid_tracked hmem h.pkids]
  have hperm : (packet :: (unacked.map Prod.snd
      ++ s.client.requests.filterMap Request.packet)).Perm s.outstanding := by
    rw [OutputState.outstanding, htodo, List.filterMap_nil, List.append_nil, ← List.cons_append]
    exact (((unacked_perm hmem h.pkids).map Prod.snd).append_right _).symm
  have hrows : (List.filterMap Packet.row (packet :: (unacked.map Prod.snd
      ++ s.client.requests.filterMap Request.packet))).Perm s.rowsInFlight :=
    hperm.filterMap Packet.row
  have hslot := h.slot hl
  rw [slot_of_todo_nil htodo] at hslot
  have hcarries : ∀ p ∈ unacked.map Prod.snd ++ s.client.requests.filterMap Request.packet,
      CarriesOldest s.db.outbox p := fun p hp =>
    h.carries p (hperm.subset (List.mem_cons_of_mem _ hp))
  unfold OutputState.notePuback OutputState.acknowledged
  rcases hp : packet.publication with _ | seq <;> rw [hp] at htake <;> simp only [htake]
  · have hrow : packet.row = none := by rw [Packet.row, hp]
    rw [List.filterMap_cons_none hrow] at hrows
    have hflight : ∀ session : Session, ({ s with
        session := session
        client := { s.client with unacked := unacked }
        acked := s.acked ++ [packet] } : OutputState).rowsInFlight.Perm s.rowsInFlight := by
      intro session
      rw [OutputState.rowsInFlight, OutputState.outstanding, htodo]
      simpa using hrows
    refine ⟨?_, ?_, fun _ => ?_, fun _ _ he => ?_, by simp [htodo], by simp [htodo],
      fun hl' => absurd hl hl', h.pkids.sublist (hsub.map _), fun _ => rfl, h.ordered⟩
    · intro p hp
      rw [OutputState.outstanding, htodo, List.filterMap_nil, List.append_nil] at hp
      exact hcarries p hp
    · rw [(hflight _).length_eq]
      exact h.single
    · exact ((hflight _).trans hslot).trans (List.Perm.of_eq (Eq.symm (slot_of_todo_nil htodo)))
    · rw [htodo] at he
      cases he
  · have hrow : packet.row = some seq := by rw [Packet.row, hp]
    rw [List.filterMap_cons_some hrow] at hrows
    obtain ⟨hinflight, hempty⟩ : s.session.inflight = some seq ∧ (unacked.map Prod.snd
        ++ s.client.requests.filterMap Request.packet).filterMap Packet.row = [] := by
      have := hrows.trans hslot
      rcases hi : s.session.inflight with _ | i <;> rw [hi] at this
      · exact absurd this.eq_nil (by simp)
      · have := List.perm_singleton.1 this
        simp only [List.cons.injEq] at this
        exact ⟨by rw [this.1], this.2⟩
    have hflight : ∀ session : Session, ({ s with
        session := session
        client := { s.client with unacked := unacked }
        acked := s.acked ++ [packet]
        todo := [.deleteRow seq, .publishNextOutboxRow] } : OutputState).rowsInFlight = [] := by
      intro session
      rw [OutputState.rowsInFlight, OutputState.outstanding]
      simpa [Task.packet] using hempty
    obtain ⟨row, hhead, hpacket⟩ := h.carries packet (hperm.subset List.mem_cons_self) seq hrow
    refine ⟨?_, ?_, fun _ => ?_, fun i rest he => ?_, by simp, by simp, fun hl' => absurd hl hl',
      h.pkids.sublist (hsub.map _), fun _ => rfl, h.ordered⟩
    · intro p hp
      simp only [OutputState.outstanding, List.filterMap_cons, Task.packet, List.filterMap_nil,
        List.append_nil] at hp
      exact hcarries p hp
    · rw [hflight]
      exact Nat.zero_le _
    · rw [hflight]
      exact List.Perm.refl _
    · obtain rfl : seq = i := Task.deleteRow.inj (List.cons.inj he).1
      exact ⟨hinflight, row, hhead, List.mem_append_right _ (List.mem_singleton.2 hpacket.symm)⟩

theorem notePuback_statuses (s : OutputState) (h : ∀ q ∈ s.session.pending, q.publication = .status) :
    ∃ pending, (∀ q ∈ pending, q.publication = .status)
      ∧ s.notePuback pkid = { s with session := { s.session with pending := pending } } := by
  unfold OutputState.notePuback
  rcases htake : takePkid pkid s.session.pending with _ | ⟨publication, pending⟩
  · exact ⟨s.session.pending, h, rfl⟩
  · obtain ⟨⟨q, hq, hpub⟩, hsub⟩ := takePkid_mem htake
    rw [← hpub, h q hq]
    exact ⟨pending, fun q hq => h q (hsub q hq), rfl⟩

theorem DeliveryInv.acked_resting (h : DeliveryInv s) (hl : ¬ s.Live) {pending : List Pending}
    (hpending : ∀ q ∈ pending, q.publication = .status) {packet : Packet} {todo : List Task}
    (htodo : todo = [] ∨ s.phase ≠ .running ∧ todo = [.checkOfflineAcked]) :
    DeliveryInv { s.acknowledged pkid packet with
      session := { s.session with pending := pending }
      todo := todo } := by
  have hsub : (s.client.unacked.filter fun p => p.1 != pkid).Sublist s.client.unacked :=
    List.filter_sublist
  rcases htodo with rfl | ⟨hphase, rfl⟩
  · exact h.of_resting rfl (outstanding_sublist rfl rfl rfl hsub (List.Sublist.refl _)) hl
      (List.Sublist.refl _) hsub (Nat.zero_le _) (by simp) (by simp) hpending
  · exact h.of_resting rfl (outstanding_sublist rfl rfl rfl hsub (List.Sublist.refl _)) hl
      (List.Sublist.refl _) hsub le_rfl (by simp [Task.packet]) (fun hp => absurd hp hphase) hpending

theorem DeliveryInv.pubAck (h : DeliveryInv s) (htodo : s.todo = [])
    (hs : s.pubAck pkid = some s') : DeliveryInv s' := by
  unfold OutputState.pubAck at hs
  split at hs
  · cases hs
  rename_i k packet hfind
  obtain rfl : k = pkid := by simpa using List.find?_some hfind
  split_ifs at hs
  by_cases hl : s.Live
  · simp only [hl.1] at hs
    exact Option.some.inj hs ▸ h.pubAck_live htodo hl (List.mem_of_find?_eq_some hfind)
  · have hstatus := (h.resting hl).2.2.2
    obtain ⟨pending, hpending, hnote⟩ :
        ∃ pending, (∀ q ∈ pending, q.publication = .status)
          ∧ (s.acknowledged k packet).notePuback k = { s.acknowledged k packet with
            session := { s.session with pending := pending } } :=
      notePuback_statuses (s.acknowledged k packet) hstatus
    dsimp only at hs
    split at hs <;> obtain rfl := Option.some.inj hs
    · rw [hnote]
      exact h.acked_resting hl hpending (.inl htodo)
    · rename_i hphase
      rw [hnote]
      refine h.acked_resting hl hpending (.inr ⟨by simp [hphase], ?_⟩)
      simp [OutputState.acknowledged, htodo]
    · exact h.acked_resting hl hstatus (.inl htodo)

theorem DeliveryInv.pollFailed (h : DeliveryInv s) (htodo : s.todo = []) :
    DeliveryInv s.pollFailed := by
  have hsub : ∀ (phase : Phase) (session : Session) (todo : List Task),
      todo.filterMap Task.packet = [] → ({ s with
        client := { s.client with connected := false }
        phase := phase
        session := session
        todo := todo } : OutputState).outstanding.Sublist s.outstanding :=
    fun _ _ _ ht => outstanding_sublist rfl rfl ht (List.Sublist.refl _) (List.Sublist.refl _)
  unfold OutputState.pollFailed
  dsimp only
  split
  · exact h.of_resting rfl (hsub _ _ _ rfl) (fun hl => by cases hl.2) (List.Sublist.refl _)
      (List.Sublist.refl _) le_rfl (by simp [Task.packet]) (by simp) (by simp)
  · rename_i hphase
    exact h.of_resting rfl (hsub _ _ _ rfl) (fun hl => by cases hl.1) (List.Sublist.refl _)
      (List.Sublist.refl _) le_rfl (by simp [Task.packet]) (by simp)
      (h.resting fun hl => by cases hphase.symm.trans hl.1).2.2.2
  · rename_i hrunning _
    refine h.of_resting rfl (hsub _ _ _ (by simp [htodo])) (fun hl => by cases hl.1)
      (List.Sublist.refl _) (List.Sublist.refl _) (by simp [htodo]) (by simp [htodo])
      (by simp) (h.resting fun hl => hrunning hl.1).2.2.2

theorem DeliveryInv.shutdown (h : DeliveryInv s) (htodo : s.todo = []) :
    DeliveryInv s.shutdown := by
  unfold OutputState.shutdown
  split
  · exact h.of_resting rfl (outstanding_sublist rfl rfl rfl (List.Sublist.refl _)
      (List.Sublist.refl _)) (fun hl => by cases hl.1) (List.Sublist.refl _) (List.Sublist.refl _)
      le_rfl (by simp [Task.packet]) (by simp) (by simp)
  · rename_i hc
    exact h.of_resting rfl (outstanding_sublist rfl htodo rfl (List.Sublist.refl _)
      (List.Sublist.refl _)) (fun hl => by cases hl.1) (List.Sublist.refl _) (List.Sublist.refl _)
      (by simp [htodo]) (by simp [htodo]) (by simp) (h.resting fun hl => hc hl.2).2.2.2

theorem DeliveryInv.wait (h : DeliveryInv s) (htodo : s.todo = []) {event : OutputEvent}
    (hs : s.wait event = some s') : DeliveryInv s' := by
  -- the arms that only publish: nothing else was to do, so any first piece will do
  have harm : ∀ task : Task, s.Live → task.packet = none → (∀ seq, task ≠ .deleteRow seq) →
      task ≠ .checkOfflineAcked → task ≠ .disconnect → DeliveryInv { s with todo := [task] } := by
    intro task hl hpacket hdelete hcheck hdisconnect
    refine h.retask [task] (fun _ _ he => by cases htodo.symm.trans he)
      (fun seq hm => hdelete seq (List.mem_singleton.1 hm).symm) ?_ ?_ (fun _ ht => by cases ht)
      (fun _ => ⟨fun hm => hcheck (List.mem_singleton.1 hm).symm,
        fun hm => hdisconnect (List.mem_singleton.1 hm).symm⟩) fun hl' => absurd hl hl'
    · simp [htodo, hpacket]
    · simp [hpacket]
  have hleave : ∀ (client : Client) (phase : Phase) (wire acked : List Packet) (todo : List Task),
      s.phase ≠ .running → phase ≠ .running → client.unacked.Sublist s.client.unacked →
      (client.requests.filterMap Request.packet).Sublist
        (s.client.requests.filterMap Request.packet) → wire.Sublist s.wire →
      todo = [] ∨ todo = [.disconnect] → DeliveryInv { s with
        client := client, phase := phase, wire := wire, acked := acked, todo := todo } := by
    intro client phase wire acked todo hphase hphase' hu hr hw ht
    have hpending := (h.resting fun hl => hphase hl.1).2.2.2
    rcases ht with rfl | rfl
    · exact h.of_resting rfl (outstanding_sublist rfl rfl rfl hu hr) (fun hl => hphase' hl.1)
        ((List.Sublist.refl _).append hw) hu (Nat.zero_le _) (by simp) (by simp) hpending
    · exact h.of_resting rfl (outstanding_sublist rfl rfl rfl hu hr) (fun hl => hphase' hl.1)
        ((List.Sublist.refl _).append hw) hu le_rfl (by simp [Task.packet])
        (fun hp => absurd hp hphase') hpending
  cases event with
  | connAck =>
    simp only [OutputState.wait] at hs
    split_ifs at hs
    split at hs
    · rename_i hphase
      exact Option.some.inj hs ▸ h.connAck hphase
    · rename_i hphase
      refine Option.some.inj hs ▸ hleave _ _ _ _ _ (by simp [hphase]) (by simp [hphase])
        (List.nil_sublist _) (List.nil_sublist _) (List.nil_sublist _) (.inl htodo)
    · cases hs
  | packetWritten pkid =>
    simp only [OutputState.wait] at hs
    split_ifs at hs
    exact h.packetWritten htodo hs
  | pubAck pkid =>
    simp only [OutputState.wait] at hs
    split_ifs at hs
    exact h.pubAck htodo hs
  | disconnectWritten =>
    simp only [OutputState.wait] at hs
    split at hs
    · rename_i hphase hreq
      refine Option.some.inj hs ▸ hleave _ _ _ _ _ (by simp [hphase]) (by simp)
        (List.Sublist.refl _) ?_ (List.Sublist.refl _) (.inl htodo)
      rw [hreq]
      exact List.Sublist.refl _
    · cases hs
  | otherPolled =>
    simp only [OutputState.wait] at hs
    split_ifs at hs
    exact Option.some.inj hs ▸ h
  | pollFailed =>
    simp only [OutputState.wait] at hs
    split_ifs at hs
    exact Option.some.inj hs ▸ h.pollFailed htodo
  | committed | idleProbe =>
    simp only [OutputState.wait] at hs
    split_ifs at hs with hc
    exact Option.some.inj hs ▸ harm _ ⟨hc.1, hc.2.1⟩ rfl (by simp) (by simp) (by simp)
  | heartbeat | faultNotified =>
    simp only [OutputState.wait] at hs
    split_ifs at hs with hc
    exact Option.some.inj hs ▸ harm _ hc rfl (by simp) (by simp) (by simp)
  | shutdown =>
    simp only [OutputState.wait] at hs
    split_ifs at hs
    exact Option.some.inj hs ▸ h.shutdown htodo
  | timedOut =>
    simp only [OutputState.wait] at hs
    split at hs
    · rename_i hphase
      exact Option.some.inj hs ▸ hleave _ _ _ _ _ (by simp [hphase]) (by simp)
        (List.Sublist.refl _) (List.Sublist.refl _) (List.Sublist.refl _) (.inr rfl)
    · rename_i hphase
      exact Option.some.inj hs ▸ hleave _ _ _ _ _ (by simp [hphase]) (by simp)
        (List.Sublist.refl _) (List.Sublist.refl _) (List.Sublist.refl _) (.inl htodo)
    · cases hs
  | _ => cases hs

theorem DeliveryInv.step (h : DeliveryInv s) {event : OutputEvent}
    (hs : s.step edgeNodeId event = some s') : DeliveryInv s' := by
  have hwait : s.todo.isEmpty = true → s.wait event = some s' → DeliveryInv s' := fun ht hw =>
    h.wait (List.isEmpty_iff.1 ht) hw
  cases event with
  | enqueued row =>
    obtain ⟨outbox, ho, rfl⟩ := Option.map_eq_some_iff.1 hs
    refine ⟨fun p hp => (h.carries p hp).insert ho, h.single, h.slot, fun seq rest he => ?_, h.later,
      h.looping, h.resting, h.pkids, h.record, h.ordered.insert ho⟩
    obtain ⟨hi, row', hrow, hacked⟩ := h.deleting seq rest he
    exact ⟨hi, row', AutoTable.head_insert ho hrow, hacked⟩
  | faultsChanged snapshot =>
    obtain rfl := Option.some.inj hs
    exact ⟨h.carries, h.single, h.slot, h.deleting, h.later, h.looping, h.resting, h.pkids,
      h.record, h.ordered⟩
  | received =>
    simp only [OutputState.step] at hs
    split at hs
    · cases hs
    · rename_i packet wire hw
      obtain rfl := Option.some.inj hs
      refine ⟨h.carries, h.single, h.slot, h.deleting, h.later, h.looping, h.resting, h.pkids,
        h.record, ?_⟩
      have := h.ordered
      rw [hw] at this
      simpa using this
  | restarted =>
    obtain rfl := Option.some.inj hs
    exact h.of_resting rfl (List.nil_sublist _) (fun hl => nomatch hl.2) (List.Sublist.refl _)
      (List.nil_sublist _) (Nat.zero_le _) (by simp [OutputState.restart])
      (by simp [OutputState.restart]) (by simp [OutputState.restart])
  | work failed now =>
    simp only [OutputState.step] at hs
    split at hs
    · cases hs
    · rename_i task rest htodo
      exact h.perform htodo hs
  | _ =>
    simp only [OutputState.step] at hs
    split_ifs at hs with ht
    exact hwait ht hs

end Wait

/-! ## Every run -/

section Runs

variable {edgeNodeId : EdgeNodeId} {s s' : OutputState}

theorem deliveryInv_init : DeliveryInv {} where
  carries _ hp := nomatch hp
  single := Nat.zero_le _
  slot _ := List.Perm.refl _
  deleting _ _ he := nomatch he
  later _ ht := nomatch ht
  looping _ := ⟨List.not_mem_nil, List.not_mem_nil⟩
  resting _ := ⟨List.not_mem_nil, fun _ => List.not_mem_nil, fun _ hp => (nomatch hp),
    fun _ hq => (nomatch hq)⟩
  pkids := List.nodup_nil
  record hl := nomatch hl.2
  ordered := ⟨List.Pairwise.nil, fun _ hs => (nomatch hs), fun _ hp => (nomatch hp)⟩

theorem deliveryInv_run {events : List OutputEvent} (hrun : outputRun edgeNodeId events = some s) :
    DeliveryInv s :=
  Machine.run_invariant (fun _ _ _ h hs => h.step hs) deliveryInv_init hrun

theorem rows_length {β : Type} (entry : β → Pending) (packet : β → Packet)
    (h : ∀ b, (entry b).publication = (packet b).publication) (bs : List β) :
    ((bs.map entry).filter fun q => q.publication != .status).length
      = ((bs.map packet).filterMap Packet.row).length := by
  induction bs with
  | nil => rfl
  | cons b bs ih =>
    rw [List.map_cons, List.map_cons, List.filter_cons, List.filterMap_cons, Packet.row, h]
    cases (packet b).publication <;> simp [ih]

theorem DeliveryInv.one_pending (h : DeliveryInv s) :
    (s.session.pending.filter fun q => q.publication != .status).length ≤ 1 := by
  by_cases hl : s.Live
  · have hsingle := h.single
    rw [OutputState.rowsInFlight, OutputState.outstanding, List.filterMap_append,
      List.filterMap_append, List.length_append, List.length_append] at hsingle
    rw [h.record hl, tracked, List.filter_append, List.length_append,
      rows_length _ Prod.snd (fun _ => rfl), rows_length _ id (fun _ => rfl), List.map_id]
    omega
  · rw [List.filter_eq_nil_iff.2]
    · exact Nat.zero_le _
    · intro q hq
      simp [(h.resting hl).2.2.2 q hq]

theorem notePuback_db (pkid : ℕ) : (s.notePuback pkid).db = s.db := by
  unfold OutputState.notePuback
  split <;> rfl

theorem wait_db {event : OutputEvent} (hs : s.wait event = some s') : s'.db = s.db := by
  cases event <;> simp only [OutputState.wait, OutputState.packetWritten, OutputState.pubAck,
    reduceCtorEq] at hs <;> repeat' split at hs
  all_goals first
    | (obtain rfl := Option.some.inj hs
       first
         | rfl
         | exact notePuback_db _
         | (unfold OutputState.pollFailed; dsimp only; split <;> rfl)
         | (unfold OutputState.shutdown; split <;> rfl))
    | cases hs

theorem step_rows {event : OutputEvent} (hs : s.step edgeNodeId event = some s') {x : ℕ × OutboxRow}
    (hx : x ∈ s.db.outbox.rows) (hx' : x ∉ s'.db.outbox.rows) :
    ∃ rest, s.todo = .deleteRow x.1 :: rest := by
  have hsame : s'.db ≠ s.db := fun he => hx' (he ▸ hx)
  cases event with
  | enqueued row =>
    obtain ⟨outbox, ho, rfl⟩ := Option.map_eq_some_iff.1 hs
    refine absurd ?_ hx'
    change x ∈ outbox.rows
    rw [(AutoTable.insert_eq_some ho).1]
    exact List.mem_append_left _ hx
  | work failed now =>
    simp only [OutputState.step] at hs
    split at hs
    · cases hs
    rename_i task rest htodo
    cases task with
    | deleteRow seq =>
      simp only [OutputState.perform, Option.some.injEq, delete_eq] at hs
      subst hs
      cases failed with
      | true => exact absurd rfl hsame
      | false =>
        refine ⟨rest, htodo.trans ?_⟩
        by_contra hne
        refine hx' (List.mem_filter.2 ⟨hx, ?_⟩)
        simp only [Bool.not_eq_true', beq_eq_false_iff_ne, ne_eq]
        exact fun he => hne (by rw [he])
    | publishNextOutboxRow =>
      simp only [OutputState.perform] at hs
      repeat' split at hs
      all_goals exact absurd (by rw [← Option.some.inj hs]) hsame
    | _ =>
      simp only [OutputState.perform] at hs
      repeat' split at hs
      all_goals first
        | exact absurd (by rw [← Option.some.inj hs]) hsame
        | cases hs
  | received =>
    simp only [OutputState.step] at hs
    split at hs
    · cases hs
    · exact absurd (by rw [← Option.some.inj hs]) hsame
  | faultsChanged snapshot => exact absurd (by rw [← Option.some.inj hs]) hsame
  | restarted => exact absurd (by rw [← Option.some.inj hs]; rfl) hsame
  | _ =>
    simp only [OutputState.step] at hs
    split_ifs at hs
    exact absurd (wait_db hs) hsame

/-- The adapter has at most one row in flight; a row it deletes was carried by a packet
acknowledged in this connection; and the Broker receives the rows in order, a repeat being the row
it received last. -/
theorem output_delivers_rows_in_order (edgeNodeId : EdgeNodeId) (events : List OutputEvent)
    (s : OutputState) (hrun : outputRun edgeNodeId events = some s) :
    (s.rowsInFlight.length ≤ 1
        ∧ (s.session.pending.filter fun q => q.publication != .status).length ≤ 1)
      ∧ (∀ event s' seq row, s.step edgeNodeId event = some s' → (seq, row) ∈ s.db.outbox.rows →
          (seq, row) ∉ s'.db.outbox.rows → rowPacket seq row ∈ s.acked)
      ∧ (s.received.filterMap Packet.row).Pairwise (· ≤ ·)
      ∧ (∀ p ∈ s.received, ∀ seq, p.row = some seq →
          ∃ row, (seq, row) ∈ s.db.outbox.ever ∧ p = rowPacket seq row)
      ∧ ∀ before p between q after, s.received = before ++ p :: between ++ q :: after →
          p.row.isSome → p.row = q.row → p = q ∧ ∀ i ∈ between.filterMap Packet.row, p.row = some i := by
  have h := deliveryInv_run hrun
  have hreceived : Ordered s.received s.db.outbox :=
    h.ordered.sublist (List.sublist_append_left _ _)
  refine ⟨⟨h.single, h.one_pending⟩, fun event s' seq row hs hrow hrow' => ?_, hreceived.sorted,
    hreceived.genuine, fun before p between q after heq hp hpq => ?_⟩
  · obtain ⟨rest, htodo⟩ := step_rows hs hrow hrow'
    obtain ⟨-, row', hhead, hacked⟩ := h.deleting seq rest htodo
    have hmem := s.db.outbox.live.subset (List.mem_of_mem_head? hhead)
    rwa [AutoTable.ever_unique hmem (s.db.outbox.live.subset hrow)] at hacked
  · obtain ⟨seq, hseq⟩ := Option.isSome_iff_exists.1 hp
    have hseq' : q.row = some seq := hpq ▸ hseq
    obtain ⟨row, hrow, rfl⟩ := hreceived.genuine p (by simp [heq]) seq hseq
    obtain ⟨row', hrow', rfl⟩ := hreceived.genuine q (by simp [heq]) seq hseq'
    refine ⟨by rw [AutoTable.ever_unique hrow hrow'], fun i hi => ?_⟩
    have hsorted := hreceived.sorted
    simp only [heq, List.filterMap_append, List.filterMap_cons_some hseq,
      List.filterMap_cons_some hseq', List.append_assoc, List.cons_append] at hsorted
    obtain ⟨hlow, hrest⟩ := List.pairwise_cons.1 (List.pairwise_append.1 hsorted).2.1
    have hhigh := (List.pairwise_append.1 hrest).2.2 i hi seq List.mem_cons_self
    have hlow := hlow i (List.mem_append_left _ hi)
    rw [hseq, le_antisymm hlow hhigh]

/-- A row inserted, sent, received, acknowledged, and not deleted because the database fails; the
connection is lost and the row sent again. -/
def resentRow (row : OutboxRow) : List OutputEvent :=
  [.enqueued row, .connAck, .work false ⟨0, none⟩, .work false ⟨0, none⟩, .work false ⟨0, none⟩,
    .work false ⟨0, none⟩, .packetWritten 1, .packetWritten 2, .received, .received, .pubAck 2,
    .work true ⟨1, none⟩, .work true ⟨1, none⟩, .pollFailed, .work false ⟨1, none⟩, .connAck,
    .work false ⟨2, none⟩, .work false ⟨2, none⟩, .work false ⟨2, none⟩, .work false ⟨2, none⟩,
    .packetWritten 1, .packetWritten 2, .received, .received]

def station : EdgeNodeId := ⟨"station", by decide⟩

def stationRow : OutboxRow := ⟨⟨"belt", by decide⟩, "topic", none, true, ⟨0, none⟩⟩

theorem resentRow_in_order :
    (outputRun station (resentRow stationRow)).map
        (fun s => s.received.filterMap Packet.row) = some [1, 1]
      ∧ ∃ s, outputRun station (resentRow stationRow) = some s
        ∧ (s.received.filterMap Packet.row).Pairwise (· ≤ ·) := by
  have hrows : (outputRun station (resentRow stationRow)).map
      (fun s => s.received.filterMap Packet.row) = some [1, 1] := by decide +kernel
  obtain ⟨s, hs, -⟩ := Option.map_eq_some_iff.1 hrows
  exact ⟨hrows, s, hs,
    (output_delivers_rows_in_order station (resentRow stationRow) s hs).2.2.1⟩

end Runs

end EdgeNode
