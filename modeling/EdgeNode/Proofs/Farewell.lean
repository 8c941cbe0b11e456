import EdgeNode.Proofs.OutputLoop

/-!
# The acknowledgement a shutdown waits for

At the shutdown the record of publications is emptied and the `offline` status handed over. The
packet identifier of the first request still queued before it goes to the record's only entry, and
the PUBACK of that packet ends the wait (`older_ack_ends_wait`).
-/

namespace EdgeNode

def Packet.SaysOffline (p : Packet) : Prop :=
  match p.body with
  | .status status => status.value = .offline
  | .observation _ => False

instance (p : Packet) : Decidable p.SaysOffline := by
  unfold Packet.SaysOffline
  split <;> infer_instance

/-- The queue is empty when a connected adapter is told to shut down, and the client takes the status
that is handed to it then. -/
def LeavesInOrder (s : OutputState) : OutputEvent → Prop
  | .shutdown => s.session.connected = true → s.client.requests.isEmpty = true
  | .work failed _ => s.phase = .offline → failed = false
  | _ => True

instance (s : OutputState) (event : OutputEvent) : Decidable (LeavesInOrder s event) := by
  unfold LeavesInOrder
  split <;> infer_instance

/-- The status of the connection and a heartbeat are queued and not yet written at the shutdown; the
Broker acknowledges the first of them. -/
def hastyShutdown : List OutputEvent :=
  [.connAck, .worked, .worked, .worked, .heartbeat, .worked, .worked, .shutdown, .worked, .worked,
    .packetWritten 1, .pubAck 1, .worked]

theorem older_ack_ends_wait :
    ∃ s, outputRun station hastyShutdown = some s ∧ s.phase = .disconnecting true
      ∧ ∀ p ∈ s.acked, ¬ p.SaysOffline := by
  have h : (outputRun station hastyShutdown).any (fun s => s.phase = .disconnecting true
      ∧ ∀ p ∈ s.acked, ¬ p.SaysOffline) = true := by decide +kernel
  obtain ⟨s, hs, hend⟩ := (Option.any_eq_true _ _).1 h
  exact ⟨s, hs, of_decide_eq_true hend⟩

/-! ## A shutdown with nothing queued -/

/-- How far the `offline` status has come. -/
inductive Farewell (s : OutputState) : Prop
  | asked (todo : s.todo = [.publishStatus .offline]) (requests : s.client.requests = [])
      (pending : s.session.pending = [])
  | built (packet : Packet) (offline : packet.SaysOffline) (status : packet.publication = .status)
      (todo : s.todo = [.handOver packet]) (requests : s.client.requests = [])
      (pending : s.session.pending = [])
  | queued (packet : Packet) (offline : packet.SaysOffline)
      (todo : s.todo = [] ∨ s.todo = [.checkOfflineAcked])
      (requests : s.client.requests = [.publish packet])
      (pending : s.session.pending = [⟨.status, none⟩])
  | written (packet : Packet) (pkid : ℕ) (offline : packet.SaysOffline)
      (todo : s.todo = [] ∨ s.todo = [.checkOfflineAcked]) (requests : s.client.requests = [])
      (pending : s.session.pending = [⟨.status, some pkid⟩])
      (unacked : (pkid, packet) ∈ s.client.unacked)
  | acked (packet : Packet) (offline : packet.SaysOffline) (mem : packet ∈ s.acked)

section Wait

variable {edgeNodeId : EdgeNodeId} {s s' : OutputState} {failed : Bool} {now : InputTime}
  {task : Task} {rest : List Task}

theorem Farewell.congr (h : Farewell s) (htodo : s'.todo = s.todo) (hclient : s'.client = s.client)
    (hsession : s'.session = s.session) (hacked : s'.acked = s.acked) : Farewell s' := by
  cases h with
  | asked todo requests pending =>
    exact .asked (htodo ▸ todo) (hclient ▸ requests) (hsession ▸ pending)
  | built packet offline status todo requests pending =>
    exact .built packet offline status (htodo ▸ todo) (hclient ▸ requests) (hsession ▸ pending)
  | queued packet offline todo requests pending =>
    exact .queued packet offline (htodo ▸ todo) (hclient ▸ requests) (hsession ▸ pending)
  | written packet pkid offline todo requests pending unacked =>
    exact .written packet pkid offline (htodo ▸ todo) (hclient ▸ requests) (hsession ▸ pending)
      (hclient ▸ unacked)
  | acked packet offline mem => exact .acked packet offline (hacked ▸ mem)

theorem perform_acked (hs : s.perform edgeNodeId failed now rest task = some s') :
    s'.acked = s.acked := by
  cases task <;> simp only [OutputState.perform] at hs <;> repeat' split at hs
  all_goals first
    | (obtain rfl := Option.some.inj hs; rfl)
    | cases hs

theorem check_waits {q : Pending} (hpending : s.session.pending = [q]) (hq : q.publication = .status)
    (hs : s.perform edgeNodeId failed now rest .checkOfflineAcked = some s') :
    s' = { s with todo := rest } := by
  simp only [OutputState.perform, hpending, List.all_cons, hq, List.all_nil] at hs
  simpa using hs.symm

theorem Farewell.perform (h : Farewell s) (hphase : s.phase = .offline) (hfailed : failed = false)
    (htodo : s.todo = task :: rest) (hs : s.perform edgeNodeId failed now rest task = some s') :
    (s'.phase = .offline → Farewell s')
      ∧ (s'.phase = .disconnecting true → ∃ p ∈ s'.acked, p.SaysOffline) := by
  have hstays : s'.phase = .offline → Farewell s' →
      (s'.phase = .offline → Farewell s')
        ∧ (s'.phase = .disconnecting true → ∃ p ∈ s'.acked, p.SaysOffline) :=
    fun hp hf => ⟨fun _ => hf, fun hp' => nomatch hp.symm.trans hp'⟩
  have hacked := perform_acked hs
  cases h with
  | asked todo requests pending =>
    obtain ⟨rfl, rfl⟩ := List.cons.inj (htodo.symm.trans todo)
    obtain rfl := Option.some.inj hs
    exact hstays hphase (.built (statusPacket edgeNodeId (Status.build s.faults .offline now))
      rfl rfl rfl requests pending)
  | built packet offline status todo requests pending =>
    obtain ⟨rfl, rfl⟩ := List.cons.inj (htodo.symm.trans todo)
    subst hfailed
    simp only [OutputState.perform, requests, List.length_nil, requestCapacity,
      Session.handedOver, status, pending, List.nil_append] at hs
    obtain rfl := Option.some.inj hs
    exact hstays hphase (.queued packet offline (.inl rfl) rfl rfl)
  | queued packet offline todo requests pending =>
    obtain ⟨rfl, rfl⟩ := List.cons.inj (htodo.symm.trans (todo.resolve_left (by simp [htodo])))
    obtain rfl := check_waits pending rfl hs
    exact hstays hphase (.queued packet offline (.inl rfl) requests pending)
  | written packet pkid offline todo requests pending unacked =>
    obtain ⟨rfl, rfl⟩ := List.cons.inj (htodo.symm.trans (todo.resolve_left (by simp [htodo])))
    obtain rfl := check_waits pending rfl hs
    exact hstays hphase (.written packet pkid offline (.inl rfl) requests pending unacked)
  | acked packet offline mem =>
    exact ⟨fun _ => .acked packet offline (hacked ▸ mem),
      fun _ => ⟨packet, hacked ▸ mem, offline⟩⟩

theorem packetWritten_phase {pkid : ℕ} (hs : s.packetWritten pkid = some s') :
    s'.phase = s.phase := by
  unfold OutputState.packetWritten at hs
  repeat' split at hs
  all_goals first
    | (obtain rfl := Option.some.inj hs; rfl)
    | cases hs

theorem pubAck_phase {pkid : ℕ} (hs : s.pubAck pkid = some s') : s'.phase = s.phase := by
  unfold OutputState.pubAck at hs
  repeat' split at hs
  all_goals first
    | (obtain rfl := Option.some.inj hs; first | rfl | exact acknowledged_phase _ _)
    | cases hs

theorem Farewell.packetWritten (h : Farewell s) (hphase : s.phase = .offline) (htodo : s.todo = [])
    {pkid : ℕ} (hs : s.packetWritten pkid = some s') : Farewell s' := by
  unfold OutputState.packetWritten at hs
  cases h with
  | asked todo requests pending => cases htodo.symm.trans todo
  | built packet offline status todo requests pending => cases htodo.symm.trans todo
  | queued packet offline todo requests pending =>
    simp only [requests] at hs
    split_ifs at hs
    simp only [hphase, Session.notePacketWritten, pending, assignPkid] at hs
    obtain rfl := Option.some.inj hs
    exact .written packet pkid offline (.inl htodo) rfl rfl (by simp)
  | written packet pkid' offline todo requests pending unacked =>
    simp only [requests] at hs
    cases hs
  | acked packet offline mem =>
    split at hs
    · split_ifs at hs
      obtain rfl := Option.some.inj hs
      exact .acked packet offline mem
    · cases hs

theorem notePuback_acked (pkid : ℕ) : (s.notePuback pkid).acked = s.acked := by
  unfold OutputState.notePuback
  split <;> rfl

theorem notePuback_none {pkid : ℕ} (h : takePkid pkid s.session.pending = none) :
    s.notePuback pkid = s := by
  unfold OutputState.notePuback
  rw [h]

theorem Farewell.pubAck (h : Farewell s) (hpkids : (s.client.unacked.map Prod.fst).Nodup)
    (hphase : s.phase = .offline) (htodo : s.todo = []) {pkid : ℕ}
    (hs : s.pubAck pkid = some s') : Farewell s' := by
  unfold OutputState.pubAck at hs
  rcases hfind : s.client.unacked.find? (fun p => p.1 == pkid) with _ | ⟨k, p⟩ <;>
    simp only [hfind] at hs
  · exact nomatch hs
  split_ifs at hs
  simp only [hphase] at hs
  obtain rfl := Option.some.inj hs
  obtain rfl : k = pkid := by simpa using List.find?_some hfind
  have hmem : (k, p) ∈ s.client.unacked := List.mem_of_find?_eq_some hfind
  have hin : ∀ q, q = p ∨ q ∈ s.acked → q ∈ ((s.acknowledged k p).notePuback k).acked := by
    intro q hq
    rw [notePuback_acked]
    exact List.mem_append.2 (hq.symm.imp_right List.mem_singleton.2)
  cases h with
  | asked todo requests pending => exact nomatch htodo.symm.trans todo
  | built packet offline status todo requests pending => exact nomatch htodo.symm.trans todo
  | queued packet offline todo requests pending =>
    have hnone : takePkid k s.session.pending = none := by simp [pending, takePkid]
    rw [notePuback_none (s := s.acknowledged k p) hnone]
    exact .queued packet offline (.inr (by simp [OutputState.acknowledged, htodo])) requests pending
  | written packet pkid offline todo requests pending unacked =>
    by_cases hpkid : pkid = k
    · subst hpkid
      have hsame : packet = p :=
        congrArg Prod.snd (List.inj_on_of_nodup_map hpkids unacked hmem rfl)
      exact .acked packet offline (hin packet (.inl hsame))
    · have hnone : takePkid k s.session.pending = none := by simp [pending, takePkid, hpkid]
      rw [notePuback_none (s := s.acknowledged k p) hnone]
      refine .written packet pkid offline (.inr (by simp [OutputState.acknowledged, htodo])) requests
        pending ?_
      exact List.mem_filter.2 ⟨unacked, by simpa using hpkid⟩
  | acked packet offline mem => exact .acked packet offline (hin packet (.inr mem))

structure FarewellInv (s : OutputState) : Prop where
  delivery : DeliveryInv s
  stage : s.phase = .offline → Farewell s

theorem FarewellInv.wait (h : FarewellInv s) (htodo : s.todo = []) {event : OutputEvent}
    (hclear : LeavesInOrder s event) (hs : s.wait event = some s') :
    (s'.phase = .offline → Farewell s') ∧ (s.phase = .offline → s'.phase ≠ .disconnecting true) := by
  by_cases hphase : s.phase = .offline
  · have hstage := h.stage hphase
    have hstays : s'.phase = .offline → Farewell s' →
        (s'.phase = .offline → Farewell s') ∧ (s.phase = .offline → s'.phase ≠ .disconnecting true) :=
      fun hp hf => ⟨fun _ => hf, fun _ hp' => by cases hp.symm.trans hp'⟩
    cases event <;> simp only [OutputState.wait, hphase, reduceCtorEq, false_and, if_false,
      ite_self] at hs
    case packetWritten pkid =>
      exact hstays (packetWritten_phase hs ▸ hphase) (hstage.packetWritten hphase htodo hs)
    case pubAck pkid =>
      exact hstays (pubAck_phase hs ▸ hphase) (hstage.pubAck h.delivery.pkids hphase htodo hs)
    case otherPolled =>
      obtain rfl := Option.some.inj hs
      exact hstays hphase hstage
    case pollFailed =>
      obtain rfl := Option.some.inj hs
      simp [OutputState.pollFailed, hphase]
    case timedOut =>
      obtain rfl := Option.some.inj hs
      simp
  · refine ⟨fun hp => ?_, fun hp => absurd hp hphase⟩
    cases event with
    | shutdown =>
      simp only [OutputState.wait] at hs
      split_ifs at hs
      obtain rfl := Option.some.inj hs
      unfold OutputState.shutdown at hp ⊢
      by_cases hc : s.session.connected = true
      · rw [if_pos hc]
        exact .asked rfl (List.isEmpty_iff.1 (hclear hc)) rfl
      · rw [if_neg hc] at hp
        cases hp
    | packetWritten pkid =>
      simp only [OutputState.wait] at hs
      split_ifs at hs
      exact absurd (packetWritten_phase hs ▸ hp) hphase
    | pubAck pkid =>
      simp only [OutputState.wait] at hs
      split_ifs at hs
      exact absurd (pubAck_phase hs ▸ hp) hphase
    | connAck | disconnectWritten | otherPolled | pollFailed | committed | idleProbe | heartbeat
    | faultNotified | timedOut =>
      simp only [OutputState.wait, OutputState.pollFailed] at hs
      repeat' split at hs
      all_goals first
        | (obtain rfl := Option.some.inj hs
           first
             | exact absurd hp hphase
             | exact absurd ‹_› hphase
             | cases hp)
        | cases hs
    | _ => cases hs

/-- A step keeps the stage, and one that ends the wait as acknowledged follows the PUBACK of the
`offline` packet. -/
theorem FarewellInv.step (h : FarewellInv s) {event : OutputEvent} (hclear : LeavesInOrder s event)
    (hs : s.step edgeNodeId event = some s') :
    FarewellInv s' ∧ (s.phase = .offline → s'.phase = .disconnecting true →
      ∃ p ∈ s'.acked, p.SaysOffline) := by
  suffices hstage : (s'.phase = .offline → Farewell s')
      ∧ (s.phase = .offline → s'.phase = .disconnecting true → ∃ p ∈ s'.acked, p.SaysOffline) from
    ⟨⟨h.delivery.step hs, hstage.1⟩, hstage.2⟩
  have hbeside : s'.phase = s.phase → s'.todo = s.todo → s'.client = s.client →
      s'.session = s.session → s'.acked = s.acked →
      (s'.phase = .offline → Farewell s')
        ∧ (s.phase = .offline → s'.phase = .disconnecting true →
          ∃ p ∈ s'.acked, p.SaysOffline) := by
    intro hphase htodo hclient hsession hacked
    refine ⟨fun hp => (h.stage (hphase ▸ hp)).congr htodo hclient hsession hacked, fun hp hp' => ?_⟩
    rw [hphase, hp] at hp'
    cases hp'
  cases event with
  | enqueued row =>
    obtain ⟨outbox, -, rfl⟩ := Option.map_eq_some_iff.1 hs
    exact hbeside rfl rfl rfl rfl rfl
  | faultsChanged snapshot =>
    obtain rfl := Option.some.inj hs
    exact hbeside rfl rfl rfl rfl rfl
  | received =>
    simp only [OutputState.step] at hs
    split at hs
    · cases hs
    · obtain rfl := Option.some.inj hs
      exact hbeside rfl rfl rfl rfl rfl
  | restarted =>
    obtain rfl := Option.some.inj hs
    exact ⟨fun hp => (by cases hp), fun _ hp => (by cases hp)⟩
  | work failed now =>
    simp only [OutputState.step] at hs
    split at hs
    · cases hs
    · rename_i task rest htodo
      by_cases hphase : s.phase = .offline
      · have := (h.stage hphase).perform hphase (hclear hphase) htodo hs
        exact ⟨this.1, fun _ => this.2⟩
      · refine ⟨fun hp => ?_, fun hp => absurd hp hphase⟩
        rcases perform_phase hs with hq | hq | hq <;> rw [hp] at hq
        · exact absurd hq.symm hphase
        · cases hq
        · cases hq
  | _ =>
    simp only [OutputState.step] at hs
    split_ifs at hs with ht
    have hw := h.wait (List.isEmpty_iff.1 ht) hclear hs
    exact ⟨hw.1, fun hp hp' => absurd hp' (hw.2 hp)⟩

end Wait

/-- In every run in which nothing is queued at the shutdown of a connected adapter and its `offline`
status is taken by the client, the wait ends as acknowledged only after the Broker has acknowledged
the packet that carried that status. -/
theorem wait_ends_with_offline_ack (edgeNodeId : EdgeNodeId) (events : List OutputEvent)
    (event : OutputEvent) (s s' : OutputState)
    (horder : Machine.Along (OutputState.step edgeNodeId) LeavesInOrder {} (events ++ [event]))
    (hrun : outputRun edgeNodeId events = some s) (hs : s.step edgeNodeId event = some s')
    (hwaiting : s.phase = .offline) (hended : s'.phase = .disconnecting true) :
    ∃ p ∈ s'.acked, p.SaysOffline := by
  obtain ⟨hbefore, hlast, -⟩ := horder.of_append hrun
  have hinit : FarewellInv {} := ⟨deliveryInv_init, fun hp => nomatch hp⟩
  have h : FarewellInv s := Machine.run_invariant_along
    (fun _ _ _ hP hI hst => (hI.step hP hst).1) hbefore hinit hrun
  exact (h.step hlast hs).2 hwaiting hended

def calmShutdown : List OutputEvent :=
  [.connAck, .worked, .worked, .worked, .packetWritten 1, .shutdown, .worked, .worked,
    .packetWritten 2, .pubAck 1, .worked, .pubAck 2]

theorem calmShutdown_acknowledged :
    ∃ s s', outputRun station calmShutdown = some s
      ∧ s.step station .worked = some s' ∧ s'.phase = .disconnecting true
      ∧ ∃ p ∈ s'.acked, p.SaysOffline := by
  have horder : Machine.Along (OutputState.step station) LeavesInOrder {}
      (calmShutdown ++ [.worked]) := by decide +kernel
  have hend : (outputRun station calmShutdown).any (fun s => s.phase = .offline
      ∧ (s.step station .worked).any fun s' => s'.phase = .disconnecting true) = true := by
    decide +kernel
  obtain ⟨s, hrun, hs⟩ := (Option.any_eq_true _ _).1 hend
  obtain ⟨hwaiting, hs⟩ := of_decide_eq_true hs
  obtain ⟨s', hs, hended⟩ := (Option.any_eq_true _ _).1 hs
  have hended := of_decide_eq_true hended
  exact ⟨s, s', hrun, hs, hended,
    wait_ends_with_offline_ack station calmShutdown .worked s s' horder hrun hs hwaiting hended⟩

end EdgeNode
