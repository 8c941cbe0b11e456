import EdgeNode.Proofs.Delivery

/-!
# Whether the loop comes back to its select

The task that fills the client's queue of requests is the one that empties it, so handing a
publication over to a full queue waits for ever (`Stuck`). A Broker that keeps the connection but
never acknowledges gets the task there: the client stops writing at its limit, and the heartbeats
fill the queue (`heartbeats_block_loop`).
-/

namespace EdgeNode

variable {edgeNodeId : EdgeNodeId} {s s' : OutputState}

/-! ## A full queue -/

def OutputState.Stuck (s : OutputState) : Prop :=
  requestCapacity ≤ s.client.requests.length ∧ ∃ packet rest, s.todo = .handOver packet :: rest

instance : DecidablePred OutputState.Stuck := fun s =>
  match h : s.todo with
  | .handOver packet :: rest =>
    decidable_of_iff (requestCapacity ≤ s.client.requests.length)
      ⟨fun hc => ⟨hc, packet, rest, h⟩, fun hs => hs.1⟩
  | [] | .publishStatus _ :: _ | .publishNextOutboxRow :: _ | .deleteRow _ :: _
  | .reconnectDelay :: _ | .checkOfflineAcked :: _ | .disconnect :: _ =>
    isFalse fun ⟨_, _, _, he⟩ => nomatch h.symm.trans he

theorem OutputState.Stuck.step (h : s.Stuck) {event : OutputEvent} (hevent : event ≠ .restarted)
    (hs : s.step edgeNodeId event = some s') : s'.Stuck := by
  obtain ⟨hfull, packet, rest, htodo⟩ := h
  cases event with
  | enqueued row =>
    obtain ⟨outbox, -, rfl⟩ := Option.map_eq_some_iff.1 hs
    exact ⟨hfull, packet, rest, htodo⟩
  | faultsChanged snapshot =>
    obtain rfl := Option.some.inj hs
    exact ⟨hfull, packet, rest, htodo⟩
  | received =>
    simp only [OutputState.step] at hs
    split at hs
    · cases hs
    · obtain rfl := Option.some.inj hs
      exact ⟨hfull, packet, rest, htodo⟩
  | restarted => exact absurd rfl hevent
  | work failed now =>
    simp [OutputState.step, htodo, OutputState.perform, hfull] at hs
  | _ => simp [OutputState.step, htodo] at hs

theorem OutputState.Stuck.run {events : List OutputEvent} (hevents : .restarted ∉ events)
    (h : s.Stuck) (hs : Machine.run (OutputState.step edgeNodeId) s events = some s') :
    s'.Stuck := by
  induction events generalizing s with
  | nil =>
    obtain rfl := Option.some.inj hs
    exact h
  | cons e es ih =>
    obtain ⟨t, ht, hs⟩ := Machine.run_cons.1 hs
    rw [List.mem_cons, not_or] at hevents
    exact ih hevents.2 (h.step (Ne.symm hevents.1) ht) hs

def OutputEvent.worked : OutputEvent := .work false ⟨0, none⟩

def beat : List OutputEvent := [.heartbeat, .worked, .worked]

/-- A connection on which the Broker acknowledges nothing: the status of the connection and 99
heartbeats are written, 16 more fill the queue, and one is still to be handed over. -/
def silentBroker : List OutputEvent :=
  [.connAck, .worked, .worked, .worked]
    ++ (List.range inflightLimit).flatMap (fun k => .packetWritten (k + 1) :: beat)
    ++ (List.replicate (requestCapacity - 1) beat).flatten ++ [.heartbeat, .worked]

/-- On that connection the loop stops for good: it never comes back to its select. -/
theorem heartbeats_block_loop :
    (∀ event ∈ silentBroker, event = .connAck ∨ event = .worked ∨ event = .heartbeat
        ∨ ∃ pkid, event = .packetWritten pkid)
      ∧ ∃ s, outputRun station silentBroker = some s ∧ s.session.connected = true
        ∧ ∀ events s', .restarted ∉ events →
          Machine.run (OutputState.step station) s events = some s' → s'.todo ≠ [] := by
  have hstuck : (outputRun station silentBroker).map
      (fun s => (s.session.connected, decide s.Stuck)) = some (true, true) := by decide +kernel
  obtain ⟨s, hs, he⟩ := Option.map_eq_some_iff.1 hstuck
  simp only [Prod.mk.injEq, decide_eq_true_eq] at he
  refine ⟨fun event hevent => ?_, s, hs, he.1, fun events s' hevents hrun => ?_⟩
  · simp only [silentBroker, beat, List.mem_append, List.mem_flatMap, List.mem_flatten,
      List.mem_replicate, List.mem_cons, List.not_mem_nil, or_false] at hevent
    grind
  · obtain ⟨-, packet, rest, htodo⟩ := he.2.run hevents hrun
    rw [htodo]
    exact List.cons_ne_nil _ _

/-! ## Room in the queue -/

def Task.handovers : Task → ℕ
  | .publishStatus _ | .publishNextOutboxRow | .handOver _ => 1
  | _ => 0

def Task.weight : Task → ℕ
  | .publishStatus _ | .publishNextOutboxRow => 2
  | _ => 1

def HasRoom (s : OutputState) : OutputEvent → Prop
  | .pubAck _ | .committed | .idleProbe | .heartbeat | .faultNotified =>
    s.client.requests.length < requestCapacity
  | _ => True

instance (s : OutputState) : ∀ event, Decidable (HasRoom s event)
  | .pubAck _ | .committed | .idleProbe | .heartbeat | .faultNotified =>
    inferInstanceAs (Decidable (_ < _))
  | .enqueued _ | .faultsChanged _ | .received | .restarted | .connAck | .packetWritten _
  | .disconnectWritten | .otherPolled | .pollFailed | .shutdown | .timedOut | .work _ _ =>
    isTrue trivial

def OutputState.Room (s : OutputState) : Prop :=
  s.phase = .running →
    s.client.requests.length + (s.todo.map Task.handovers).sum ≤ requestCapacity

theorem work_progress (edgeNodeId : EdgeNodeId) (hd : DeliveryInv s) (hr : s.Room) (hphase : s.phase = .running)
    {task : Task} {rest : List Task} (htodo : s.todo = task :: rest) (failed : Bool)
    (now : InputTime) :
    ∃ s', s.step edgeNodeId (.work failed now) = some s' ∧ s'.Room ∧ s'.phase = .running
      ∧ (s'.todo.map Task.weight).sum < (s.todo.map Task.weight).sum := by
  have hlooping := hd.looping hphase
  have hroom := hr hphase
  simp only [htodo, List.mem_cons, not_or, List.map_cons, List.sum_cons] at hlooping hroom
  simp only [OutputState.step, htodo, List.map_cons, List.sum_cons]
  -- a piece that only goes away
  have hdrop : ∀ (session : Session) (db : PipelineDb), 0 < task.weight →
      OutputState.Room { s with session := session, db := db, todo := rest }
        ∧ (rest.map Task.weight).sum < task.weight + (rest.map Task.weight).sum := by
    intro session db hw
    exact ⟨fun _ => by simp only; omega, by omega⟩
  cases task with
  | publishStatus value =>
    exact ⟨_, rfl, fun _ => by simpa [Task.handovers] using hroom, hphase, by simp [Task.weight]⟩
  | publishNextOutboxRow =>
    have hgo := hdrop s.session s.db (by decide)
    simp only [OutputState.perform, oldest_eq]
    split_ifs with hi hf
    · exact ⟨_, rfl, hgo.1, hphase, hgo.2⟩
    · exact ⟨_, rfl, hgo.1, hphase, hgo.2⟩
    · rcases s.db.outbox.rows.head? with _ | ⟨seq, row⟩
      · exact ⟨_, rfl, hgo.1, hphase, hgo.2⟩
      · exact ⟨_, rfl, fun _ => by simpa [Task.handovers] using hroom, hphase, by simp [Task.weight]⟩
  | handOver packet =>
    simp only [Task.handovers] at hroom
    rw [OutputState.perform, if_neg (by omega)]
    split_ifs
    · have hgo := hdrop (s.session.publishFailed packet.publication) s.db (by simp [Task.weight])
      exact ⟨_, rfl, hgo.1, hphase, hgo.2⟩
    · refine ⟨_, rfl, fun _ => ?_, hphase, by simp [Task.weight]⟩
      simp only [List.length_append, List.length_singleton]
      omega
  | deleteRow seq =>
    have hgo := hdrop (s.session.rowDone seq)
      (Outbox.delete seq { db := s.db, faults := [failed] }).2.db (by simp [Task.weight])
    exact ⟨_, rfl, hgo.1, hphase, hgo.2⟩
  | reconnectDelay =>
    have hgo := hdrop s.session s.db (by decide)
    exact ⟨_, rfl, hgo.1, hphase, hgo.2⟩
  | checkOfflineAcked => exact absurd rfl hlooping.1.1
  | disconnect => exact absurd rfl hlooping.2.1

theorem perform_phase {failed : Bool} {now : InputTime} {task : Task} {rest : List Task}
    (hs : s.perform edgeNodeId failed now rest task = some s') :
    s'.phase = s.phase ∨ s'.phase = .disconnecting true ∨ s'.phase = .stopped := by
  cases task <;> simp only [OutputState.perform] at hs <;> repeat' split at hs
  all_goals first
    | (obtain rfl := Option.some.inj hs; simp)
    | cases hs

theorem acknowledged_phase (pkid : ℕ) (packet : Packet) :
    ((s.acknowledged pkid packet).notePuback pkid).phase = s.phase := by
  unfold OutputState.notePuback
  split <;> rfl

theorem wait_phase {event : OutputEvent} (hs : s.wait event = some s')
    (hphase : s'.phase = .running) : s.phase = .running := by
  cases event <;> simp only [OutputState.wait, OutputState.packetWritten, OutputState.pubAck,
    OutputState.pollFailed, reduceCtorEq] at hs <;> repeat' split at hs
  all_goals first
    | (obtain rfl := Option.some.inj hs
       first
         | assumption
         | exact (acknowledged_phase _ _).symm.trans hphase
         | exact And.left ‹_›
         | cases hphase)
    | cases hs

theorem room_notePuback {pkid : ℕ} (htodo : s.todo = [])
    (hroom : s.client.requests.length < requestCapacity) : (s.notePuback pkid).Room := by
  intro _
  unfold OutputState.notePuback
  split
  · simpa [htodo] using hroom.le
  · simpa [htodo] using hroom.le
  · simpa [Task.handovers] using hroom

theorem room_wait (hr : s.Room) {event : OutputEvent} (hroom : HasRoom s event) (htodo : s.todo = [])
    (hs : s.wait event = some s') : s'.Room := by
  by_cases hphase : s.phase = .running
  · have hfits : s.client.requests.length ≤ requestCapacity := by simpa [htodo] using hr hphase
    cases event with
    | connAck =>
      simp only [OutputState.wait, hphase] at hs
      split_ifs at hs
      obtain rfl := Option.some.inj hs
      exact fun _ => by simp [OutputState.connAck, Task.handovers, requestCapacity]
    | packetWritten pkid =>
      simp only [OutputState.wait, hphase, reduceCtorEq, if_false, OutputState.packetWritten] at hs
      split at hs
      · rename_i packet requests hreq
        split_ifs at hs
        obtain rfl := Option.some.inj hs
        rw [hreq, List.length_cons] at hfits
        exact fun _ => by simp only [htodo, List.map_nil, List.sum_nil]; omega
      · cases hs
    | pubAck pkid =>
      simp only [OutputState.wait, hphase, reduceCtorEq, if_false, OutputState.pubAck] at hs
      split at hs
      · cases hs
      · split_ifs at hs
        obtain rfl := Option.some.inj hs
        exact room_notePuback htodo hroom
    | committed | idleProbe | heartbeat | faultNotified =>
      simp only [OutputState.wait] at hs
      split_ifs at hs
      obtain rfl := Option.some.inj hs
      exact fun _ => by simpa [Task.handovers, HasRoom] using hroom
    | otherPolled =>
      simp only [OutputState.wait, hphase, reduceCtorEq, if_false] at hs
      exact Option.some.inj hs ▸ hr
    | pollFailed =>
      simp only [OutputState.wait, hphase, reduceCtorEq, if_false] at hs
      obtain rfl := Option.some.inj hs
      exact fun _ => by simpa [OutputState.pollFailed, hphase, Task.handovers] using hfits
    | shutdown =>
      simp only [OutputState.wait, hphase, if_true] at hs
      obtain rfl := Option.some.inj hs
      intro hp
      unfold OutputState.shutdown at hp
      split at hp <;> cases hp
    | disconnectWritten | timedOut => simp [OutputState.wait, hphase] at hs
    | _ => cases hs
  · exact fun hp => absurd (wait_phase hs hp) hphase

theorem room_step (hd : DeliveryInv s) (hr : s.Room) {event : OutputEvent} (hroom : HasRoom s event)
    (hs : s.step edgeNodeId event = some s') : s'.Room := by
  cases event with
  | enqueued row =>
    obtain ⟨outbox, -, rfl⟩ := Option.map_eq_some_iff.1 hs
    exact hr
  | faultsChanged snapshot =>
    obtain rfl := Option.some.inj hs
    exact hr
  | received =>
    simp only [OutputState.step] at hs
    split at hs
    · cases hs
    · obtain rfl := Option.some.inj hs
      exact hr
  | restarted =>
    obtain rfl := Option.some.inj hs
    exact fun _ => Nat.zero_le _
  | work failed now =>
    simp only [OutputState.step] at hs
    split at hs
    · cases hs
    · rename_i task rest htodo
      intro hphase
      have hphase' : s.phase = .running := by
        rcases perform_phase hs with h | h | h <;> rw [hphase] at h
        · exact h.symm
        · cases h
        · cases h
      obtain ⟨t, ht, hroom', -⟩ :=
        work_progress edgeNodeId hd hr hphase' htodo failed now
      rw [OutputState.step, htodo] at ht
      obtain rfl := Option.some.inj (ht.symm.trans hs)
      exact hroom' hphase
  | _ =>
    simp only [OutputState.step] at hs
    split_ifs at hs with ht
    exact room_wait hr hroom (List.isEmpty_iff.1 ht) hs

theorem arm_ends (outcomes : List (Bool × InputTime)) (hd : DeliveryInv s) (hr : s.Room)
    (hphase : s.phase = .running) (hlen : (s.todo.map Task.weight).sum ≤ outcomes.length) :
    ∃ k s', Machine.run (OutputState.step edgeNodeId) s
        ((outcomes.take k).map fun o => .work o.1 o.2) = some s'
      ∧ s'.phase = .running ∧ s'.todo = [] := by
  induction outcomes generalizing s with
  | nil =>
    refine ⟨0, s, rfl, hphase, ?_⟩
    rcases htodo : s.todo with _ | ⟨task, rest⟩
    · rfl
    · rw [htodo] at hlen
      cases task <;> simp [Task.weight] at hlen
  | cons o os ih =>
    rcases htodo : s.todo with _ | ⟨task, rest⟩
    · exact ⟨0, s, rfl, hphase, htodo⟩
    · obtain ⟨t, ht, hr', hphase', hless⟩ :=
        work_progress edgeNodeId hd hr hphase htodo o.1 o.2
      rw [List.length_cons] at hlen
      obtain ⟨k, s', hrun, hrest⟩ := ih (hd.step ht) hr' hphase' (by omega)
      exact ⟨k + 1, s', Machine.run_cons.2 ⟨t, ht, hrun⟩, hrest⟩

/-- As long as there is room in the queue whenever an arm that publishes is taken, the loop comes back
to its select, and there polls, takes heartbeats and fault changes while connected, and notices a
shutdown. -/
theorem output_loop_returns (edgeNodeId : EdgeNodeId) (events : List OutputEvent) (s : OutputState)
    (hroom : Machine.Along (OutputState.step edgeNodeId) HasRoom {} events)
    (hrun : outputRun edgeNodeId events = some s) (hphase : s.phase = .running) :
    (∀ outcomes : List (Bool × InputTime), 2 * s.todo.length ≤ outcomes.length →
        ∃ k s', Machine.run (OutputState.step edgeNodeId) s
            ((outcomes.take k).map fun o => .work o.1 o.2) = some s'
          ∧ s'.phase = .running ∧ s'.todo = [])
      ∧ (s.todo = [] → (s.step edgeNodeId .otherPolled).isSome
        ∧ (s.step edgeNodeId .pollFailed).isSome ∧ (s.step edgeNodeId .shutdown).isSome
        ∧ (s.session.connected = true → (s.step edgeNodeId .heartbeat).isSome
          ∧ (s.step edgeNodeId .faultNotified).isSome)) := by
  have hinv : DeliveryInv s ∧ s.Room :=
    Machine.run_invariant_along (I := fun s => DeliveryInv s ∧ s.Room)
      (fun _ _ _ hP h hs => ⟨h.1.step hs, room_step h.1 h.2 hP hs⟩) hroom
      ⟨deliveryInv_init, fun _ => Nat.zero_le _⟩ hrun
  refine ⟨fun outcomes hlen => arm_ends outcomes hinv.1 hinv.2 hphase (le_trans ?_ hlen), fun htodo => ?_⟩
  · have hweight : ∀ t ∈ s.todo.map Task.weight, t ≤ 2 := by
      intro w hw
      obtain ⟨t, -, rfl⟩ := List.mem_map.1 hw
      cases t <;> simp [Task.weight]
    have := List.sum_le_card_nsmul _ 2 hweight
    simpa [mul_comm] using this
  · simp [OutputState.step, OutputState.wait, htodo, hphase]

/-- A row is sent again after its delete failed; the loop is back in its select at the end. -/
theorem resentRow_loop_returns :
    Machine.Along (OutputState.step station) HasRoom {} (resentRow stationRow)
      ∧ ∃ s, outputRun station (resentRow stationRow) = some s ∧ s.phase = .running
        ∧ s.todo = [] ∧ (s.step station .shutdown).isSome := by
  have hroom : Machine.Along (OutputState.step station) HasRoom {} (resentRow stationRow) := by
    decide +kernel
  have hend : (outputRun station (resentRow stationRow)).map
      (fun s => (s.phase, s.todo.isEmpty)) = some (.running, true) := by decide +kernel
  obtain ⟨s, hs, he⟩ := Option.map_eq_some_iff.1 hend
  simp only [Prod.mk.injEq, List.isEmpty_iff] at he
  exact ⟨hroom, s, hs, he.1, he.2,
    ((output_loop_returns station (resentRow stationRow) s hroom hs he.1).2 he.2).2.2.1⟩

end EdgeNode
