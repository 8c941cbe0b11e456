import EdgeNode.Output.Notify
import EdgeNode.Proofs.OutputLoop

/-!
# The faults a quiescent adapter has published

A change that does not call the listener leaves what the status shows of the faults as it was
(`present_apply`). So while the adapter is connected, the status handed over last shows the present
faults, unless a status is still to be built or a notification is on its way: a thread about to call
the listener, or a stored permit.
-/

namespace EdgeNode

/-! ## What the status shows -/

structure PresentFault where
  storage : Bool
  adapter : Option String
  sinceUptimeMs : ℤ
  deriving DecidableEq, Repr

def Fault.present (f : Fault) : PresentFault :=
  match f.kind with
  | .storageWriteFailed _ => ⟨true, none, f.since.uptimeMs⟩
  | .interfaceOpenFailed adapter _ => ⟨false, some adapter, f.since.uptimeMs⟩

def DeviceFaultSnapshot.present (s : DeviceFaultSnapshot) : List PresentFault :=
  (s.storage.map fun f => ⟨true, none, f.sinceUptimeMs⟩).toList
    ++ s.interfaces.map fun f => ⟨false, some f.1, f.2.sinceUptimeMs⟩

theorem DeviceFaultSnapshot.present_faults (s : DeviceFaultSnapshot) (now : InputTime) :
    (s.faults now).map Fault.present = s.present := by
  unfold DeviceFaultSnapshot.faults DeviceFaultSnapshot.present
  rcases s.storage with _ | f <;> simp [Fault.present, DeviceFaultSnapshot.since]

/-- The status shows the faults of the record, and that the node is degraded if it is. -/
structure Status.Shows (status : Status) (s : DeviceFaultSnapshot) : Prop where
  faults : status.faults.map Fault.present = s.present
  value : status.value = if s.degraded then .degraded else .online

theorem Status.build_shows (s : DeviceFaultSnapshot) {value : StatusValue} (h : value ≠ .offline)
    (now : InputTime) : (Status.build s value now).Shows s where
  faults := s.present_faults now
  value := by
    cases value
    · rfl
    · rfl
    · exact absurd rfl h

section Changes

variable {s : DeviceFaultSnapshot} {status : Status}

/-- A change the listener is not called for is not shown. -/
theorem present_apply {change : FaultChange} (h : change.notifies s = false) :
    (change.apply s).present = s.present ∧ (change.apply s).degraded = s.degraded := by
  cases change with
  | storageWriteFailed error uptimeMs =>
    obtain ⟨f, hf⟩ : ∃ f, s.storage = some f := by
      simpa [FaultChange.notifies, Option.isSome_iff_exists] using h
    simp [FaultChange.apply, DeviceFaultSnapshot.storageWriteFailed, DeviceFaultSnapshot.present,
      DeviceFaultSnapshot.degraded, hf]
  | storageWriteSucceeded =>
    have hn : s.storage = none := by simpa [FaultChange.notifies] using h
    simp [FaultChange.apply, DeviceFaultSnapshot.storageWriteSucceeded, DeviceFaultSnapshot.present,
      DeviceFaultSnapshot.degraded, hn]
  | interfaceOpenFailed adapter reason detail uptimeMs =>
    have hany : (s.interfaces.any fun f => f.1 == adapter) = true := by
      by_contra hno
      have hnone : s.interfaces.find? (fun f => f.1 == adapter) = none := by
        rw [List.find?_eq_none]
        exact fun f hf hf' => hno (List.any_eq_true.2 ⟨f, hf, hf'⟩)
      simp [FaultChange.notifies, hnone] at h
    simp only [FaultChange.apply, DeviceFaultSnapshot.interfaceOpenFailed, hany, if_true]
    refine ⟨?_, rfl⟩
    unfold DeviceFaultSnapshot.present
    rw [List.map_map]
    refine congrArg _ (List.map_congr_left fun f _ => ?_)
    simp only [Function.comp_apply]
    split_ifs <;> rfl
  | interfaceOpened adapter =>
    have hno : ∀ f ∈ s.interfaces, f.1 ≠ adapter := by simpa [FaultChange.notifies] using h
    have hsame : s.interfaceOpened adapter = s := by
      unfold DeviceFaultSnapshot.interfaceOpened
      rw [List.filter_eq_self.2 fun f hf => by simpa using hno f hf]
    rw [FaultChange.apply, hsame]
    exact ⟨rfl, rfl⟩

theorem Status.Shows.apply (h : status.Shows s) {change : FaultChange}
    (hquiet : change.notifies s = false) : status.Shows (change.apply s) where
  faults := by rw [(present_apply hquiet).1, h.faults]
  value := by rw [(present_apply hquiet).2, h.value]

end Changes

/-! ## What is on its way -/

namespace FaultWatch

variable {edgeNodeId : EdgeNodeId} {s s' : FaultWatch}

def latest (s : FaultWatch) : Option Status :=
  (s.output.todo.head?.bind Task.status) <|> s.handed

/-- While the loop is connected the faults are shown, or something will make the loop show them. -/
structure Watched (s : FaultWatch) : Prop where
  delivery : DeliveryInv s.output
  listens : s.output.session.connected = true → s.listening = true
  online : s.output.phase = .running → ∀ value, Task.publishStatus value ∈ s.output.todo →
    value ≠ .offline
  shown : s.output.phase = .running → s.output.session.connected = true →
    s.permit = true ∨ 0 < s.calling ∨ (∃ value, Task.publishStatus value ∈ s.output.todo)
      ∨ ∃ status, s.latest = some status ∧ status.Shows s.output.faults

theorem wait_leaves {o o' : OutputState} {event : OutputEvent} (htodo : o.todo = [])
    (hs : o.wait event = some o') (hphase : o'.phase = .running) :
    o'.faults = o.faults ∧ (∀ value, Task.publishStatus value ∈ o'.todo → value ≠ .offline)
      ∧ (o'.session.connected = true → (∃ value, Task.publishStatus value ∈ o'.todo)
        ∨ (o.session.connected = true ∧ o'.todo.head?.bind Task.status = none)) := by
  have hrunning := wait_phase hs hphase
  cases event with
  | connAck =>
    simp only [OutputState.wait, hrunning] at hs
    split_ifs at hs
    obtain rfl := Option.some.inj hs
    exact ⟨rfl, by simp [OutputState.connAck], fun _ =>
      .inl ⟨.online, by simp [OutputState.connAck]⟩⟩
  | packetWritten pkid =>
    simp only [OutputState.wait, hrunning, reduceCtorEq, if_false, OutputState.packetWritten] at hs
    split at hs
    · split_ifs at hs
      obtain rfl := Option.some.inj hs
      exact ⟨rfl, by simp [htodo], fun hc => .inr ⟨hc, by simp [htodo]⟩⟩
    · cases hs
  | pubAck pkid =>
    simp only [OutputState.wait, hrunning, reduceCtorEq, if_false, OutputState.pubAck] at hs
    split at hs
    · cases hs
    · split_ifs at hs
      obtain rfl := Option.some.inj hs
      unfold OutputState.notePuback
      split
      · exact ⟨rfl, by simp [OutputState.acknowledged, htodo], fun hc =>
          .inr ⟨hc, by simp [OutputState.acknowledged, htodo]⟩⟩
      · exact ⟨rfl, by simp [OutputState.acknowledged, htodo], fun hc =>
          .inr ⟨hc, by simp [OutputState.acknowledged, htodo]⟩⟩
      · exact ⟨rfl, by simp, fun hc => .inr ⟨hc, rfl⟩⟩
  | otherPolled =>
    simp only [OutputState.wait, hrunning, reduceCtorEq, if_false] at hs
    obtain rfl := Option.some.inj hs
    exact ⟨rfl, by simp [htodo], fun hc => .inr ⟨hc, by simp [htodo]⟩⟩
  | pollFailed =>
    simp only [OutputState.wait, hrunning, reduceCtorEq, if_false] at hs
    obtain rfl := Option.some.inj hs
    simp [OutputState.pollFailed, hrunning]
  | committed | idleProbe =>
    simp only [OutputState.wait] at hs
    split_ifs at hs with hready
    obtain rfl := Option.some.inj hs
    exact ⟨rfl, by simp, fun _ => .inr ⟨hready.2.1, rfl⟩⟩
  | heartbeat | faultNotified =>
    simp only [OutputState.wait] at hs
    split_ifs at hs with hready
    obtain rfl := Option.some.inj hs
    exact ⟨rfl, by simp, fun _ => .inl ⟨.online, by simp⟩⟩
  | shutdown =>
    simp only [OutputState.wait, hrunning, if_true] at hs
    obtain rfl := Option.some.inj hs
    unfold OutputState.shutdown at hphase
    split_ifs at hphase
  | disconnectWritten | timedOut => simp [OutputState.wait, hrunning] at hs
  | _ => cases hs

theorem perform_leaves {o o' : OutputState} {failed : Bool} {now : InputTime} {task : Task}
    {rest : List Task} (hrest : ∀ t ∈ rest, t = .publishNextOutboxRow ∨ t = .checkOfflineAcked)
    (hs : o.perform edgeNodeId failed now rest task = some o') :
    o'.faults = o.faults ∧ (∀ value, Task.publishStatus value ∉ o'.todo)
      ∧ o'.session.connected = o.session.connected
      ∧ ((∃ value, task = .publishStatus value
          ∧ o'.todo.head?.bind Task.status = some (Status.build o.faults value now))
        ∨ ((∀ value, task ≠ .publishStatus value) ∧ o'.todo.head?.bind Task.status = none)) := by
  have hno : ∀ value, Task.publishStatus value ∉ rest := fun value h => by
    rcases hrest _ h with h | h <;> cases h
  have hnone : rest.head?.bind Task.status = none := by
    rcases rest with _ | ⟨t, ts⟩
    · rfl
    · rcases hrest t List.mem_cons_self with rfl | rfl <;> rfl
  cases task with
  | publishStatus value =>
    obtain rfl := Option.some.inj hs
    exact ⟨rfl, by simpa using hno, rfl, .inl ⟨value, rfl, rfl⟩⟩
  | publishNextOutboxRow =>
    simp only [OutputState.perform] at hs
    split_ifs at hs
    · obtain rfl := Option.some.inj hs
      exact ⟨rfl, hno, rfl, .inr ⟨(by simp), hnone⟩⟩
    · split at hs <;> obtain rfl := Option.some.inj hs
      · exact ⟨rfl, by simpa using hno, rfl, .inr ⟨(by simp), rfl⟩⟩
      · exact ⟨rfl, hno, rfl, .inr ⟨(by simp), hnone⟩⟩
  | handOver packet =>
    simp only [OutputState.perform] at hs
    split_ifs at hs <;> obtain rfl := Option.some.inj hs
    · refine ⟨rfl, hno, ?_, .inr ⟨(by simp), hnone⟩⟩
      cases packet.publication <;> rfl
    · exact ⟨rfl, hno, rfl, .inr ⟨(by simp), hnone⟩⟩
  | deleteRow outboxSeq =>
    obtain rfl := Option.some.inj hs
    refine ⟨rfl, hno, ?_, .inr ⟨(by simp), hnone⟩⟩
    unfold Session.rowDone
    split_ifs <;> rfl
  | reconnectDelay =>
    obtain rfl := Option.some.inj hs
    exact ⟨rfl, hno, rfl, .inr ⟨(by simp), hnone⟩⟩
  | checkOfflineAcked =>
    simp only [OutputState.perform] at hs
    split_ifs at hs <;> obtain rfl := Option.some.inj hs
    · exact ⟨rfl, by simp, rfl, .inr ⟨(by simp), rfl⟩⟩
    · exact ⟨rfl, hno, rfl, .inr ⟨(by simp), hnone⟩⟩
  | disconnect =>
    simp only [OutputState.perform] at hs
    split_ifs at hs <;> obtain rfl := Option.some.inj hs
    · exact ⟨rfl, by simp, rfl, .inr ⟨(by simp), rfl⟩⟩
    · exact ⟨rfl, hno, rfl, .inr ⟨(by simp), hnone⟩⟩

theorem watched_init : Watched {} where
  delivery := deliveryInv_init
  listens := nofun
  online _ _ h := nomatch h
  shown _ h := nomatch h

theorem Watched.changed (edgeNodeId : EdgeNodeId) (h : s.Watched) (change : FaultChange) :
    Watched { s with
      output := { s.output with faults := change.apply s.output.faults }
      calling := if s.listening && change.notifies s.output.faults then s.calling + 1
        else s.calling } where
  delivery := h.delivery.step (show s.output.step edgeNodeId
    (.faultsChanged (change.apply s.output.faults)) = some _ from rfl)
  listens := h.listens
  online := h.online
  shown hphase hconn := by
    have hlistening := h.listens hconn
    dsimp only
    rw [hlistening, Bool.true_and]
    by_cases hnotifies : change.notifies s.output.faults = true
    · exact .inr (.inl (by rw [if_pos hnotifies]; omega))
    · rw [if_neg hnotifies]
      refine (h.shown hphase hconn).imp_right (Or.imp_right (Or.imp_right ?_))
      rintro ⟨status, hlatest, hshows⟩
      exact ⟨status, hlatest, hshows.apply (by simpa using hnotifies)⟩

theorem latest_of_todo {o : OutputState} (h : o.todo.head?.bind Task.status = none) :
    ({ s with output := o } : FaultWatch).latest = s.handed := by
  simp [latest, h]

theorem Watched.waited (h : s.Watched) {o : OutputState} {event : OutputEvent}
    (htodo : s.output.todo = []) (hw : s.output.wait event = some o) (hd : DeliveryInv o)
    (hlistening : s.listening = true) : Watched { s with output := o } where
  delivery := hd
  listens _ := hlistening
  online hphase := (wait_leaves htodo hw hphase).2.1
  shown hphase hconn := by
    obtain ⟨hfaults, -, hleaves⟩ := wait_leaves htodo hw hphase
    rcases hleaves hconn with hbuild | ⟨hconn', hnone⟩
    · exact .inr (.inr (.inl hbuild))
    · rcases h.shown (wait_phase hw hphase) hconn' with
        hp | hc | ⟨value, hv⟩ | ⟨status, hlatest, hshows⟩
      · exact .inl hp
      · exact .inr (.inl hc)
      · rw [htodo] at hv
        exact nomatch hv
      · refine .inr (.inr (.inr ⟨status, ?_, hfaults ▸ hshows⟩))
        rw [latest_of_todo hnone, ← hlatest]
        simp [latest, htodo]

theorem Watched.publishing {o : OutputState} (hd : DeliveryInv o) (hlistening : s.listening = true)
    {rest : List Task} (htodo : o.todo = .publishStatus .online :: rest)
    (hrest : ∀ value, Task.publishStatus value ∉ rest) (permit : Bool) (handed : Option Status) :
    Watched { s with output := o, permit := permit, handed := handed } where
  delivery := hd
  listens _ := hlistening
  online _ value hv := by
    rw [htodo] at hv
    rcases List.mem_cons.1 hv with hv | hv
    · cases hv
      decide
    · exact absurd hv (hrest value)
  shown _ _ := .inr (.inr (.inl ⟨.online, by rw [htodo]; exact List.mem_cons_self⟩))

theorem Watched.worked (h : s.Watched) {o : OutputState} {failed : Bool} {now : InputTime}
    {task : Task} {rest : List Task} (htodo : s.output.todo = task :: rest)
    (hs : s.output.perform edgeNodeId failed now rest task = some o) (hd : DeliveryInv o) :
    Watched { s with output := o, handed := task.status <|> s.handed } := by
  have hrest : ∀ t ∈ rest, t = .publishNextOutboxRow ∨ t = .checkOfflineAcked := by
    have hlater := h.delivery.later
    rwa [htodo] at hlater
  obtain ⟨hfaults, hno, hconn', hleaves⟩ := perform_leaves hrest hs
  refine ⟨hd, fun hc => h.listens (hconn' ▸ hc), fun _ value hv => absurd hv (hno value),
    fun hphase hc => ?_⟩
  have hrunning : s.output.phase = .running := by
    rcases perform_phase hs with hp | hp | hp <;> rw [show o.phase = .running from hphase] at hp
    · exact hp.symm
    · exact nomatch hp
    · exact nomatch hp
  rcases hleaves with ⟨value, rfl, hstatus⟩ | ⟨hother, hnone⟩
  · have hvalue : value ≠ .offline :=
      h.online hrunning value (by rw [htodo]; exact List.mem_cons_self)
    refine .inr (.inr (.inr ⟨Status.build s.output.faults value now, ?_, ?_⟩))
    · simp [latest, hstatus]
    · rw [hfaults]
      exact Status.build_shows _ hvalue now
  · rcases h.shown hrunning (hconn' ▸ hc) with
      hp | hcalling | ⟨value, hv⟩ | ⟨status, hlatest, hshows⟩
    · exact .inl hp
    · exact .inr (.inl hcalling)
    · rw [htodo] at hv
      rcases List.mem_cons.1 hv with hv | hv
      · exact absurd hv.symm (hother value)
      · rcases hrest _ hv with hv | hv <;> exact nomatch hv
    · refine .inr (.inr (.inr ⟨status, ?_, hfaults ▸ hshows⟩))
      rw [← hlatest]
      simp [latest, htodo, hnone]

theorem Watched.stepOutput (h : s.Watched) {event : OutputEvent}
    (hlistening : s.listening = true ∨ event.outside = true)
    (hs : s.stepOutput edgeNodeId event = some s') : s'.Watched := by
  -- an event of the loop happens only when it waits, and only once it listens
  have hwait : ∀ {o : OutputState}, event.outside = false →
      (if s.output.todo.isEmpty then s.output.wait event else none) = some o →
      s.output.step edgeNodeId event = some o → Watched { s with output := o } := by
    intro o hinside hw hstep
    split_ifs at hw with htodo
    exact h.waited (List.isEmpty_iff.1 htodo) hw (h.delivery.step hstep)
      (hlistening.resolve_right (by simp [hinside]))
  cases event with
  | faultsChanged snapshot => cases hs
  | restarted =>
    obtain rfl := Option.some.inj hs
    exact ⟨h.delivery.step (show s.output.step edgeNodeId .restarted = some _ from rfl),
      (fun hc => by cases hc), (fun _ _ hv => by cases hv), (fun _ hc => by cases hc)⟩
  | enqueued row =>
    obtain ⟨o, ho, rfl⟩ := Option.map_eq_some_iff.1 hs
    refine ⟨h.delivery.step ho, ?_, ?_, ?_⟩ <;> obtain ⟨_, -, rfl⟩ := Option.map_eq_some_iff.1 ho
    · exact h.listens
    · exact h.online
    · exact h.shown
  | received =>
    obtain ⟨o, ho, rfl⟩ := Option.map_eq_some_iff.1 hs
    have hd := h.delivery.step ho
    simp only [OutputState.step] at ho
    split at ho
    · cases ho
    · obtain rfl := Option.some.inj ho
      exact ⟨hd, h.listens, h.online, h.shown⟩
  | connAck =>
    obtain ⟨o, ho, rfl⟩ := Option.map_eq_some_iff.1 hs
    have hd := h.delivery.step ho
    have hlistening := hlistening.resolve_right (by decide)
    simp only [OutputState.step, OutputState.wait] at ho
    split_ifs at ho
    split at ho
    · obtain rfl := Option.some.inj ho
      exact Watched.publishing hd hlistening rfl (by simp) _ _
    · rename_i hphase
      obtain rfl := Option.some.inj ho
      have hpast : s.output.phase ≠ .running := by simp [hphase]
      exact ⟨hd, fun _ => hlistening, fun hp => absurd hp hpast, fun hp => absurd hp hpast⟩
    · cases ho
  | faultNotified =>
    simp only [FaultWatch.stepOutput] at hs
    split_ifs at hs
    obtain ⟨o, ho, rfl⟩ := Option.map_eq_some_iff.1 hs
    have hd := h.delivery.step ho
    simp only [OutputState.step, OutputState.wait] at ho
    split_ifs at ho
    obtain rfl := Option.some.inj ho
    exact Watched.publishing hd (hlistening.resolve_right (by decide)) rfl (by simp) _ _
  | work failed now =>
    have hwork : ∀ {o : OutputState} {failed : Bool} {task : Task} {rest : List Task},
        s.output.todo = task :: rest → s.output.step edgeNodeId (.work failed now) = some o →
        Watched { s with output := o, handed := task.status <|> s.handed } := by
      intro o failed task rest htodo hstep
      have hs := hstep
      simp only [OutputState.step, htodo] at hs
      exact h.worked htodo hs (h.delivery.step hstep)
    simp only [FaultWatch.stepOutput] at hs
    split at hs
    · rename_i packet rest htodo
      split_ifs at hs
      obtain ⟨o, ho, rfl⟩ := Option.map_eq_some_iff.1 hs
      exact hwork htodo ho
    · rename_i hother
      obtain ⟨o, ho, rfl⟩ := Option.map_eq_some_iff.1 hs
      obtain ⟨task, rest, htodo⟩ : ∃ task rest, s.output.todo = task :: rest := by
        rcases htodo : s.output.todo with _ | ⟨task, rest⟩
        · simp [OutputState.step, htodo] at ho
        · exact ⟨task, rest, rfl⟩
      have hnone : task.status = none := by
        cases task with
        | handOver packet => exact absurd htodo (hother packet rest)
        | _ => rfl
      have hw := hwork htodo ho
      rwa [hnone] at hw
  | _ =>
    obtain ⟨o, ho, rfl⟩ := Option.map_eq_some_iff.1 hs
    exact hwait rfl ho ho

theorem Watched.step (h : s.Watched) {event : WatchEvent} (hs : s.step edgeNodeId event = some s') :
    s'.Watched := by
  cases event with
  | listens =>
    simp only [FaultWatch.step] at hs
    split_ifs at hs
    obtain rfl := Option.some.inj hs
    exact ⟨h.delivery, fun _ => rfl, h.online, h.shown⟩
  | changed change =>
    obtain rfl := Option.some.inj hs
    exact h.changed edgeNodeId change
  | notified =>
    simp only [FaultWatch.step] at hs
    split_ifs at hs
    obtain rfl := Option.some.inj hs
    exact ⟨h.delivery, h.listens, h.online, fun _ _ => .inl rfl⟩
  | output event =>
    simp only [FaultWatch.step] at hs
    split_ifs at hs with hlistening
    exact h.stepOutput (by simpa using hlistening) hs

/-- Whatever threads change the faults meanwhile: an adapter that is connected and quiescent has
handed over a status since the connection was acknowledged, and the last one shows the faults. -/
theorem quiescent_adapter_shows_faults (edgeNodeId : EdgeNodeId) (events : List WatchEvent)
    (hr : Machine.run (FaultWatch.step edgeNodeId) {} events = some s) (hq : s.Quiescent) :
    ∃ status, s.handed = some status ∧ status.faults.map Fault.present = s.output.faults.present
      ∧ status.value = if s.output.faults.degraded then .degraded else .online := by
  have hw : s.Watched := Machine.run_invariant (fun _ _ _ hw hs => hw.step hs) watched_init hr
  obtain ⟨hphase, hconn, htodo, hpermit, hcalling⟩ := hq
  rcases hw.shown hphase hconn with hp | hc | ⟨value, hv⟩ | ⟨status, hlatest, hshows⟩
  · exact nomatch hpermit.symm.trans hp
  · omega
  · rw [htodo] at hv
    exact nomatch hv
  · refine ⟨status, ?_, hshows.faults, hshows.value⟩
    rw [← hlatest]
    simp [latest, htodo]

end FaultWatch

instance (s : FaultWatch) : Decidable s.Quiescent := inferInstanceAs (Decidable (_ ∧ _))

def failsMeanwhile : List WatchEvent :=
  [.listens, .output .connAck, .output .worked, .changed (.storageWriteFailed "disk full" 7),
    .output .worked, .notified, .output .worked, .output .faultNotified, .output .worked,
    .output .worked]

theorem failsMeanwhile_shown :
    ∃ s, Machine.run (FaultWatch.step station) {} failsMeanwhile = some s ∧ s.Quiescent
      ∧ s.output.faults.present = [⟨true, none, 7⟩]
      ∧ ∃ status, s.handed = some status
        ∧ status.faults.map Fault.present = s.output.faults.present
        ∧ status.value = if s.output.faults.degraded then .degraded else .online := by
  have hend : (Machine.run (FaultWatch.step station) {} failsMeanwhile).any (fun s => s.Quiescent
      ∧ s.output.faults.present = [⟨true, none, 7⟩]) = true := by decide +kernel
  obtain ⟨s, hr, hs⟩ := (Option.any_eq_true _ _).1 hend
  obtain ⟨hq, hpresent⟩ := of_decide_eq_true hs
  exact ⟨s, hr, hq, hpresent,
    FaultWatch.quiescent_adapter_shows_faults station failsMeanwhile hr hq⟩

end EdgeNode
