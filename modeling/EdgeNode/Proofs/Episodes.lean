import EdgeNode.Ingest.Admission

/-!
# The log of throttling episodes

A step of the controller adds a drop, ends the episode, or leaves all of it as it is
(`Episodes.Change`). As long as no counter has stopped at its largest value, what was ever queued is
a chronicle of episodes with consecutive numbers, and an episode does not end while the end of an
earlier one is unacknowledged.
-/

namespace EdgeNode

namespace Ingest

structure Episodes where
  throttledDropCount : ℕ
  throttleActive : Bool
  currentEpisodeId : ℕ
  nextEpisodeId : ℕ
  episodeDrops : ℕ
  episodeEvents : List ThrottleEpisodeEvent

def AdmissionState.episodes (s : AdmissionState) : Episodes where
  throttledDropCount := s.throttledDropCount
  throttleActive := s.throttleActive
  currentEpisodeId := s.currentEpisodeId
  nextEpisodeId := s.nextEpisodeId
  episodeDrops := s.episodeDrops
  episodeEvents := s.episodeEvents

namespace Episodes

def drop (e : Episodes) : Episodes :=
  if e.throttleActive then
    { e with
      throttledDropCount := satU64 (e.throttledDropCount + 1)
      episodeDrops := satU64 (e.episodeDrops + 1) }
  else
    { throttledDropCount := satU64 (e.throttledDropCount + 1)
      throttleActive := true
      currentEpisodeId := e.nextEpisodeId
      nextEpisodeId := satU64 (e.nextEpisodeId + 1)
      episodeDrops := 1
      episodeEvents := e.episodeEvents ++ [.started e.nextEpisodeId] }

def recover (e : Episodes) : Episodes :=
  { e with
    throttleActive := false
    episodeDrops := 0
    episodeEvents := e.episodeEvents ++ [.recovered e.currentEpisodeId e.episodeDrops] }

inductive Change : Episodes → Episodes → Prop
  | rest (e : Episodes) : Change e e
  | drop (e : Episodes) : Change e e.drop
  | recover (e : Episodes) (active : e.throttleActive = true)
      (alone : e.episodeEvents.any (AdmissionState.isOtherRecovery e.currentEpisodeId) = false) :
      Change e e.recover

end Episodes

open Episodes (Change)

variable {config : AdmissionConfig} {s : AdmissionState} {c c' : AdmissionController} {now : ℕ}

/-! ## What a step does to the episodes -/

theorem episodes_noteDrop : (s.noteDrop now).episodes = s.episodes.drop := by
  unfold AdmissionState.noteDrop Episodes.drop AdmissionState.episodes
  dsimp only
  split_ifs <;> rfl

theorem change_noteDrop {e : Episodes} (h : s.episodes = e) : Change e (s.noteDrop now).episodes := by
  rw [episodes_noteDrop, h]
  exact .drop e

theorem change_maybeRecover : Change s.episodes (s.maybeRecover config now).episodes := by
  unfold AdmissionState.maybeRecover
  split_ifs with h
  · exact .rest _
  · simp only [Bool.or_eq_true, Bool.not_eq_true', not_or, Bool.not_eq_true, Bool.not_eq_false] at h
    exact .recover s.episodes h.1.1.1.1.1.1.1.1 h.2

theorem change_healthSnapshot : Change s.episodes (s.healthSnapshot config now).2.episodes :=
  change_maybeRecover (s := ((s.refillAuth config now).refillGlobalFlow config now).refillPrincipals now)

theorem episodes_rememberSource {peer : IpAddr} :
    (s.rememberSource config peer now).episodes = s.episodes := by
  unfold AdmissionState.rememberSource
  split_ifs <;> rfl

theorem change_beginAuth {peer : IpAddr} {recentlyValidated : Bool} :
    Change s.episodes (s.beginAuth config peer recentlyValidated now).2.episodes := by
  unfold AdmissionState.beginAuth
  dsimp only
  split_ifs
  · exact change_noteDrop rfl
  · rw [episodes_rememberSource]
    -- the tokens taken are no part of what is compared
    dsimp only [AdmissionState.episodes, AdmissionState.refillAuth, AdmissionState.refillReservedAuth]
    exact .rest _
  · rw [episodes_rememberSource]
    -- the tokens taken are no part of what is compared
    dsimp only [AdmissionState.episodes, AdmissionState.refillAuth, AdmissionState.refillReservedAuth]
    exact .rest _
  · exact change_noteDrop rfl

theorem episodes_recordAuthFailure {peer : IpAddr} :
    (s.recordAuthFailure config peer now).episodes = s.episodes := by
  unfold AdmissionState.recordAuthFailure
  split <;> rfl

theorem change_reservePrincipal {principalId flowClass : String} {maximumCost : ℕ} :
    Change s.episodes (s.reservePrincipal config principalId flowClass maximumCost now).2.episodes := by
  unfold AdmissionState.reservePrincipal
  split_ifs
  · exact change_noteDrop rfl
  split
  · exact change_noteDrop rfl
  · unfold AdmissionState.reserveFlow
    dsimp only
    split_ifs
    · exact change_noteDrop rfl
    · exact change_noteDrop rfl
    · exact .rest s.episodes

theorem episodes_refundUnused {r : PrincipalReservation} :
    (s.refundUnused r).episodes = s.episodes := by
  unfold AdmissionState.refundUnused
  dsimp only
  split_ifs <;> rfl

theorem change_reconcileAt {r : PrincipalReservation} {decodedBytes items : ℕ} :
    Change s.episodes (s.reconcileAt r decodedBytes items now).2.episodes := by
  unfold AdmissionState.reconcileAt
  dsimp only
  split_ifs
  · exact change_noteDrop rfl
  · rw [episodes_refundUnused]
    exact .rest s.episodes
  · rw [episodes_refundUnused]
    exact .rest s.episodes

namespace AdmissionController

theorem withReading_changes {reading : ℕ} {f : ℕ → AdmissionController → AdmissionController}
    (hf : ∀ nowMs (c : AdmissionController), Change c.state.episodes (f nowMs c).state.episodes)
    (hc : c.withReading reading f = some c') : Change c.state.episodes c'.state.episodes := by
  obtain ⟨nowMs, -, rfl⟩ := Option.map_eq_some_iff.1 hc
  exact hf nowMs { c with readings := c.readings.eraseIdx reading }

theorem endReservation_changes {reservation : ℕ}
    {f : PrincipalReservation → AdmissionState → AdmissionState}
    (hf : ∀ r s, Change s.episodes (f r s).episodes)
    (hc : c.endReservation reservation f = some c') : Change c.state.episodes c'.state.episodes := by
  obtain ⟨r, -, rfl⟩ := Option.map_eq_some_iff.1 hc
  exact hf r c.state

theorem beginAuth_changes {peer : IpAddr} {recentlyValidated : Bool} :
    Change c.state.episodes (c.beginAuth config peer recentlyValidated now).state.episodes := by
  have h : Change c.state.episodes
    (c.state.beginAuth config peer recentlyValidated now).2.episodes := change_beginAuth
  unfold AdmissionController.beginAuth
  split
  all_goals
    rename_i state hout
    rw [hout] at h
    exact h

theorem acquireWorker_changes {recentlyValidated : Bool} :
    Change c.state.episodes (c.acquireWorker now recentlyValidated).state.episodes := by
  unfold AdmissionController.acquireWorker
  split_ifs
  · exact .rest _
  · exact .rest _
  · exact change_noteDrop rfl

theorem reservePrincipal_changes {principalId flowClass : String} {maximumCost : ℕ} :
    Change c.state.episodes
      (c.reservePrincipal config principalId flowClass maximumCost now).state.episodes := by
  have h : Change c.state.episodes
      (c.state.reservePrincipal config principalId flowClass maximumCost now).2.episodes :=
    change_reservePrincipal
  unfold AdmissionController.reservePrincipal
  split
  all_goals
    rename_i hout
    rw [hout] at h
    exact h

theorem step_changes {e : AdmissionEvent} (hack : ∀ events, e ≠ .acknowledgeEpisodeEvents events)
    (hc : c.step config e = some c') : Change c.state.episodes c'.state.episodes := by
  cases e with
  | advance ms =>
    obtain rfl := Option.some.inj hc
    exact .rest _
  | read =>
    obtain rfl := Option.some.inj hc
    exact .rest _
  | beginAuth reading peer recentlyValidated =>
    exact withReading_changes (fun _ _ => beginAuth_changes) hc
  | acquireWorker call =>
    obtain ⟨⟨nowMs, recentlyValidated⟩, -, rfl⟩ := Option.map_eq_some_iff.1 hc
    exact acquireWorker_changes (c := { c with begun := c.begun.eraseIdx call })
  | releaseWorker reserved =>
    obtain rfl := Option.some.inj hc
    split_ifs <;> exact .rest _
  | recordAuthFailure reading peer =>
    refine withReading_changes (fun nowMs c => ?_) hc
    rw [AdmissionController.onState, episodes_recordAuthFailure]
    exact .rest _
  | recordThrottledDrop reading => exact withReading_changes (fun _ _ => change_noteDrop rfl) hc
  | reservePrincipal reading principalId flowClass maximumCost =>
    exact withReading_changes (fun _ _ => reservePrincipal_changes) hc
  | noteConsumedBytes reservation bytes =>
    obtain ⟨r, -, rfl⟩ := Option.map_eq_some_iff.1 hc
    exact .rest _
  | reconcileAt reading reservation decodedBytes items =>
    obtain ⟨nowMs, -, hc⟩ := Option.bind_eq_some_iff.1 hc
    exact endReservation_changes (c := { c with readings := c.readings.eraseIdx reading })
      (fun _ _ => change_reconcileAt) hc
  | reconcile reservation decodedBytes items =>
    exact endReservation_changes (fun _ _ => change_reconcileAt) hc
  | dropReservation reservation =>
    refine endReservation_changes (fun r s => ?_) hc
    rw [episodes_refundUnused]
    exact .rest _
  | healthSnapshot reading => exact withReading_changes (fun _ _ => change_healthSnapshot) hc
  | noteQueueDepth depth =>
    obtain rfl := Option.some.inj hc
    exact .rest _
  | noteCurrentCapacityPressure queueCurrent queueCapacity requestCurrent requestCapacity
      connectionCurrent connectionCapacity =>
    obtain rfl := Option.some.inj hc
    exact .rest _
  | acknowledgeEpisodeEvents events => exact absurd rfl (hack events)

end AdmissionController

/-! ## The log -/

structure EpisodeLog where
  controller : AdmissionController
  queued : List ThrottleEpisodeEvent := []
  acknowledged : List ThrottleEpisodeEvent := []

namespace EpisodeLog

def pending (l : EpisodeLog) : List ThrottleEpisodeEvent := l.controller.state.episodeEvents

def note (l : EpisodeLog) (c : AdmissionController) : AdmissionEvent → EpisodeLog
  | .acknowledgeEpisodeEvents events =>
    { l with
      controller := c
      acknowledged := if (l.controller.state.acknowledgeEpisodeEvents events).1
        then l.acknowledged ++ events else l.acknowledged }
  | _ => { l with
      controller := c
      queued := l.queued ++ c.state.episodeEvents.drop l.pending.length }

def step (config : AdmissionConfig) (l : EpisodeLog) (e : AdmissionEvent) : Option EpisodeLog :=
  (l.controller.step config e).map fun c => l.note c e

def new (config : AdmissionConfig) (nowMs : ℕ) : EpisodeLog := { controller := .new config nowMs }

end EpisodeLog

/-- The episodes that have ended, from the number `id` on, with the drops of each. -/
def chronicle : ℕ → List ℕ → List ThrottleEpisodeEvent
  | _, [] => []
  | id, drops :: rest => .started id :: .recovered id drops :: chronicle (id + 1) rest

theorem chronicle_concat (id : ℕ) (ended : List ℕ) (drops : ℕ) :
    chronicle id (ended ++ [drops]) = chronicle id ended
      ++ [.started (id + ended.length), .recovered (id + ended.length) drops] := by
  induction ended generalizing id with
  | nil => rfl
  | cons d ended ih =>
    simp only [List.cons_append, chronicle, ih, List.length_cons]
    rw [show id + 1 + ended.length = id + (ended.length + 1) by omega]

def ThrottleEpisodeEvent.isRecovery : ThrottleEpisodeEvent → Bool
  | .recovered _ _ => true
  | .started _ => false

def Alternates (events : List ThrottleEpisodeEvent) : Prop :=
  events.IsChain fun a b => a.isRecovery ≠ b.isRecovery

/-- What is known of the log while no counter has stopped: the episodes that have ended with their
drops, and the one that is running. -/
structure Recorded (e : Episodes) (queued acknowledged : List ThrottleEpisodeEvent)
    (ended : List ℕ) : Prop where
  kept : queued = acknowledged ++ e.episodeEvents
  chronicled : queued = chronicle 1 ended
    ++ if e.throttleActive then [.started (ended.length + 1)] else []
  current : e.throttleActive = true → e.currentEpisodeId = ended.length + 1
  next : e.nextEpisodeId = ended.length + if e.throttleActive then 2 else 1
  counted : ended.sum + (if e.throttleActive then e.episodeDrops else 0) = e.throttledDropCount
  numbered : ended.length + (if e.throttleActive then 1 else 0) ≤ e.throttledDropCount
  alone : e.episodeEvents.countP ThrottleEpisodeEvent.isRecovery ≤ 1

variable {e e' : Episodes} {queued acknowledged : List ThrottleEpisodeEvent} {ended : List ℕ}

theorem countP_isRecovery_eq_zero {events : List ThrottleEpisodeEvent} {id : ℕ}
    (halone : events.any (AdmissionState.isOtherRecovery id) = false)
    (hnew : ∀ drops, ThrottleEpisodeEvent.recovered id drops ∉ events) :
    events.countP ThrottleEpisodeEvent.isRecovery = 0 := by
  rw [List.countP_eq_zero]
  intro event hevent hrecovery
  cases event with
  | started id' => simp [ThrottleEpisodeEvent.isRecovery] at hrecovery
  | recovered id' drops =>
    have hother := List.any_eq_false.1 halone _ hevent
    simp only [AdmissionState.isOtherRecovery, bne_iff_ne, ne_eq, not_not] at hother
    exact hnew drops (hother ▸ hevent)

theorem chronicle_recovered_lt {id id' drops : ℕ} (ended : List ℕ)
    (h : ThrottleEpisodeEvent.recovered id' drops ∈ chronicle id ended) : id' < id + ended.length := by
  induction ended generalizing id with
  | nil => simp [chronicle] at h
  | cons d ended ih =>
    simp only [chronicle, List.mem_cons, reduceCtorEq, ThrottleEpisodeEvent.recovered.injEq,
      false_or] at h
    rw [List.length_cons]
    rcases h with ⟨rfl, -⟩ | h
    · omega
    · have := ih h
      omega

theorem satU64_of_lt {n : ℕ} (h : n < 2 ^ 64) : satU64 n = n := by
  unfold satU64
  omega

theorem Recorded.drop (h : Recorded e queued acknowledged ended)
    (hroom : e.drop.throttledDropCount < 2 ^ 64 - 1) :
    Recorded e.drop (queued ++ e.drop.episodeEvents.drop e.episodeEvents.length) acknowledged
      ended := by
  have hcounter : e.throttledDropCount + 1 < 2 ^ 64 - 1 := by
    have hsat : e.drop.throttledDropCount = satU64 (e.throttledDropCount + 1) := by
      unfold Episodes.drop
      split_ifs <;> rfl
    rw [hsat] at hroom
    unfold satU64 at hroom
    omega
  have hcount := satU64_of_lt (n := e.throttledDropCount + 1) (by omega)
  have hcounted := h.counted
  have hnumbered := h.numbered
  have hchronicled := h.chronicled
  have hnext := h.next
  unfold Episodes.drop
  by_cases hactive : e.throttleActive = true
  · simp only [hactive, if_true] at hcounted hnumbered hchronicled hnext ⊢
    have hdrops := satU64_of_lt (n := e.episodeDrops + 1) (by omega)
    refine ⟨?_, ?_, fun _ => h.current hactive, ?_, ?_, ?_, h.alone⟩
    · simpa using h.kept
    · simpa using hchronicled
    · simpa using hnext
    · simp only [if_true, hdrops, hcount]
      omega
    · simp only [if_true, hcount]
      omega
  · simp only [hactive, Bool.false_eq_true, if_false, add_zero] at hcounted hnumbered hnext ⊢
    simp only [hactive, Bool.false_eq_true, if_false, List.append_nil] at hchronicled
    have hid := satU64_of_lt (n := e.nextEpisodeId + 1) (by omega)
    refine ⟨?_, ?_, fun _ => hnext, ?_, ?_, ?_, ?_⟩
    · simp [h.kept]
    · simp [hchronicled, hnext]
    · simp only [if_true, hid]
      omega
    · simp only [if_true, hcount]
      omega
    · simp only [if_true, hcount]
      omega
    · rw [List.countP_append]
      simpa [ThrottleEpisodeEvent.isRecovery] using h.alone

theorem Recorded.recover (h : Recorded e queued acknowledged ended) (hactive : e.throttleActive = true)
    (halone : e.episodeEvents.any (AdmissionState.isOtherRecovery e.currentEpisodeId) = false) :
    Recorded e.recover (queued ++ e.recover.episodeEvents.drop e.episodeEvents.length) acknowledged
      (ended ++ [e.episodeDrops]) := by
  have hcounted := h.counted
  have hnumbered := h.numbered
  have hchronicled := h.chronicled
  have hnext := h.next
  have hcurrent := h.current hactive
  simp only [hactive, if_true] at hcounted hnumbered hchronicled hnext
  have hnew : ∀ drops, ThrottleEpisodeEvent.recovered e.currentEpisodeId drops ∉ e.episodeEvents := by
    intro drops hmem
    have hqueued : ThrottleEpisodeEvent.recovered e.currentEpisodeId drops ∈ queued := by
      rw [h.kept]
      exact List.mem_append_right _ hmem
    rw [hchronicled, List.mem_append] at hqueued
    rcases hqueued with hqueued | hqueued
    · have := chronicle_recovered_lt ended hqueued
      omega
    · simp at hqueued
  unfold Episodes.recover
  refine ⟨?_, ?_, fun hf => absurd hf (by simp), ?_, ?_, ?_, ?_⟩
  · simp [h.kept]
  · simp only [List.drop_left, Bool.false_eq_true, if_false, List.append_nil]
    rw [chronicle_concat, hchronicled, hcurrent, Nat.add_comm 1]
    simp
  · simp only [Bool.false_eq_true, if_false, List.length_append, List.length_singleton]
    omega
  · simp only [Bool.false_eq_true, if_false, List.sum_append, List.sum_singleton, add_zero]
    exact hcounted
  · simp only [Bool.false_eq_true, if_false, List.length_append, List.length_singleton, add_zero]
    omega
  · rw [List.countP_append, countP_isRecovery_eq_zero halone hnew, Nat.zero_add]
    simp [ThrottleEpisodeEvent.isRecovery]

theorem Recorded.acknowledge {events : List ThrottleEpisodeEvent}
    (h : Recorded s.episodes queued acknowledged ended) :
    Recorded (s.acknowledgeEpisodeEvents events).2.episodes queued
      (if (s.acknowledgeEpisodeEvents events).1 then acknowledged ++ events else acknowledged)
      ended := by
  unfold AdmissionState.acknowledgeEpisodeEvents
  by_cases hpre : events.isPrefixOf s.episodeEvents = true
  · rw [if_pos hpre]
    obtain ⟨rest, hrest⟩ := List.isPrefixOf_iff_prefix.1 hpre
    have hkept : queued = acknowledged ++ s.episodeEvents := h.kept
    have halone : s.episodeEvents.countP ThrottleEpisodeEvent.isRecovery ≤ 1 := h.alone
    refine ⟨?_, h.chronicled, h.current, h.next, h.counted, h.numbered, ?_⟩
    · simp [AdmissionState.episodes, hkept, ← hrest]
    · exact (List.Sublist.countP_le (List.drop_sublist _ _)).trans halone
  · rw [if_neg hpre]
    exact h

namespace EpisodeLog

variable {l l' : EpisodeLog}

def InOrder (l : EpisodeLog) : Prop :=
  l.controller.state.throttledDropCount < 2 ^ 64 - 1 →
    ∃ ended, Recorded l.controller.state.episodes l.queued l.acknowledged ended

theorem count_mono {e e' : Episodes} (h : Change e e')
    (hroom : e'.throttledDropCount < 2 ^ 64 - 1) : e.throttledDropCount < 2 ^ 64 - 1 := by
  cases h with
  | rest => exact hroom
  | drop =>
    have hsat : e.drop.throttledDropCount = satU64 (e.throttledDropCount + 1) := by
      unfold Episodes.drop
      split_ifs <;> rfl
    rw [hsat] at hroom
    unfold satU64 at hroom
    omega
  | recover => exact hroom

theorem InOrder.note {c : AdmissionController} (h : InOrder l)
    (hchange : Change l.controller.state.episodes c.state.episodes) :
    InOrder { l with
      controller := c
      queued := l.queued ++ c.state.episodeEvents.drop l.pending.length } := by
  intro hroom
  obtain ⟨ended, hrecorded⟩ := h (count_mono hchange hroom)
  show ∃ ended, Recorded c.state.episodes
    (l.queued ++ c.state.episodes.episodeEvents.drop l.controller.state.episodes.episodeEvents.length)
    l.acknowledged ended
  replace hroom : c.state.episodes.throttledDropCount < 2 ^ 64 - 1 := hroom
  generalize l.controller.state.episodes = e at hchange hrecorded
  generalize c.state.episodes = e' at hchange hroom
  cases hchange with
  | rest =>
    refine ⟨ended, ?_⟩
    rw [List.drop_length, List.append_nil]
    exact hrecorded
  | drop => exact ⟨ended, hrecorded.drop hroom⟩
  | recover hactive halone => exact ⟨_, hrecorded.recover hactive halone⟩

theorem InOrder.step {config : AdmissionConfig} {event : AdmissionEvent} (h : InOrder l)
    (hl : l.step config event = some l') : InOrder l' := by
  obtain ⟨c, hc, rfl⟩ := Option.map_eq_some_iff.1 hl
  by_cases hack : ∃ events, event = .acknowledgeEpisodeEvents events
  · obtain ⟨events, rfl⟩ := hack
    obtain rfl := Option.some.inj hc
    intro hroom
    have hcount : (l.controller.state.acknowledgeEpisodeEvents events).2.throttledDropCount
        = l.controller.state.throttledDropCount := by
      unfold AdmissionState.acknowledgeEpisodeEvents
      split_ifs <;> rfl
    obtain ⟨ended, hrecorded⟩ := h (hcount ▸ hroom)
    exact ⟨ended, hrecorded.acknowledge⟩
  · have hchange := AdmissionController.step_changes (fun events he => hack ⟨events, he⟩) hc
    cases event with
    | acknowledgeEpisodeEvents events => exact absurd ⟨events, rfl⟩ hack
    | _ => exact h.note hchange

/-! ## Numbers that repeat -/

def quickConfig : AdmissionConfig := { authBurst := 1, throttleCooldownMs := 1 }

def episodeEvents (id : ℕ) : List AdmissionEvent :=
  [.read, .recordThrottledDrop 0, .advance 1, .read, .healthSnapshot 0,
    .acknowledgeEpisodeEvents [.started id, .recovered id 1]]

def twoEpisodes : List AdmissionEvent :=
  [.read, .recordThrottledDrop 0] ++ episodeEvents 2 ++ [.acknowledgeEpisodeEvents [.started 1], .read,
    .recordThrottledDrop 0]

structure Unpressed (s : AdmissionState) : Prop where
  auth : s.auth.tokensMilli = 1000
  globalFlow : s.globalFlow.tokensMilli = 4000000000
  principals : s.principals = ∅
  queue : s.queueCurrent = 0 ∧ s.queueCapacity = 1
  requests : s.requestCurrent = 0 ∧ s.requestCapacity = 1
  connections : s.connectionCurrent = 0 ∧ s.connectionCapacity = 1

def refilled (now : ℕ) (s : AdmissionState) : AdmissionState :=
  ((s.refillAuth quickConfig now).refillGlobalFlow quickConfig now).refillPrincipals now

theorem Unpressed.refilled {now : ℕ} (h : Unpressed s) : Unpressed (refilled now s) where
  auth := by
    show min (s.auth.tokensMilli + (now - s.auth.lastMs) * quickConfig.authRatePerSecond) 1000 = 1000
    rw [h.auth]
    omega
  globalFlow := by
    show min (s.globalFlow.tokensMilli + (now - s.globalFlow.lastMs)
      * quickConfig.globalRatePerSecond) 4000000000 = 4000000000
    rw [h.globalFlow]
    omega
  principals := by
    simp only [EpisodeLog.refilled, AdmissionState.refillPrincipals, AdmissionState.refillGlobalFlow,
      AdmissionState.refillAuth, h.principals]
    rfl
  queue := h.queue
  requests := h.requests
  connections := h.connections

theorem Unpressed.maybeRecover {now : ℕ} (h : Unpressed s) (hactive : s.throttleActive = true)
    (hlast : s.lastDropMs < now)
    (halone : s.episodeEvents.any (AdmissionState.isOtherRecovery s.currentEpisodeId) = false) :
    s.maybeRecover quickConfig now = { s with
      throttleActive := false
      episodeDrops := 0
      episodeEvents := s.episodeEvents ++ [.recovered s.currentEpisodeId s.episodeDrops] } := by
  unfold AdmissionState.maybeRecover
  rw [if_neg]
  rw [h.principals, h.auth, h.globalFlow, h.queue.1, h.queue.2, h.requests.1, h.requests.2,
    h.connections.1, h.connections.2, hactive, halone]
  simp only [quickConfig, capacityPressurePercent]
  simp
  omega

structure Idle (n : ℕ) (l : EpisodeLog) : Prop where
  clock : l.controller.clockMs = n
  readings : l.controller.readings = []
  active : l.controller.state.throttleActive = false
  next : l.controller.state.nextEpisodeId = satU64 (n + 1)
  events : l.controller.state.episodeEvents = []
  unpressed : Unpressed l.controller.state

theorem Idle.drop {n : ℕ} (h : Idle n l) :
    (l.controller.state.noteDrop n).episodeEvents = [.started (satU64 (n + 1))] := by
  unfold AdmissionState.noteDrop
  simp [h.active, h.events, h.next]

theorem Idle.episode {n : ℕ} (h : Idle n l) (hn : n + 1 < 2 ^ 64) :
    ∃ l', Machine.run (step quickConfig) l (episodeEvents (n + 1)) = some l' ∧ Idle (n + 1) l'
      ∧ ThrottleEpisodeEvent.started (n + 1) ∈ l'.queued := by
  have hnow : satU64 n = n := satU64_of_lt (by omega)
  have hlater : satU64 (n + 1) = n + 1 := satU64_of_lt hn
  have hevents := h.events
  have hreadings := h.readings
  have hclock := h.clock
  -- the states after the drop and after the snapshot
  set dropped := l.controller.state.noteDrop n with hdropped
  have hfields : dropped.throttleActive = true ∧ dropped.lastDropMs = n
      ∧ dropped.currentEpisodeId = n + 1 ∧ dropped.episodeDrops = 1
      ∧ dropped.nextEpisodeId = satU64 (n + 2) ∧ dropped.episodeEvents = [.started (n + 1)] := by
    rw [hdropped]
    unfold AdmissionState.noteDrop
    simp [h.active, h.events, h.next, hlater]
  obtain ⟨hactive, hlast, hcurrent, hdrops, hnext, hstarted⟩ := hfields
  have hunpressed : Unpressed dropped := by
    have hu := h.unpressed
    rw [hdropped]
    unfold AdmissionState.noteDrop
    simp only [h.active, Bool.false_eq_true, if_false]
    exact ⟨hu.auth, hu.globalFlow, hu.principals, hu.queue, hu.requests, hu.connections⟩
  have hsnapped : (dropped.healthSnapshot quickConfig (n + 1)).2 = { refilled (n + 1) dropped with
      throttleActive := false
      episodeDrops := 0
      episodeEvents := [.started (n + 1), .recovered (n + 1) 1] } := by
    have hrefilled : Unpressed (refilled (n + 1) dropped) := hunpressed.refilled
    have hlast' : (refilled (n + 1) dropped).lastDropMs < n + 1 := by
      show dropped.lastDropMs < n + 1
      omega
    have halone : (refilled (n + 1) dropped).episodeEvents.any (AdmissionState.isOtherRecovery
        (refilled (n + 1) dropped).currentEpisodeId) = false := by
      show dropped.episodeEvents.any _ = false
      rw [hstarted]
      rfl
    have hrecovers := hrefilled.maybeRecover hactive hlast' halone
    have hqueue : (refilled (n + 1) dropped).episodeEvents
        ++ [.recovered (refilled (n + 1) dropped).currentEpisodeId
          (refilled (n + 1) dropped).episodeDrops]
        = [.started (n + 1), .recovered (n + 1) 1] := by
      show dropped.episodeEvents ++ [.recovered dropped.currentEpisodeId dropped.episodeDrops] = _
      rw [hstarted, hcurrent, hdrops]
      rfl
    rw [hqueue] at hrecovers
    exact hrecovers
  let state := { refilled (n + 1) dropped with
    throttleActive := false, episodeDrops := 0, episodeEvents := [] }
  refine ⟨⟨{ l.controller with state := state, clockMs := n + 1 },
    l.queued ++ [.started (n + 1)] ++ [.recovered (n + 1) 1],
    l.acknowledged ++ [.started (n + 1), .recovered (n + 1) 1]⟩, ?_, ?_, ?_⟩
  · simp [Machine.run, episodeEvents, step, note, pending, AdmissionController.step,
      AdmissionController.withReading, AdmissionController.onState, hreadings, hclock, hnow, hlater,
      hevents, ← hdropped, hstarted, hsnapped, AdmissionState.acknowledgeEpisodeEvents, state]
  · exact ⟨rfl, hreadings, rfl, hnext, rfl, hunpressed.refilled.auth, hunpressed.refilled.globalFlow,
      hunpressed.refilled.principals, hunpressed.queue, hunpressed.requests, hunpressed.connections⟩
  · simp

theorem Idle.restarts {n : ℕ} (h : Idle n l) (hn : n < 2 ^ 64) :
    ∃ l', Machine.run (step quickConfig) l [.read, .recordThrottledDrop 0] = some l'
      ∧ l'.queued = l.queued ++ [.started (satU64 (n + 1))] := by
  have hnow : satU64 n = n := satU64_of_lt hn
  refine ⟨⟨{ l.controller with
    state := l.controller.state.noteDrop n, readings := [] },
    l.queued ++ [.started (satU64 (n + 1))], l.acknowledged⟩, ?_, rfl⟩
  simp [Machine.run, step, note, pending, AdmissionController.step, AdmissionController.withReading,
    AdmissionController.onState, h.readings, h.clock, hnow, h.events, h.drop]

end EpisodeLog

end Ingest

end EdgeNode
