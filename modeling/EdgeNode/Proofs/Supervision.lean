import EdgeNode.Adapters.Supervisor
import EdgeNode.Lib.History

/-!
# The supervisor's books

Each configured adapter is not started yet, registered, waiting for its one timer, or given up for
good, and at most one is in hand between two places (`Accounted`). A generation that has ended never
becomes active again, since the counter of generations only grows.
-/

namespace EdgeNode

theorem countP_succ_of_change {α : Type} {p q : α → Bool} {a : α} :
    ∀ {l : List α}, l.Nodup → a ∈ l → p a = false → q a = true → (∀ b, b ≠ a → q b = p b) →
      l.countP q = l.countP p + 1
  | [], _, ha, _, _, _ => nomatch ha
  | b :: l, hnodup, ha, hp, hq, hsame => by
    obtain ⟨hb, hl⟩ := List.nodup_cons.1 hnodup
    by_cases heq : b = a
    · subst heq
      have hrest : l.countP q = l.countP p :=
        List.countP_congr fun c hc => by rw [hsame c fun h => hb (h ▸ hc)]
      simp [hp, hq, hrest]
    · have hrest := countP_succ_of_change hl (List.mem_of_ne_of_mem (Ne.symm heq) ha) hp hq hsame
      rw [List.countP_cons, List.countP_cons, hrest, hsame b heq]
      omega

theorem count_erase_add {α : Type} [DecidableEq α] {l : List α} {a : α} (h : a ∈ l) (b : α) :
    (l.erase a).count b + (if some a = some b then 1 else 0) = l.count b := by
  have hcount := List.count_pos_iff.2 h
  rw [List.count_erase]
  by_cases heq : a = b
  · subst heq
    simp only [beq_self_eq_true, if_true]
    omega
  · simp [heq]

/-! ## The budget -/

structure Budgeted (restartCounts : AList fun _ : String => ℕ) (restarts : List RestartEvent) :
    Prop where
  spent : ∀ id, Spent (.scheduled id) (.healthy id) ((restartCounts.lookup id).getD 0) restarts
  bounded : ∀ id, (restartCounts.lookup id).getD 0 ≤ Supervisor.maxRestarts
  within : ∀ id, WithinBudget (.scheduled id) (.healthy id) Supervisor.maxRestarts restarts

namespace Budgeted

variable {restartCounts : AList fun _ : String => ℕ} {restarts : List RestartEvent} {id : String}

theorem concat (h : Budgeted restartCounts restarts) {restartCounts' : AList fun _ : String => ℕ}
    {e : RestartEvent}
    (hspent : ∀ id, Spent (.scheduled id) (.healthy id) ((restartCounts'.lookup id).getD 0)
      (restarts ++ [e]))
    (hbounded : ∀ id, (restartCounts'.lookup id).getD 0 ≤ Supervisor.maxRestarts) :
    Budgeted restartCounts' (restarts ++ [e]) :=
  ⟨hspent, hbounded, fun id => (h.within id).concat ((hspent id).mono (hbounded id))⟩

theorem spent_concat (h : Budgeted restartCounts restarts) {e : RestartEvent}
    (he : e ≠ .scheduled id) :
    Spent (.scheduled id) (.healthy id) ((restartCounts.lookup id).getD 0) (restarts ++ [e]) := by
  have hspent := (h.spent id).concat e
  rwa [if_neg he, Nat.add_zero] at hspent

theorem ended (h : Budgeted restartCounts restarts) (generation : ℕ) :
    Budgeted restartCounts (restarts ++ [.ended id generation]) :=
  h.concat (fun _ => h.spent_concat nofun) h.bounded

theorem scheduled (h : Budgeted restartCounts restarts)
    (hroom : (restartCounts.lookup id).getD 0 < Supervisor.maxRestarts) :
    Budgeted (restartCounts.insert id ((restartCounts.lookup id).getD 0 + 1))
      (restarts ++ [.scheduled id]) := by
  refine h.concat (fun id' => ?_) fun id' => ?_ <;> by_cases hne : id' = id
  · subst hne
    have hspent := (h.spent id').concat (.scheduled id')
    rw [AList.lookup_insert, Option.getD_some]
    rwa [if_pos rfl] at hspent
  · rw [AList.lookup_insert_ne hne]
    exact h.spent_concat fun heq => hne (RestartEvent.scheduled.inj heq).symm
  · subst hne
    rw [AList.lookup_insert]
    exact hroom
  · rw [AList.lookup_insert_ne hne]
    exact h.bounded id'

theorem healthy (h : Budgeted restartCounts restarts) :
    Budgeted (restartCounts.erase id) (restarts ++ [.healthy id]) := by
  refine h.concat (fun id' => ?_) fun id' => ?_ <;> by_cases hne : id' = id
  · subst hne
    rw [AList.lookup_erase]
    exact Spent.concat_reset restarts
  · rw [AList.lookup_erase_ne hne]
    exact h.spent_concat nofun
  · subst hne
    rw [AList.lookup_erase]
    exact Nat.zero_le _
  · rw [AList.lookup_erase_ne hne]
    exact h.bounded id'

end Budgeted

/-! ## The places -/

namespace Supervisor

variable {uptimeMs : ℕ → ℤ} {s s' : Supervisor} {id : String} {hand : Option String}
  {instances : AList fun _ : String => AdapterType}

def exhaustedIn (health : AList fun _ : String => AdapterRuntimeStatus) (id : String) : Bool :=
  health.lookup id == some .exhausted

theorem exhaustedIn_insert (health : AList fun _ : String => AdapterRuntimeStatus) (id id' : String)
    (status : AdapterRuntimeStatus) : exhaustedIn (health.insert id status) id'
      = if id' = id then status == .exhausted else exhaustedIn health id' := by
  unfold exhaustedIn
  by_cases hne : id' = id
  · subst hne
    simp
  · simp [AList.lookup_insert_ne hne, hne]

def places (s : Supervisor) (id : String) : ℕ :=
  s.unstarted.count id + s.running.keys.count id + s.pendingRestarts.count id
    + (exhaustedIn s.health id).toNat

structure Accounted (s : Supervisor) (instances : AList fun _ : String => AdapterType)
    (hand : Option String) : Prop where
  configured : s.instances = instances
  places : ∀ id, s.places id + (if hand = some id then 1 else 0) = if id ∈ s.instances then 1 else 0
  pending : s.pendingRestartCount = s.pendingRestarts.length
  exhausted : s.exhaustedAdapterCount = s.instances.keys.countP (exhaustedIn s.health)
  active : ∀ id generation, s.activeGenerations.lookup id = some generation →
    id ∈ s.running ∧ s.generationCounters.lookup id = some generation
  fresh : ∀ id ∈ s.unstarted, s.generationCounters.lookup id = none
  ended : ∀ id generation, .ended id generation ∈ s.restarts →
    s.activeGenerations.lookup id ≠ some generation
      ∧ ∃ counter, s.generationCounters.lookup id = some counter ∧ generation ≤ counter
  budget : Budgeted s.restartCounts s.restarts

namespace Accounted

theorem inHand (h : s.Accounted instances (some id)) : id ∈ s.instances ∧ id ∉ s.unstarted
    ∧ id ∉ s.running ∧ id ∉ s.pendingRestarts ∧ exhaustedIn s.health id = false := by
  have hplaces := h.places id
  rw [if_pos rfl, Supervisor.places] at hplaces
  have hid : id ∈ s.instances := by
    by_contra hid
    rw [if_neg hid] at hplaces
    omega
  rw [if_pos hid] at hplaces
  refine ⟨hid, fun hmem => ?_, fun hmem => ?_, fun hmem => ?_, Bool.eq_false_iff.2 fun hgiven => ?_⟩
  · have := List.count_pos_iff.2 hmem
    omega
  · have := List.count_pos_iff.2 (AList.mem_keys.1 hmem)
    omega
  · have := List.count_pos_iff.2 hmem
    omega
  · rw [hgiven, Bool.toNat_true] at hplaces
    omega

theorem raise (h : s.Accounted instances hand) (reason : InterfaceOpenReason) (detail : String) :
    (s.raise uptimeMs id reason detail).Accounted instances hand :=
  ⟨h.configured, h.places, h.pending, h.exhausted, h.active, h.fresh, h.ended, h.budget⟩

theorem touch (h : s.Accounted instances hand) (hid : id ∈ s.running) (r : RunningAdapter) :
    Accounted { s with running := s.running.insert id r } instances hand := by
  have hkeys : (s.running.insert id r).keys.Perm s.running.keys := by
    rw [AList.keys_insert]
    exact (List.perm_cons_erase (AList.mem_keys.1 hid)).symm
  refine ⟨h.configured, fun id' => ?_, h.pending, h.exhausted, fun id' generation hactive => ?_, h.fresh, h.ended,
    h.budget⟩
  · have hplaces := h.places id'
    simp only [Supervisor.places, hkeys.count_eq] at hplaces ⊢
    exact hplaces
  · obtain ⟨hmem, hcounter⟩ := h.active id' generation hactive
    exact ⟨(AList.mem_insert _).2 (.inr hmem), hcounter⟩

theorem note (h : s.Accounted instances hand) (hid : exhaustedIn s.health id = false)
    {status : AdapterRuntimeStatus} (hstatus : status ≠ .exhausted) :
    (s.noteAdapterStatus id status).Accounted instances hand := by
  have hsame : exhaustedIn (s.health.insert id status) = exhaustedIn s.health := by
    funext id'
    rw [exhaustedIn_insert]
    split_ifs with heq
    · rw [heq, hid]
      simpa using hstatus
    · rfl
  unfold noteAdapterStatus
  refine ⟨h.configured, fun id' => ?_, h.pending, ?_, h.active, h.fresh, h.ended, h.budget⟩
  · simp only [Supervisor.places, hsame]
    exact h.places id'
  · rw [hsame]
    exact h.exhausted

theorem running_not_exhausted (h : s.Accounted instances none) (hid : id ∈ s.running) :
    exhaustedIn s.health id = false := by
  rw [← Bool.not_eq_true]
  intro hgiven
  have hplaces := h.places id
  have hcount := List.count_pos_iff.2 (AList.mem_keys.1 hid)
  rw [Supervisor.places, hgiven, Bool.toNat_true] at hplaces
  split_ifs at hplaces <;> omega

theorem takeUnstarted (h : s.Accounted instances none) (hid : id ∈ s.unstarted) :
    Accounted { s with unstarted := s.unstarted.erase id } instances (some id) := by
  refine ⟨h.configured, fun id' => ?_, h.pending, h.exhausted, h.active,
    fun id' hid' => h.fresh id' (List.mem_of_mem_erase hid'), h.ended, h.budget⟩
  have hplaces := h.places id'
  have hcount := count_erase_add hid id'
  simp only [Supervisor.places, reduceCtorEq, if_false] at hplaces ⊢
  omega

theorem timerFired (h : s.Accounted instances none) (hid : id ∈ s.pendingRestarts) :
    (s.timerFired id).Accounted instances (some id) := by
  unfold Supervisor.timerFired
  refine ⟨h.configured, fun id' => ?_, ?_, h.exhausted, h.active, h.fresh, h.ended, h.budget⟩
  · have hplaces := h.places id'
    have hcount := count_erase_add hid id'
    simp only [Supervisor.places, reduceCtorEq, if_false] at hplaces ⊢
    omega
  · show s.pendingRestartCount - 1 = (s.pendingRestarts.erase id).length
    rw [h.pending, List.length_erase_of_mem hid]

theorem streamClosed (h : s.Accounted instances none) (hid : id ∈ s.running) :
    (s.streamClosed id).Accounted instances (some id) := by
  unfold Supervisor.streamClosed
  have hnoted := h.note (h.running_not_exhausted hid)
    (show AdapterRuntimeStatus.stopped ≠ .exhausted by decide)
  have hactive : ∀ id' generation, (s.activeGenerations.erase id).lookup id' = some generation →
      id' ≠ id ∧ s.activeGenerations.lookup id' = some generation := by
    intro id' generation hlookup
    by_cases hne : id' = id
    · subst hne
      rw [AList.lookup_erase] at hlookup
      exact nomatch hlookup
    · rw [AList.lookup_erase_ne hne] at hlookup
      exact ⟨hne, hlookup⟩
  refine ⟨h.configured, fun id' => ?_, h.pending, hnoted.exhausted, fun id' generation hlookup => ?_, h.fresh,
    fun id' generation hended => ?_, ?_⟩
  · have hplaces := hnoted.places id'
    have hcount := count_erase_add (AList.mem_keys.1 hid) id'
    simp only [Supervisor.places, noteAdapterStatus, AList.keys_erase, reduceCtorEq, if_false]
      at hplaces ⊢
    omega
  · obtain ⟨hne, hlookup⟩ := hactive id' generation hlookup
    obtain ⟨hmem, hcounter⟩ := h.active id' generation hlookup
    exact ⟨AList.mem_erase.2 ⟨hne, hmem⟩, hcounter⟩
  · rcases List.mem_append.1 hended with hended | hended
    · obtain ⟨hinactive, hcounter⟩ := h.ended id' generation hended
      exact ⟨fun hlookup => hinactive (hactive id' generation hlookup).2, hcounter⟩
    · obtain ⟨generation', hlookup, heq⟩ :=
        Option.map_eq_some_iff.1 (Option.mem_toList.1 hended)
      obtain ⟨rfl, rfl⟩ := RestartEvent.ended.inj heq
      exact ⟨fun hlookup => (hactive id generation' hlookup).1 rfl, generation',
        (h.active id generation' hlookup).2, le_rfl⟩
  · cases s.activeGenerations.lookup id with
    | none =>
      rw [Option.map_none, Option.toList_none, List.append_nil]
      exact h.budget
    | some generation => exact h.budget.ended generation

theorem scheduleRestart (h : s.Accounted instances (some id)) : (s.scheduleRestart id).Accounted instances none := by
  obtain ⟨hid, -, -, -, hlive⟩ := h.inHand
  unfold Supervisor.scheduleRestart
  split
  · rename_i delay hdelay
    have hroom : (s.restartCounts.lookup id).getD 0 < maxRestarts := by
      by_contra hfull
      simp only [nextDelay] at hdelay
      rw [if_pos (by omega)] at hdelay
      exact nomatch hdelay
    have hnoted := h.note hlive (show AdapterRuntimeStatus.restarting ≠ .exhausted by decide)
    refine ⟨h.configured, fun id' => ?_, ?_, hnoted.exhausted, h.active, h.fresh, fun id' generation hended => ?_,
      h.budget.scheduled hroom⟩
    · have hplaces := hnoted.places id'
      simp only [Supervisor.places, noteAdapterStatus, List.count_append, List.count_singleton,
        beq_iff_eq, reduceCtorEq, if_false, Option.some.injEq] at hplaces ⊢
      omega
    · simp [h.pending]
    · rcases List.mem_append.1 hended with hended | hended
      · exact h.ended id' generation hended
      · exact nomatch List.mem_singleton.1 hended
  · unfold noteAdapterStatus
    refine ⟨h.configured, fun id' => ?_, h.pending, ?_, h.active, h.fresh, h.ended, h.budget⟩
    · have hplaces := h.places id'
      simp only [Supervisor.places, exhaustedIn_insert, reduceCtorEq, if_false, Option.some.injEq]
        at hplaces ⊢
      by_cases hne : id' = id
      · subst hne
        simp only [hlive, if_true, Bool.toNat_false, beq_self_eq_true, Bool.toNat_true] at hplaces ⊢
        omega
      · simp only [hne, Ne.symm hne, if_false] at hplaces ⊢
        omega
    · dsimp only
      rw [h.exhausted]
      refine (countP_succ_of_change s.instances.keys_nodup (AList.mem_keys.1 hid) hlive ?_ ?_).symm
      · rw [exhaustedIn_insert, if_pos rfl]
        rfl
      · intro id' hne
        rw [exhaustedIn_insert, if_neg hne]

theorem counted (h : s.Accounted instances (some id)) (generation : ℕ)
    (hnew : ∀ counter, s.generationCounters.lookup id = some counter → counter ≤ generation) :
    Accounted { s with generationCounters := s.generationCounters.insert id generation }
      instances (some id) := by
  obtain ⟨-, hunstarted, hrunning, -⟩ := h.inHand
  refine ⟨h.configured, h.places, h.pending, h.exhausted, fun id' generation' hactive => ?_, fun id' hid' => ?_,
    fun id' generation' hended => ?_, h.budget⟩
  · obtain ⟨hmem, hcounter⟩ := h.active id' generation' hactive
    have hne : id' ≠ id := fun heq => hrunning (heq ▸ hmem)
    rw [AList.lookup_insert_ne hne]
    exact ⟨hmem, hcounter⟩
  · have hne : id' ≠ id := fun heq => hunstarted (heq ▸ hid')
    rw [AList.lookup_insert_ne hne]
    exact h.fresh id' hid'
  · obtain ⟨hinactive, counter, hcounter, hle⟩ := h.ended id' generation' hended
    refine ⟨hinactive, ?_⟩
    by_cases hne : id' = id
    · subst hne
      exact ⟨generation, AList.lookup_insert _, hle.trans (hnew counter hcounter)⟩
    · exact ⟨counter, by rw [AList.lookup_insert_ne hne]; exact hcounter, hle⟩

theorem registered (h : s.Accounted instances (some id)) {generation : ℕ} (r : RunningAdapter)
    (hcounter : s.generationCounters.lookup id = some generation)
    (hnew : ∀ ended, .ended id ended ∈ s.restarts → ended ≠ generation) :
    Accounted { s.noteAdapterStatus id .running with
      running := s.running.insert id r
      activeGenerations := s.activeGenerations.insert id generation } instances none := by
  obtain ⟨-, -, hrunning, -, hlive⟩ := h.inHand
  have hnoted := h.note hlive (show AdapterRuntimeStatus.running ≠ .exhausted by decide)
  refine ⟨h.configured, fun id' => ?_, h.pending, hnoted.exhausted, fun id' generation' hactive => ?_, h.fresh,
    fun id' generation' hended => ?_, h.budget⟩
  · have hplaces := hnoted.places id'
    have hkeys : (s.running.insert id r).keys = id :: s.running.keys := by
      rw [AList.keys_insert, List.erase_of_not_mem fun hmem => hrunning (AList.mem_keys.2 hmem)]
    simp only [Supervisor.places, noteAdapterStatus, hkeys, List.count_cons, beq_iff_eq,
      Option.some.injEq, reduceCtorEq, if_false] at hplaces ⊢
    omega
  · by_cases hne : id' = id
    · subst hne
      rw [AList.lookup_insert] at hactive
      obtain rfl := Option.some.inj hactive
      exact ⟨(AList.mem_insert _).2 (.inl rfl), hcounter⟩
    · rw [AList.lookup_insert_ne hne] at hactive
      obtain ⟨hmem, hcounter⟩ := h.active id' generation' hactive
      exact ⟨(AList.mem_insert _).2 (.inr hmem), hcounter⟩
  · obtain ⟨hinactive, hcounter'⟩ := h.ended id' generation' hended
    refine ⟨fun hactive => ?_, hcounter'⟩
    by_cases hne : id' = id
    · subst hne
      rw [AList.lookup_insert] at hactive
      exact hnew generation' hended (Option.some.inj hactive).symm
    · rw [AList.lookup_insert_ne hne] at hactive
      exact hinactive hactive

theorem noteHealthy (h : s.Accounted instances none) (hid : id ∈ s.running) :
    (s.noteHealthy id).Accounted instances none := by
  have hnoted := h.note (h.running_not_exhausted hid)
    (show AdapterRuntimeStatus.running ≠ .exhausted by decide)
  refine ⟨hnoted.configured, hnoted.places, h.pending, hnoted.exhausted, h.active, h.fresh, fun id' generation hended => ?_,
    h.budget.healthy⟩
  rcases List.mem_append.1 hended with hended | hended
  · exact h.ended id' generation hended
  · exact nomatch List.mem_singleton.1 hended

theorem startFailed (h : s.Accounted instances (some id)) (error : AdapterStartError) :
    (s.startFailed uptimeMs id error).Accounted instances none :=
  (h.raise _ _).scheduleRestart

theorem startFirst (h : s.Accounted instances (some id)) (hfresh : s.generationCounters.lookup id = none)
    (adapterType : AdapterType) (outcome : Option AdapterStartError) :
    (s.startFirst uptimeMs id adapterType outcome).Accounted instances none := by
  unfold Supervisor.startFirst startInputAdapter
  obtain ⟨-, -, hrunning, -, -⟩ := h.inHand
  rw [if_neg hrunning]
  cases outcome with
  | some error => exact h.startFailed error
  | none =>
    have hcounted := h.counted 1 fun counter hcounter =>
      nomatch hfresh.symm.trans hcounter
    have hregistered := hcounted.registered (.started adapterType) (AList.lookup_insert _)
      fun ended hended => by
        obtain ⟨-, counter, hcounter, -⟩ := h.ended id ended hended
        exact nomatch hfresh.symm.trans hcounter
    exact ⟨hregistered.configured, hregistered.places, hregistered.pending, hregistered.exhausted, hregistered.active,
      hregistered.fresh, hregistered.ended, hregistered.budget⟩

theorem restart (h : s.Accounted instances (some id)) (adapterType : AdapterType)
    (outcome : Option AdapterStartError) :
    (s.restart uptimeMs id adapterType outcome).Accounted instances none := by
  unfold Supervisor.restart startInputAdapter
  obtain ⟨-, -, hrunning, -, -⟩ := h.inHand
  dsimp only
  rw [if_neg hrunning]
  -- the new generation is beyond the counter, and so beyond every generation that has ended
  have hgrows : ∀ counter, s.generationCounters.lookup id = some counter →
      counter < (s.generationCounters.lookup id).elim 1 (· + 1) := by
    intro counter hcounter
    rw [hcounter]
    exact Nat.lt_succ_self counter
  have hcounted := h.counted _ fun counter hcounter => (hgrows counter hcounter).le
  cases outcome with
  | some error => exact hcounted.startFailed error
  | none =>
    have hregistered := hcounted.registered (.started adapterType) (AList.lookup_insert _)
      fun ended hended => by
        obtain ⟨-, counter, hcounter, hle⟩ := h.ended id ended hended
        exact (hle.trans_lt (hgrows counter hcounter)).ne
    exact ⟨hregistered.configured, hregistered.places, hregistered.pending, hregistered.exhausted, hregistered.active,
      hregistered.fresh, hregistered.ended, hregistered.budget⟩

theorem mirror (h : s.Accounted instances none) (hid : id ∈ s.running) (r : RunningAdapter) :
    (s.mirror uptimeMs id r).Accounted instances none := by
  unfold Supervisor.mirror
  split_ifs
  · exact h
  · have htouched := h.touch hid { r with mirrored := r.activity }
    dsimp only
    split
    · exact htouched.raise _ _
    · exact ⟨htouched.configured, htouched.places, htouched.pending, htouched.exhausted, htouched.active, htouched.fresh,
        htouched.ended, htouched.budget⟩
    · exact htouched

theorem step {e : Event} (h : s.Accounted instances none) (hs : s.step uptimeMs e = some s') :
    s'.Accounted instances none := by
  -- the reader thread and the task of the host only change an adapter that is registered
  have hreport : ∀ {id r}, s.active id = some r → id ∈ s.running := fun {id r} hr =>
    AList.lookup_isSome.1 (by rw [(Option.filter_eq_some_iff.1 hr).1]; rfl)
  cases e with
  | start id outcome =>
    simp only [Supervisor.step] at hs
    split_ifs at hs with hid
    obtain ⟨adapterType, -, rfl⟩ := Option.map_eq_some_iff.1 hs
    exact (h.takeUnstarted hid).startFirst (h.fresh id hid) adapterType outcome
  | portOpened id =>
    obtain ⟨r, hr, hs⟩ := Option.bind_eq_some_iff.1 hs
    unfold Supervisor.portOpened at hs
    split at hs
    · obtain rfl := Option.some.inj hs
      have htouched := h.touch (hreport hr) { r with reader := some .connected, activity := .isOpen }
      exact ⟨htouched.configured, htouched.places, htouched.pending, htouched.exhausted,
        htouched.active, htouched.fresh, htouched.ended, htouched.budget⟩
    · exact nomatch hs
  | portOpenFailed id kind detail =>
    obtain ⟨r, hr, hs⟩ := Option.bind_eq_some_iff.1 hs
    unfold Supervisor.portOpenFailed at hs
    split at hs
    · obtain rfl := Option.some.inj hs
      exact h.touch (hreport hr) _
    · exact nomatch hs
  | portLost id =>
    obtain ⟨r, hr, hs⟩ := Option.bind_eq_some_iff.1 hs
    unfold Supervisor.portLost at hs
    split at hs
    · obtain rfl := Option.some.inj hs
      exact h.touch (hreport hr) _
    · exact nomatch hs
  | exits id =>
    obtain ⟨r, hr, rfl⟩ := Option.map_eq_some_iff.1 hs
    exact h.touch (hreport hr) _
  | poll id =>
    obtain ⟨r, hr, rfl⟩ := Option.map_eq_some_iff.1 hs
    exact h.mirror (hreport hr) r
  | healthy id generation =>
    simp only [Supervisor.step] at hs
    split_ifs at hs with _ hcurrent
    · obtain rfl := Option.some.inj hs
      exact h.noteHealthy (h.active id generation hcurrent).1
    · obtain rfl := Option.some.inj hs
      exact h
  | closed id =>
    simp only [Supervisor.step] at hs
    split_ifs at hs
    obtain ⟨r, hr, rfl⟩ := Option.map_eq_some_iff.1 hs
    have hid : id ∈ s.running :=
      AList.lookup_isSome.1 (by rw [(Option.filter_eq_some_iff.1 hr).1]; rfl)
    exact (h.streamClosed hid).scheduleRestart
  | restart id outcome =>
    simp only [Supervisor.step] at hs
    split_ifs at hs with hready
    rw [not_or, not_not] at hready
    obtain rfl := Option.some.inj hs
    have hfired := h.timerFired hready.2
    split
    · exact hfired.restart _ outcome
    · rename_i hnone
      exact absurd hfired.inHand.1 (AList.lookup_eq_none.1 hnone)
  | restarted id =>
    simp only [Supervisor.step] at hs
    split_ifs at hs
    obtain rfl := Option.some.inj hs
    exact ⟨h.configured, h.places, h.pending, h.exhausted, h.active, h.fresh, h.ended, h.budget⟩

theorem booted (instances : AList fun _ : String => AdapterType) :
    (booted instances).Accounted instances none where
  configured := rfl
  places id := by
    by_cases hid : id ∈ instances
    · have hcount := List.count_eq_one_of_mem instances.keys_nodup (AList.mem_keys.1 hid)
      simp [Supervisor.places, Supervisor.booted, exhaustedIn, hcount, hid]
    · have hcount := List.count_eq_zero.2 fun hmem => hid (AList.mem_keys.2 hmem)
      simp [Supervisor.places, Supervisor.booted, exhaustedIn, hcount, hid]
  pending := rfl
  exhausted := by
    refine (List.countP_eq_zero.2 fun id _ => ?_).symm
    simp [Supervisor.booted, exhaustedIn]
  active id generation h := nomatch (AList.lookup_empty id).symm.trans h
  fresh id _ := AList.lookup_empty id
  ended _ _ h := nomatch h
  budget := ⟨fun _ => spent_nil, fun id => by simp [Supervisor.booted], fun _ => withinBudget_nil⟩

end Accounted

/-! ## Where an adapter is -/

inductive Place where
  | running
  | pending
  | exhausted
  deriving DecidableEq, Repr

def At (s : Supervisor) (id : String) : Place → Prop
  | .running => id ∈ s.running
  | .pending => s.pendingRestarts.count id = 1
  | .exhausted => exhaustedIn s.health id = true

instance (s : Supervisor) (id : String) : ∀ place, Decidable (s.At id place)
  | .running => inferInstanceAs (Decidable (id ∈ s.running))
  | .pending => inferInstanceAs (Decidable (_ = _))
  | .exhausted => inferInstanceAs (Decidable (_ = _))

theorem Accounted.place (h : s.Accounted instances none) (hid : id ∈ instances)
    (hstarted : id ∉ s.unstarted) : ∃! place, s.At id place := by
  have hplaces := h.places id
  rw [Supervisor.places, h.configured, if_pos hid, List.count_eq_zero.2 hstarted] at hplaces
  have hrunning : id ∈ s.running ↔ 0 < s.running.keys.count id := by
    rw [List.count_pos_iff, AList.mem_keys]
  have hexhausted : exhaustedIn s.health id = true ↔ 0 < (exhaustedIn s.health id).toNat := by
    cases exhaustedIn s.health id <;> simp
  have hone : ∀ place place', s.At id place → s.At id place' → place = place' := by
    intro place place' hat hat'
    cases place <;> cases place' <;> simp only [At, hrunning, hexhausted] at hat hat' <;>
      first | rfl | (simp only [reduceCtorEq, if_false] at hplaces; omega)
  have hsome : ∃ place, s.At id place := by
    by_cases hr : id ∈ s.running
    · exact ⟨.running, hr⟩
    · by_cases he : exhaustedIn s.health id = true
      · exact ⟨.exhausted, he⟩
      · refine ⟨.pending, ?_⟩
        rw [hrunning] at hr
        rw [hexhausted] at he
        simp only [reduceCtorEq, if_false] at hplaces
        show s.pendingRestarts.count id = 1
        omega
  obtain ⟨place, hat⟩ := hsome
  exact ⟨place, hat, fun place' hat' => hone place' place hat' hat⟩

theorem Accounted.pending_countP (h : s.Accounted instances none) :
    s.pendingRestartCount = instances.keys.countP fun id => s.At id .pending := by
  have hcount : ∀ id ∈ s.pendingRestarts, id ∈ instances ∧ s.pendingRestarts.count id = 1 := by
    intro id hid
    have hpos := List.count_pos_iff.2 hid
    have hplaces := h.places id
    rw [Supervisor.places, h.configured] at hplaces
    by_cases hmem : id ∈ instances
    · rw [if_pos hmem] at hplaces
      exact ⟨hmem, by omega⟩
    · rw [if_neg hmem] at hplaces
      omega
  have hnodup : s.pendingRestarts.Nodup := by
    rw [List.nodup_iff_count_le_one]
    intro id
    by_cases hid : id ∈ s.pendingRestarts
    · rw [(hcount id hid).2]
    · rw [List.count_eq_zero.2 hid]
      omega
  rw [h.pending, List.countP_eq_length_filter]
  refine ((List.perm_ext_iff_of_nodup hnodup (instances.keys_nodup.filter _)).2 fun id => ?_).length_eq
  rw [List.mem_filter, AList.mem_keys.symm]
  constructor
  · exact fun hid => ⟨(hcount id hid).1, decide_eq_true (hcount id hid).2⟩
  · intro hid
    have hone : s.pendingRestarts.count id = 1 := of_decide_eq_true hid.2
    exact List.count_pos_iff.1 (by omega)

/-- In every run each configured adapter that was started is in exactly one place, the counters count
the adapters that have a timer and those given up, no stretch of the run without a healthy notice of
the running generation schedules more timers than the budget allows, and a notice of a generation that
has ended changes nothing. -/
theorem supervision_accounts (uptimeMs : ℕ → ℤ) (instances : AList fun _ : String => AdapterType)
    (events : List Event) (s : Supervisor)
    (hrun : Machine.run (step uptimeMs) (booted instances) events = some s) :
    (∀ id ∈ instances, id ∉ s.unstarted → ∃! place, s.At id place)
    ∧ s.pendingRestartCount = instances.keys.countP (fun id => s.At id .pending)
    ∧ s.exhaustedAdapterCount = instances.keys.countP (fun id => s.At id .exhausted)
    ∧ (∀ id earlier stretch later, s.restarts = earlier ++ stretch ++ later →
      .healthy id ∉ stretch → stretch.count (.scheduled id) ≤ maxRestarts)
    ∧ ∀ id generation, .ended id generation ∈ s.restarts →
      ∀ s', s.step uptimeMs (.healthy id generation) = some s' → s' = s := by
  have h : s.Accounted instances none :=
    Machine.run_invariant (I := fun s => s.Accounted instances none) (fun _ _ _ h hs => h.step hs)
      (Accounted.booted instances) hrun
  refine ⟨fun id hid hstarted => h.place hid hstarted, h.pending_countP, ?_, h.budget.within,
    fun id generation hended s' hs => ?_⟩
  · rw [h.exhausted, h.configured]
    refine List.countP_congr fun id _ => ?_
    rw [decide_eq_true_iff]
    rfl
  · simp only [step] at hs
    rw [if_neg (h.ended id generation hended).1] at hs
    split_ifs at hs
    exact (Option.some.inj hs).symm

def benchInstances : AList fun _ : String => AdapterType :=
  [⟨"serial", .bravePiMainboard⟩, ⟨"bus", .rpiLocal⟩].toAList

/-- The bus cannot be opened until its budget is used up. The serial adapter closes and comes back,
and then a notice of its first generation arrives. -/
def busGivenUp : List Event :=
  [.start "bus" (some ⟨some .notFound, "no bus"⟩), .start "serial" none, .healthy "serial" 1]
    ++ List.replicate maxRestarts (.restart "bus" (some ⟨some .notFound, "no bus"⟩))
    ++ [.exits "serial", .closed "serial", .restart "serial" none, .restarted "serial"]

theorem busGivenUp_accounts :
    ∃ s, Machine.run (step fun _ => 0) (booted benchInstances) busGivenUp = some s
      ∧ s.pendingRestartCount = 0 ∧ s.exhaustedAdapterCount = 1
      ∧ (∃! place, s.At "bus" place)
      ∧ ∀ s', s.step (fun _ => 0) (.healthy "serial" 1) = some s' → s' = s := by
  have hend : (Machine.run (step fun _ => 0) (booted benchInstances) busGivenUp).any (fun s =>
      s.pendingRestartCount = 0 ∧ s.exhaustedAdapterCount = 1 ∧ s.unstarted = []
        ∧ RestartEvent.ended "serial" 1 ∈ s.restarts) = true := by decide +kernel
  have hbus : "bus" ∈ benchInstances := by decide +kernel
  obtain ⟨s, hrun, hs⟩ := (Option.any_eq_true _ _).1 hend
  obtain ⟨hpending, hexhausted, hstarted, hended⟩ := of_decide_eq_true hs
  obtain ⟨hplace, -, -, -, hlate⟩ := supervision_accounts _ _ _ s hrun
  exact ⟨s, hrun, hpending, hexhausted, hplace "bus" hbus (by simp [hstarted]),
    hlate "serial" 1 hended⟩

end Supervisor

end EdgeNode
