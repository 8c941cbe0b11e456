import EdgeNode.Proofs.Supervision

/-!
# How long an interface fault lasts

The host's task takes a fault away only when the adapter has reported its interface as open after
the fault was raised. The supervisor takes it away with every start that succeeds, which says
nothing for the serial adapter.
-/

namespace EdgeNode

namespace DeviceFaultSnapshot

def reports (s : DeviceFaultSnapshot) (adapter : String) : Bool :=
  s.interfaces.any fun f => f.1 == adapter

variable {s : DeviceFaultSnapshot} {adapter other : String}

theorem reports_interfaceOpened :
    (s.interfaceOpened adapter).reports other = (other != adapter && s.reports other) := by
  unfold interfaceOpened reports
  by_cases h : other = adapter
  · subst h
    simp
  · simp only [List.any_filter, bne_iff_ne.2 h, Bool.true_and]
    congr 1
    funext f
    by_cases hf : f.1 = other <;> simp [hf, h]

theorem reports_interfaceOpenFailed {reason : InterfaceOpenReason} {detail : Option String}
    {uptimeMs : ℤ} :
    (s.interfaceOpenFailed adapter reason detail uptimeMs).reports other
      = (other == adapter || s.reports other) := by
  unfold interfaceOpenFailed
  dsimp only
  split_ifs with h
  · -- the adapters reported are the same
    have hmap : ∀ l : List (String × InterfaceOpenFault),
        (l.map fun f => if f.1 = adapter
          then (f.1, { f.2 with reason := reason, detail := detail.map truncateDetail }) else f).any
          (fun f => f.1 == other) = l.any fun f => f.1 == other := by
      intro l
      rw [List.any_map]
      congr 1
      funext f
      simp only [Function.comp_apply]
      split_ifs <;> rfl
    unfold reports
    dsimp only
    rw [hmap]
    by_cases ho : other = adapter
    · subst ho
      simp [h]
    · simp [ho]
  · unfold reports
    dsimp only
    rw [(List.perm_orderedInsert ..).any_eq, List.any_cons]
    congr 1
    exact Bool.beq_comm

end DeviceFaultSnapshot

namespace Supervisor

variable {uptimeMs : ℕ → ℤ} {s s' : Supervisor} {id : String}
  {instances : AList fun _ : String => AdapterType}

def Awaited (id : String) : List InterfaceEvent → Prop :=
  Standing (fun e => e = .raised id) fun e => e = .opened id

theorem awaited_raised {record : List InterfaceEvent} {other : String} :
    Awaited id (record ++ [.raised other]) ↔ other = id ∨ Awaited id record := by
  unfold Awaited
  rw [standing_concat]
  simp

theorem awaited_opened {record : List InterfaceEvent} {other : String} :
    Awaited id (record ++ [.opened other]) ↔ Awaited id record ∧ other ≠ id := by
  unfold Awaited
  rw [standing_concat]
  simp

/-- The supervisor takes a fault away after a restart only where the start has opened the interface, or
where there is none. -/
def OpenedByStart (s : Supervisor) : Event → Prop
  | .restarted id => s.instances.lookup id = some .rpiLocal ∨ s.faults.reports id = false
  | _ => True

instance (s : Supervisor) : ∀ e, Decidable (OpenedByStart s e)
  | .restarted _ => inferInstanceAs (Decidable (_ ∨ _))
  | .start _ _ | .portOpened _ | .portOpenFailed _ _ _ | .portLost _ | .exits _ | .poll _
  | .healthy _ _ | .closed _ | .restart _ _ => isTrue trivial

structure Reported (record : List InterfaceEvent) (id : String) (adapterType : AdapterType)
    (r : RunningAdapter) : Prop where
  type : r.adapterType = adapterType
  /-- Only the serial adapter has a thread that reports. -/
  silent : adapterType ≠ .bravePiMainboard → r.reader = none ∧ r.activity = .unreported
    ∧ r.mirrored = .unreported
  /-- An interface that is reported as open, and not mirrored yet, was opened after the last fault. -/
  opened : r.activity = .isOpen → r.mirrored ≠ .isOpen → ¬ Awaited id record

structure Watched (s : Supervisor) : Prop where
  reported : ∀ id r, s.running.lookup id = some r →
    ∃ adapterType, s.instances.lookup id = some adapterType ∧ Reported s.record id adapterType r
  noted : ∀ id, s.noting = some id → s.instances.lookup id = some .rpiLocal →
    id ∈ s.running ∧ ¬ Awaited id s.record
  present : ∀ id, Awaited id s.record → s.faults.reports id

theorem Reported.started (record : List InterfaceEvent) (id : String) (adapterType : AdapterType) :
    Reported record id adapterType (.started adapterType) where
  type := rfl
  silent h := by
    cases adapterType with
    | bravePiMainboard => exact absurd rfl h
    | rpiLocal => exact ⟨rfl, rfl, rfl⟩
    | trialSample => exact ⟨rfl, rfl, rfl⟩
  opened h := nomatch h

theorem Reported.mono {record record' : List InterfaceEvent} {adapterType : AdapterType}
    {r : RunningAdapter} (h : Reported record id adapterType r)
    (hle : Awaited id record' → Awaited id record) : Reported record' id adapterType r :=
  ⟨h.type, h.silent, fun ho hm ha => h.opened ho hm (hle ha)⟩

theorem Reported.bravePi {record : List InterfaceEvent} {adapterType : AdapterType}
    {r : RunningAdapter} {reader : ReaderThread} (h : Reported record id adapterType r)
    (hreader : r.reader = some reader) : adapterType = .bravePiMainboard := by
  by_contra hne
  exact nomatch hreader.symm.trans (h.silent hne).1

theorem active_lookup {r : RunningAdapter} (h : s.active id = some r) :
    s.running.lookup id = some r := by
  unfold active at h
  exact (Option.filter_eq_some_iff.1 h).1

namespace Watched

theorem insert {adapterType : AdapterType} {r : RunningAdapter} (h : Watched s)
    (htype : s.instances.lookup id = some adapterType) (hr : Reported s.record id adapterType r) :
    Watched { s with running := s.running.insert id r } where
  reported id' r' hr' := by
    by_cases hne : id' = id
    · subst hne
      rw [AList.lookup_insert] at hr'
      obtain rfl := Option.some.inj hr'
      exact ⟨adapterType, htype, hr⟩
    · rw [AList.lookup_insert_ne hne] at hr'
      exact h.reported id' r' hr'
  noted id' hnoting hlocal := by
    obtain ⟨hmem, hopened⟩ := h.noted id' hnoting hlocal
    exact ⟨(AList.mem_insert _).2 (.inr hmem), hopened⟩
  present := h.present

theorem open_ (h : Watched s) (id : String) : Watched { s with record := s.record ++ [.opened id] } where
  reported id' r hr := by
    obtain ⟨adapterType, htype, hreported⟩ := h.reported id' r hr
    exact ⟨adapterType, htype, hreported.mono fun ha => (awaited_opened.1 ha).1⟩
  noted id' hnoting hlocal := by
    obtain ⟨hmem, hopened⟩ := h.noted id' hnoting hlocal
    exact ⟨hmem, fun ha => hopened (awaited_opened.1 ha).1⟩
  present id' ha := h.present id' (awaited_opened.1 ha).1

theorem raise {reason : InterfaceOpenReason} {detail : String} (h : Watched s)
    (hquiet : ∀ r, s.running.lookup id = some r → r.activity = .isOpen → r.mirrored = .isOpen)
    (hnoting : s.noting = some id → s.instances.lookup id ≠ some .rpiLocal) :
    Watched (s.raise uptimeMs id reason detail) where
  reported id' r hr := by
    obtain ⟨adapterType, htype, hreported⟩ := h.reported id' r hr
    refine ⟨adapterType, htype, hreported.type, hreported.silent, fun ho hm ha => ?_⟩
    rcases awaited_raised.1 ha with rfl | ha
    · exact hm (hquiet r hr ho)
    · exact hreported.opened ho hm ha
  noted id' hnoted hlocal := by
    obtain ⟨hmem, hopened⟩ := h.noted id' hnoted hlocal
    refine ⟨hmem, fun ha => ?_⟩
    rcases awaited_raised.1 ha with rfl | ha
    · exact hnoting hnoted hlocal
    · exact hopened ha
  present id' ha := by
    unfold Supervisor.raise
    rw [DeviceFaultSnapshot.reports_interfaceOpenFailed]
    rcases awaited_raised.1 ha with rfl | ha
    · simp
    · simp [h.present id' ha]

theorem clear (h : Watched s) (hopened : ¬ Awaited id s.record) :
    Watched { s with faults := s.faults.interfaceOpened id } where
  reported := h.reported
  noted := h.noted
  present id' ha := by
    rw [DeviceFaultSnapshot.reports_interfaceOpened]
    have hne : id' ≠ id := fun heq => hopened (heq ▸ ha)
    simp [hne, h.present id' ha]

theorem scheduleRestart (h : Watched s) : Watched (s.scheduleRestart id) := by
  unfold Supervisor.scheduleRestart
  split <;> exact ⟨h.reported, h.noted, h.present⟩

theorem startFailed {error : AdapterStartError} (h : Watched s) (hrunning : id ∉ s.running) :
    Watched (s.startFailed uptimeMs id error) := by
  refine scheduleRestart (h.raise (fun r hr => ?_) fun hnoted hlocal => ?_)
  · exact absurd (AList.lookup_isSome.1 (hr ▸ rfl)) hrunning
  · exact hrunning (h.noted id hnoted hlocal).1

theorem startInputAdapter {adapterType : AdapterType} {outcome : Option AdapterStartError}
    (h : Watched s) (htype : s.instances.lookup id = some adapterType)
    (hs : s.startInputAdapter id adapterType outcome = .ok s') :
    Watched s' ∧ s'.instances = s.instances ∧ s'.noting = s.noting ∧ id ∈ s'.running
      ∧ (adapterType = .rpiLocal → ¬ Awaited id s'.record) := by
  unfold Supervisor.startInputAdapter at hs
  by_cases hrunning : id ∈ s.running
  · rw [if_pos hrunning] at hs
    cases hs
  rw [if_neg hrunning] at hs
  cases outcome with
  | some error => cases hs
  | none =>
    obtain rfl := Except.ok.inj hs
    have hinsert := h.insert htype (.started s.record id adapterType)
    refine ⟨?_, rfl, rfl, (AList.mem_insert _).2 (.inl rfl), fun hlocal ha => ?_⟩
    · split_ifs
      · exact hinsert.open_ id
      · rw [List.append_nil]
        exact hinsert
    · dsimp only at ha
      rw [if_pos hlocal] at ha
      exact (awaited_opened.1 ha).2 rfl

theorem replace {r r' : RunningAdapter} (h : Watched s) (hr : s.running.lookup id = some r)
    (hr' : ∀ adapterType, Reported s.record id adapterType r → Reported s.record id adapterType r') :
    Watched { s with running := s.running.insert id r' } := by
  obtain ⟨adapterType, htype, hreported⟩ := h.reported id r hr
  exact h.insert htype (hr' adapterType hreported)

theorem portOpened {r : RunningAdapter} (h : Watched s) (hr : s.running.lookup id = some r)
    (hs : s.portOpened id r = some s') : Watched s' := by
  unfold Supervisor.portOpened at hs
  split at hs
  · next hreader =>
    obtain rfl := Option.some.inj hs
    refine (h.open_ id).replace hr fun adapterType hreported => ?_
    refine ⟨hreported.type, fun hne => absurd (hreported.bravePi hreader) hne, fun _ _ ha => ?_⟩
    exact (awaited_opened.1 ha).2 rfl
  · cases hs

theorem portOpenFailed {r : RunningAdapter} {kind : IoErrorKind} {detail : String} (h : Watched s)
    (hr : s.running.lookup id = some r) (hs : s.portOpenFailed id kind detail r = some s') :
    Watched s' := by
  unfold Supervisor.portOpenFailed at hs
  split at hs
  · next hreader =>
    obtain rfl := Option.some.inj hs
    refine h.replace hr fun adapterType hreported => ?_
    exact ⟨hreported.type, fun hne => absurd (hreported.bravePi hreader) hne, fun ho => nomatch ho⟩
  · cases hs

theorem portLost {r : RunningAdapter} (h : Watched s) (hr : s.running.lookup id = some r)
    (hs : s.portLost id r = some s') : Watched s' := by
  unfold Supervisor.portLost at hs
  split at hs
  · next hreader =>
    obtain rfl := Option.some.inj hs
    refine h.replace hr fun adapterType hreported => ?_
    exact ⟨hreported.type, fun hne => absurd (hreported.bravePi hreader) hne, hreported.opened⟩
  · cases hs

theorem mirror {r : RunningAdapter} (h : Watched s) (hr : s.running.lookup id = some r) :
    Watched (s.mirror uptimeMs id r) := by
  unfold Supervisor.mirror
  by_cases hsame : r.activity = r.mirrored
  · rw [if_pos hsame]
    exact h
  rw [if_neg hsame]
  obtain ⟨adapterType, htype, hreported⟩ := h.reported id r hr
  have hmirrored : Watched { s with running := s.running.insert id { r with mirrored := r.activity } } :=
    h.replace hr fun adapterType hreported =>
      ⟨hreported.type, fun hne => by
        obtain ⟨hreader, hactivity, -⟩ := hreported.silent hne
        exact ⟨hreader, hactivity, hactivity⟩, fun ho hm => absurd ho hm⟩
  dsimp only
  split
  · next kind detail hactivity =>
    refine hmirrored.raise (fun r' hr' ho => ?_) fun _ hlocal => ?_
    · rw [AList.lookup_insert] at hr'
      obtain rfl := Option.some.inj hr'
      exact ho
    · -- the local adapter reports nothing
      obtain rfl : adapterType = .rpiLocal := Option.some.inj (htype.symm.trans hlocal)
      exact nomatch hactivity.symm.trans (hreported.silent (by decide)).2.1
  · next hactivity =>
    exact hmirrored.clear (hreported.opened hactivity fun hm => hsame (hactivity.trans hm.symm))
  · exact hmirrored

theorem startFirst {adapterType : AdapterType} {outcome : Option AdapterStartError}
    (h : Watched s) (hrunning : id ∉ s.running)
    (htype : s.instances.lookup id = some adapterType) :
    Watched (s.startFirst uptimeMs id adapterType outcome) := by
  unfold Supervisor.startFirst
  split
  · next s' hs =>
    obtain ⟨hw, -⟩ := h.startInputAdapter htype hs
    exact ⟨hw.reported, hw.noted, hw.present⟩
  · exact h.startFailed hrunning

theorem restart {adapterType : AdapterType} {outcome : Option AdapterStartError}
    (h : Watched s) (hrunning : id ∉ s.running)
    (htype : s.instances.lookup id = some adapterType) :
    Watched (s.restart uptimeMs id adapterType outcome) := by
  unfold Supervisor.restart
  dsimp only
  generalize (s.generationCounters.lookup id).elim 1 (· + 1) = generation
  have hcounted : Watched { s with
      generationCounters := s.generationCounters.insert id generation } :=
    ⟨h.reported, h.noted, h.present⟩
  split
  · next s' hs =>
    obtain ⟨hw, hinstances, -, hmem, hopened⟩ := hcounted.startInputAdapter htype hs
    refine ⟨hw.reported, fun id' hnoting hlocal => ?_, hw.present⟩
    obtain rfl := Option.some.inj hnoting
    have hlocal : s.instances.lookup id = some .rpiLocal := hinstances ▸ hlocal
    exact ⟨hmem, hopened (Option.some.inj (htype.symm.trans hlocal))⟩
  · exact hcounted.startFailed hrunning

theorem streamClosed (h : Watched s) (hnoting : s.noting = none) : Watched (s.streamClosed id) where
  reported id' r hr := by
    by_cases hne : id' = id
    · subst hne
      exact nomatch (AList.lookup_erase _ _).symm.trans hr
    · exact h.reported id' r ((AList.lookup_erase_ne hne).symm.trans hr)
  noted id' hn := nomatch hnoting.symm.trans hn
  present := h.present

theorem step {e : Event} (hopens : OpenedByStart s e) (ha : s.Accounted instances none)
    (h : Watched s) (hs : s.step uptimeMs e = some s') : Watched s' := by
  cases e with
  | start id outcome =>
    simp only [Supervisor.step] at hs
    split_ifs at hs with hid
    obtain ⟨adapterType, htype, rfl⟩ := Option.map_eq_some_iff.1 hs
    have hw : Watched { s with unstarted := s.unstarted.erase id } :=
      ⟨h.reported, h.noted, h.present⟩
    obtain ⟨-, -, hrunning, -⟩ := (ha.takeUnstarted hid).inHand
    exact hw.startFirst hrunning htype
  | portOpened id =>
    obtain ⟨r, hr, hs⟩ := Option.bind_eq_some_iff.1 hs
    exact h.portOpened (active_lookup hr) hs
  | portOpenFailed id kind detail =>
    obtain ⟨r, hr, hs⟩ := Option.bind_eq_some_iff.1 hs
    exact h.portOpenFailed (active_lookup hr) hs
  | portLost id =>
    obtain ⟨r, hr, hs⟩ := Option.bind_eq_some_iff.1 hs
    exact h.portLost (active_lookup hr) hs
  | exits id =>
    obtain ⟨r, hr, rfl⟩ := Option.map_eq_some_iff.1 hs
    exact h.replace (active_lookup hr) fun adapterType hreported =>
      ⟨hreported.type, hreported.silent, hreported.opened⟩
  | poll id =>
    obtain ⟨r, hr, rfl⟩ := Option.map_eq_some_iff.1 hs
    exact h.mirror (active_lookup hr)
  | healthy id generation =>
    simp only [Supervisor.step] at hs
    split_ifs at hs
    · obtain rfl := Option.some.inj hs
      exact ⟨h.reported, h.noted, h.present⟩
    · obtain rfl := Option.some.inj hs
      exact h
  | closed id =>
    simp only [Supervisor.step] at hs
    split_ifs at hs with hnoting
    obtain ⟨r, hr, rfl⟩ := Option.map_eq_some_iff.1 hs
    exact (h.streamClosed (Option.not_isSome_iff_eq_none.1 hnoting)).scheduleRestart
  | restart id outcome =>
    simp only [Supervisor.step] at hs
    split_ifs at hs with hready
    rw [not_or, not_not] at hready
    obtain rfl := Option.some.inj hs
    have hw : Watched (s.timerFired id) := ⟨h.reported, h.noted, h.present⟩
    obtain ⟨-, -, hrunning, -⟩ := (ha.timerFired hready.2).inHand
    split
    · next adapterType htype => exact hw.restart hrunning htype
    · exact hw
  | restarted id =>
    simp only [Supervisor.step] at hs
    split_ifs at hs with hnoting
    obtain rfl := Option.some.inj hs
    have hcleared : Watched { s with faults := s.faults.interfaceOpened id } := by
      refine h.clear ?_
      rcases hopens with hlocal | habsent
      · exact (h.noted id hnoting hlocal).2
      · exact fun ha => by cases habsent.symm.trans (h.present id ha)
    exact ⟨hcleared.reported, fun id' hn => (by cases hn), hcleared.present⟩

theorem booted (instances : AList fun _ : String => AdapterType) : Watched (.booted instances) where
  reported id r hr := nomatch (AList.lookup_empty id).symm.trans hr
  noted _ hn := nomatch hn
  present _ ha := absurd ha not_standing_nil

end Watched

/-- In every run in which a restart is noted only where the start has opened the interface, or where
there is no fault, a fault lasts until the interface is opened. -/
theorem interface_fault_lasts (uptimeMs : ℕ → ℤ) (instances : AList fun _ : String => AdapterType)
    {s : Supervisor} {events : List Event}
    (hopens : Machine.Along (step uptimeMs) OpenedByStart (booted instances) events)
    (hrun : Machine.run (step uptimeMs) (booted instances) events = some s) :
    ∀ id, Awaited id s.record → s.faults.reports id := by
  have h : s.Accounted instances none ∧ Watched s :=
    Machine.run_invariant_along (I := fun s => s.Accounted instances none ∧ Watched s)
      (fun _ _ _ ho h hs => ⟨h.1.step hs, h.2.step ho h.1 hs⟩) hopens
      ⟨Accounted.booted instances, Watched.booted instances⟩ hrun
  exact h.2.present

def portMissing : List Event :=
  [.start "serial" none, .portOpenFailed "serial" .notFound "no such file", .poll "serial"]

def busRestart : List Event :=
  [.start "bus" (some ⟨some .notFound, "no bus"⟩), .restart "bus" none, .restarted "bus"]

theorem busRestart_keeps_port :
    ∃ s, Machine.run (step fun _ => 0) (booted benchInstances) (portMissing ++ busRestart) = some s
      ∧ Awaited "serial" s.record ∧ ¬ s.faults.reports "bus" ∧ s.faults.reports "serial" := by
  have hrun : (Machine.run (step fun _ => 0) (booted benchInstances)
      (portMissing ++ busRestart)).map (fun s => (s.record, s.faults.reports "bus"))
      = some ([.raised "serial", .raised "bus", .opened "bus"], false) := by decide +kernel
  obtain ⟨s, hs, hseen⟩ := Option.map_eq_some_iff.1 hrun
  obtain ⟨hrecord, hbus⟩ := Prod.mk.inj hseen
  have hawaited : Awaited "serial" s.record := by
    rw [hrecord]
    exact ⟨[], .raised "serial", [.raised "bus", .opened "bus"], rfl, rfl, by decide⟩
  refine ⟨s, hs, hawaited, by rw [hbus]; decide, ?_⟩
  exact interface_fault_lasts _ _ (by decide +kernel) hs "serial" hawaited

/-- The adapter exits and is started again: its fault is gone, and no port was ever opened. -/
theorem restart_ends_fault :
    ∃ s, Machine.run (step fun _ => 0) (booted benchInstances) (portMissing ++
        [.exits "serial", .closed "serial", .restart "serial" none, .restarted "serial"]) = some s
      ∧ Awaited "serial" s.record ∧ ¬ s.faults.reports "serial" := by
  have hrun : (Machine.run (step fun _ => 0) (booted benchInstances) (portMissing ++
      [.exits "serial", .closed "serial", .restart "serial" none, .restarted "serial"])).map
        (fun s => (s.record, s.faults.reports "serial")) = some ([.raised "serial"], false) := by
    decide +kernel
  obtain ⟨s, hs, hseen⟩ := Option.map_eq_some_iff.1 hrun
  obtain ⟨hrecord, hgone⟩ := Prod.mk.inj hseen
  refine ⟨s, hs, ?_, by rw [hgone]; decide⟩
  rw [hrecord]
  exact ⟨[], .raised "serial", [], rfl, rfl, by simp⟩

end Supervisor

end EdgeNode
