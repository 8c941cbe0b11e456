import EdgeNode.Collector.Maintenance

/-!
# The health of claim maintenance

A transaction of maintenance that is committed leaves the flag it was made for, and an event exactly
when the flag has changed. The flag stops speaking of the last purge when a purge succeeds while a
failure waits and cannot be written: the success is forgotten, and the failure is recorded later.
-/

namespace EdgeNode

open Tx

namespace Maintenance

variable {host : Host} {db db' : MaintenanceDb} {nowMs : ℤ} {failed : Bool} {n : ℕ}

/-! ## One transaction -/

def announced (e : EventRow) : Option Bool :=
  if e.kind = transitionKind true then some true
  else if e.kind = transitionKind false then some false
  else none

theorem announced_transition {atMs : ℤ} {systemId : Option SystemId} {detail : String} :
    announced ⟨atMs, transitionKind failed, systemId, detail⟩ = some failed := by
  cases failed <;> simp [announced, transitionKind]

structure Recorded (failed : Bool) (db db' : MaintenanceDb) : Prop where
  flag : db'.maintenance.degraded = failed
  events : ∃ added, db'.ledger.events.ever = db.ledger.events.ever ++ added
    ∧ added.filterMap (fun e => announced e.2)
      = if db.maintenance.degraded = failed then [] else [failed]

theorem markDedupPurge_wp :
    wp (markDedupPurge nowMs failed)
      (fun transitioned db' _ => transitioned = (db.maintenance.degraded != failed)
        ∧ db'.maintenance.degraded = failed ∧ db'.ledger = db.ledger)
      (fun _ _ _ => True) db n := by
  cases failed with
  | true =>
    refine wp_bind (wp_query trivial (wp_bind (wp_exec trivial (wp_pure ⟨?_, rfl, rfl⟩))))
    cases db.maintenance.degraded <;> rfl
  | false =>
    refine wp_bind (wp_query trivial (wp_bind (wp_exec trivial (wp_pure ⟨?_, rfl, rfl⟩))))
    cases db.maintenance.degraded <;> rfl

theorem recordEvent_wp :
    wp (recordEvent host failed)
      (fun _ db' _ => db'.maintenance = db.maintenance
        ∧ ∃ id atMs, db'.ledger.events.ever = db.ledger.events.ever
          ++ [(id, ⟨atMs, transitionKind failed, none, transitionDetail failed⟩)])
      (fun _ _ _ => True) db n := by
  refine wp_mapError (wp_on (wp_bind (wp_draw (wp_stmt trivial (fun _ ledger h => ?_) fun _ _ => trivial))))
  split at h
  · rename_i events hinsert
    obtain ⟨rfl, rfl⟩ := Prod.mk.inj (Except.ok.inj h)
    exact ⟨rfl, _, _, (AutoTable.insert_eq_some hinsert).2.2.1⟩
  · exact absurd h (by simp)

theorem transition_wp :
    wp (transition host nowMs failed) (fun r db' _ => r.1 = .commit ∧ Recorded failed db db')
      (fun _ _ _ => True) db n := by
  refine wp_bind (wp_imp markDedupPurge_wp fun transitioned db₁ _ h => ?_)
  obtain ⟨htransitioned, hflag, hledger⟩ := h
  split_ifs with hchanged
  · refine wp_bind (wp_imp recordEvent_wp fun _ db₂ _ h => ?_)
    obtain ⟨hmaintenance, id, atMs, hevents⟩ := h
    refine wp_pure ⟨rfl, ?_, _, hledger ▸ hevents, ?_⟩
    · rw [hmaintenance]
      exact hflag
    · have hne : db.maintenance.degraded ≠ failed := by simpa [htransitioned] using hchanged
      simp [announced_transition, hne]
  · have heq : db.maintenance.degraded = failed := by simpa [htransitioned] using hchanged
    exact wp_pure ⟨rfl, hflag, [], by simp [hledger], by simp [heq]⟩

theorem recordTransition_wp :
    wp (recordTransition host nowMs failed) (fun _ db' _ => Recorded failed db db')
      (fun _ db' _ => db' = db) db n := by
  refine wp_transaction rfl (wp_mono transition_wp (fun r db' _ h => ?_) fun _ _ _ _ => rfl)
  rw [h.1]
  exact ⟨h.2, rfl⟩

end Maintenance

namespace DedupMaintainer

open Maintenance

variable {host : Host} {purgeIntervalMs nowMs : ℤ} {failed : Bool} {faults : List Bool}
  {m m' : DedupMaintainer} {before : MaintenanceDb}

theorem recordDedupMaintenanceTransition_cases (host : Host) (nowMs : ℤ) (failed : Bool)
    (faults : List Bool) (m : DedupMaintainer) :
    ∃ db draws, Recorded failed m.db db
        ∧ m.recordDedupMaintenanceTransition host nowMs failed faults
          = (true, { m with db := db, draws := draws })
      ∨ m.recordDedupMaintenanceTransition host nowMs failed faults
        = (false, { m with draws := draws }) := by
  have hwp := @recordTransition_wp host m.db nowMs failed m.draws faults
  unfold recordDedupMaintenanceTransition
  rcases hout : recordTransition host nowMs failed ⟨m.db, faults, m.draws⟩ with ⟨e | u, c⟩
    <;> rw [hout] at hwp
  · obtain ⟨db, rest, draws⟩ := c
    obtain rfl : db = m.db := hwp
    exact ⟨m.db, draws, .inr rfl⟩
  · exact ⟨c.db, c.draws, .inl ⟨hwp, rfl⟩⟩

/-! ## The events alternate -/

def Alternating (before db : MaintenanceDb) : Prop :=
  ∃ added, db.ledger.events.ever = before.ledger.events.ever ++ added
    ∧ (before.maintenance.degraded :: added.filterMap fun e => announced e.2).IsChain (· ≠ ·)
    ∧ (before.maintenance.degraded :: added.filterMap fun e => announced e.2).getLast?
      = some db.maintenance.degraded

theorem Alternating.recorded {db db' : MaintenanceDb} (h : Alternating before db)
    (hrecorded : Recorded failed db db') : Alternating before db' := by
  obtain ⟨added, hever, hchain, hlast⟩ := h
  obtain ⟨hflag, new, hnew, hannounced⟩ := hrecorded
  refine ⟨added ++ new, by rw [hnew, hever, List.append_assoc], ?_⟩
  rw [List.filterMap_append, hannounced, ← List.cons_append, hflag]
  split_ifs with hsame
  · rw [List.append_nil, ← hsame]
    exact ⟨hchain, hlast⟩
  · refine ⟨List.isChain_append.2 ⟨hchain, .singleton _, fun x hx y hy => ?_⟩,
      List.getLast?_concat⟩
    rw [hlast] at hx
    obtain rfl := Option.some.inj hx
    obtain rfl := Option.some.inj hy
    exact hsame

theorem Alternating.recordDedupMaintenanceTransition (h : Alternating before m.db) (host : Host)
    (nowMs : ℤ) (failed : Bool) (faults : List Bool) :
    Alternating before (m.recordDedupMaintenanceTransition host nowMs failed faults).2.db := by
  obtain ⟨db, draws, ⟨hrecorded, hout⟩ | hout⟩ :=
    recordDedupMaintenanceTransition_cases host nowMs failed faults m <;> rw [hout]
  · exact h.recorded hrecorded
  · exact h

theorem Alternating.retry (h : Alternating before m.db) (host : Host) (faults : List Bool) :
    Alternating before (m.retry host faults).2.db := by
  unfold DedupMaintainer.retry
  split
  · exact h
  · rename_i pending _
    have hnext := h.recordDedupMaintenanceTransition host pending.atMs pending.failed faults
    split
    all_goals
      rename_i hout
      rw [hout] at hnext
      exact hnext

theorem Alternating.record (h : Alternating before m.db) :
    Alternating before (m.record host nowMs failed faults).db := by
  have hnext := h.recordDedupMaintenanceTransition host nowMs failed faults
  unfold DedupMaintainer.record
  split
  all_goals
    rename_i hout
    rw [hout] at hnext
    exact hnext

theorem Alternating.maybePurgeDedup {call : MaintenanceCall} (h : Alternating before m.db) :
    Alternating before (m.maybePurgeDedup host purgeIntervalMs call).db := by
  unfold DedupMaintainer.maybePurgeDedup
  split_ifs with hdue
  · exact h.retry _ _
  · have hpurged : Alternating before (m.purge call.nowMs call.purgeFaults).2.db := h
    dsimp only
    generalize m.purge call.nowMs call.purgeFaults = p at hpurged ⊢
    split_ifs
    · exact Alternating.record (m := { p.2 with pending := none }) hpurged
    · have hretried := hpurged.retry host call.retryFaults
      split
      · rename_i hout
        rw [hout] at hretried
        exact hretried
      · rename_i hout
        rw [hout] at hretried
        exact hretried.record

/-! ## The flag is about the last purge -/

structure Current (m : DedupMaintainer) : Prop where
  unpurged : m.lastFailed = none → m.pending = none
  current : ∀ failed, m.lastFailed = some failed →
    m.pending.elim (m.db.maintenance.degraded = failed) fun p => p.failed = failed

/-- A failure that waits is written before a purge that succeeds is forgotten. -/
def RetriedInTime (host : Host) (purgeIntervalMs : ℤ) (m : DedupMaintainer) (call : MaintenanceCall) :
    Prop :=
  m.isDue purgeIntervalMs call.nowMs = true → (m.pending.any fun p => p.failed) = true →
    (m.purge call.nowMs call.purgeFaults).1 = false →
      ((m.purge call.nowMs call.purgeFaults).2.retry host call.retryFaults).1 = true

instance (host : Host) (purgeIntervalMs : ℤ) (m : DedupMaintainer) (call : MaintenanceCall) :
    Decidable (RetriedInTime host purgeIntervalMs m call) := by
  unfold RetriedInTime
  infer_instance

theorem record_current (hpending : m.pending = none) (hlast : m.lastFailed = some failed) :
    Current (m.record host nowMs failed faults) := by
  unfold record
  obtain ⟨db, draws, ⟨hrecorded, hout⟩ | hout⟩ :=
    recordDedupMaintenanceTransition_cases host nowMs failed faults m <;> rw [hout]
  · refine ⟨fun _ => hpending, fun failed' hlast' => ?_⟩
    obtain rfl : failed = failed' := Option.some.inj (hlast.symm.trans hlast')
    simpa [hpending] using hrecorded.flag
  · refine ⟨fun hnone => absurd (hlast.symm.trans hnone) (by simp), fun failed' hlast' => ?_⟩
    exact Option.some.inj (hlast.symm.trans hlast')

theorem retry_cases (host : Host) (faults : List Bool) (m : DedupMaintainer) :
    ((m.retry host faults).1 = true ∧ (m.retry host faults).2.pending = none
        ∧ (m.retry host faults).2.lastFailed = m.lastFailed
        ∧ m.pending.elim ((m.retry host faults).2.db = m.db)
          fun p => (m.retry host faults).2.db.maintenance.degraded = p.failed)
      ∨ (m.retry host faults).1 = false ∧ (∃ p, m.pending = some p)
        ∧ (m.retry host faults).2.pending = m.pending
        ∧ (m.retry host faults).2.lastFailed = m.lastFailed := by
  unfold retry
  split
  · rename_i hpending
    exact .inl ⟨rfl, hpending, rfl, by simp [hpending]⟩
  · rename_i p hpending
    obtain ⟨db, draws, ⟨hrecorded, hout⟩ | hout⟩ :=
      recordDedupMaintenanceTransition_cases host p.atMs p.failed faults m <;> rw [hout]
    · exact .inl ⟨rfl, rfl, rfl, by simpa [hpending] using hrecorded.flag⟩
    · exact .inr ⟨rfl, ⟨p, hpending⟩, rfl, rfl⟩

theorem Current.maybePurgeDedup {call : MaintenanceCall} (h : Current m)
    (hretried : RetriedInTime host purgeIntervalMs m call) :
    Current (m.maybePurgeDedup host purgeIntervalMs call) := by
  unfold DedupMaintainer.maybePurgeDedup
  by_cases hdue : m.isDue purgeIntervalMs call.nowMs = true
  · rw [if_neg (by simp [hdue])]
    have hretried := hretried hdue
    have hpending : (m.purge call.nowMs call.purgeFaults).2.pending = m.pending := rfl
    have hlast : (m.purge call.nowMs call.purgeFaults).2.lastFailed
        = some (m.purge call.nowMs call.purgeFaults).1 := rfl
    rw [← hpending] at hretried
    dsimp only
    generalize m.purge call.nowMs call.purgeFaults = p at hretried hlast ⊢
    obtain ⟨purgeFailed, m₁⟩ := p
    dsimp only at hretried hlast ⊢
    split_ifs with hdropped
    · exact record_current rfl hlast
    · rcases retry_cases host call.retryFaults m₁ with ⟨hok, hnone, hsame, -⟩ | ⟨hfailed, hp, hsame, hlast'⟩
      · rcases hr : m₁.retry host call.retryFaults with ⟨b, m₂⟩
        rw [hr] at hok hnone hsame
        obtain rfl : b = true := hok
        exact record_current hnone (hsame.trans hlast)
      · -- What waits says the same as the new result: the other cases are dropped or written.
        obtain ⟨p, hp⟩ := hp
        have hagrees : p.failed = purgeFailed := by
          rw [hp] at hdropped hretried
          cases hpf : p.failed with
          | false => simpa [hpf] using hdropped
          | true =>
            by_contra hne
            have hok := hretried (by simpa using hpf) (by simpa using Ne.symm hne)
            rw [hfailed] at hok
            exact absurd hok (by simp)
        rcases hr : m₁.retry host call.retryFaults with ⟨b, m₂⟩
        rw [hr] at hfailed hsame hlast'
        obtain rfl : b = false := hfailed
        refine ⟨fun hnone => ?_, fun failed hf => ?_⟩
        · exact absurd ((hlast'.trans hlast).symm.trans hnone) (by simp)
        · obtain rfl := Option.some.inj ((hlast'.trans hlast).symm.trans hf)
          dsimp only at hsame ⊢
          rw [hsame, hp]
          exact hagrees
  · rw [if_pos (by simpa using hdue)]
    rcases retry_cases host call.retryFaults m with ⟨-, hnone, hlast, hflag⟩ | ⟨-, hp, hsame, hlast⟩
    · refine ⟨fun _ => hnone, fun failed hf => ?_⟩
      have hcurrent := h.current failed (hlast ▸ hf)
      rw [hnone]
      cases hpending : m.pending with
      | none =>
        simp only [hpending, Option.elim_none] at hcurrent hflag ⊢
        rw [hflag]
        exact hcurrent
      | some p =>
        rw [hpending] at hcurrent hflag
        exact hflag.trans hcurrent
    · obtain ⟨p, hp⟩ := hp
      refine ⟨fun hnone => absurd (h.unpurged (hlast ▸ hnone)) (by simp [hp]), fun failed hf => ?_⟩
      have hcurrent := h.current failed (hlast ▸ hf)
      rw [hp] at hcurrent
      rw [hsame, hp]
      exact hcurrent

def start (db : MaintenanceDb) (draws : ℕ) (nowMs : ℤ) : DedupMaintainer where
  db := db
  draws := draws
  lastPurgeMs := nowMs

/-- Over every run of a process the events of maintenance alternate, the first one being a change of
the flag it has found. As long as a failure that waits is written before a purge that succeeds is
forgotten, the flag tells whether the last purge failed whenever nothing waits. -/
theorem maintenance_health_accurate (host : Host) (purgeIntervalMs : ℤ) (db : MaintenanceDb)
    (draws : ℕ) (nowMs : ℤ) (calls : List MaintenanceCall) (m : DedupMaintainer)
    (hrun : Machine.run (step host purgeIntervalMs) (start db draws nowMs) calls = some m) :
    (∃ added, m.db.ledger.events.ever = db.ledger.events.ever ++ added
      ∧ (db.maintenance.degraded :: added.filterMap fun e => announced e.2).IsChain (· ≠ ·))
    ∧ (Machine.Along (step host purgeIntervalMs) (RetriedInTime host purgeIntervalMs)
        (start db draws nowMs) calls → m.pending = none → ∀ failed, m.lastFailed = some failed →
          (m.db.maintenance.degraded = true ↔ failed = true)) := by
  constructor
  · have halternating : Alternating db m.db := by
      refine Machine.run_invariant (I := fun m => Alternating db m.db) (fun m call m' h hstep => ?_)
        ⟨[], by simp [start], .singleton _, by simp [start]⟩ hrun
      obtain rfl := Option.some.inj hstep
      exact h.maybePurgeDedup
    obtain ⟨added, hever, hchain, -⟩ := halternating
    exact ⟨added, hever, hchain⟩
  · intro halong hpending failed hlast
    have hcurrent : Current m := by
      refine Machine.run_invariant_along (I := Current) (fun m call m' hretried h hstep => ?_) halong
        ⟨fun _ => rfl, fun _ h => absurd h (by simp [start])⟩ hrun
      obtain rfl := Option.some.inj hstep
      exact h.maybePurgeDedup hretried
    have hflag := hcurrent.current failed hlast
    rw [hpending] at hflag
    exact hflag ▸ Iff.rfl

section Workshop

def workshopHost : Host where
  sha256 := id
  uuid := fun n => toString n
  nowMs := fun n => n
  uptimeMs := fun n => n
  showFloat := fun _ => []
  displayFloat := fun _ => ""

def workshopStart : DedupMaintainer := start ⟨[], {}, LedgerDb.empty⟩ 0 0

/-- A purge fails and cannot be recorded; the next one succeeds while the record still fails; what
waits is written before the next purge is due. -/
def forgottenSuccess : List MaintenanceCall :=
  [{ nowMs := 1000, purgeFaults := [true], recordFaults := [true] },
    { nowMs := 2000, retryFaults := [true] }, { nowMs := 2500 }]

def rememberedSuccess : List MaintenanceCall :=
  [{ nowMs := 1000, purgeFaults := [true], recordFaults := [true] }, { nowMs := 2000 },
    { nowMs := 2500 }]

/-- Nothing waits and the last purge succeeded, but the flag says that it failed. -/
theorem forgotten_success_stays_degraded :
    ∃ m, Machine.run (step workshopHost 1000) workshopStart forgottenSuccess = some m
      ∧ m.pending = none ∧ m.lastFailed = some false ∧ m.db.maintenance.degraded = true := by
  have hout : (Machine.run (step workshopHost 1000) workshopStart forgottenSuccess).map
      (fun m => (m.pending, m.lastFailed, m.db.maintenance.degraded))
        = some (none, some false, true) := by decide +kernel
  obtain ⟨m, hrun, hm⟩ := Option.map_eq_some_iff.1 hout
  simp only [Prod.mk.injEq] at hm
  exact ⟨m, hrun, hm⟩

theorem remembered_success_recovers :
    ∃ m, Machine.run (step workshopHost 1000) workshopStart rememberedSuccess = some m
      ∧ m.pending = none ∧ m.lastFailed = some false
      ∧ (m.db.maintenance.degraded = true ↔ false = true)
      ∧ ∃ added, m.db.ledger.events.ever = added
        ∧ (false :: added.filterMap fun e => announced e.2).IsChain (· ≠ ·)
        ∧ added.filterMap (fun e => announced e.2) = [true, false] := by
  have hout : (Machine.run (step workshopHost 1000) workshopStart rememberedSuccess).map
      (fun m => (m.pending, m.lastFailed,
        m.db.ledger.events.ever.filterMap fun e => announced e.2))
        = some (none, some false, [true, false]) := by decide +kernel
  obtain ⟨m, hrun, hm⟩ := Option.map_eq_some_iff.1 hout
  simp only [Prod.mk.injEq] at hm
  obtain ⟨hpending, hlast, hevents⟩ := hm
  obtain ⟨⟨added, hever, hchain⟩, haccurate⟩ := maintenance_health_accurate workshopHost 1000 _ 0 0
    rememberedSuccess m hrun
  rw [show (⟨[], {}, LedgerDb.empty⟩ : MaintenanceDb).ledger.events.ever = [] from rfl,
    List.nil_append] at hever
  exact ⟨m, hrun, hpending, hlast, haccurate (by decide +kernel) hpending false hlast, added, hever,
    hchain, hever ▸ hevents⟩

end Workshop

end DedupMaintainer

end EdgeNode
