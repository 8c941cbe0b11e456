import EdgeNode.Proofs.Clock

/-!
# When a confirmation of the time may be used

A confirmation that comes while the kernel keeps the clock synchronized is still there when the clock
then steps back, and the first reading after the step takes it for a new one. As long as no reading
falls back with a confirmation unused, trust that was withdrawn comes back by confirmation only
through a new one.
-/

namespace EdgeNode

open Tx

namespace Ops

namespace Confirmation

variable {ρ : Type} {host : Host} {clock : Clock} {record : List Note} {s : System ρ}

def Withdrawn (record : List Note) : Prop :=
  ∃ before evidence after,
    record = before ++ .refreshed true evidence :: after ∧ .confirmed ∉ after

/-- After a reading that fell back, trust by confirmation is reported only with a confirmation in
between. -/
def NeedsNewConfirmation (record : List Note) : Prop :=
  ∀ before evidence between fellBack at_ after,
    record = before ++ .refreshed true evidence
        :: (between ++ .refreshed fellBack (.trusted .manualLocalRoot at_) :: after) →
      .confirmed ∈ between

theorem withdrawn_concat {note : Note} (h : Withdrawn (record ++ [note])) :
    note ≠ .confirmed ∧ (Withdrawn record ∨ ∃ evidence, note = .refreshed true evidence) := by
  obtain ⟨before, evidence, after, heq, hnone⟩ := h
  rcases List.eq_nil_or_concat after with rfl | ⟨after, last, rfl⟩
  · obtain ⟨-, hlast⟩ := List.append_inj' heq rfl
    obtain rfl : note = .refreshed true evidence := by simpa using hlast
    exact ⟨by simp, .inr ⟨evidence, rfl⟩⟩
  · rw [List.concat_eq_append, ← List.cons_append, ← List.append_assoc] at heq
    obtain ⟨hinit, hlast⟩ := List.append_inj' heq rfl
    obtain rfl : note = last := by simpa using hlast
    simp only [List.concat_eq_append, List.mem_append, List.mem_singleton, not_or] at hnone
    exact ⟨Ne.symm hnone.2, .inl ⟨before, evidence, after, hinit, hnone.1⟩⟩

theorem NeedsNewConfirmation.concat {note : Note} (h : NeedsNewConfirmation record)
    (hnote : ∀ fellBack at_, note = .refreshed fellBack (.trusted .manualLocalRoot at_) →
      ¬ Withdrawn record) : NeedsNewConfirmation (record ++ [note]) := by
  intro before evidence between fellBack at_ after heq
  rcases List.eq_nil_or_concat after with rfl | ⟨after, last, rfl⟩
  · rw [← List.cons_append, ← List.append_assoc] at heq
    obtain ⟨hinit, hlast⟩ := List.append_inj' heq rfl
    by_contra hnone
    exact hnote fellBack at_ (by simpa using hlast) ⟨before, evidence, between, hinit, hnone⟩
  · have heq' : record ++ [note] = (before ++ .refreshed true evidence
        :: (between ++ .refreshed fellBack (.trusted .manualLocalRoot at_) :: after)) ++ [last] := by
      rw [heq]
      simp
    exact h _ _ _ _ _ _ (List.append_inj' heq' rfl).1

/-! ## What a step keeps -/

structure Orderly (s : System ρ) : Prop where
  order : NeedsNewConfirmation s.record
  withdrawn : Withdrawn s.record →
    (∀ at_, s.work.trust.state.evidence ≠ .trusted .manualLocalRoot at_)
      ∧ s.work.db.auth.state.manualEvidenceSeq ≤ s.work.trust.state.consumedManualSeq

def Call.reads : Call → Bool
  | .refresh | .trustedNow _ => true
  | _ => false

/-- A reading does not fall back while a confirmation is unused. -/
def NoneUnused (clock : Clock) (s : System ρ) (e : Event) : Prop :=
  e.call.reads → s.fallsBack clock →
    s.work.db.auth.state.manualEvidenceSeq ≤ s.work.trust.state.consumedManualSeq

instance (s : System ρ) (e : Event) : Decidable (NoneUnused clock s e) :=
  inferInstanceAs (Decidable (_ → _ → _))

theorem Orderly.read (h : Orderly s) {e : Event}
    (hunused : s.fallsBack clock →
      s.work.db.auth.state.manualEvidenceSeq ≤ s.work.trust.state.consumedManualSeq)
    {s' : System ρ} (hrecord : s'.record = s.record ++ s.reading clock e)
    (htrust : s'.work.trust = (refresh clock (s.conn e)).2.db.trust)
    (hseq : s'.work.db.auth.state.manualEvidenceSeq = s.work.db.auth.state.manualEvidenceSeq) :
    Orderly s' := by
  have hspec := refresh_wp clock s.work s.draws e.faults
  have hconn : s.conn e = ⟨s.work, e.faults, s.draws⟩ := rfl
  unfold System.reading at hrecord
  rw [hconn] at hrecord htrust
  rcases hr : refresh clock ⟨s.work, e.faults, s.draws⟩ with ⟨err | evidence, after⟩ <;>
    rw [hr] at hspec hrecord htrust
  · obtain ⟨hwork, -⟩ := hspec
    rw [List.append_nil] at hrecord
    rw [hwork] at htrust
    exact ⟨hrecord ▸ h.order, by rw [hrecord, htrust, hseq]; exact h.withdrawn⟩
  · obtain ⟨rfl, -, hwork⟩ := hspec
    -- While trust was withdrawn before the reading, it is not given by confirmation after it.
    have hkept : Withdrawn s.record →
        (∀ at_, after.db.trust.state.evidence ≠ .trusted .manualLocalRoot at_)
          ∧ after.db.trust.state.consumedManualSeq = s.work.trust.state.consumedManualSeq := by
      intro hw
      rw [hwork]
      exact ClockTrust.refreshed_of_consumed (h.withdrawn hw).2 (h.withdrawn hw).1
    refine ⟨?_, ?_⟩
    · rw [hrecord]
      refine h.order.concat fun fellBack at_ hnote hw => ?_
      simp only [Note.refreshed.injEq] at hnote
      exact (hkept hw).1 at_ hnote.2
    · rw [hrecord, htrust, hseq]
      intro hw
      obtain ⟨-, hw | ⟨_, hnote⟩⟩ := withdrawn_concat hw
      · exact ⟨(hkept hw).1, (hkept hw).2 ▸ (h.withdrawn hw).2⟩
      · simp only [Note.refreshed.injEq] at hnote
        have hback : (s.work.trust.steppedBack (clock.wallTimeMs s.draws)
            || decide (clock.wallTimeMs s.draws < s.work.db.auth.state.clockFloorMs)) = true :=
          hnote.1
        obtain ⟨hevidence, hconsumed⟩ := ClockTrust.refreshed_of_fallsBack
          s.work.db.auth.state.manualEvidenceSeq (clock.kernelSynchronized s.draws) hback
        have hafter : after.db.trust.state.evidence = .untrusted
            ∧ after.db.trust.state.consumedManualSeq = s.work.trust.state.consumedManualSeq := by
          rw [hwork]
          exact ⟨hevidence, hconsumed⟩
        exact ⟨by simp [hafter.1], hafter.2 ▸ hunused hnote.1⟩

variable (host clock) in
theorem confirmTimeWithClock_wp (displayedAtMs : ℤ) {db : NodeDb ρ} {n : ℕ} :
    wp (confirmTimeWithClock host clock displayedAtMs) (fun _ _ _ => True)
      (fun _ db' _ => db' = db) db n := by
  refine wp_transaction rfl (wp_mono (wp_trivial _) ?_ fun _ _ _ _ => rfl)
  rintro ⟨_ | _ | _, _⟩ db' n' - <;> simp

theorem load_wp (backwardToleranceMs : ℤ) (checkpointIntervalMs : ℕ) {db : NodeDb ρ} {n : ℕ} :
    wp (load backwardToleranceMs checkpointIntervalMs)
      (fun trust db' _ => db' = db ∧ trust.state.evidence = .untrusted
        ∧ trust.state.consumedManualSeq = db.auth.state.manualEvidenceSeq)
      (fun _ db' _ => db' = db) db n :=
  wp_bind (wp_query rfl (wp_pure ⟨rfl, rfl, rfl⟩))

theorem refresh_db (faults : List Bool) :
    (refresh clock ⟨s.work, faults, s.draws⟩).2.db.db = s.work.db := by
  have hspec := refresh_wp clock s.work s.draws faults
  rcases hr : refresh clock ⟨s.work, faults, s.draws⟩ with ⟨err | evidence, after⟩ <;>
    rw [hr] at hspec
  · rw [hspec.1]
  · rw [hspec.2.2]
    rfl

theorem Orderly.step (h : Orderly s) {e : Event} (hunused : NoneUnused clock s e) :
    Orderly (s.step host clock e) := by
  unfold System.step
  obtain ⟨call, faults⟩ := e
  cases call with
  | refresh =>
    refine h.read (hunused rfl) rfl rfl ?_
    exact congrArg (fun db : NodeDb ρ => db.auth.state.manualEvidenceSeq) (refresh_db faults)
  | trustedNow kept =>
    obtain ⟨htrust, hseq, -⟩ := trustedNowAndAdvance_trust clock
      (⟨s.work, faults, s.draws⟩ : Conn (Work ρ))
    rw [refresh_db] at hseq
    refine h.read (hunused rfl) rfl ?_ ?_
    · cases kept <;> exact htrust
    · cases kept
      · rfl
      · exact hseq
  | confirm displayedAtMs =>
    have hspec := onNode_wp (w := s.work) (n := s.draws)
      (confirmTimeWithClock_wp host clock displayedAtMs) faults
    dsimp only [System.conn]
    rcases hr : onNode (confirmTimeWithClock host clock displayedAtMs)
        ⟨s.work, faults, s.draws⟩ with ⟨err | _, after⟩ <;> rw [hr] at hspec
    · refine ⟨h.order, fun hw => ?_⟩
      dsimp only
      rw [hspec.1, hspec.2]
      exact h.withdrawn hw
    · exact ⟨h.order.concat (by simp), fun hw => absurd rfl (withdrawn_concat hw).1⟩
  | restart =>
    have hspec := onNode_wp (w := s.work) (n := s.draws) (load_wp
      s.work.trust.backwardToleranceMs s.work.trust.checkpointIntervalMs) faults
    dsimp only [System.conn]
    rcases hr : onNode (load s.work.trust.backwardToleranceMs s.work.trust.checkpointIntervalMs)
        ⟨s.work, faults, s.draws⟩ with ⟨err | trust, after⟩ <;> rw [hr] at hspec
    · refine ⟨h.order, fun hw => ?_⟩
      dsimp only
      rw [hspec.1, hspec.2]
      exact h.withdrawn hw
    · obtain ⟨-, hdb, hevidence, hconsumed⟩ := hspec
      refine ⟨h.order, fun _ => ⟨by simp [hevidence], ?_⟩⟩
      dsimp only
      rw [hdb, hconsumed]

/-- Over every run in which no reading falls back with a confirmation unused, trust that was
withdrawn comes back by confirmation only after a new one. -/
theorem trust_needs_new_confirmation (host : Host) (clock : Clock) (s s' : System ρ)
    (events : List Event) (hrecord : s.record = [])
    (hunused : Machine.Along (fun s e => some (System.step host clock s e)) (NoneUnused clock) s
      events)
    (hrun : Machine.run (fun s e => some (System.step host clock s e)) s events = some s') :
    NeedsNewConfirmation s'.record := by
  have hfirst : Orderly s := by
    constructor
    · intro before evidence between fellBack at_ after heq
      simp [hrecord] at heq
    · rintro ⟨before, evidence, after, heq, -⟩
      simp [hrecord] at heq
  refine (Machine.run_invariant_along (I := Orderly) ?_ hunused hfirst hrun).order
  rintro s e _ hunused h ⟨⟩
  exact h.step hunused

/-! ## A confirmation that is used too late -/

def plainHost : Host where
  sha256 := id
  uuid := toString
  nowMs _ := 0
  uptimeMs _ := 0
  showFloat _ := []
  displayFloat _ := ""

/-- A clock that is at 100 s for its first three readings and then starts again from zero;
`synchronized` says which readings the kernel vouches for. -/
def restartingClock (synchronized : ℕ → Bool) : Clock where
  wallTimeMs n := if n < 3 then 100000 else n
  monotonicMs := id
  kernelSynchronized := synchronized

def freshSystem : System Unit where
  work := ⟨NodeDb.empty "epoch" (), 5000, 60000, .untrusted, none, 0, 0⟩

/-- With the confirmation used before the step back, only the second one restores trust. -/
def confirmedTwice : List Event :=
  [⟨.confirm 100000, []⟩, ⟨.refresh, []⟩, ⟨.refresh, []⟩, ⟨.refresh, []⟩, ⟨.confirm 5, []⟩,
    ⟨.refresh, []⟩]

theorem confirmedTwice_in_order :
    ∃ s', Machine.run (fun s e => some (System.step plainHost (restartingClock fun _ => false) s e))
        freshSystem confirmedTwice = some s'
      ∧ s'.record = [.confirmed, .refreshed false (.trusted .manualLocalRoot 100000),
        .refreshed true .untrusted, .refreshed false .untrusted, .confirmed,
        .refreshed false (.trusted .manualLocalRoot 7)]
      ∧ NeedsNewConfirmation s'.record := by
  have hrecord : (Machine.run
      (fun s e => some (System.step plainHost (restartingClock fun _ => false) s e))
        freshSystem confirmedTwice).map System.record
      = some [.confirmed, .refreshed false (.trusted .manualLocalRoot 100000),
        .refreshed true .untrusted, .refreshed false .untrusted, .confirmed,
        .refreshed false (.trusted .manualLocalRoot 7)] := by decide +kernel
  obtain ⟨s', hrun, hs⟩ := Option.map_eq_some_iff.1 hrecord
  exact ⟨s', hrun, hs,
    trust_needs_new_confirmation plainHost _ freshSystem s' confirmedTwice rfl (by decide +kernel)
      hrun⟩

/-- The confirmation comes while the kernel vouches for the clock. After the step back it restores
trust, though nobody has confirmed the new time. -/
theorem old_confirmation_restores_trust :
    ∃ s', Machine.run (fun s e => some (System.step plainHost (restartingClock (· == 2)) s e))
        freshSystem [⟨.confirm 100000, []⟩, ⟨.refresh, []⟩, ⟨.refresh, []⟩, ⟨.refresh, []⟩] = some s'
      ∧ s'.record = [.confirmed, .refreshed false (.trusted .kernelSync 100000),
        .refreshed true .untrusted, .refreshed false (.trusted .manualLocalRoot 4)]
      ∧ ¬ NeedsNewConfirmation s'.record := by
  have hrecord : (Machine.run
      (fun s e => some (System.step plainHost (restartingClock (· == 2)) s e))
        freshSystem [⟨.confirm 100000, []⟩, ⟨.refresh, []⟩, ⟨.refresh, []⟩, ⟨.refresh, []⟩]).map
          System.record
      = some [.confirmed, .refreshed false (.trusted .kernelSync 100000),
        .refreshed true .untrusted, .refreshed false (.trusted .manualLocalRoot 4)] := by
    decide +kernel
  obtain ⟨s', hrun, hs⟩ := Option.map_eq_some_iff.1 hrecord
  refine ⟨s', hrun, hs, fun h => ?_⟩
  have hbetween := h [.confirmed, .refreshed false (.trusted .kernelSync 100000)] .untrusted []
    false 4 [] hs
  simp at hbetween

end Confirmation

end Ops

end EdgeNode
