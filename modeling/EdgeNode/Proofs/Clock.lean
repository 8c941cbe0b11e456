import EdgeNode.Ops.ClockRun

/-!
# What a reading of the clock can do

A reading writes nothing to the database; it is trusted only at or above the floor, and the time
reported is the time read. Trusting the time raises the floor to it.
-/

namespace EdgeNode

open Tx

namespace ClockTrust

variable {trust : ClockTrust} {now floor manualSeq at_ : ℤ} {synchronized : Bool}
  {source : TrustSource}

variable (synchronized manualSeq) in
theorem refreshed_of_fallsBack (h : trust.steppedBack now || now < floor) :
    (trust.refreshed now synchronized floor manualSeq).state.evidence = .untrusted
      ∧ (trust.refreshed now synchronized floor manualSeq).state.consumedManualSeq
        = trust.state.consumedManualSeq := by
  unfold refreshed
  simp [h]

theorem refreshed_trusted
    (h : (trust.refreshed now synchronized floor manualSeq).state.evidence
      = .trusted source at_) :
    (trust.steppedBack now || now < floor) = false ∧ at_ = now := by
  by_cases hback : trust.steppedBack now || now < floor
  · rw [(refreshed_of_fallsBack _ _ hback).1] at h
    cases h
  · refine ⟨by simpa using hback, ?_⟩
    unfold refreshed at h
    rw [if_neg hback] at h
    split_ifs at h
    · cases h
      rfl
    · cases h
      rfl
    · -- Trust by a confirmation goes on, at the time read.
      rcases he : trust.state.evidence with _ | ⟨_ | _, t⟩ <;> simp only [he] at h <;> cases h
      rfl

theorem floor_le_of_trusted
    (h : (trust.refreshed now synchronized floor manualSeq).state.evidence
      = .trusted source at_) : floor ≤ at_ := by
  obtain ⟨hback, rfl⟩ := refreshed_trusted h
  simp only [Bool.or_eq_false_iff, decide_eq_false_iff_not, not_lt] at hback
  exact hback.2

theorem refreshed_of_consumed (hused : manualSeq ≤ trust.state.consumedManualSeq)
    (hnone : ∀ t, trust.state.evidence ≠ .trusted .manualLocalRoot t) :
    (∀ t, (trust.refreshed now synchronized floor manualSeq).state.evidence
        ≠ .trusted .manualLocalRoot t)
      ∧ (trust.refreshed now synchronized floor manualSeq).state.consumedManualSeq
        = trust.state.consumedManualSeq := by
  by_cases hback : trust.steppedBack now || now < floor
  · obtain ⟨hevidence, hconsumed⟩ := refreshed_of_fallsBack manualSeq synchronized hback
    exact ⟨by simp [hevidence], hconsumed⟩
  · unfold refreshed
    rw [if_neg hback, if_neg (by omega : ¬ trust.state.consumedManualSeq < manualSeq)]
    rcases he : trust.state.evidence with _ | ⟨_ | _, t⟩
    · split_ifs <;> simp [he]
    · split_ifs <;> simp
    · exact absurd he (hnone t)

end ClockTrust

namespace Ops

variable {ρ : Type} {clock : Clock} {w : Work ρ} {n : ℕ}

theorem onNode_wp {ε α : Type} {m : Tx (NodeDb ρ) ε α} {Q : α → NodeDb ρ → ℕ → Prop}
    {E : ε → NodeDb ρ → ℕ → Prop} (h : wp m Q E w.db n) :
    wp (onNode m) (fun a w' n' => w'.trust = w.trust ∧ Q a w'.db n')
      (fun e w' n' => w'.trust = w.trust ∧ E e w'.db n') w n :=
  wp_on (wp_mono h (fun _ _ _ hQ => ⟨rfl, hQ⟩) fun _ _ _ hE => ⟨rfl, hE⟩)

def withEvents (db : NodeDb ρ) (events : AutoTable EventRow) : NodeDb ρ :=
  { db with ledger := { db.ledger with events := events } }

theorem recordEvent_wp {host : Host} {db : NodeDb ρ} (kind : String) (systemId : Option SystemId)
    (detail : Json) :
    wp (recordEvent host kind systemId detail)
      (fun _ db' n' => n' = n + 1 ∧ ∃ events,
        db.ledger.events.insert
          ⟨host.nowMs n, kind, systemId, String.ofList (detail.compact host.showFloat)⟩ = some events
        ∧ db' = withEvents db events)
      (fun _ db' n' => n' = n + 1 ∧ db' = db) db n := by
  unfold recordEvent onLedger
  refine wp_on (wp_mapError (wp_bind (wp_draw (wp_stmt ⟨rfl, rfl⟩ ?_ fun _ _ => ⟨rfl, rfl⟩))))
  intro _ ledger h
  split at h
  · cases h
    exact ⟨rfl, _, by assumption, rfl⟩
  · cases h

def Work.read (clock : Clock) (draw : ℕ) (w : Work ρ) : Work ρ :=
  ⟨w.db, w.trust.refreshed (clock.wallTimeMs draw) (clock.kernelSynchronized draw)
    w.db.auth.state.clockFloorMs w.db.auth.state.manualEvidenceSeq⟩

variable (clock w n) in
theorem refresh_wp :
    wp (refresh clock)
      (fun evidence w' n' => evidence = w'.trust.state.evidence ∧ n' = n + 1 ∧ w' = w.read clock n)
      (fun _ w' n' => w' = w ∧ n' = n + 1) w n := by
  refine wp_bind (wp_draw ?_)
  refine wp_bind (wp_on (wp_query ⟨rfl, rfl⟩ ?_))
  refine wp_bind (wp_on (wp_query ⟨rfl, rfl⟩ ?_))
  exact wp_bind (wp_modify (wp_bind (wp_contents (wp_pure ⟨rfl, rfl, rfl⟩))))

def advancedTo (source : TrustSource) (now : ℤ) (s : AuthState) : AuthState :=
  { s with
    clockFloorMs := max s.clockFloorMs now
    clockEvidenceSource := some source
    clockEvidenceAtMs := some now }

variable (clock w n) in
theorem trustedNowAndAdvance_wp :
    wp (trustedNowAndAdvance clock)
      (fun now w' n' => n' = n + 1 ∧ w.db.auth.state.clockFloorMs ≤ now
        ∧ ∃ source, w'.trust.state.evidence = .trusted source now
          ∧ w'.db = setAuthState (advancedTo source now) w.db)
      (fun _ w' n' => w'.db = w.db ∧ n' = n + 1) w n := by
  refine wp_bind (wp_mapError (wp_mono (refresh_wp clock w n) ?_ ?_))
  · rintro evidence w' n' ⟨hevidence, rfl, rfl⟩
    cases evidence with
    | untrusted => exact wp_fail ⟨rfl, rfl⟩
    | trusted source now =>
      refine wp_bind (wp_on (wp_exec ⟨rfl, rfl⟩ (wp_pure ?_)))
      exact ⟨rfl, ClockTrust.floor_le_of_trusted hevidence.symm, source, hevidence.symm, rfl⟩
  · rintro e w' n' ⟨rfl, rfl⟩
    exact ⟨rfl, rfl⟩

theorem trustedNow_wp :
    wp (trustedNow clock)
      (fun now w' n' => n' = n + 1 ∧ w.db.auth.state.clockFloorMs ≤ now
        ∧ ∃ source, w'.trust.state.evidence = .trusted source now
          ∧ w'.db = setAuthState (advancedTo source now) w.db)
      (fun _ w' n' => w'.db = w.db ∧ n' = n + 1) w n :=
  wp_mapError (trustedNowAndAdvance_wp clock w n)

variable (clock) in
theorem trustedNowAndAdvance_trust (c : Conn (Work ρ)) :
    (trustedNowAndAdvance clock c).2.db.trust = (refresh clock c).2.db.trust
      ∧ (trustedNowAndAdvance clock c).2.db.db.auth.state.manualEvidenceSeq
        = (refresh clock c).2.db.db.auth.state.manualEvidenceSeq
      ∧ (trustedNowAndAdvance clock c).2.draws = (refresh clock c).2.draws := by
  have hmap : (refresh clock).mapError ClockTrustError.ops c
      = ((refresh clock c).1.mapError .ops, (refresh clock c).2) := rfl
  unfold trustedNowAndAdvance
  rcases hr : refresh clock c with ⟨e | evidence, after⟩ <;> rw [hr] at hmap
  · rw [bind_error hmap]
    exact ⟨rfl, rfl, rfl⟩
  · rw [bind_ok hmap]
    cases evidence with
    | untrusted => exact ⟨rfl, rfl, rfl⟩
    | trusted source now =>
      obtain ⟨w', _ | ⟨_ | _, fs⟩, n'⟩ := after <;> exact ⟨rfl, rfl, rfl⟩

end Ops

end EdgeNode
