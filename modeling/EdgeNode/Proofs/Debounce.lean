import EdgeNode.Pipeline.Boots
import EdgeNode.Proofs.EngineSpec
import EdgeNode.Proofs.Evaluator

/-!
# Debounce windows and reboots

A pending window is stored as the uptime it was opened at, which after a reboot is compared with the
uptime of the new boot: the first input of a boot can then confirm a transition. The window is sound
as long as every input that finds a window of an earlier boot open for its own candidate comes at a
smaller uptime.
-/

namespace EdgeNode

open PipelineEngine

namespace BootRun

/-- An input that finds a window of an earlier boot open for its own candidate comes before the
uptime stored with it. -/
def Reopens (s : BootRun) : BootEvent → Prop
  | .input definition value uptimeMs => ∀ r ∈ candidateOf definition s.evaluation value,
    s.carried = true ∧ s.evaluation.pending = true ∧ r.2 = s.evaluation.pendingActive
        ∧ r.2 ≠ s.evaluation.active ∧ transitionDebounce r.1 r.2 ≠ 0 →
      uptimeMs < s.evaluation.pendingSince
  | _ => True

instance (s : BootRun) : ∀ e, Decidable (s.Reopens e)
  | .input definition value uptimeMs => inferInstanceAs (Decidable (∀ r ∈ _, _))
  | .reboot => isTrue trivial
  | .restart => isTrue trivial

/-- A window of this boot was opened while its candidate was asked for, and what was confirmed had
been asked for throughout its window. -/
structure Waited (s : BootRun) : Prop where
  begun : s.evaluation.pending = true → s.evaluation.initialized = true
  window : s.evaluation.pending = true → s.carried = false →
    ∃ since, s.stretch = some (s.evaluation.pendingActive, since)
      ∧ since ≤ s.evaluation.pendingSince
  confirmed : ∀ c ∈ s.confirmed, c.window ≤ c.uptimeMs - c.observedSince

theorem observedSince_le (stretch : Option (Bool × ℤ)) (candidate : Bool) (uptimeMs : ℤ) :
    observedSince stretch candidate uptimeMs ≤ uptimeMs := by
  unfold observedSince
  split
  · split_ifs with h
    · exact h.2
    · exact le_rfl
  · exact le_rfl

theorem observedSince_stretch {candidate : Bool} {since uptimeMs : ℤ} (h : since ≤ uptimeMs) :
    observedSince (some (candidate, since)) candidate uptimeMs = since := if_pos ⟨rfl, h⟩

variable {s : BootRun} {definition : PipelineDefinition} {detector : Detector} {value : F64}
  {uptimeMs : ℤ} {candidate : Bool} {evaluation : Evaluation} {next : EvaluationState}

theorem Waited.debounced (h : Waited s) (hinit : s.evaluation.initialized = true)
    (hreopens : s.carried = true ∧ s.evaluation.pending = true
        ∧ candidate = s.evaluation.pendingActive ∧ candidate ≠ s.evaluation.active
        ∧ transitionDebounce detector candidate ≠ 0 → uptimeMs < s.evaluation.pendingSince)
    (hnext : { next with counter := s.evaluation.counter }
      = (debounce detector s.evaluation candidate uptimeMs).1) :
    Waited (s.note detector candidate uptimeMs next) := by
  set d := (debounce detector s.evaluation candidate uptimeMs).1 with hd
  have hactive : next.active = d.active := by rw [← hnext]
  have hpending : next.pending = d.pending := by rw [← hnext]
  have hpendingActive : next.pendingActive = d.pendingActive := by rw [← hnext]
  have hpendingSince : next.pendingSince = d.pendingSince := by rw [← hnext]
  -- a window of this boot that the input meets was opened within the stretch
  have hmet : s.evaluation.pending = true → candidate = s.evaluation.pendingActive →
      candidate ≠ s.evaluation.active → transitionDebounce detector candidate ≠ 0 →
      s.evaluation.pendingSince ≤ uptimeMs →
      observedSince s.stretch candidate uptimeMs ≤ s.evaluation.pendingSince := by
    intro hp hc hne hwindow hle
    have hcarried : s.carried = false := by
      by_contra hcarried
      have := hreopens ⟨by simpa using hcarried, hp, hc, hne, hwindow⟩
      omega
    obtain ⟨since, hstretch, hsince⟩ := h.window hp hcarried
    rw [hstretch, ← hc, observedSince_stretch (hsince.trans hle)]
    exact hsince
  refine ⟨fun _ => ?_, ?_, ?_⟩
  · have hkept := (debounce_frame (Prod.mk.eta (p := debounce detector s.evaluation candidate
      uptimeMs)).symm).1
    exact (congrArg EvaluationState.initialized hnext).trans (hkept.trans hinit)
  · intro hp hcarried
    rw [show (s.note detector candidate uptimeMs next).evaluation = next from rfl] at hp ⊢
    rw [hpending] at hp
    obtain ⟨hcand, hsince⟩ := debounce_waits hp
    rw [hpendingActive, hpendingSince, hcand]
    refine ⟨observedSince s.stretch candidate uptimeMs, rfl, ?_⟩
    rcases hsince with hsince | ⟨hsame, hc, hne, hwindow, hle⟩
    · rw [hsince]
      exact observedSince_le _ _ _
    · rw [hd, hsame] at hp ⊢
      exact hmet hp hc hne hwindow hle
  · intro c hc
    simp only [note] at hc
    split_ifs at hc with hchange
    · rcases List.mem_append.1 hc with hc | hc
      · exact h.confirmed c hc
      · obtain rfl := List.mem_singleton.1 hc
        have hne : d.active ≠ s.evaluation.active := by
          rw [hactive] at hchange
          simpa [hinit] using hchange
        obtain ⟨hcand, hzero | ⟨hwindow, hp, hpc, hle, hend⟩⟩ := debounce_changes hne
        · have := observedSince_le s.stretch candidate uptimeMs
          dsimp only
          omega
        · have := hmet hp hpc hcand hwindow hle
          dsimp only
          omega
    · exact h.confirmed c hc

theorem Waited.input (h : Waited s) (hreopens : s.Reopens (.input definition value uptimeMs))
    (hcand : candidateOf definition s.evaluation value = some (detector, candidate))
    (hev : evaluate definition s.evaluation value uptimeMs = .ok (evaluation, next)) :
    Waited (s.note detector candidate uptimeMs next) := by
  have hcand' := hcand
  unfold candidateOf at hcand
  split_ifs at hcand with hk
  split at hcand
  · next detector' calibrated hd hc =>
    cases hcand
    rcases evaluate_detector hk hd hc hev with ⟨hinit, rfl⟩ | ⟨hinit, hnext⟩
    · -- nothing is pending before the first input
      have hno : s.evaluation.pending = false := by
        by_contra hp
        have := h.begun (by simpa using hp)
        simp [hinit] at this
      refine ⟨fun _ => rfl, fun hp => ?_, fun c hc => h.confirmed c ?_⟩
      · exact absurd (hno.symm.trans hp) (by decide)
      · simpa [note, hinit] using hc
    · exact h.debounced hinit (hreopens _ hcand') hnext
  · cases hcand

theorem evaluate_without_candidate {state : EvaluationState}
    (hnone : candidateOf definition state value = none)
    (hev : evaluate definition state value uptimeMs = .ok (evaluation, next)) :
    next = { state with initialized := true } := by
  unfold evaluate at hev
  split at hev
  · cases hev
  · unfold candidateOf at hnone
    cases hc : definition.calibration.apply value with
    | error e => simp [hc] at hev
    | ok calibrated =>
      simp only [hc] at hev hnone
      by_cases hk : definition.kind = .measurement
      · rw [if_pos hk] at hev
        cases hev
        rfl
      · rw [if_neg hk] at hev hnone
        cases hd : definition.detector with
        | none => simp [hd] at hev
        | some detector => simp [hd] at hnone

theorem Waited.step {s' : BootRun} {e : BootEvent} (hreopens : s.Reopens e) (h : Waited s)
    (hs : s.step e = some s') : Waited s' := by
  cases e with
  | input definition value uptimeMs =>
    simp only [BootRun.step] at hs
    split at hs
    · cases hs
      exact h
    · next evaluation next hev =>
      split at hs
      · next hnone =>
        cases hs
        obtain rfl := evaluate_without_candidate hnone hev
        exact ⟨fun _ => rfl, h.window, h.confirmed⟩
      · next detector candidate hcand =>
        cases hs
        exact h.input hreopens hcand hev
  | reboot =>
    cases hs
    refine ⟨h.begun, fun hp hcarried => ?_, h.confirmed⟩
    exact absurd (hp.symm.trans hcarried) (by decide)
  | restart =>
    cases hs
    exact ⟨fun hp => (nomatch hp), fun hp => (nomatch hp), h.confirmed⟩

/-- Where no input meets a window of an earlier boot past the uptime it was opened at, a transition is
confirmed only after the inputs of the boot have asked for it throughout the window. -/
theorem debounce_waits_within_boot {events : List BootEvent} {s : BootRun}
    (hreopens : Machine.Along BootRun.step Reopens {} events)
    (hrun : Machine.run BootRun.step {} events = some s) :
    ∀ c ∈ s.confirmed, c.window ≤ c.uptimeMs - c.observedSince := by
  have hinit : Waited {} := ⟨fun hp => (nomatch hp), fun hp => (nomatch hp), fun _ h => (nomatch h)⟩
  exact (Machine.run_invariant_along (fun _ _ _ hr h hs => h.step hr hs) hreopens hinit hrun).confirmed

def latch : PipelineDefinition where
  id := ⟨"latch", by decide⟩
  kind := .state
  input := { adapter := "bravepi", measurementKey := "contact" }
  detector := some ⟨.highActive, .finite 1 0, .finite 1 0, 60000, 60000⟩

theorem latch_waits_after_reboot : ∃ s, Machine.run BootRun.step {}
      [.input latch (.finite 0 0) 1, .reboot, .input latch (.finite 1 0) 1000,
        .input latch (.finite 1 0) 61000] = some s
    ∧ s.confirmed = [⟨true, 60000, 61000, 1000⟩]
    ∧ ∀ c ∈ s.confirmed, c.window ≤ c.uptimeMs - c.observedSince := by
  have hrun : (Machine.run BootRun.step {}
      [.input latch (.finite 0 0) 1, .reboot, .input latch (.finite 1 0) 1000,
        .input latch (.finite 1 0) 61000]).map BootRun.confirmed
      = some [⟨true, 60000, 61000, 1000⟩] := by decide +kernel
  obtain ⟨s, hs, hconfirmed⟩ := Option.map_eq_some_iff.1 hrun
  exact ⟨s, hs, hconfirmed, debounce_waits_within_boot (by decide +kernel) hs⟩

/-- The contact closes a second after a boot; the device reboots at once, and the first input of the
new boot, a minute later on its clock, confirms the transition. -/
theorem window_survives_reboot : ∃ s, Machine.run BootRun.step {}
      [.input latch (.finite 0 0) 1, .input latch (.finite 1 0) 1000, .reboot,
        .input latch (.finite 1 0) 61000] = some s
    ∧ ∃ c ∈ s.confirmed, ¬ c.window ≤ c.uptimeMs - c.observedSince := by
  have hrun : (Machine.run BootRun.step {}
      [.input latch (.finite 0 0) 1, .input latch (.finite 1 0) 1000, .reboot,
        .input latch (.finite 1 0) 61000]).map BootRun.confirmed
      = some [⟨true, 60000, 61000, 61000⟩] := by decide +kernel
  obtain ⟨s, hs, hconfirmed⟩ := Option.map_eq_some_iff.1 hrun
  refine ⟨s, hs, ⟨true, 60000, 61000, 61000⟩, ?_, by decide⟩
  rw [hconfirmed]
  exact List.mem_singleton_self _

end BootRun

end EdgeNode
