import EdgeNode.Lib.Machine
import EdgeNode.Pipeline.Evaluator

/-!
# Evaluation across reboots

The evaluation state of a pipeline outlives a reboot; the uptime its inputs are received at does not.
`BootRun` is the stored state with a history: the stretch of inputs of this boot that asked for one
and the same state, whether the pending window was opened in an earlier boot, and the transitions
confirmed so far.
-/

namespace EdgeNode

inductive BootEvent where
  | input (definition : PipelineDefinition) (value : F64) (uptimeMs : ℤ)
  | reboot
  /-- A new series begins with an empty evaluation. -/
  | restart

/-- A transition that was confirmed, with the window it had to wait for and the uptime since which
the inputs of the boot have asked for it. -/
structure Confirmation where
  target : Bool
  window : ℤ
  uptimeMs : ℤ
  observedSince : ℤ
  deriving DecidableEq

structure BootRun where
  evaluation : EvaluationState := {}
  stretch : Option (Bool × ℤ) := none
  carried : Bool := false
  confirmed : List Confirmation := []

/-- The detector and the state an input asks for. -/
def candidateOf (definition : PipelineDefinition) (state : EvaluationState) (value : F64) :
    Option (Detector × Bool) :=
  if definition.kind = .measurement then none
  else match definition.detector, definition.calibration.apply value with
    | some detector, .ok calibrated => some (detector, detectorActive detector state calibrated)
    | _, _ => none

/-- Since when the inputs of this boot have asked for `candidate`, the one at `uptimeMs` included. -/
def observedSince (stretch : Option (Bool × ℤ)) (candidate : Bool) (uptimeMs : ℤ) : ℤ :=
  match stretch with
  | some (held, since) => if held = candidate ∧ since ≤ uptimeMs then since else uptimeMs
  | none => uptimeMs

namespace BootRun

def note (s : BootRun) (detector : Detector) (candidate : Bool) (uptimeMs : ℤ)
    (next : EvaluationState) : BootRun :=
  let since := observedSince s.stretch candidate uptimeMs
  { evaluation := next
    stretch := some (candidate, since)
    carried := s.carried && next.pending && s.evaluation.pendingActive == next.pendingActive
      && s.evaluation.pendingSince == next.pendingSince
    confirmed :=
      if s.evaluation.initialized && next.active != s.evaluation.active then
        s.confirmed ++ [⟨candidate, transitionDebounce detector candidate, uptimeMs, since⟩]
      else s.confirmed }

def step (s : BootRun) : BootEvent → Option BootRun
  | .input definition value uptimeMs =>
    match evaluate definition s.evaluation value uptimeMs with
    | .error _ => some s
    | .ok (_, next) => match candidateOf definition s.evaluation value with
      | none => some { s with evaluation := next }
      | some (detector, candidate) => some (s.note detector candidate uptimeMs next)
  | .reboot => some { s with stretch := none, carried := s.evaluation.pending }
  | .restart => some { s with evaluation := {}, stretch := none, carried := false }

end BootRun

end EdgeNode
