import EdgeNode.Lib.Json

/-!
# Pipeline definitions

The identifiers of the output contract, the parts of a definition with their checks, and the text
whose hash decides whether two definitions continue the same series.
-/

namespace EdgeNode

/-! ## Identifiers -/

inductive IdentifierError where
  | empty
  | tooLong (bytes : ℕ)
  | invalidChar (position : ℕ) (ch : Char)
  | leadingOrTrailingHyphen
  deriving DecidableEq, Repr

def identifierMaxBytes : ℕ := 64

def identifierChar (c : Char) : Bool :=
  ('a' ≤ c && c ≤ 'z') || ('0' ≤ c && c ≤ '9') || c == '-'

/-- The first character the grammar refuses, with its byte offset. -/
def findInvalidChar : List Char → ℕ → Option (ℕ × Char)
  | [], _ => none
  | c :: cs, position =>
    if identifierChar c then findInvalidChar cs (position + c.utf8Size) else some (position, c)

def validateIdentifier (value : String) : Except IdentifierError Unit :=
  if value.isEmpty then .error .empty
  else if identifierMaxBytes < value.utf8ByteSize then .error (.tooLong value.utf8ByteSize)
  else match findInvalidChar value.toList 0 with
    | some (position, ch) => .error (.invalidChar position ch)
    | none =>
      if value.toList.head? = some '-' ∨ value.toList.getLast? = some '-' then
        .error .leadingOrTrailingHyphen
      else .ok ()

structure EdgeNodeId where
  value : String
  valid : (validateIdentifier value).isOk
  deriving DecidableEq

structure PipelineId where
  value : String
  valid : (validateIdentifier value).isOk
  deriving DecidableEq

/-! ## The parts of a definition -/

inductive PipelineKind where
  | measurement
  | state
  | accumulatedCount
  deriving DecidableEq, Repr

def PipelineKind.key : PipelineKind → String
  | .measurement => "measurement"
  | .state => "state"
  | .accumulatedCount => "accumulated-count"

inductive Trigger where
  | onTransition
  deriving DecidableEq, Repr

inductive DetectorMode where
  | highActive
  | lowActive
  deriving DecidableEq, Repr

inductive EvaluatorError where
  | invalid (message : String)
  | counterLimit
  deriving DecidableEq, Repr

def EvaluatorError.toText : EvaluatorError → String
  | .invalid message => "invalid evaluation input: " ++ message
  | .counterLimit => "accumulated count reached the safe integer limit"

structure ValidationError where
  message : String
  deriving DecidableEq, Repr

structure Detector where
  mode : DetectorMode
  riseThreshold : F64
  fallThreshold : F64
  riseDebounceMs : ℤ := 0
  fallDebounceMs : ℤ := 0
  deriving DecidableEq, Repr

def maxDebounceMs : ℤ := 300000

def Detector.validate (d : Detector) : Except ValidationError Unit :=
  if !d.riseThreshold.isFinite || !d.fallThreshold.isFinite then
    .error ⟨"detector.rise_threshold and detector.fall_threshold must be finite"⟩
  else if ¬ (0 ≤ d.riseDebounceMs ∧ d.riseDebounceMs ≤ maxDebounceMs)
      ∨ ¬ (0 ≤ d.fallDebounceMs ∧ d.fallDebounceMs ≤ maxDebounceMs) then
    .error ⟨"detector debounce must be between 0 and 300000 ms"⟩
  else if d.riseThreshold.lt d.fallThreshold then
    .error ⟨"detector.fall_threshold cannot exceed detector.rise_threshold"⟩
  else .ok ()

structure Calibration where
  scale : F64 := .finite 1 0
  offset : F64 := .finite 0 0
  deriving DecidableEq, Repr

def Calibration.validate (c : Calibration) : Except EvaluatorError Unit :=
  if !c.scale.isFinite || c.scale.isZero then
    .error (.invalid "calibration scale must be finite and non-zero")
  else if !c.offset.isFinite then
    .error (.invalid "calibration offset must be finite")
  else .ok ()

/-- `input * scale + offset`, refused unless the input and the result are finite. -/
def Calibration.apply (c : Calibration) (input : F64) : Except EvaluatorError F64 := do
  c.validate
  if !input.isFinite then
    .error (.invalid "input must be finite")
  else
    let value := (input.mul c.scale).add c.offset
    if !value.isFinite then .error (.invalid "calibrated input must be finite")
    else .ok value

structure PipelineInput where
  adapter : String
  subject : Option String := none
  measurementKey : String
  channelIndex : Option ℕ := none
  valueIndex : ℕ := 0
  deriving DecidableEq, Repr

def PipelineInput.matches (i : PipelineInput) (adapter : String) (subject : Option String)
    (measurementKey : String) (channelIndex : Option ℕ) : Bool :=
  i.adapter == adapter && i.measurementKey == measurementKey && i.channelIndex == channelIndex
    && (match i.subject with
      | none => true
      | some want => some want == subject)

structure PipelineDefinition where
  id : PipelineId
  kind : PipelineKind
  input : PipelineInput
  trigger : Option Trigger := none
  unit : Option String := none
  displayName : Option String := none
  calibration : Calibration := {}
  detector : Option Detector := none
  deriving DecidableEq

/-! ## Validation -/

/-- The `White_Space` property of Unicode, which trimming goes by. -/
def isWhiteSpace (c : Char) : Bool :=
  let n := c.toNat
  (9 ≤ n && n ≤ 13) || n == 32 || n == 0x85 || n == 0xA0 || n == 0x1680
    || (0x2000 ≤ n && n ≤ 0x200A) || n == 0x2028 || n == 0x2029 || n == 0x202F || n == 0x205F
    || n == 0x3000

def isBlank (s : String) : Bool := s.toList.all isWhiteSpace

def maxDisplayNameChars : ℕ := 128

def maxUnitChars : ℕ := 32

def PipelineDefinition.validateKind (d : PipelineDefinition) : Except ValidationError Unit :=
  match d.kind with
  | .measurement =>
    if d.detector.isSome then .error ⟨"detector is not allowed for kind measurement"⟩
    else if d.trigger.isSome then .error ⟨"trigger is not allowed for kind measurement"⟩
    else match d.unit with
      | some unit =>
        if !isBlank unit && unit.length ≤ maxUnitChars then .ok ()
        else .error ⟨"unit is required for kind measurement (1 to 32 characters)"⟩
      | none => .error ⟨"unit is required for kind measurement (1 to 32 characters)"⟩
  | kind =>
    if d.unit.isSome then .error ⟨"unit is only allowed for kind measurement"⟩
    else match d.detector with
      | none => .error ⟨"detector is required for kind " ++ kind.key⟩
      | some detector => do
        detector.validate
        match kind, d.trigger with
        | .state, some _ => .error ⟨"trigger is not allowed for kind state"⟩
        | .accumulatedCount, none => .error ⟨"trigger is required for kind accumulated-count"⟩
        | _, _ => .ok ()

def PipelineDefinition.validate (d : PipelineDefinition) : Except ValidationError Unit :=
  if d.input.adapter.isEmpty then .error ⟨"input.adapter must not be empty"⟩
  else if d.input.measurementKey.isEmpty then .error ⟨"input.measurement_key must not be empty"⟩
  else if d.input.subject = some "" then .error ⟨"input.subject must not be empty"⟩
  else if d.displayName.any fun name => isBlank name || maxDisplayNameChars < name.length then
    .error ⟨"display_name must be 1 to 128 characters"⟩
  else do
    d.calibration.validate.mapError fun e => ⟨e.toText⟩
    d.validateKind

/-! ## The structural text -/

def optionJson {α : Type} (f : α → Json) : Option α → Json
  | none => .null
  | some a => f a

def PipelineInput.toJson (i : PipelineInput) : Json :=
  .object ([("adapter", .str i.adapter)]
    ++ (i.subject.map fun s => ("subject", Json.str s)).toList
    ++ [("measurement_key", .str i.measurementKey)]
    ++ (i.channelIndex.map fun c => ("channel_index", Json.int c)).toList
    ++ [("value_index", .int i.valueIndex)])

def Trigger.toJson : Trigger → Json
  | .onTransition => .str "on-transition"

/-- The canonical text of the structural fields. No fractional number occurs in it. -/
def PipelineDefinition.structuralText (d : PipelineDefinition) : String :=
  String.ofList <| Json.compact (fun _ => []) <| .object
    [("id", .str d.id.value), ("kind", .str d.kind.key), ("input", d.input.toJson),
      ("trigger", optionJson Trigger.toJson d.trigger), ("unit", optionJson Json.str d.unit)]

/-- The hash that decides series continuity, for a hexadecimal digest `sha256`. -/
def PipelineDefinition.structuralHash (sha256 : String → String) (d : PipelineDefinition) :
    String :=
  sha256 d.structuralText

end EdgeNode
