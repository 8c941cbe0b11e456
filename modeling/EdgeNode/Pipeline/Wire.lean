import EdgeNode.Pipeline.Definition

/-!
# Observations and their wire form

The payload is kept as the record that is serialized; its bytes are never empty, so a row with no
payload is the zero-length one.
-/

namespace EdgeNode

structure InputTime where
  uptimeMs : ℤ
  unixEpochMs : Option ℤ
  deriving DecidableEq, Repr

inductive ObservationValue where
  | measurement (value : F64)
  | state (value : Bool)
  | accumulatedCount (value : ℤ)
  deriving DecidableEq, Repr

namespace ObservationValue

def kind : ObservationValue → PipelineKind
  | measurement _ => .measurement
  | state _ => .state
  | accumulatedCount _ => .accumulatedCount

/-- A measurement without a fraction is written as an integer. -/
def toJson : ObservationValue → Json
  | measurement value =>
    if value.isIntegral && value.absLtSafe then .int value.toInt else .float value
  | state value => .bool value
  | accumulatedCount value => .int value

end ObservationValue

structure Payload where
  seriesId : String
  sequence : ℕ
  uptimeMs : ℤ
  unixEpochMs : Option ℤ
  value : Json

structure Observation where
  pipelineId : PipelineId
  seriesId : String
  sequence : ℕ
  time : InputTime
  value : ObservationValue

def observationTopic (edgeNodeId : EdgeNodeId) (pipelineId : PipelineId) (kind : PipelineKind) :
    String :=
  "iotkit/v1/edge-node/" ++ edgeNodeId.value ++ "/observation/" ++ pipelineId.value ++ "/"
    ++ kind.key

def Observation.topic (o : Observation) (edgeNodeId : EdgeNodeId) : String :=
  observationTopic edgeNodeId o.pipelineId o.value.kind

def Observation.payload (o : Observation) : Payload where
  seriesId := o.seriesId
  sequence := o.sequence
  uptimeMs := o.time.uptimeMs
  unixEpochMs := o.time.unixEpochMs
  value := o.value.toJson

end EdgeNode
