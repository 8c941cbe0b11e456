import EdgeNode.Lib.Json

/-!
# The ingest contract

Envelopes, the answers a sender gets for them, and the grammar of measurement keys. The numeric
fields keep the values of their unsigned columns; the text of a staged item is the one the contract
writes on the wire.
-/

namespace EdgeNode

/-! ## Envelopes -/

inductive TimeSource where
  | deviceNtp
  | deviceRtc
  | edgeNode
  | edgeNodeAdjusted
  deriving DecidableEq, Repr

def TimeSource.asStr : TimeSource → String
  | .deviceNtp => "device_ntp"
  | .deviceRtc => "device_rtc"
  | .edgeNode => "edge_node"
  | .edgeNodeAdjusted => "edge_node_adjusted"

structure ReadingItem where
  subjectHint : Option String := none
  measurementKey : String
  channelIndex : Option ℕ := none
  seriesVariant : Option String := none
  values : List F64
  deviceTimeMs : Option ℤ := none
  timeSource : TimeSource
  ageMs : Option ℕ := none
  rssi : Option ℤ := none
  batteryPct : Option ℕ := none
  deriving DecidableEq, Repr

def Json.optionalField {α : Type} (key : String) (f : α → Json) (a : Option α) :
    List (String × Json) :=
  (a.map fun x => (key, f x)).toList

def ReadingItem.toJson (item : ReadingItem) : Json :=
  .obj (Json.optionalField "subject_hint" .str item.subjectHint
    ++ [("measurement_key", .str item.measurementKey)]
    ++ Json.optionalField "channel_index" (fun c => .int c) item.channelIndex
    ++ Json.optionalField "series_variant" .str item.seriesVariant
    ++ [("values", .arr (item.values.map .float))]
    ++ Json.optionalField "device_time_ms" .int item.deviceTimeMs
    ++ [("time_source", .str item.timeSource.asStr)]
    ++ Json.optionalField "age_ms" (fun a => .int a) item.ageMs
    ++ Json.optionalField "rssi" .int item.rssi
    ++ Json.optionalField "battery_pct" (fun b => .int b) item.batteryPct)

/-- A batch that is deduplicated and acknowledged as one. -/
structure Envelope where
  envelopeId : String
  source : String
  items : List ReadingItem
  deriving DecidableEq, Repr

/-! ## Acknowledgements -/

inductive ReasonCode where
  | malformedMeasurementKey
  | valueTypeMismatch
  | unknownSubject
  | subjectScopeViolation
  | batchTooLarge
  | staleTimestamp
  deriving DecidableEq, Repr

inductive QuarantineReason where
  | outOfRange
  | unknownKey
  | undeclaredChannel
  | deviceQuarantined
  deriving DecidableEq, Repr

def QuarantineReason.asStr : QuarantineReason → String
  | .outOfRange => "out_of_range"
  | .unknownKey => "unknown_key"
  | .undeclaredChannel => "undeclared_channel"
  | .deviceQuarantined => "device_quarantined"

inductive Disposition where
  | durable
  | staged
  | quarantined
  deriving DecidableEq, Repr

/-- What a rejection says: its class, its text, and where the sender finds the field. -/
structure Rejection where
  reasonCode : ReasonCode
  message : String
  fieldPath : Option String
  schemaHint : Option String
  deriving DecidableEq, Repr

inductive ItemStatus where
  | stored (disposition : Disposition) (quarantineReason : Option QuarantineReason)
  | itemRejected (rejection : Rejection)
  deriving DecidableEq, Repr

inductive AckStatus where
  | accepted (items : List ItemStatus)
  | duplicate
  | rejected (rejection : Rejection)
  | deferred
  deriving DecidableEq, Repr

structure EnvelopeAck where
  envelopeId : String
  status : AckStatus
  deriving DecidableEq, Repr

structure ValidationIssue where
  itemIndex : Option ℕ
  rejection : Rejection
  deriving DecidableEq, Repr

structure ValidationReport where
  envelopeId : String
  valid : Bool
  issues : List ValidationIssue
  deriving DecidableEq, Repr

/-! ## Measurement keys -/

def maxMeasurementKeyLen : ℕ := 64

inductive MeasurementKeyError where
  | empty
  | tooLong (len : ℕ)
  | invalidSegment (segment : String)
  deriving DecidableEq, Repr

def MeasurementKeyError.toText : MeasurementKeyError → String
  | .empty => "measurement_key is empty"
  | .tooLong len =>
    "measurement_key length " ++ toString len ++ " exceeds " ++ toString maxMeasurementKeyLen
  | .invalidSegment segment =>
    "invalid measurement_key segment '" ++ segment ++ "': expected [a-z][a-z0-9_]*"

def isLower (c : Char) : Bool := 'a' ≤ c && c ≤ 'z'

def isKeyChar (c : Char) : Bool := isLower c || ('0' ≤ c && c ≤ '9') || c == '_'

def validSegment : List Char → Bool
  | [] => false
  | c :: cs => isLower c && cs.all isKeyChar

/-- Dot-separated segments, the first invalid one reported. -/
def validateMeasurementKey (key : String) : Except MeasurementKeyError Unit :=
  if key.isEmpty then .error .empty
  else if maxMeasurementKeyLen < key.utf8ByteSize then .error (.tooLong key.utf8ByteSize)
  else match (key.toList.splitOn '.').find? fun seg => !validSegment seg with
    | some seg => .error (.invalidSegment (String.ofList seg))
    | none => .ok ()

end EdgeNode
