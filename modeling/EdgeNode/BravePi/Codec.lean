import EdgeNode.Lib.Hex
import EdgeNode.Lib.LittleEndian
import EdgeNode.Lib.Machine

/-!
# The BravePI UART codec

The codec holds the bytes it was fed and the payload of a message that is not complete: flag 1 in a
frame says that more of its message follows. An access out of range is a `Panic`, as the source's
indexing is. One turn of the loop in `decode` is `decodeOnce`.
-/

namespace EdgeNode

namespace BravePi

structure SensorFrame where
  deviceNumber : String
  sensorTypeRaw : UInt16
  rssi : Int8
  battery : UInt8
  dataCount : UInt16
  valueData : List UInt8
deriving DecidableEq

structure ConfigFrame where
  deviceNumber : String
  rssi : Int8
  trueSensorType : UInt16
  firmwareVersion : String
  timezone : UInt8
  bleMode : UInt8
  txPower : UInt8
  advertiseInterval : UInt16
  uplinkInterval : UInt32
deriving DecidableEq

inductive BravePiFrame where
  | sensor (frame : SensorFrame)
  | config (frame : ConfigFrame)
  | decodeError (deviceNumber : String) (sensorTypeRaw : UInt16) (reason : String)
deriving DecidableEq

inductive DownlinkCommand where
  | immediateUplink (sensorType : UInt16)
  | parameterGet
  | contactOutput (signalMode : UInt8) (signalOutTime : UInt16)
deriving DecidableEq

def postLengthHeader : ℕ := 12
def headerSize : ℕ := 2 + postLengthHeader
def maxFrameSize : ℕ := 4096

/-- A message whose last frame has not come. -/
structure ContinuationState where
  deviceNumber : String
  sensorTypeRaw : UInt16
  rssi : Int8
  payload : List UInt8
deriving DecidableEq

structure BravePiCodec where
  buf : List UInt8
  continuation : Option ContinuationState
deriving DecidableEq

namespace BravePiCodec

def new : BravePiCodec := ⟨[], none⟩

def feed (c : BravePiCodec) (data : List UInt8) : BravePiCodec := { c with buf := c.buf ++ data }

end BravePiCodec

/-! ## Access to bytes -/

inductive Panic where
  | outOfRange
deriving DecidableEq

def byteAt (bytes : List UInt8) (i : ℕ) : Except Panic UInt8 :=
  match bytes[i]? with
  | some b => .ok b
  | none => .error .outOfRange

def bytesAt (bytes : List UInt8) (i n : ℕ) : Except Panic (List UInt8) :=
  if i + n ≤ bytes.length then .ok ((bytes.drop i).take n) else .error .outOfRange

def bytesFrom (bytes : List UInt8) (i : ℕ) : Except Panic (List UInt8) :=
  if i ≤ bytes.length then .ok (bytes.drop i) else .error .outOfRange

def u16At (bytes : List UInt8) (i : ℕ) : Except Panic UInt16 :=
  (bytesAt bytes i 2).map fun bs => UInt16.ofNat (leNat bs)

def u32At (bytes : List UInt8) (i : ℕ) : Except Panic UInt32 :=
  (bytesAt bytes i 4).map fun bs => UInt32.ofNat (leNat bs)

def u64At (bytes : List UInt8) (i : ℕ) : Except Panic UInt64 :=
  (bytesAt bytes i 8).map fun bs => UInt64.ofNat (leNat bs)

theorem bind_eq_ok {α β : Type} {x : Except Panic α} {f : α → Except Panic β} {b : β}
    (h : x >>= f = .ok b) : ∃ a, x = .ok a ∧ f a = .ok b := by
  cases x with
  | error p => cases h
  | ok a => exact ⟨a, rfl, h⟩

/-! ## Frames -/

/-- A device number as it is listed: sixteen hexadecimal digits. -/
def deviceText (device : UInt64) : String := String.ofList (hexDigits 16 device.toNat)

structure WireFrame where
  deviceNumber : String
  sensorTypeRaw : UInt16
  rssi : Int8
  flag : UInt8
  payload : List UInt8
deriving DecidableEq

def readFrame (frame : List UInt8) : Except Panic WireFrame := do
  let device ← u64At frame 2
  let sensorTypeRaw ← u16At frame 10
  let rssi ← byteAt frame 12
  let flag ← byteAt frame 13
  let payload ← bytesFrom frame headerSize
  return ⟨deviceText device, sensorTypeRaw, rssi.toInt8, flag, payload⟩

inductive Front where
  | more
  | oversize (frameLen : ℕ)
  | frame (f : WireFrame) (rest : List UInt8)
deriving DecidableEq

def readFront (buf : List UInt8) : Except Panic Front :=
  if buf.length < 2 then .ok .more
  else do
    let payloadLen ← u16At buf 0
    let frameLen := 2 + postLengthHeader + payloadLen.toNat
    if frameLen > maxFrameSize then .ok (.oversize frameLen)
    else if buf.length < frameLen then .ok .more
    else do
      let frame ← bytesAt buf 0 frameLen
      let f ← readFrame frame
      return .frame f (buf.drop frameLen)

def decodeConfig (deviceNumber : String) (rssi : Int8) (payload : List UInt8) :
    Except Panic BravePiFrame :=
  if payload.length < 14 then
    .ok (.decodeError deviceNumber 0 ("config payload too short: " ++ toString payload.length
      ++ " bytes"))
  else do
    let trueSensorType ← u16At payload 0
    let major ← byteAt payload 2
    let minor ← byteAt payload 3
    let patch ← byteAt payload 4
    let timezone ← byteAt payload 5
    let bleMode ← byteAt payload 6
    let txPower ← byteAt payload 7
    let advertiseInterval ← u16At payload 8
    let uplinkInterval ← u32At payload 10
    return .config {
      deviceNumber, rssi, trueSensorType, timezone, bleMode, txPower, advertiseInterval,
      uplinkInterval
      firmwareVersion := toString major ++ "." ++ toString minor ++ "." ++ toString patch }

def decodeSensor (deviceNumber : String) (sensorTypeRaw : UInt16) (rssi : Int8)
    (payload : List UInt8) : Except Panic BravePiFrame :=
  if payload.length < 3 then
    .ok (.decodeError deviceNumber sensorTypeRaw ("sensor payload too short: "
      ++ toString payload.length ++ " bytes"))
  else do
    let battery ← byteAt payload 0
    let dataCount ← u16At payload 1
    let valueData ← bytesFrom payload 3
    return .sensor ⟨deviceNumber, sensorTypeRaw, rssi, battery, dataCount, valueData⟩

def decodeMessage (m : ContinuationState) : Except Panic BravePiFrame :=
  if m.sensorTypeRaw = 0 then decodeConfig m.deviceNumber m.rssi m.payload
  else decodeSensor m.deviceNumber m.sensorTypeRaw m.rssi m.payload

def oversizeError (frameLen : ℕ) : BravePiFrame :=
  .decodeError "unknown" 0 ("frame size exceeds maximum: " ++ toString frameLen ++ " > "
    ++ toString maxFrameSize)

def continuationError (m : ContinuationState) : BravePiFrame :=
  .decodeError m.deviceNumber m.sensorTypeRaw ("continuation payload exceeds maximum: "
    ++ toString m.payload.length ++ " > " ++ toString maxFrameSize)

/-- The message of a frame alone, and the open message with a frame's payload behind it: the header
of the first frame stays. -/
def WireFrame.start (f : WireFrame) : ContinuationState :=
  ⟨f.deviceNumber, f.sensorTypeRaw, f.rssi, f.payload⟩

def ContinuationState.extend (cont : ContinuationState) (f : WireFrame) : ContinuationState :=
  { cont with payload := cont.payload ++ f.payload }

/-- What a frame does with the open message. A frame that only continues a message returns nothing,
and the loop goes on. -/
def acceptFrame (continuation : Option ContinuationState) (f : WireFrame) :
    Except Panic (Option BravePiFrame × Option ContinuationState) :=
  if f.flag = 1 then
    match continuation with
    | some cont =>
      if (cont.extend f).payload.length > maxFrameSize then
        .ok (some (continuationError (cont.extend f)), none)
      else .ok (none, some (cont.extend f))
    | none => .ok (none, some f.start)
  else
    match continuation with
    | some cont =>
      if (cont.extend f).payload.length > maxFrameSize then
        .ok (some (continuationError (cont.extend f)), none)
      else (decodeMessage (cont.extend f)).map fun frame => (some frame, none)
    | none => (decodeMessage f.start).map fun frame => (some frame, none)

namespace BravePiCodec

inductive Turn where
  | again (c : BravePiCodec)
  | done (frame : Option BravePiFrame) (c : BravePiCodec)
deriving DecidableEq

def decodeOnce (c : BravePiCodec) : Except Panic Turn := do
  match ← readFront c.buf with
  | .more => return .done none c
  | .oversize frameLen => return .done (some (oversizeError frameLen)) new
  | .frame f rest =>
    match ← acceptFrame c.continuation f with
    | (none, continuation) => return .again ⟨rest, continuation⟩
    | (some frame, continuation) => return .done (some frame) ⟨rest, continuation⟩

theorem readFront_shorter {buf rest : List UInt8} {f : WireFrame}
    (h : readFront buf = .ok (.frame f rest)) : rest.length < buf.length := by
  unfold readFront at h
  split_ifs at h with hshort
  · cases h
  · obtain ⟨len, -, h⟩ := bind_eq_ok h
    dsimp only at h
    split_ifs at h
    · cases h
    · cases h
    · obtain ⟨frame, -, h⟩ := bind_eq_ok h
      obtain ⟨g, -, h⟩ := bind_eq_ok h
      cases h
      rw [List.length_drop]
      omega

/-- What a turn of the loop can do. -/
theorem decodeOnce_cases {c : BravePiCodec} {turn : Turn} (h : decodeOnce c = .ok turn) :
    (readFront c.buf = .ok .more ∧ turn = .done none c)
    ∨ (∃ n, readFront c.buf = .ok (.oversize n) ∧ turn = .done (some (oversizeError n)) new)
    ∨ ∃ f rest out cont, readFront c.buf = .ok (.frame f rest)
      ∧ acceptFrame c.continuation f = .ok (out, cont)
      ∧ turn = match out with
        | none => .again ⟨rest, cont⟩
        | some frame => .done (some frame) ⟨rest, cont⟩ := by
  obtain ⟨front, hfront, h⟩ := bind_eq_ok h
  cases front with
  | more =>
    cases h
    exact .inl ⟨hfront, rfl⟩
  | oversize n =>
    cases h
    exact .inr (.inl ⟨n, hfront, rfl⟩)
  | frame f rest =>
    obtain ⟨⟨out, cont⟩, hout, h⟩ := bind_eq_ok h
    refine .inr (.inr ⟨f, rest, out, cont, hfront, hout, ?_⟩)
    cases out <;> cases h <;> rfl

theorem length_pos_of_oversize {buf : List UInt8} {n : ℕ} (h : readFront buf = .ok (.oversize n)) :
    0 < buf.length := by
  unfold readFront at h
  split_ifs at h with hshort
  · cases h
  · omega

/-- A turn that goes on, or returns a frame, leaves fewer bytes. -/
theorem decodeOnce_shorter {c c' : BravePiCodec} {turn : Turn} (h : decodeOnce c = .ok turn)
    (ht : turn = .again c' ∨ ∃ frame, turn = .done (some frame) c') :
    c'.buf.length < c.buf.length := by
  rcases decodeOnce_cases h with ⟨-, rfl⟩ | ⟨n, hn, rfl⟩ | ⟨f, rest, out, cont, hf, -, rfl⟩
  · simp at ht
  · have := length_pos_of_oversize hn
    simp only [reduceCtorEq, Turn.done.injEq, false_or] at ht
    obtain ⟨-, -, rfl⟩ := ht
    exact this
  · have := readFront_shorter hf
    cases out with
    | none =>
      simp only [Turn.again.injEq, reduceCtorEq, exists_false, or_false] at ht
      exact ht ▸ this
    | some frame =>
      simp only [reduceCtorEq, Turn.done.injEq, false_or] at ht
      obtain ⟨-, -, rfl⟩ := ht
      exact this

/-- Decodes until a frame is complete or more bytes are needed. -/
def decode (c : BravePiCodec) : Except Panic (Option BravePiFrame × BravePiCodec) :=
  match h : decodeOnce c with
  | .error p => .error p
  | .ok (.done frame c') => .ok (frame, c')
  | .ok (.again c') =>
    have := decodeOnce_shorter h (.inl rfl)
    decode c'
termination_by c.buf.length

theorem decode_done {c c' : BravePiCodec} {frame : Option BravePiFrame}
    (h : decodeOnce c = .ok (.done frame c')) : decode c = .ok (frame, c') := by
  rw [decode]
  split <;> simp_all

theorem decode_again {c c' : BravePiCodec} (h : decodeOnce c = .ok (.again c')) :
    decode c = decode c' := by
  rw [decode]
  split <;> simp_all

theorem decode_shorter {c c' : BravePiCodec} {frame : BravePiFrame}
    (h : decode c = .ok (some frame, c')) : c'.buf.length < c.buf.length := by
  fun_induction decode c with
  | case1 => cases h
  | case2 c frame' c'' hd =>
    cases h
    exact decodeOnce_shorter hd (.inr ⟨frame, rfl⟩)
  | case3 c c'' hd hlt ih => exact (ih h).trans hlt

/-- The reading loop: `decode` until it returns no frame. -/
def drain (c : BravePiCodec) : Except Panic (List BravePiFrame × BravePiCodec) :=
  match h : decode c with
  | .error p => .error p
  | .ok (none, c') => .ok ([], c')
  | .ok (some frame, c') =>
    have := decode_shorter h
    (drain c').map fun r => (frame :: r.1, r.2)
termination_by c.buf.length

/-- Chunks as the line delivers them, with the frames decoded after each. -/
def feedAll (c : BravePiCodec) : List (List UInt8) → Except Panic (List BravePiFrame × BravePiCodec)
  | [] => .ok ([], c)
  | chunk :: chunks => do
    let r ← drain (c.feed chunk)
    let r' ← feedAll r.2 chunks
    return (r.1 ++ r'.1, r'.2)

inductive Call where
  | feed (data : List UInt8)
  | decode

/-- No successor is a panic. -/
def call (c : BravePiCodec) : Call → Option BravePiCodec
  | .feed data => some (c.feed data)
  | .decode => match c.decode with
    | .ok (_, c') => some c'
    | .error _ => none

end BravePiCodec

/-! ## Downlink -/

/-- `u64::from_str_radix` with radix 16, on the digits after an optional sign. -/
def u64Digits (n : ℕ) : List Char → Except String ℕ
  | [] => .ok n
  | c :: cs => match hexValue c with
    | none => .error "invalid digit found in string"
    | some d =>
      if 16 * n + d < 2 ^ 64 then u64Digits (16 * n + d) cs
      else .error "number too large to fit in target type"

def u64FromHex (text : String) : Except String UInt64 :=
  match text.toList with
  | [] => .error "cannot parse integer from empty string"
  | ['+'] => .error "invalid digit found in string"
  | '+' :: digits => (u64Digits 0 digits).map UInt64.ofNat
  | digits => (u64Digits 0 digits).map UInt64.ofNat

def hexToDeviceBytes (hex : String) : Except String (List UInt8) :=
  match u64FromHex hex with
  | .ok val => .ok (leBytes 8 val.toNat)
  | .error e => .error ("Invalid device number hex '" ++ hex ++ "': " ++ e)

/-- The operation code, the data and the two bytes of the sensor type. -/
def DownlinkCommand.parts : DownlinkCommand → UInt8 × List UInt8 × List UInt8
  | .immediateUplink sensorType => (0x00, [], leBytes 2 sensorType.toNat)
  | .parameterGet => (0x0D, [0x00], [0x00, 0x00])
  | .contactOutput signalMode signalOutTime =>
    (0x11, signalMode :: leBytes 2 signalOutTime.toNat, [0x00, 0x00])

def encodeDownlink (deviceNumberHex : String) (cmd : DownlinkCommand) :
    Except String (List UInt8) := do
  let deviceBytes ← hexToDeviceBytes deviceNumberHex
  let (opcode, cmdData, sensorTypeBytes) := cmd.parts
  return 0x00 :: leBytes 2 (12 + cmdData.length) ++ deviceBytes ++ sensorTypeBytes
    ++ [opcode, 0x00] ++ cmdData

end BravePi

end EdgeNode
