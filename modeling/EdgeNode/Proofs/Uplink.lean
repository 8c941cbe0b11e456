import EdgeNode.Proofs.Codec

/-!
# The uplink round trip

A reference encoder writes a message as frames of one device and sensor type, all but the last with
flag 1. The codec finds the frames one by one (`readFront_uplinkFrame`), gathers the fragments
(`drain_fragments`), and returns one frame for each message.
-/

namespace EdgeNode

namespace BravePi

open BravePiCodec

/-! ## The reference encoder -/

def uplinkFrame (device : UInt64) (sensorType : UInt16) (rssi : Int8) (flag : UInt8)
    (payload : List UInt8) : List UInt8 :=
  leBytes 2 payload.length ++ leBytes 8 device.toNat ++ leBytes 2 sensorType.toNat
    ++ [rssi.toUInt8, flag] ++ payload

/-- A message and how it is cut into frames: `fragments` are flagged as continued, `last` is not. -/
structure Message where
  device : UInt64
  sensorType : UInt16
  rssi : Int8
  fragments : List (List UInt8)
  last : List UInt8
  lastFlag : UInt8
  last_not_continued : lastFlag ≠ 1
  frames_fit : ∀ p ∈ last :: fragments, headerSize + p.length ≤ maxFrameSize
  payload_fits : (fragments.flatten ++ last).length ≤ maxFrameSize

namespace Message

def payload (m : Message) : List UInt8 := m.fragments.flatten ++ m.last

def encode (m : Message) : List UInt8 :=
  m.fragments.flatMap (uplinkFrame m.device m.sensorType m.rssi 1)
    ++ uplinkFrame m.device m.sensorType m.rssi m.lastFlag m.last

def frame (m : Message) : BravePiFrame :=
  if m.sensorType = 0 then
    match m.payload with
    | t0 :: t1 :: major :: minor :: patch :: timezone :: bleMode :: txPower :: a0 :: a1
        :: u0 :: u1 :: u2 :: u3 :: _ =>
      .config {
        deviceNumber := deviceText m.device
        rssi := m.rssi
        trueSensorType := UInt16.ofNat (leNat [t0, t1])
        firmwareVersion := toString major ++ "." ++ toString minor ++ "." ++ toString patch
        timezone, bleMode, txPower
        advertiseInterval := UInt16.ofNat (leNat [a0, a1])
        uplinkInterval := UInt32.ofNat (leNat [u0, u1, u2, u3]) }
    | short => .decodeError (deviceText m.device) 0
        ("config payload too short: " ++ toString short.length ++ " bytes")
  else
    match m.payload with
    | battery :: c0 :: c1 :: valueData =>
      .sensor ⟨deviceText m.device, m.sensorType, m.rssi, battery, UInt16.ofNat (leNat [c0, c1]),
        valueData⟩
    | short => .decodeError (deviceText m.device) m.sensorType
        ("sensor payload too short: " ++ toString short.length ++ " bytes")

end Message

/-! ## One frame -/

theorem ofNat_leNat_leBytes_16 (x : UInt16) : UInt16.ofNat (leNat (leBytes 2 x.toNat)) = x := by
  have := x.toNat_lt
  rw [leNat_leBytes, Nat.mod_eq_of_lt (by omega), UInt16.ofNat_toNat]

theorem ofNat_leNat_leBytes_64 (x : UInt64) : UInt64.ofNat (leNat (leBytes 8 x.toNat)) = x := by
  have := x.toNat_lt
  rw [leNat_leBytes, Nat.mod_eq_of_lt (by omega), UInt64.ofNat_toNat]

variable {device : UInt64} {sensorType : UInt16} {rssi : Int8} {flag : UInt8}
  {payload rest : List UInt8}

theorem uplinkFrame_length (device : UInt64) (sensorType : UInt16) (rssi : Int8) (flag : UInt8)
    (payload : List UInt8) :
    (uplinkFrame device sensorType rssi flag payload).length = headerSize + payload.length := by
  simp [uplinkFrame, headerSize, postLengthHeader]
  omega

theorem bytesAt_middle (pre xs post : List UInt8) :
    bytesAt (pre ++ (xs ++ post)) pre.length xs.length = .ok xs := by
  rw [bytesAt_ok (by simp), List.drop_left, List.take_left]

theorem readFrame_uplinkFrame :
    readFrame (uplinkFrame device sensorType rssi flag payload)
      = .ok ⟨deviceText device, sensorType, rssi, flag, payload⟩ := by
  have hdevice : u64At (uplinkFrame device sensorType rssi flag payload) 2 = .ok device := by
    have h := bytesAt_middle (leBytes 2 payload.length) (leBytes 8 device.toNat)
      (leBytes 2 sensorType.toNat ++ [rssi.toUInt8, flag] ++ payload)
    simp only [leBytes_length] at h
    simp only [u64At, uplinkFrame, List.append_assoc] at h ⊢
    rw [h]
    exact congrArg Except.ok (ofNat_leNat_leBytes_64 device)
  have htype : u16At (uplinkFrame device sensorType rssi flag payload) 10 = .ok sensorType := by
    have h := bytesAt_middle (leBytes 2 payload.length ++ leBytes 8 device.toNat)
      (leBytes 2 sensorType.toNat) ([rssi.toUInt8, flag] ++ payload)
    simp only [leBytes_length, List.length_append] at h
    simp only [u16At, uplinkFrame, List.append_assoc] at h ⊢
    rw [h]
    exact congrArg Except.ok (ofNat_leNat_leBytes_16 sensorType)
  have hrssi : byteAt (uplinkFrame device sensorType rssi flag payload) 12 = .ok rssi.toUInt8 := by
    simp [byteAt, uplinkFrame, List.getElem?_append]
  have hflag : byteAt (uplinkFrame device sensorType rssi flag payload) 13 = .ok flag := by
    simp [byteAt, uplinkFrame, List.getElem?_append]
  have hpayload : bytesFrom (uplinkFrame device sensorType rssi flag payload) headerSize
      = .ok payload := by
    rw [bytesFrom_ok (by rw [uplinkFrame_length]; omega), uplinkFrame]
    exact congrArg Except.ok (List.drop_left' (by simp [headerSize, postLengthHeader]))
  rw [readFrame, hdevice, htype, hrssi, hflag, hpayload]
  simp [bind, Except.bind, pure, Except.pure]

theorem readFront_uplinkFrame (h : headerSize + payload.length ≤ maxFrameSize) :
    readFront (uplinkFrame device sensorType rssi flag payload ++ rest)
      = .ok (.frame ⟨deviceText device, sensorType, rssi, flag, payload⟩ rest) := by
  have hlen := uplinkFrame_length device sensorType rssi flag payload
  have hheader : headerSize = 2 + postLengthHeader := rfl
  have hsize : u16At (uplinkFrame device sensorType rssi flag payload) 0
      = .ok (UInt16.ofNat payload.length) := by
    have hbytes := bytesAt_middle [] (leBytes 2 payload.length)
      (leBytes 8 device.toNat ++ leBytes 2 sensorType.toNat ++ [rssi.toUInt8, flag] ++ payload)
    have hlt : payload.length < 256 ^ 2 := by
      unfold maxFrameSize at h
      omega
    simp only [leBytes_length, List.length_nil, List.nil_append] at hbytes
    simp only [u16At, uplinkFrame, List.append_assoc] at hbytes ⊢
    rw [hbytes]
    exact congrArg (fun n => Except.ok (UInt16.ofNat n))
      ((leNat_leBytes 2 _).trans (Nat.mod_eq_of_lt hlt))
  have hnat : (UInt16.ofNat payload.length).toNat = payload.length := by
    unfold maxFrameSize at h
    rw [UInt16.toNat_ofNat']
    exact Nat.mod_eq_of_lt (by omega)
  have halone : readFront (uplinkFrame device sensorType rssi flag payload)
      = .ok (.frame ⟨deviceText device, sensorType, rssi, flag, payload⟩ []) := by
    unfold readFront
    rw [if_neg (by omega), hsize]
    show (if 2 + postLengthHeader + (UInt16.ofNat payload.length).toNat > maxFrameSize then _
      else _) = _
    rw [hnat, ← hheader, if_neg (by omega), if_neg (by omega), bytesAt_ok (by omega),
      List.drop_zero, List.take_of_length_le (by omega), List.drop_of_length_le (by omega)]
    simp only [bind, Except.bind, readFrame_uplinkFrame]
    rfl
  rw [readFront_append rest (by simp [halone]), halone]
  rfl

/-! ## One message -/

theorem acceptFrame_continued {continuation : Option ContinuationState} {f : WireFrame}
    (hflag : f.flag = 1) (hshort : (joined continuation f).payload.length ≤ maxFrameSize) :
    acceptFrame continuation f = .ok (none, some (joined continuation f)) := by
  unfold acceptFrame
  rw [if_pos hflag]
  cases continuation with
  | none => rfl
  | some held => exact if_neg (not_lt.2 hshort)

theorem acceptFrame_final {continuation : Option ContinuationState} {f : WireFrame}
    {frame : BravePiFrame} (hflag : f.flag ≠ 1)
    (hshort : (joined continuation f).payload.length ≤ maxFrameSize)
    (hframe : decodeMessage (joined continuation f) = .ok frame) :
    acceptFrame continuation f = .ok (some frame, none) := by
  unfold acceptFrame
  rw [if_neg hflag]
  cases continuation with
  | none =>
    show (decodeMessage (joined none f)).map _ = _
    rw [hframe]
    rfl
  | some held =>
    show (if (joined (some held) f).payload.length > maxFrameSize then _
      else (decodeMessage (joined (some held) f)).map _) = _
    rw [if_neg (not_lt.2 hshort), hframe]
    rfl

theorem drain_fragments {held : ContinuationState} {fragments : List (List UInt8)}
    (hfit : ∀ p ∈ fragments, headerSize + p.length ≤ maxFrameSize)
    (hshort : (held.payload ++ fragments.flatten).length ≤ maxFrameSize) :
    reader.drain (some held) (fragments.flatMap (uplinkFrame device sensorType rssi 1) ++ rest)
      = reader.drain (some { held with payload := held.payload ++ fragments.flatten }) rest := by
  induction fragments generalizing held with
  | nil => simp
  | cons p fragments ih =>
    have hshort' : (held.payload ++ p ++ fragments.flatten).length ≤ maxFrameSize := by
      simpa [List.append_assoc] using hshort
    have hp : (joined (some held) ⟨deviceText device, sensorType, rssi, 1, p⟩).payload.length
        ≤ maxFrameSize := le_trans (by simp [joined, ContinuationState.extend]) hshort'
    have hfront : readFront (uplinkFrame device sensorType rssi 1 p
          ++ (fragments.flatMap (uplinkFrame device sensorType rssi 1) ++ rest))
        = .ok (.frame ⟨deviceText device, sensorType, rssi, 1, p⟩
          (fragments.flatMap (uplinkFrame device sensorType rssi 1) ++ rest)) :=
      readFront_uplinkFrame (hfit p List.mem_cons_self)
    rw [List.flatMap_cons, List.append_assoc,
      reader.drain_take (reader_frame hfront (acceptFrame_continued rfl hp))]
    have ih := @ih { held with payload := held.payload ++ p }
      (fun q hq => hfit q (List.mem_cons_of_mem p hq)) hshort'
    simpa [joined, ContinuationState.extend, List.append_assoc] using ih

theorem decodeMessage_eq (m : Message) :
    decodeMessage ⟨deviceText m.device, m.sensorType, m.rssi, m.payload⟩ = .ok m.frame := by
  unfold decodeMessage Message.frame
  split_ifs with htype
  · unfold decodeConfig
    rcases m.payload with _ | ⟨t0, _ | ⟨t1, _ | ⟨major, _ | ⟨minor, _ | ⟨patch, _ | ⟨timezone,
      _ | ⟨bleMode, _ | ⟨txPower, _ | ⟨a0, _ | ⟨a1, _ | ⟨u0, _ | ⟨u1, _ | ⟨u2,
      _ | ⟨u3, more⟩⟩⟩⟩⟩⟩⟩⟩⟩⟩⟩⟩⟩⟩ <;> rfl
  · unfold decodeSensor
    rcases m.payload with _ | ⟨battery, _ | ⟨c0, _ | ⟨c1, valueData⟩⟩⟩ <;> rfl

theorem drain_message (m : Message) (rest : List UInt8) :
    reader.drain none (m.encode ++ rest)
      = (m.frame :: (reader.drain none rest).1, (reader.drain none rest).2) := by
  have hframe := decodeMessage_eq m
  have hlast : readFront (uplinkFrame m.device m.sensorType m.rssi m.lastFlag m.last ++ rest)
      = .ok (.frame ⟨deviceText m.device, m.sensorType, m.rssi, m.lastFlag, m.last⟩ rest) :=
    readFront_uplinkFrame (m.frames_fit _ List.mem_cons_self)
  have hfit := fun p hp => m.frames_fit p (List.mem_cons_of_mem m.last hp)
  have hshort := m.payload_fits
  unfold Message.encode
  rw [Message.payload] at hframe
  cases hfragments : m.fragments with
  | nil =>
    rw [hfragments, List.flatten_nil, List.nil_append] at hframe hshort
    have hfinal : acceptFrame none ⟨deviceText m.device, m.sensorType, m.rssi, m.lastFlag, m.last⟩
        = .ok (some m.frame, none) :=
      acceptFrame_final m.last_not_continued hshort hframe
    rw [List.flatMap_nil, List.nil_append, reader.drain_take (reader_frame hlast hfinal)]
    rfl
  | cons p fragments =>
    rw [hfragments] at hframe hshort hfit
    rw [List.flatten_cons] at hframe hshort
    have hgathered : (p ++ fragments.flatten).length ≤ maxFrameSize := le_trans (by simp) hshort
    have hp : p.length ≤ maxFrameSize := le_trans (by simp) hgathered
    have hfirst : readFront (uplinkFrame m.device m.sensorType m.rssi 1 p
          ++ (fragments.flatMap (uplinkFrame m.device m.sensorType m.rssi 1)
            ++ (uplinkFrame m.device m.sensorType m.rssi m.lastFlag m.last ++ rest)))
        = .ok (.frame ⟨deviceText m.device, m.sensorType, m.rssi, 1, p⟩
          (fragments.flatMap (uplinkFrame m.device m.sensorType m.rssi 1)
            ++ (uplinkFrame m.device m.sensorType m.rssi m.lastFlag m.last ++ rest))) :=
      readFront_uplinkFrame (hfit p List.mem_cons_self)
    have hstart : acceptFrame none ⟨deviceText m.device, m.sensorType, m.rssi, 1, p⟩
        = .ok (none, some ⟨deviceText m.device, m.sensorType, m.rssi, p⟩) :=
      acceptFrame_continued rfl hp
    have hfinal : acceptFrame
          (some ⟨deviceText m.device, m.sensorType, m.rssi, p ++ fragments.flatten⟩)
          ⟨deviceText m.device, m.sensorType, m.rssi, m.lastFlag, m.last⟩
        = .ok (some m.frame, none) :=
      acceptFrame_final m.last_not_continued hshort hframe
    rw [List.flatMap_cons, List.append_assoc, List.append_assoc,
      reader.drain_take (reader_frame hfirst hstart),
      drain_fragments (fun q hq => hfit q (List.mem_cons_of_mem p hq)) hgathered,
      reader.drain_take (reader_frame hlast hfinal)]
    rfl

theorem drain_messages : ∀ messages : List Message,
    reader.drain none (messages.flatMap Message.encode)
      = (messages.map Message.frame, some (none, []))
  | [] => reader.drain_more rfl
  | m :: messages => by
    rw [List.flatMap_cons, drain_message, drain_messages messages]
    rfl

/-! ## The device number on the way back -/

theorem u64Digits_of_foldlM : ∀ {digits : List Char} {n k : ℕ},
    digits.foldlM (fun n c => (hexValue c).map fun d => 16 * n + d) n = some k → k < 2 ^ 64 →
      n ≤ k ∧ u64Digits n digits = .ok k
  | [], n, k, h, _ => by
    cases h
    exact ⟨le_rfl, rfl⟩
  | c :: digits, n, k, h, hk => by
    rw [List.foldlM_cons] at h
    obtain ⟨n', hn', h⟩ := Option.bind_eq_some_iff.1 h
    obtain ⟨d, hd, rfl⟩ := Option.map_eq_some_iff.1 hn'
    obtain ⟨hle, hdigits⟩ := u64Digits_of_foldlM h hk
    refine ⟨by omega, ?_⟩
    rw [u64Digits, hd]
    exact (if_pos (by omega)).trans hdigits

theorem u64FromHex_deviceText (device : UInt64) : u64FromHex (deviceText device) = .ok device := by
  have hplus : '+' ∉ hexDigits 16 device.toNat := by
    intro h
    obtain ⟨d, hd, hc⟩ := exists_of_mem_hexDigits h
    have hvalue := (hexDigit_spec d hd).1
    rw [← hc, show hexValue '+' = none by decide] at hvalue
    cases hvalue
  have hlt := device.toNat_lt
  have hnumber := hexNumber_hexDigits 16 device.toNat
  rw [Nat.mod_eq_of_lt (by omega)] at hnumber
  have hdigits := (u64Digits_of_foldlM hnumber hlt).2
  have hlen := hexDigits_length 16 device.toNat
  unfold u64FromHex deviceText
  rw [String.toList_ofList]
  split
  · next h => simp [h] at hlen
  · next h => simp [h] at hplus
  · next h => simp [h] at hplus
  · rw [hdigits]
    simp [Except.map]

theorem encodeDownlink_deviceText (device : UInt64) (cmd : DownlinkCommand) :
    ∃ wire, encodeDownlink (deviceText device) cmd = .ok wire
      ∧ (wire.drop 3).take 8 = leBytes 8 device.toNat := by
  have hbytes : hexToDeviceBytes (deviceText device) = .ok (leBytes 8 device.toNat) := by
    simp [hexToDeviceBytes, u64FromHex_deviceText]
  unfold encodeDownlink
  rw [hbytes]
  refine ⟨_, rfl, ?_⟩
  simp

theorem Message.frame_deviceNumber (m : Message) : m.frame.deviceNumber = deviceText m.device :=
  (decodeMessage_header (decodeMessage_eq m)).1

theorem Message.encode_device (m : Message) :
    (m.encode.drop 2).take 8 = leBytes 8 m.device.toNat := by
  unfold Message.encode
  cases m.fragments <;> simp [uplinkFrame]

/-- The messages of a stream come back one frame each, in order, and a downlink to the device number
of such a frame carries the eight device bytes of its message. -/
theorem uplink_round_trip (messages : List Message) :
    drain (new.feed (messages.flatMap Message.encode)) = .ok (messages.map Message.frame, new)
    ∧ ∀ m ∈ messages, ∀ cmd, ∃ wire, encodeDownlink m.frame.deviceNumber cmd = .ok wire
      ∧ (wire.drop 3).take 8 = (m.encode.drop 2).take 8 := by
  refine ⟨?_, fun m _ cmd => ?_⟩
  · have hdrain := drain_messages messages
    rw [drain_eq]
    show Except.ok ((reader.drain none ([] ++ _)).1, left (reader.drain none ([] ++ _)).2) = _
    rw [List.nil_append, hdrain]
    rfl
  · rw [m.frame_deviceNumber, m.encode_device]
    exact encodeDownlink_deviceText m.device cmd

end BravePi

end EdgeNode
