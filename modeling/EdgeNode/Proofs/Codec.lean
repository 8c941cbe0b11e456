import EdgeNode.BravePi.Codec
import EdgeNode.Lib.Reader

/-!
# Decoding does not depend on how the line delivers its bytes

No access of the codec is out of range. The codec is a reader in the sense of `Lib.Reader`, so the
frames up to an oversize one are those of the whole stream, however it was cut. After an oversize
frame the codec drops what it holds, and how much that is does depend on the cut.
-/

namespace EdgeNode

namespace BravePi

open BravePiCodec

variable {bytes buf rest : List UInt8} {i n : ℕ} {c c' : BravePiCodec} {f : WireFrame}

/-! ## Accesses in range -/

theorem byteAt_ok (h : i < bytes.length) : byteAt bytes i = .ok bytes[i] := by
  simp [byteAt, List.getElem?_eq_getElem h]

theorem bytesAt_ok (h : i + n ≤ bytes.length) :
    bytesAt bytes i n = .ok ((bytes.drop i).take n) := if_pos h

theorem bytesFrom_ok (h : i ≤ bytes.length) : bytesFrom bytes i = .ok (bytes.drop i) := if_pos h

theorem u16At_ok (h : i + 2 ≤ bytes.length) :
    u16At bytes i = .ok (UInt16.ofNat (leNat ((bytes.drop i).take 2))) := by
  rw [u16At, bytesAt_ok h]
  rfl

theorem u32At_ok (h : i + 4 ≤ bytes.length) :
    u32At bytes i = .ok (UInt32.ofNat (leNat ((bytes.drop i).take 4))) := by
  rw [u32At, bytesAt_ok h]
  rfl

theorem u64At_ok (h : i + 8 ≤ bytes.length) :
    u64At bytes i = .ok (UInt64.ofNat (leNat ((bytes.drop i).take 8))) := by
  rw [u64At, bytesAt_ok h]
  rfl

theorem readFrame_ok (h : headerSize ≤ bytes.length) :
    ∃ f, readFrame bytes = .ok f ∧ (∃ device, f.deviceNumber = deviceText device)
      ∧ f.payload = bytes.drop headerSize := by
  have hlen : 14 ≤ bytes.length := h
  rw [readFrame, u64At_ok (by omega), u16At_ok (by omega), byteAt_ok (i := 12) (by omega),
    byteAt_ok (i := 13) (by omega), bytesFrom_ok h]
  exact ⟨_, rfl, ⟨_, rfl⟩, rfl⟩

/-- The front of any bytes can be read. A frame there is of a device and no longer than the limit. -/
theorem readFront_ok (buf : List UInt8) : ∃ front, readFront buf = .ok front
    ∧ ∀ f rest, front = .frame f rest →
      (∃ device, f.deviceNumber = deviceText device)
      ∧ headerSize + f.payload.length ≤ maxFrameSize := by
  unfold readFront
  split_ifs with hshort
  · exact ⟨_, rfl, by simp⟩
  · rw [u16At_ok (by omega)]
    generalize UInt16.ofNat (leNat ((buf.drop 0).take 2)) = len
    show ∃ front, (if 2 + postLengthHeader + len.toNat > maxFrameSize then _ else _) = _ ∧ _
    split_ifs with hover hmore
    · exact ⟨_, rfl, by simp⟩
    · exact ⟨_, rfl, by simp⟩
    · have hbytes : 0 + (2 + postLengthHeader + len.toNat) ≤ buf.length := by omega
      have hframe := bytesAt_ok hbytes
      rw [List.drop_zero] at hframe
      have hlen : (buf.take (2 + postLengthHeader + len.toNat)).length
          = 2 + postLengthHeader + len.toNat := by
        rw [List.length_take]
        omega
      obtain ⟨f, hread, hdevice, hpayload⟩ :=
        readFrame_ok (hlen ▸ Nat.le_add_right headerSize len.toNat)
      refine ⟨.frame f (buf.drop (2 + postLengthHeader + len.toNat)), ?_, ?_⟩
      · rw [hframe]
        show readFrame _ >>= _ = _
        rw [hread]
        rfl
      · intro g rest hg
        cases hg
        refine ⟨hdevice, ?_⟩
        rw [hpayload, List.length_drop, hlen]
        unfold headerSize
        omega

def BravePiFrame.deviceNumber : BravePiFrame → String
  | .sensor frame => frame.deviceNumber
  | .config frame => frame.deviceNumber
  | .decodeError deviceNumber _ _ => deviceNumber

def BravePiFrame.sensorTypeRaw : BravePiFrame → UInt16
  | .sensor frame => frame.sensorTypeRaw
  | .config _ => 0
  | .decodeError _ sensorTypeRaw _ => sensorTypeRaw

theorem decodeMessage_ok (m : ContinuationState) : ∃ frame, decodeMessage m = .ok frame
    ∧ frame.deviceNumber = m.deviceNumber ∧ frame.sensorTypeRaw = m.sensorTypeRaw := by
  unfold decodeMessage decodeConfig decodeSensor
  split_ifs with htype hlen hlen
  · exact ⟨_, rfl, rfl, htype.symm⟩
  · rw [u16At_ok (i := 0) (by omega), byteAt_ok (i := 2) (by omega), byteAt_ok (i := 3) (by omega),
      byteAt_ok (i := 4) (by omega), byteAt_ok (i := 5) (by omega), byteAt_ok (i := 6) (by omega),
      byteAt_ok (i := 7) (by omega), u16At_ok (i := 8) (by omega), u32At_ok (by omega)]
    exact ⟨_, rfl, rfl, htype.symm⟩
  · exact ⟨_, rfl, rfl, rfl⟩
  · rw [byteAt_ok (i := 0) (by omega), u16At_ok (by omega), bytesFrom_ok (by omega)]
    exact ⟨_, rfl, rfl, rfl⟩

theorem decodeMessage_header {m : ContinuationState} {frame : BravePiFrame}
    (h : decodeMessage m = .ok frame) :
    frame.deviceNumber = m.deviceNumber ∧ frame.sensorTypeRaw = m.sensorTypeRaw := by
  obtain ⟨frame', hframe, hheader⟩ := decodeMessage_ok m
  cases h.symm.trans hframe
  exact hheader

theorem acceptFrame_ok (continuation : Option ContinuationState) (f : WireFrame) :
    ∃ out cont, acceptFrame continuation f = .ok (out, cont) := by
  unfold acceptFrame
  split_ifs
  all_goals rcases continuation with _ | cont <;> dsimp only
  · exact ⟨_, _, rfl⟩
  · split_ifs <;> exact ⟨_, _, rfl⟩
  · obtain ⟨frame, h, -⟩ := decodeMessage_ok f.start
    rw [h]
    exact ⟨_, _, rfl⟩
  · split_ifs
    · exact ⟨_, _, rfl⟩
    · obtain ⟨frame, h, -⟩ := decodeMessage_ok (cont.extend f)
      rw [h]
      exact ⟨_, _, rfl⟩

theorem decodeOnce_ok (c : BravePiCodec) : ∃ turn, decodeOnce c = .ok turn := by
  obtain ⟨front, hfront, -⟩ := readFront_ok c.buf
  unfold decodeOnce
  rw [hfront]
  cases front with
  | more => exact ⟨_, rfl⟩
  | oversize n => exact ⟨_, rfl⟩
  | frame f rest =>
    obtain ⟨out, cont, hout⟩ := acceptFrame_ok c.continuation f
    simp only [bind, Except.bind, hout]
    cases out <;> exact ⟨_, rfl⟩

theorem decode_ok (c : BravePiCodec) : ∃ frame c', decode c = .ok (frame, c') := by
  fun_induction decode c with
  | case1 c p h =>
    obtain ⟨turn, hturn⟩ := decodeOnce_ok c
    cases h.symm.trans hturn
  | case2 c frame c' h => exact ⟨frame, c', rfl⟩
  | case3 c c' h hlt ih => exact ih

def joined (continuation : Option ContinuationState) (f : WireFrame) : ContinuationState :=
  match continuation with
  | some cont => cont.extend f
  | none => f.start

theorem acceptFrame_cases {continuation cont : Option ContinuationState} {out : Option BravePiFrame}
    (h : acceptFrame continuation f = .ok (out, cont)) :
    (out = none ∧ cont = some (joined continuation f)
      ∧ (continuation ≠ none → (joined continuation f).payload.length ≤ maxFrameSize))
    ∨ (out = some (continuationError (joined continuation f)) ∧ cont = none)
    ∨ ∃ frame, decodeMessage (joined continuation f) = .ok frame ∧ out = some frame ∧ cont = none := by
  have hmessage : ∀ {m : ContinuationState},
      (decodeMessage m).map (fun frame => (some frame, none)) = .ok (out, cont) →
      ∃ frame, decodeMessage m = .ok frame ∧ out = some frame ∧ cont = none := by
    intro m h
    obtain ⟨frame, hframe, -⟩ := decodeMessage_ok m
    rw [hframe] at h
    cases h
    exact ⟨frame, hframe, rfl, rfl⟩
  unfold acceptFrame at h
  split_ifs at h with hflag
  all_goals rcases continuation with _ | held <;> dsimp only at h
  · cases h
    exact .inl ⟨rfl, rfl, fun hne => absurd rfl hne⟩
  · split_ifs at h with hover
    · cases h
      exact .inr (.inl ⟨rfl, rfl⟩)
    · cases h
      exact .inl ⟨rfl, rfl, fun _ => not_lt.1 hover⟩
  · exact .inr (.inr (hmessage h))
  · split_ifs at h with hover
    · cases h
      exact .inr (.inl ⟨rfl, rfl⟩)
    · exact .inr (.inr (hmessage h))

structure Open (m : ContinuationState) : Prop where
  device : ∃ device, m.deviceNumber = deviceText device
  short : m.payload.length ≤ maxFrameSize

theorem acceptFrame_open {continuation cont : Option ContinuationState} {out : Option BravePiFrame}
    (hf : (∃ device, f.deviceNumber = deviceText device)
      ∧ headerSize + f.payload.length ≤ maxFrameSize)
    (hopen : ∀ m ∈ continuation, Open m) (h : acceptFrame continuation f = .ok (out, cont)) :
    (∀ m ∈ cont, Open m) ∧ ∀ frame ∈ out, ∃ device, frame.deviceNumber = deviceText device := by
  have hdevice : ∃ device, (joined continuation f).deviceNumber = deviceText device := by
    cases continuation with
    | none => exact hf.1
    | some held => exact (hopen held rfl).device
  rcases acceptFrame_cases h with ⟨rfl, rfl, hshort⟩ | ⟨rfl, rfl⟩ | ⟨frame, hframe, rfl, rfl⟩
  · refine ⟨?_, by simp⟩
    rintro m ⟨⟩
    refine ⟨hdevice, ?_⟩
    cases continuation with
    | none => exact (Nat.le_add_left _ _).trans hf.2
    | some held => exact hshort (by simp)
  · refine ⟨by simp, ?_⟩
    rintro frame ⟨⟩
    exact hdevice
  · refine ⟨by simp, ?_⟩
    rintro frame' ⟨⟩
    rw [(decodeMessage_header hframe).1]
    exact hdevice

/-! ## The codec is a reader -/

def Front.behind (ys : List UInt8) : Front → Front
  | .more => .more
  | .oversize n => .oversize n
  | .frame f rest => .frame f (rest ++ ys)

theorem bytesAt_append (ys : List UInt8) (h : i + n ≤ bytes.length) :
    bytesAt (bytes ++ ys) i n = bytesAt bytes i n := by
  have h' : i + n ≤ (bytes ++ ys).length := by
    rw [List.length_append]
    omega
  rw [bytesAt_ok h, bytesAt_ok h', List.drop_append_of_le_length (by omega),
    List.take_append_of_le_length (by rw [List.length_drop]; omega)]

theorem readFront_append (ys : List UInt8) (h : readFront buf ≠ .ok .more) :
    readFront (buf ++ ys) = (readFront buf).map (Front.behind ys) := by
  unfold readFront at h ⊢
  have hle : buf.length ≤ (buf ++ ys).length := by simp
  by_cases hshort : buf.length < 2
  · exact absurd (if_pos hshort) h
  rw [if_neg hshort] at h ⊢
  rw [if_neg (by omega)]
  rw [u16At, bytesAt_append ys (by omega), ← u16At]
  cases hl : u16At buf 0 with
  | error p => rfl
  | ok len =>
    rw [hl] at h
    replace h : (if 2 + postLengthHeader + len.toNat > maxFrameSize then _ else _) ≠ _ := h
    show (if 2 + postLengthHeader + len.toNat > maxFrameSize then _ else _)
      = Except.map _ (if 2 + postLengthHeader + len.toNat > maxFrameSize then _ else _)
    by_cases hover : 2 + postLengthHeader + len.toNat > maxFrameSize
    · rw [if_pos hover, if_pos hover]
      rfl
    rw [if_neg hover] at h ⊢
    rw [if_neg hover]
    by_cases hmore : buf.length < 2 + postLengthHeader + len.toNat
    · exact absurd (if_pos hmore) h
    rw [if_neg hmore, if_neg (by omega), bytesAt_append ys (by omega)]
    cases bytesAt buf 0 (2 + postLengthHeader + len.toNat) with
    | error p => rfl
    | ok frame =>
      show readFrame frame >>= _ = Except.map _ (readFrame frame >>= _)
      cases readFrame frame with
      | error p => rfl
      | ok f =>
        rw [List.drop_append_of_le_length (by omega)]
        rfl

def reader : Reader (Option ContinuationState) UInt8 BravePiFrame where
  read continuation buf :=
    match readFront buf with
    | .ok (.frame f rest) =>
      match acceptFrame continuation f with
      | .ok (out, cont) => .take out cont rest
      | .error _ => .more
    | .ok (.oversize n) => .stop (oversizeError n)
    | _ => .more
  shorter := by
    intro s s' xs rest out h
    split at h
    · next f rest' hf =>
      have := readFront_shorter hf
      split at h <;> cases h
      exact this
    · cases h
    · cases h
  take_append := by
    intro s s' xs rest out ys h
    split at h
    · next f rest' hf =>
      rw [readFront_append ys (by simp [hf]), hf]
      simp only [Except.map, Front.behind]
      split at h <;> cases h
      rfl
    · cases h
    · cases h
  stop_append := by
    intro s xs out ys h
    split at h
    · split at h <;> cases h
    · next n hn =>
      rw [readFront_append ys (by simp [hn]), hn]
      exact h
    · cases h

theorem reader_more {continuation : Option ContinuationState} (h : readFront buf = .ok .more) :
    reader.read continuation buf = .more := by
  simp [reader, h]

theorem reader_oversize {continuation : Option ContinuationState}
    (h : readFront buf = .ok (.oversize n)) :
    reader.read continuation buf = .stop (oversizeError n) := by
  simp [reader, h]

theorem reader_frame {continuation cont : Option ContinuationState} {out : Option BravePiFrame}
    (h : readFront buf = .ok (.frame f rest)) (hout : acceptFrame continuation f = .ok (out, cont)) :
    reader.read continuation buf = .take out cont rest := by
  simp [reader, h, hout]

/-! ## The reading loop drains the reader -/

def left : Option (Option ContinuationState × List UInt8) → BravePiCodec
  | none => new
  | some (continuation, rest) => ⟨rest, continuation⟩

theorem drain_of_more (h : decode c = .ok (none, c')) : drain c = .ok ([], c') := by
  rw [drain]
  split <;> simp_all

theorem drain_of_frame {frame : BravePiFrame} (h : decode c = .ok (some frame, c')) :
    drain c = (drain c').map fun r => (frame :: r.1, r.2) := by
  rw [drain]
  split <;> simp_all

theorem drain_again (h : decodeOnce c = .ok (.again c')) : drain c = drain c' := by
  obtain ⟨frame, c'', hd⟩ := decode_ok c'
  have hd' := (decode_again h).trans hd
  cases frame with
  | none => rw [drain_of_more hd, drain_of_more hd']
  | some frame => rw [drain_of_frame hd, drain_of_frame hd']

theorem drain_new : drain new = .ok ([], new) := by
  apply drain_of_more
  exact decode_done rfl

theorem drain_eq (c : BravePiCodec) :
    drain c = .ok ((reader.drain c.continuation c.buf).1,
      left (reader.drain c.continuation c.buf).2) := by
  induction hn : c.buf.length using Nat.strong_induction_on generalizing c with
  | _ n ih =>
    obtain ⟨turn, hturn⟩ := decodeOnce_ok c
    rcases decodeOnce_cases hturn with ⟨hmore, rfl⟩ | ⟨k, hover, rfl⟩
      | ⟨f, rest, out, cont, hf, hout, rfl⟩
    · rw [drain_of_more (decode_done hturn), reader.drain_more (reader_more hmore)]
      rfl
    · rw [drain_of_frame (decode_done hturn), drain_new, reader.drain_stop (reader_oversize hover)]
      rfl
    · have ih := ih rest.length (hn ▸ readFront_shorter hf) ⟨rest, cont⟩ rfl
      rw [reader.drain_take (reader_frame hf hout)]
      cases out with
      | none =>
        rw [drain_again hturn, ih]
        rfl
      | some frame =>
        rw [drain_of_frame (decode_done hturn), ih]
        rfl

/-! ## Up to the first oversize frame -/

def BravePiFrame.isOversize : BravePiFrame → Bool
  | .decodeError deviceNumber _ _ => deviceNumber = "unknown"
  | _ => false

def throughOversize : List BravePiFrame → List BravePiFrame
  | [] => []
  | frame :: frames => if frame.isOversize then [frame] else frame :: throughOversize frames

theorem deviceText_ne_unknown (device : UInt64) : deviceText device ≠ "unknown" := by
  intro h
  have := congrArg (fun s : String => s.toList.length) h
  simp [deviceText, hexDigits_length] at this

theorem isOversize_of_device {frame : BravePiFrame}
    (h : ∃ device, frame.deviceNumber = deviceText device) : frame.isOversize = false := by
  obtain ⟨device, h⟩ := h
  cases frame with
  | sensor => rfl
  | config => rfl
  | decodeError deviceNumber sensorTypeRaw reason =>
    have hd : deviceNumber = deviceText device := h
    simp [BravePiFrame.isOversize, hd, deviceText_ne_unknown]

theorem throughOversize_append {frames : List BravePiFrame}
    (h : ∀ frame ∈ frames, frame.isOversize = false) (more : List BravePiFrame) :
    throughOversize (frames ++ more) = frames ++ throughOversize more := by
  induction frames with
  | nil => rfl
  | cons frame frames ih =>
    simp only [List.cons_append, throughOversize, h frame List.mem_cons_self,
      Bool.false_eq_true, if_false]
    rw [ih fun frame' hmem => h frame' (List.mem_cons_of_mem _ hmem)]

theorem drain_frames (buf : List UInt8) {continuation : Option ContinuationState}
    (hopen : ∀ m ∈ continuation, Open m) :
    match reader.drain continuation buf with
    | (outs, none) => ∀ more, throughOversize (outs ++ more) = outs
    | (outs, some (cont, _)) =>
      (∀ m ∈ cont, Open m) ∧ ∀ frame ∈ outs, frame.isOversize = false := by
  induction hn : buf.length using Nat.strong_induction_on generalizing continuation buf with
  | _ n ih =>
    obtain ⟨front, hfront, hf⟩ := readFront_ok buf
    cases front with
    | more =>
      rw [reader.drain_more (reader_more hfront)]
      exact ⟨hopen, by simp⟩
    | oversize k =>
      rw [reader.drain_stop (reader_oversize hfront)]
      intro more
      simp [throughOversize, oversizeError, BravePiFrame.isOversize]
    | frame f rest =>
      obtain ⟨out, cont, hout⟩ := acceptFrame_ok continuation f
      obtain ⟨hcont, hdevice⟩ := acceptFrame_open (hf f rest rfl) hopen hout
      have hhead : ∀ frame ∈ out.toList, frame.isOversize = false := fun frame hmem =>
        isOversize_of_device (hdevice frame (by simpa using hmem))
      have ih := ih rest.length (hn ▸ readFront_shorter hfront) rest hcont rfl
      rw [reader.drain_take (reader_frame hfront hout)]
      rcases hd : reader.drain cont rest with ⟨outs, _ | ⟨cont', rest'⟩⟩ <;> rw [hd] at ih
      · intro more
        rw [List.append_assoc, throughOversize_append hhead, ih more]
      · refine ⟨ih.1, fun frame hmem => ?_⟩
        rcases List.mem_append.1 hmem with hmem | hmem
        · exact hhead frame hmem
        · exact ih.2 frame hmem

theorem feedAll_ok : ∀ (c : BravePiCodec) (chunks : List (List UInt8)),
    ∃ r, feedAll c chunks = .ok r
  | c, [] => ⟨_, rfl⟩
  | c, chunk :: chunks => by
    obtain ⟨r', hr'⟩ := feedAll_ok (left (reader.drain c.continuation (c.buf ++ chunk)).2) chunks
    rw [feedAll, drain_eq]
    simp only [bind, Except.bind, feed, hr']
    exact ⟨_, rfl⟩

theorem feedAll_frames {r : List BravePiFrame × BravePiCodec} : ∀ {c : BravePiCodec}
    (chunks : List (List UInt8)), (∀ m ∈ c.continuation, Open m) → feedAll c chunks = .ok r →
      throughOversize r.1 = (reader.feed c.continuation c.buf chunks).1
  | c, [], _, h => by
    cases h
    rfl
  | c, chunk :: chunks, hopen, h => by
    have hframes := drain_frames (c.buf ++ chunk) hopen
    rw [feedAll, drain_eq] at h
    obtain ⟨_, ⟨⟩, h⟩ := bind_eq_ok h
    obtain ⟨r', hr', h⟩ := bind_eq_ok h
    cases h
    dsimp only [feed] at hr' ⊢
    rw [Reader.feed]
    rcases hd : reader.drain c.continuation (c.buf ++ chunk) with ⟨outs, _ | ⟨cont, rest⟩⟩ <;>
      rw [hd] at hframes hr'
    · exact hframes r'.1
    · rw [throughOversize_append hframes.2]
      exact congrArg (outs ++ ·) (feedAll_frames chunks hframes.1 hr')

theorem decodeOnce_open (hopen : ∀ m ∈ c.continuation, Open m) {turn : Turn}
    (h : decodeOnce c = .ok turn) (ht : turn = .again c' ∨ ∃ frame, turn = .done frame c') :
    ∀ m ∈ c'.continuation, Open m := by
  rcases decodeOnce_cases h with ⟨-, rfl⟩ | ⟨n, -, rfl⟩ | ⟨f, rest, out, cont, hfront, hout, rfl⟩
  · simp only [reduceCtorEq, Turn.done.injEq, false_or] at ht
    obtain ⟨-, -, rfl⟩ := ht
    exact hopen
  · simp only [reduceCtorEq, Turn.done.injEq, false_or] at ht
    obtain ⟨-, -, rfl⟩ := ht
    simp [new]
  · obtain ⟨front, hfront', hf⟩ := readFront_ok c.buf
    cases hfront.symm.trans hfront'
    have hcont := (acceptFrame_open (hf f rest rfl) hopen hout).1
    cases out <;>
      simp only [Turn.again.injEq, reduceCtorEq, Turn.done.injEq, exists_false, or_false,
        false_or] at ht
    · exact ht ▸ hcont
    · obtain ⟨-, -, rfl⟩ := ht
      exact hcont

theorem decode_open (hopen : ∀ m ∈ c.continuation, Open m) {frame : Option BravePiFrame}
    (h : decode c = .ok (frame, c')) : ∀ m ∈ c'.continuation, Open m := by
  fun_induction decode c with
  | case1 => cases h
  | case2 c frame' c'' hd =>
    cases h
    exact decodeOnce_open hopen hd (.inr ⟨frame, rfl⟩)
  | case3 c c'' hd hlt ih => exact ih (decodeOnce_open hopen hd (.inl rfl)) h

theorem call_open (hopen : ∀ m ∈ c.continuation, Open m) {e : Call} (h : c.call e = some c') :
    ∀ m ∈ c'.continuation, Open m := by
  cases e with
  | feed data =>
    cases h
    exact hopen
  | decode =>
    obtain ⟨frame, c'', hd⟩ := decode_ok c
    simp only [call, hd, Option.some.injEq] at h
    exact decode_open hopen (h ▸ hd)

/-- No call is out of range, the frames up to an oversize one do not depend on how the stream is cut,
and between calls the payload held is within the limit. -/
theorem decoding_independent_of_chunks :
    (∀ c : BravePiCodec, ∃ frame c', decode c = .ok (frame, c'))
    ∧ (∀ chunks chunks' : List (List UInt8), chunks.flatten = chunks'.flatten →
      ∃ r r', feedAll new chunks = .ok r ∧ feedAll new chunks' = .ok r'
        ∧ throughOversize r.1 = throughOversize r'.1)
    ∧ ∀ calls : List Call, ∃ c, Machine.run call new calls = some c
      ∧ ∀ m ∈ c.continuation, m.payload.length ≤ maxFrameSize := by
  have hnew : ∀ m ∈ new.continuation, Open m := by simp [new]
  refine ⟨decode_ok, ?_, ?_⟩
  · intro chunks chunks' hflat
    obtain ⟨r, hr⟩ := feedAll_ok new chunks
    obtain ⟨r', hr'⟩ := feedAll_ok new chunks'
    have hmore : reader.read new.continuation new.buf = .more := rfl
    refine ⟨r, r', hr, hr', ?_⟩
    rw [feedAll_frames chunks hnew hr, feedAll_frames chunks' hnew hr',
      reader.feed_eq_drain chunks hmore, reader.feed_eq_drain chunks' hmore, hflat]
  · intro calls
    have hruns : ∀ (calls : List Call) (c : BravePiCodec), ∃ c', Machine.run call c calls = some c' := by
      intro calls
      induction calls with
      | nil => exact fun c => ⟨c, rfl⟩
      | cons e calls ih =>
        intro c
        cases e with
        | feed data => exact ih (c.feed data)
        | decode =>
          obtain ⟨frame, c', hd⟩ := decode_ok c
          obtain ⟨c'', hc''⟩ := ih c'
          exact ⟨c'', by simpa [Machine.run, call, hd] using hc''⟩
    obtain ⟨c, hc⟩ := hruns calls new
    have hopen : ∀ m ∈ c.continuation, Open m :=
      Machine.run_invariant (I := fun c => ∀ m ∈ c.continuation, Open m)
        (fun _ _ _ h hs => call_open h hs) hnew hc
    exact ⟨c, hc, fun m hm => (hopen m hm).short⟩

end BravePi

end EdgeNode
