import EdgeNode.Proofs.Codec

/-!
# The wire frames a decoded frame is made of

`Traced` is the codec with a history: the wire frames joined into the open message, and with every
frame returned those it was made of (`Made`). The codec does not compare headers when it joins, so a
frame of another device that comes while a message is open ends up inside it. Where the line never
does that (`uniform`), no returned frame mixes devices.
-/

namespace EdgeNode

namespace BravePi

open BravePiCodec

structure Traced where
  codec : BravePiCodec
  sources : List WireFrame
  returned : List (BravePiFrame × List WireFrame)

namespace Traced

def new : Traced := ⟨.new, [], []⟩

def decode (t : Traced) : Except Panic Traced :=
  match h : readFront t.codec.buf with
  | .error p => .error p
  | .ok .more => .ok t
  | .ok (.oversize n) => .ok ⟨.new, [], t.returned ++ [(oversizeError n, [])]⟩
  | .ok (.frame f rest) =>
    have := readFront_shorter h
    match acceptFrame t.codec.continuation f with
    | .error p => .error p
    | .ok (none, cont) => decode ⟨⟨rest, cont⟩, t.sources ++ [f], t.returned⟩
    | .ok (some frame, cont) => .ok ⟨⟨rest, cont⟩, [], t.returned ++ [(frame, t.sources ++ [f])]⟩
termination_by t.codec.buf.length

def call (t : Traced) : Call → Option Traced
  | .feed data => some { t with codec := t.codec.feed data }
  | .decode => t.decode.toOption

end Traced

def gathered (sources : List WireFrame) : Option ContinuationState :=
  sources.head?.map fun first =>
    ⟨first.deviceNumber, first.sensorTypeRaw, first.rssi, sources.flatMap (·.payload)⟩

def Made (frame : BravePiFrame) (sources : List WireFrame) : Prop :=
  (gathered sources).map decodeMessage = some (.ok frame)

def BravePiFrame.isReading : BravePiFrame → Bool
  | .sensor _ => true
  | .config _ => true
  | .decodeError _ _ _ => false

/-- Every byte of the frame's payload is from a wire frame with its device number and sensor type. -/
structure Unmixed (frame : BravePiFrame) (sources : List WireFrame) : Prop where
  made : Made frame sources
  same : ∀ f ∈ sources, f.payload ≠ [] →
    f.deviceNumber = frame.deviceNumber ∧ f.sensorTypeRaw = frame.sensorTypeRaw

def BravePiCodec.frames (c : BravePiCodec) : List Call → List BravePiFrame
  | [] => []
  | .feed data :: calls => (c.feed data).frames calls
  | .decode :: calls => match c.decode with
    | .ok (frame, c') => frame.toList ++ c'.frames calls
    | .error _ => []

/-- A wire frame that may be joined to an open message: it is of the same device and sensor type, or
adds no byte. -/
def fitsMessage (f : WireFrame) (m : ContinuationState) : Bool :=
  f.payload = [] ∨ f.deviceNumber = m.deviceNumber ∧ f.sensorTypeRaw = m.sensorTypeRaw

/-- Each wire frame that a call of `decode` reads while a message is open belongs to the message. -/
def BravePiCodec.uniform (c : BravePiCodec) : Bool :=
  match h : readFront c.buf with
  | .ok (.frame f rest) =>
    have := readFront_shorter h
    c.continuation.all (fitsMessage f) && match acceptFrame c.continuation f with
      | .ok (none, cont) => uniform ⟨rest, cont⟩
      | _ => true
  | _ => true
termination_by c.buf.length

def Steady (t : Traced) : Call → Prop
  | .feed _ => True
  | .decode => t.codec.uniform = true

instance (t : Traced) : ∀ e, Decidable (Steady t e)
  | .feed _ => isTrue trivial
  | .decode => inferInstanceAs (Decidable (_ = true))

theorem traced_decode_ok (t : Traced) : ∃ t' frame, t.decode = .ok t'
    ∧ t.codec.decode = .ok (frame, t'.codec)
    ∧ t'.returned.map Prod.fst = t.returned.map Prod.fst ++ frame.toList := by
  induction hn : t.codec.buf.length using Nat.strong_induction_on generalizing t with
  | _ n ih =>
    obtain ⟨turn, hturn⟩ := decodeOnce_ok t.codec
    rcases decodeOnce_cases hturn with ⟨hmore, rfl⟩ | ⟨k, hover, rfl⟩
      | ⟨f, rest, out, cont, hf, hout, rfl⟩
    · refine ⟨t, none, ?_, decode_done hturn, by simp⟩
      rw [Traced.decode]
      split <;> simp_all
    · refine ⟨⟨.new, [], t.returned ++ [(oversizeError k, [])]⟩, some (oversizeError k), ?_,
        decode_done hturn, by simp⟩
      rw [Traced.decode]
      split <;> simp_all
    · cases out with
      | none =>
        obtain ⟨t', frame, ht', hd, hreturned⟩ := ih rest.length (hn ▸ readFront_shorter hf)
          ⟨⟨rest, cont⟩, t.sources ++ [f], t.returned⟩ rfl
        refine ⟨t', frame, ?_, (decode_again hturn).trans hd, hreturned⟩
        rw [Traced.decode]
        split <;> simp_all
      | some frame =>
        refine ⟨⟨⟨rest, cont⟩, [], t.returned ++ [(frame, t.sources ++ [f])]⟩, some frame, ?_,
          decode_done hturn, by simp⟩
        rw [Traced.decode]
        split <;> simp_all

theorem traced_run {t : Traced} : ∀ {calls : List Call} {s : Traced},
    Machine.run Traced.call s calls = some t →
      Machine.run BravePiCodec.call s.codec calls = some t.codec
      ∧ t.returned.map Prod.fst = s.returned.map Prod.fst ++ s.codec.frames calls
  | [], s, h => by
    cases h
    exact ⟨rfl, by simp [BravePiCodec.frames]⟩
  | .feed data :: calls, s, h => traced_run (s := { s with codec := s.codec.feed data }) h
  | .decode :: calls, s, h => by
    obtain ⟨s', frame, hs', hd, hreturned⟩ := traced_decode_ok s
    obtain ⟨u, hu, h⟩ := Machine.run_cons.1 h
    simp only [Traced.call, hs', Except.toOption, Option.some.injEq] at hu
    subst hu
    obtain ⟨hrun, hmap⟩ := traced_run h
    refine ⟨?_, ?_⟩
    · simpa [Machine.run, BravePiCodec.call, hd] using hrun
    · rw [hmap, hreturned, List.append_assoc]
      simp [BravePiCodec.frames, hd]

/-! ## What the history shows -/

structure Gathers (t : Traced) : Prop where
  message : t.codec.continuation = gathered t.sources
  same : ∀ m ∈ t.codec.continuation, ∀ f ∈ t.sources, fitsMessage f m = true
  returned : ∀ r ∈ t.returned, r.1.isReading = true → Unmixed r.1 r.2

theorem gathered_concat (sources : List WireFrame) (f : WireFrame) :
    gathered (sources ++ [f]) = some (joined (gathered sources) f) := by
  cases sources with
  | nil => simp [gathered, joined, WireFrame.start]
  | cons first more => simp [gathered, joined, ContinuationState.extend]

theorem fitsMessage_joined {sources : List WireFrame} {f : WireFrame}
    (hsame : ∀ m ∈ gathered sources, ∀ g ∈ sources, fitsMessage g m = true)
    (hf : (gathered sources).all (fitsMessage f) = true) :
    ∀ g ∈ sources ++ [f], fitsMessage g (joined (gathered sources) f) = true := by
  intro g hg
  cases sources with
  | nil =>
    obtain rfl := List.mem_singleton.1 hg
    simp [fitsMessage, joined, gathered, WireFrame.start]
  | cons first more =>
    rcases List.mem_append.1 hg with hg | hg
    · exact hsame _ rfl g hg
    · obtain rfl := List.mem_singleton.1 hg
      exact hf

theorem unmixed_of_fits {sources : List WireFrame} {m : ContinuationState} {frame : BravePiFrame}
    (hm : gathered sources = some m) (hframe : decodeMessage m = .ok frame)
    (hfits : ∀ g ∈ sources, fitsMessage g m = true) : Unmixed frame sources := by
  refine ⟨by simp [Made, hm, hframe], fun g hg hbytes => ?_⟩
  have hheader := decodeMessage_header hframe
  rw [hheader.1, hheader.2]
  simpa [fitsMessage, hbytes] using hfits g hg

theorem uniform_frame {c : BravePiCodec} {f : WireFrame} {rest : List UInt8}
    (h : readFront c.buf = .ok (.frame f rest)) (hu : c.uniform = true) :
    c.continuation.all (fitsMessage f) = true
    ∧ ∀ cont, acceptFrame c.continuation f = .ok (none, cont) → uniform ⟨rest, cont⟩ = true := by
  rw [uniform] at hu
  split at hu
  · next f' rest' hf =>
    cases h.symm.trans hf
    obtain ⟨hfits, hnext⟩ := Bool.and_eq_true_iff.1 hu
    exact ⟨hfits, fun cont hcont => by simpa [hcont] using hnext⟩
  · next hno => exact absurd h (hno f rest)

theorem Gathers.decode {t t' : Traced} (h : Gathers t) (hu : t.codec.uniform = true)
    (hd : t.decode = .ok t') : Gathers t' := by
  fun_induction Traced.decode t with
  | case1 => cases hd
  | case2 =>
    cases hd
    exact h
  | case3 t n hover =>
    cases hd
    refine ⟨rfl, by simp [BravePiCodec.new], fun r hr hreading => ?_⟩
    rcases List.mem_append.1 hr with hr | hr
    · exact h.returned r hr hreading
    · obtain rfl := List.mem_singleton.1 hr
      cases hreading
  | case4 => cases hd
  | case5 t f rest hf hlt cont hout ih =>
    obtain ⟨hfits, hnext⟩ := uniform_frame hf hu
    have hall := fitsMessage_joined (h.message ▸ h.same) (h.message ▸ hfits)
    rcases acceptFrame_cases hout with ⟨-, rfl, -⟩ | ⟨⟨⟩, -⟩ | ⟨frame, -, ⟨⟩, -⟩
    rw [h.message] at hnext hout ih hd
    refine ih ⟨(gathered_concat t.sources f).symm, ?_, h.returned⟩ (hnext _ hout) hd
    rintro m ⟨⟩
    exact hall
  | case6 t f rest hf hlt frame cont hout =>
    obtain ⟨hfits, -⟩ := uniform_frame hf hu
    have hall := fitsMessage_joined (h.message ▸ h.same) (h.message ▸ hfits)
    cases hd
    rcases acceptFrame_cases hout with ⟨⟨⟩, -, -⟩ | ⟨hover, rfl⟩ | ⟨frame', hframe, ⟨⟩, rfl⟩
    · refine ⟨rfl, by simp, fun r hr hreading => ?_⟩
      rcases List.mem_append.1 hr with hr | hr
      · exact h.returned r hr hreading
      · obtain rfl := List.mem_singleton.1 hr
        cases hover
        cases hreading
    · refine ⟨rfl, by simp, fun r hr hreading => ?_⟩
      rcases List.mem_append.1 hr with hr | hr
      · exact h.returned r hr hreading
      · obtain rfl := List.mem_singleton.1 hr
        rw [h.message] at hframe
        exact unmixed_of_fits (gathered_concat t.sources f) hframe hall

theorem Gathers.call {t t' : Traced} {e : Call} (hsteady : Steady t e) (h : Gathers t)
    (ht : t.call e = some t') : Gathers t' := by
  cases e with
  | feed data =>
    cases ht
    exact ⟨h.message, h.same, h.returned⟩
  | decode =>
    obtain ⟨t'', frame, hd, -⟩ := traced_decode_ok t
    simp only [Traced.call, hd, Except.toOption, Option.some.injEq] at ht
    exact h.decode hsteady (ht ▸ hd)

/-- As long as no wire frame of another device or sensor type brings bytes while a message is open,
every sensor or configuration frame the codec returns is made of its own device's bytes. -/
theorem no_device_is_mixed {calls : List Call} {t : Traced}
    (hsteady : Machine.Along Traced.call Steady Traced.new calls)
    (hrun : Machine.run Traced.call Traced.new calls = some t) :
    t.returned.map Prod.fst = BravePiCodec.new.frames calls
    ∧ ∀ r ∈ t.returned, r.1.isReading = true → Unmixed r.1 r.2 := by
  have hnew : Gathers Traced.new := ⟨rfl, by simp [Traced.new, BravePiCodec.new], by simp [Traced.new]⟩
  refine ⟨by simpa [Traced.new] using (traced_run hrun).2, ?_⟩
  exact (Machine.run_invariant_along (fun _ _ _ hs h ht => h.call hs ht) hsteady hnew hrun).returned

/-! ## Two devices on one line -/

def firstHalf : List UInt8 := [3, 0, 1, 0, 0, 0, 0, 0, 0, 0, 1, 1, 0xb0, 1, 90, 2, 0]
def secondHalf : List UInt8 := [2, 0, 1, 0, 0, 0, 0, 0, 0, 0, 1, 1, 0xb0, 0, 0x11, 0x12]
def otherDevice : List UInt8 := [4, 0, 2, 0, 0, 0, 0, 0, 0, 0, 1, 1, 0xc0, 0, 80, 1, 0, 0x22]

theorem two_devices_in_turn : ∃ t, Machine.run Traced.call Traced.new
      [.feed firstHalf, .decode, .feed secondHalf, .decode, .feed otherDevice, .decode] = some t
    ∧ t.returned.length = 2 ∧ ∀ r ∈ t.returned, r.1.isReading = true → Unmixed r.1 r.2 := by
  have hrun : (Machine.run Traced.call Traced.new
      [.feed firstHalf, .decode, .feed secondHalf, .decode, .feed otherDevice, .decode]).map
        (fun t => t.returned.length) = some 2 := by decide +kernel
  obtain ⟨t, ht, hlen⟩ := Option.map_eq_some_iff.1 hrun
  exact ⟨t, ht, hlen, (no_device_is_mixed (by decide +kernel) ht).2⟩

/-- The last frame of device 1 is lost and device 2 speaks: the reading returned for device 1 ends
with the bytes of device 2. -/
theorem lost_frame_mixes_devices : (Machine.run Traced.call Traced.new
      [.feed (firstHalf ++ otherDevice), .decode]).map (fun t => t.returned)
    = some [(.sensor ⟨"0000000000000001", 0x101, -80, 90, 2, [80, 1, 0, 0x22]⟩,
      [⟨"0000000000000001", 0x101, -80, 1, [90, 2, 0]⟩,
        ⟨"0000000000000002", 0x101, -64, 0, [80, 1, 0, 0x22]⟩])]
    ∧ ¬ Unmixed (.sensor ⟨"0000000000000001", 0x101, -80, 90, 2, [80, 1, 0, 0x22]⟩)
      [⟨"0000000000000001", 0x101, -80, 1, [90, 2, 0]⟩,
        ⟨"0000000000000002", 0x101, -64, 0, [80, 1, 0, 0x22]⟩] := by
  refine ⟨by decide +kernel, fun h => ?_⟩
  have := (h.same ⟨"0000000000000002", 0x101, -64, 0, [80, 1, 0, 0x22]⟩ (by simp) (by simp)).1
  exact absurd this (by decide)

end BravePi

end EdgeNode
