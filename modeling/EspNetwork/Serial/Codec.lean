import EspNetwork.Serial.HostParser

/-!
# Encoders against decoders

The host's requests are read back by the device, and the device's responses and pushes by the
host. Every builder produces `encodeFrame` within its limits, and the assembler consumes an
encoded frame to the last byte, so lists of frames are read back whole for any chunking, also
when a payload contains magic bytes or complete frames.
-/

namespace EspNetwork.Serial

/-! ## An encoded frame in the assembler -/

/-- Bytes of an unfinished body are collected without output. -/
theorem assembler_feed_open (h l : Byte) (read more : Bytes)
    (short : (read ++ more).length ≤ (ofPair h l).toNat + 1) :
    assembler.feed (protoMagic0 :: protoMagic1 :: h :: l :: read) more =
      (protoMagic0 :: protoMagic1 :: h :: l :: (read ++ more), []) := by
  induction more generalizing read with
  | nil => simp
  | cons b more ih =>
    have unfilled : read.drop (ofPair h l).toNat = [] :=
      List.drop_eq_nil_of_le (by simp at short; omega)
    have step : assembler.step (protoMagic0 :: protoMagic1 :: h :: l :: read) b =
        (protoMagic0 :: protoMagic1 :: h :: l :: (read ++ [b]), []) := by
      simp [assembler, assemble, unfilled]
    rw [Transducer.feed_cons, step, ih (read ++ [b]) (by simpa using short)]
    simp

/-- A header is consumed with the body it announces and the CRC, which decides. -/
theorem assembler_feed_checked {h l : Byte} (valid : ValidLen (ofPair h l).toNat) {body : Bytes}
    (size : body.length = (ofPair h l).toNat) (c d : Byte) :
    assembler.feed [] ([protoMagic0, protoMagic1, h, l] ++ (body ++ [c, d])) =
      ([], checkedFrame h l body c d) := by
  have header : assembler.feed [] [protoMagic0, protoMagic1, h, l] =
      ([protoMagic0, protoMagic1, h, l], []) := by
    simp [Transducer.feed_cons, assembler, assemble, valid]
  have collected := assembler_feed_open h l [] (body ++ [c]) (by simp [size])
  have last : assembler.feed (protoMagic0 :: protoMagic1 :: h :: l :: (body ++ [c])) [d] =
      ([], checkedFrame h l body c d) := by
    simp only [Transducer.feed_cons, Transducer.feed_nil, assembler, assemble, ← size,
      List.drop_left, List.take_left, List.append_nil]
  have parts : body ++ [c, d] = (body ++ [c]) ++ [d] := by simp
  rw [parts, Transducer.feed_append, header, Transducer.feed_append, collected]
  simp [last]

/-- The announced length of a frame within the payload limit. -/
theorem toNat_frameLen {f : ProtoFrame} (fits : f.payload.length ≤ protoMaxPayload) :
    (UInt16.ofNat (2 + f.payload.length)).toNat = 2 + f.payload.length := by
  simp only [protoMaxPayload] at fits
  simp
  omega

theorem encodeFrame_eq (f : ProtoFrame) :
    let len := UInt16.ofNat (2 + f.payload.length)
    let crc := crc16 (frameHead len (f.seq :: f.cmd :: f.payload))
    encodeFrame f = [protoMagic0, protoMagic1, hiByte len, loByte len] ++
      (f.seq :: f.cmd :: f.payload ++ [hiByte crc, loByte crc]) := by
  simp [encodeFrame, sealFrame, frameHead]

/-- An encoded frame is consumed to its last byte and emitted. -/
theorem assembler_feed_encodeFrame {f : ProtoFrame} (fits : f.payload.length ≤ protoMaxPayload) :
    assembler.feed [] (encodeFrame f) = ([], [f]) := by
  have size := toNat_frameLen fits
  have valid : ValidLen (2 + f.payload.length) := ⟨by omega, by omega⟩
  rw [encodeFrame_eq, assembler_feed_checked (by rwa [ofPair_hiByte_loByte, size])
    (by rw [ofPair_hiByte_loByte, size]; simp; omega)]
  simp [checkedFrame, frameHead]

/-- Concatenated frames are emitted one by one, and nothing is left over. -/
theorem assembler_feed_encodeFrames {fs : List ProtoFrame}
    (fits : ∀ f ∈ fs, f.payload.length ≤ protoMaxPayload) :
    assembler.feed [] (fs.map encodeFrame).flatten = ([], fs) := by
  induction fs with
  | nil => rfl
  | cons f fs ih =>
    rw [List.map_cons, List.flatten_cons, Transducer.feed_append,
      assembler_feed_encodeFrame (fits f (by simp)), ih fun g hg => fits g (by simp [hg])]
    rfl

/-! ## The device reads what the host wrote -/

theorem Machine.Tracks.state_of_nil {m : Machine} (t : m.Tracks []) : m.state = .magic0 := by
  cases t with
  | magic0 state => exact state

/-- Frames on the wire, in any chunking, become exactly these callbacks. -/
theorem protoParserFeedAll_encodeFrames {fs : List ProtoFrame} {chunks : List Bytes}
    (fits : ∀ f ∈ fs, f.payload.length ≤ protoMaxPayload)
    (wire : chunks.flatten = (fs.map encodeFrame).flatten) :
    (protoParserFeedAll protoParserCreate chunks).2 = fs ∧
      (protoParserFeedAll protoParserCreate chunks).1.state = .magic0 := by
  have consumed := assembler_feed_encodeFrames fits
  obtain ⟨tracked, -⟩ := deviceParser_feed protoParserCreate_tracks .none chunks.flatten
  constructor
  · rw [protoParserFeedAll_frames, wire, ← List.nil_append (List.flatten _),
      ← (assembler_feed .none _).2, consumed]
  · rw [protoParserFeedAll, Transducer.feedChunks_eq_feed]
    rw [wire, consumed] at tracked
    rw [wire]
    exact tracked.state_of_nil

/-- `BuildRequest` on the fields of a frame. -/
def ProtoFrame.request (f : ProtoFrame) : Bytes := buildRequest f.seq f.cmd f.payload

theorem length_request {f : ProtoFrame} (fits : f.payload.length ≤ protoMaxPayload) :
    f.request.length = f.payload.length + 8 := by
  rw [ProtoFrame.request, buildRequest_eq_encodeFrame f.seq f.cmd fits, encodeFrame_eq]
  simp [frameHead]

theorem map_request_eq {fs : List ProtoFrame}
    (fits : ∀ f ∈ fs, f.payload.length ≤ protoMaxPayload) :
    fs.map ProtoFrame.request = fs.map encodeFrame :=
  List.map_congr_left fun f hf => buildRequest_eq_encodeFrame f.seq f.cmd (fits f hf)

/-! ## The host reads what the device wrote -/

/-- Frames on the wire, in any chunking, become what the host sees of them. -/
theorem feedAll_encodeFrames {fs : List ProtoFrame} {chunks : List Bytes}
    (fits : ∀ f ∈ fs, f.payload.length ≤ protoMaxPayload)
    (wire : chunks.flatten = (fs.map encodeFrame).flatten) :
    (newParser.feedAll chunks).2 = fs.map hostView := by
  rw [feedAll_eq_scan, wire, ← List.nil_append (List.flatten _), ← (assembler_feed .none _).2,
    assembler_feed_encodeFrames fits]

/-- The response flag is bit 7, which the host takes off again. -/
theorem respFlag_or (cmd : Byte) :
    0x80 ≤ cmd ||| protoRespFlag ∧ (cmd ||| protoRespFlag) &&& 0x7F = cmd &&& 0x7F := by
  have all : ∀ n : Fin 256, 0x80 ≤ UInt8.ofNat n ||| protoRespFlag ∧
      (UInt8.ofNat n ||| protoRespFlag) &&& 0x7F = UInt8.ofNat n &&& 0x7F := by decide +kernel
  simpa using all ⟨cmd.toNat, cmd.toNat_lt⟩

theorem hostView_response (seq cmd status : Byte) (data : Bytes) :
    hostView ⟨seq, cmd ||| protoRespFlag, status :: data⟩ =
      ⟨seq, cmd &&& 0x7F, true, status, data⟩ := by
  obtain ⟨flag, bare⟩ := respFlag_or cmd
  simp [hostView, flag, bare]

/-- A frame the device sends, with the arguments of its builder. -/
inductive DeviceFrame where
  | response (seq cmd status : Byte) (data : Option Bytes) (bufSize : Nat)
  | push (cmd : Byte) (data : Option Bytes) (bufSize : Nat)

namespace DeviceFrame

/-- The bytes the builder writes. -/
def build : DeviceFrame → Bytes
  | response seq cmd status data bufSize =>
    protoBuildResponse seq cmd status data (data.getD []).length bufSize
  | push cmd data bufSize => protoBuildPush cmd data (data.getD []).length bufSize

/-- The arguments the protocol allows: a plain command, a payload within the limit and a
buffer that holds the frame. -/
def WellFormed : DeviceFrame → Prop
  | response _ cmd _ data bufSize =>
    cmd < 0x80 ∧ (data.getD []).length ≤ 1023 ∧ 9 + (data.getD []).length ≤ bufSize
  | push cmd data bufSize =>
    cmd < 0x80 ∧ (data.getD []).length ≤ 1024 ∧ 8 + (data.getD []).length ≤ bufSize

/-- What the host is meant to read. -/
def hostFrame : DeviceFrame → Frame
  | response seq cmd status data _ => ⟨seq, cmd, true, status, data.getD []⟩
  | push cmd data _ => ⟨0, cmd, false, 0, data.getD []⟩

/-- The frame on the wire. -/
def wireFrame : DeviceFrame → ProtoFrame
  | response seq cmd status data _ => ⟨seq, cmd ||| protoRespFlag, status :: data.getD []⟩
  | push cmd data _ => ⟨0, cmd, data.getD []⟩

theorem WellFormed.fits {o : DeviceFrame} (h : o.WellFormed) :
    o.wireFrame.payload.length ≤ protoMaxPayload := by
  cases o with
  | response seq cmd status data bufSize =>
    obtain ⟨-, len, -⟩ := h
    simp only [wireFrame, List.length_cons, protoMaxPayload]; omega
  | push cmd data bufSize => exact h.2.1

theorem WellFormed.build_eq {o : DeviceFrame} (h : o.WellFormed) :
    o.build = encodeFrame o.wireFrame := by
  cases o with
  | response seq cmd status data bufSize =>
    obtain ⟨-, len, room⟩ := h
    exact protoBuildResponse_eq_encodeFrame seq cmd status data
      (by simp only [protoMaxPayload]; omega) room
  | push cmd data bufSize => exact protoBuildPush_eq_encodeFrame cmd data h.2.1 h.2.2

/-- A plain command leaves bit 7 clear. -/
theorem and_plain {cmd : Byte} (h : cmd < 0x80) : cmd &&& 0x7F = cmd := by
  have all : ∀ n : Fin 128, UInt8.ofNat n &&& 0x7F = UInt8.ofNat n := by decide +kernel
  simpa using all ⟨cmd.toNat, UInt8.lt_iff_toNat_lt.mp h⟩

theorem WellFormed.hostView_eq {o : DeviceFrame} (h : o.WellFormed) :
    hostView o.wireFrame = o.hostFrame := by
  cases o with
  | response seq cmd status data bufSize =>
    rw [wireFrame, hostView_response, and_plain h.1, hostFrame]
  | push cmd data bufSize =>
    have bare := and_plain h.1
    have plain : ¬ 0x80 ≤ cmd := UInt8.not_le.mpr h.1
    simp [hostView, wireFrame, hostFrame, plain, bare]

end DeviceFrame

/-- Frames from the device, in any chunking, become exactly these callbacks of the host. -/
theorem feedAll_deviceFrames {out : List DeviceFrame} {chunks : List Bytes}
    (wf : ∀ o ∈ out, o.WellFormed) (wire : chunks.flatten = (out.map DeviceFrame.build).flatten) :
    (newParser.feedAll chunks).2 = out.map DeviceFrame.hostFrame := by
  have built : out.map DeviceFrame.build = (out.map DeviceFrame.wireFrame).map encodeFrame := by
    rw [List.map_map]
    exact List.map_congr_left fun o ho => (wf o ho).build_eq
  have fits : ∀ f ∈ out.map DeviceFrame.wireFrame, f.payload.length ≤ protoMaxPayload := by
    intro f hf
    obtain ⟨o, ho, rfl⟩ := List.mem_map.mp hf
    exact (wf o ho).fits
  rw [feedAll_encodeFrames fits (wire.trans (congrArg List.flatten built)), List.map_map]
  exact List.map_congr_left fun o ho => (wf o ho).hostView_eq

/-- **The serial codec round trips in both directions.** -/
theorem serial_round_trip :
    (∀ (reqs : List ProtoFrame) (chunks : List Bytes),
      (∀ r ∈ reqs, r.payload.length ≤ 1024) →
      chunks.flatten = (reqs.map ProtoFrame.request).flatten →
      (protoParserFeedAll protoParserCreate chunks).2 = reqs ∧
        (protoParserFeedAll protoParserCreate chunks).1.state = .magic0) ∧
    (∀ (out : List DeviceFrame) (chunks : List Bytes),
      (∀ o ∈ out, o.WellFormed) →
      chunks.flatten = (out.map DeviceFrame.build).flatten →
      (newParser.feedAll chunks).2 = out.map DeviceFrame.hostFrame) := by
  refine ⟨fun reqs chunks fits wire => ?_, fun out chunks wf wire => feedAll_deviceFrames wf wire⟩
  rw [map_request_eq fits] at wire
  exact protoParserFeedAll_encodeFrames fits wire

/-- A request whose payload holds a magic pair, and a push behind a response. -/
theorem serial_round_trip_nested :
    ((protoParserFeedAll protoParserCreate
        [[0xAA], buildRequest 1 0x21 [0xAA, 0x55] |>.tail]).2 = [⟨1, 0x21, [0xAA, 0x55]⟩]) ∧
      (newParser.feedAll [protoBuildResponse 7 0x23 0 (some [1]) 1 1056,
        protoBuildPush 0x41 none 0 1056]).2 =
        [⟨7, 0x23, true, 0, [1]⟩, ⟨0, 0x41, false, 0, []⟩] := by
  refine ⟨(serial_round_trip.1 [⟨1, 0x21, [0xAA, 0x55]⟩] _ (by simp) ?_).1, ?_⟩
  · simp [ProtoFrame.request, buildRequest, protoMagic0]
  · exact serial_round_trip.2 [.response 7 0x23 0 (some [1]) 1056, .push 0x41 none 1056] _
      (by simp [DeviceFrame.WellFormed]) rfl

end EspNetwork.Serial
