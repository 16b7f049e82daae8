import EspNetwork.Serial.DeviceParser

/-!
# The host parser

`Parser.Feed` of `ctrl/proto/proto.go`. It allocates a body of the announced size for every
frame, counts in `int` and splits the command byte and the status off before the callback.
It is the common machine with freshly allocated cells, so on every stream it emits the frames
of the device parser as seen through `hostView`.
-/

namespace EspNetwork.Serial

/-- `Frame` of `ctrl/proto/proto.go`. -/
structure Frame where
  seq : Byte
  cmd : Byte
  isResp : Bool
  status : Byte
  payload : Bytes
  deriving DecidableEq, Repr

/-- `Parser`; `onFrame` records whether a callback is set. -/
structure Parser where
  state : ParseState
  bodyLen : UInt16
  body : Bytes
  bodyRecv : Nat
  crcH : Byte
  crcCalc : UInt16
  onFrame : Bool

/-- `NewParser` with a callback. -/
def newParser : Parser where
  state := .magic0
  bodyLen := 0
  body := []
  bodyRecv := 0
  crcH := 0
  crcCalc := 0xFFFF
  onFrame := true

namespace Parser

def reset (p : Parser) : Parser := { p with state := .magic0, crcCalc := 0xFFFF }

def updateCRC (p : Parser) (b : Byte) : Parser := { p with crcCalc := crcByte p.crcCalc b }

/-- The frame that a complete body is turned into. -/
def parsed (p : Parser) : Frame :=
  let cmdByte := p.body.getD 1 0
  let isResp := cmdByte &&& protoRespFlag != 0
  let f : Frame := ⟨p.body.getD 0 0, cmdByte &&& ~~~protoRespFlag, isResp, 0, []⟩
  if isResp && decide (2 < p.body.length) then
    { f with status := p.body.getD 2 0, payload := p.body.drop 3 }
  else { f with payload := p.body.drop 2 }

/-- One iteration of the loop of `Feed`, with the frames it calls back. -/
def feedByte (p : Parser) (b : Byte) : Parser × List Frame :=
  match p.state with
  | .magic0 =>
    if b = protoMagic0 then
      ({ updateCRC { p with crcCalc := 0xFFFF } b with state := .magic1 }, [])
    else (p, [])
  | .magic1 =>
    let p := p.updateCRC b
    if b = protoMagic1 then ({ p with state := .lenH }, [])
    else
      let p := p.reset
      if b = protoMagic0 then ({ p.updateCRC b with state := .magic1 }, []) else (p, [])
  | .lenH =>
    ({ p.updateCRC b with bodyLen := b.toUInt16 <<< 8, state := .lenL }, [])
  | .lenL =>
    let p := { p.updateCRC b with bodyLen := p.bodyLen ||| b.toUInt16 }
    if p.bodyLen.toNat < 2 ∨ 2 + protoMaxPayload < p.bodyLen.toNat then (p.reset, [])
    else
      ({ p with
        body := List.replicate p.bodyLen.toNat 0
        bodyRecv := 0
        state := .body }, [])
  | .body =>
    let p := { p.updateCRC b with body := p.body.set p.bodyRecv b, bodyRecv := p.bodyRecv + 1 }
    if p.bodyLen.toNat ≤ p.bodyRecv then ({ p with state := .crcH }, []) else (p, [])
  | .crcH => ({ p with crcH := b, state := .crcL }, [])
  | .crcL =>
    (p.reset, if ofPair p.crcH b = p.crcCalc ∧ p.onFrame = true then [p.parsed] else [])

end Parser

def hostParser : Transducer Parser Byte Frame := ⟨Parser.feedByte⟩

/-- `Parser.Feed`: the parser afterwards and the callbacks made, in order. -/
def Parser.feed (p : Parser) (data : Bytes) : Parser × List Frame := hostParser.feed p data

/-- Successive calls of `Parser.Feed` on the chunks of a stream. -/
def Parser.feedAll (p : Parser) (chunks : List Bytes) : Parser × List Frame :=
  hostParser.feedChunks p chunks

/-! ## How the host sees a frame -/

/-- The host's picture of a frame of the device: bit 7 of the command is the response flag,
and a response gives up the first byte of its payload as the status. -/
def hostView (f : ProtoFrame) : Frame :=
  let isResp := decide (0x80 ≤ f.cmd)
  match isResp, f.payload with
  | true, status :: data => ⟨f.seq, f.cmd &&& 0x7F, true, status, data⟩
  | _, _ => ⟨f.seq, f.cmd &&& 0x7F, isResp, 0, f.payload⟩

/-- The two ways of taking bit 7 off a command byte. -/
theorem respFlag_split (cmd : Byte) :
    (cmd &&& protoRespFlag != 0) = decide (0x80 ≤ cmd) ∧
      cmd &&& ~~~protoRespFlag = cmd &&& 0x7F := by
  have all : ∀ n : Fin 256, (UInt8.ofNat n &&& protoRespFlag != 0) = decide (0x80 ≤ UInt8.ofNat n) ∧
      UInt8.ofNat n &&& ~~~protoRespFlag = UInt8.ofNat n &&& 0x7F := by decide +kernel
  simpa using all ⟨cmd.toNat, cmd.toNat_lt⟩

namespace Parser

/-- A complete body becomes the host's picture of the device's frame. -/
theorem parsed_eq {p : Parser} {seq cmd : Byte} {payload : Bytes}
    (body : p.body = seq :: cmd :: payload) : p.parsed = hostView ⟨seq, cmd, payload⟩ := by
  obtain ⟨flag, bare⟩ := respFlag_split cmd
  simp only [parsed, hostView, body, List.getD_cons_succ, List.getD_cons_zero, flag, bare]
  cases payload with
  | nil => simp
  | cons status data => cases decide (0x80 ≤ cmd) <;> simp

def machine (p : Parser) : Machine where
  state := p.state
  bodyLen := p.bodyLen
  bodyRecv := p.bodyRecv
  cells := p.body
  crcHi := p.crcH
  crcCalc := p.crcCalc

/-- `make([]byte, bodyLen)`. -/
def freshCells (n : Nat) (_ : Bytes) : Bytes := List.replicate n 0

/-- The fields against the bytes read since the magic. The slice has exactly the announced
length while it is in use, so indexing it cannot panic. -/
structure Tracks (p : Parser) (pend : Bytes) : Prop where
  on : p.onFrame = true
  fields : p.machine.Tracks pend
  size : p.state = .body ∨ p.state = .crcH ∨ p.state = .crcL → p.body.length = p.bodyLen.toNat

/-- The loop body is a step of the machine. -/
theorem feedByte_eq_step {p : Parser} {pend : Bytes} (t : p.Tracks pend) (b : Byte) :
    (p.feedByte b).1.machine = (p.machine.step freshCells b).1 ∧
      (p.feedByte b).2 = (p.machine.step freshCells b).2.map hostView := by
  cases h : p.state with
  | magic0 =>
    by_cases hb : b = protoMagic0 <;>
      simp [feedByte, Machine.step, machine, h, hb, updateCRC, crcInit]
  | magic1 =>
    by_cases h1 : b = protoMagic1
    · simp [feedByte, Machine.step, machine, h, h1, updateCRC]
    · by_cases h0 : b = protoMagic0
      · subst h0
        simp [feedByte, Machine.step, machine, h, h1, updateCRC, reset, crcInit]
      · simp [feedByte, Machine.step, machine, h, h1, h0, updateCRC, reset, Machine.rewind,
          crcInit]
  | lenH => simp [feedByte, Machine.step, machine, h, updateCRC]
  | lenL =>
    simp only [feedByte, Machine.step, machine, h, updateCRC]
    generalize p.bodyLen ||| b.toUInt16 = len
    have guard : (len.toNat < 2 ∨ 2 + protoMaxPayload < len.toNat) ↔ ¬ ValidLen len.toNat := by
      unfold ValidLen; omega
    simp only [guard]
    by_cases valid : ValidLen len.toNat <;>
      simp [valid, reset, Machine.rewind, freshCells, crcInit]
  | body =>
    simp only [feedByte, Machine.step, machine, h, updateCRC]
    by_cases last : p.bodyLen.toNat ≤ p.bodyRecv + 1 <;> simp [last]
  | crcH => simp [feedByte, Machine.step, machine, h]
  | crcL =>
    have size := t.size (by simp [h])
    have valid := t.fields.validLen h
    obtain ⟨seq, cmd, payload, body⟩ := exists_seq_cmd (size ▸ valid.1)
    have whole : p.body.take p.bodyLen.toNat = seq :: cmd :: payload := by
      rw [← size, List.take_length, body]
    simp only [feedByte, Machine.step, machine, h, Machine.finish, whole, t.on, and_true]
    refine ⟨by simp [reset, Machine.rewind, crcInit], ?_⟩
    rw [parsed_eq body]
    split <;> rfl

/-- The slice keeps its announced length. -/
theorem feedByte_size {p : Parser} {pend : Bytes} (t : p.Tracks pend) (b : Byte) :
    (p.feedByte b).1.onFrame = true ∧
      ((p.feedByte b).1.state = .body ∨ (p.feedByte b).1.state = .crcH ∨
        (p.feedByte b).1.state = .crcL →
        (p.feedByte b).1.body.length = (p.feedByte b).1.bodyLen.toNat) := by
  have on := t.on
  cases h : p.state with
  | magic0 | magic1 =>
    simp only [feedByte, h]
    split_ifs <;> simp [reset, updateCRC, on, h]
  | lenH | crcL => simp [feedByte, h, reset, updateCRC, on]
  | lenL =>
    simp only [feedByte, h]
    split_ifs <;> simp [reset, updateCRC, on]
  | body =>
    have size := t.size (by simp [h])
    simp only [feedByte, h]
    split_ifs <;> simp [updateCRC, on, size]
  | crcH =>
    have size := t.size (by simp [h])
    simp [feedByte, h, on, size]

end Parser

/-- The parser tracks the assembler of the grammar through its fields. -/
theorem hostParser_simulates :
    Transducer.Simulation assembler hostParser hostView (fun pend p => p.Tracks pend) where
  related pend p b t := by
    obtain ⟨on, size⟩ := Parser.feedByte_size t b
    have tracked := (t.fields.step Parser.freshCells (fun n _ => by simp [Parser.freshCells]) b).1
    exact ⟨on, (Parser.feedByte_eq_step t b).1 ▸ tracked, size⟩
  outputs pend p b t := by
    have same := (t.fields.step Parser.freshCells (fun n _ => by simp [Parser.freshCells]) b).2
    exact (Parser.feedByte_eq_step t b).2.trans (congrArg _ same)

/-- What feeding does, in terms of the bytes already read since the magic. -/
theorem hostParser_feed {p : Parser} {pend : Bytes} (t : p.Tracks pend) (h : Unfinished pend)
    (bs : Bytes) :
    (hostParser.feed p bs).1.Tracks (assembler.feed pend bs).1 ∧
      (hostParser.feed p bs).2 = (scan (pend ++ bs)).map hostView := by
  obtain ⟨related, outputs⟩ := hostParser_simulates.feed t bs
  exact ⟨related, by rw [outputs, (assembler_feed h bs).2]⟩

theorem newParser_tracks : newParser.Tracks [] := ⟨rfl, .magic0 rfl, by simp [newParser]⟩

/-- The host parser emits the grammar's frames as the host sees them. -/
theorem feedAll_eq_scan (chunks : List Bytes) :
    (newParser.feedAll chunks).2 = (scan chunks.flatten).map hostView := by
  rw [Parser.feedAll, Transducer.feedChunks_eq_feed]
  exact (hostParser_feed newParser_tracks .none chunks.flatten).2

/-- **The two parsers agree.** On every stream, cut in any two ways, the host emits the
device's frames in the same order, each as `hostView` of the device's. -/
theorem hostParser_agrees {deviceChunks hostChunks : List Bytes}
    (same : hostChunks.flatten = deviceChunks.flatten) :
    (newParser.feedAll hostChunks).2 =
      (protoParserFeedAll protoParserCreate deviceChunks).2.map hostView := by
  rw [feedAll_eq_scan, protoParserFeedAll_frames deviceChunks, same]

/-- A response behind a stray `AA`, cut differently on the two sides. -/
theorem hostParser_agrees_stray :
    [[0xAA], [0xAA, 0x55, 0, 4, 7, 0x81], [0, 9, 0xF0, 0xF3]].flatten =
        ([[0xAA, 0xAA], [0x55, 0, 4], [7, 0x81, 0, 9, 0xF0], [0xF3]] : List Bytes).flatten ∧
      (newParser.feedAll [[0xAA], [0xAA, 0x55, 0, 4, 7, 0x81], [0, 9, 0xF0, 0xF3]]).2 =
        (protoParserFeedAll protoParserCreate
          [[0xAA, 0xAA], [0x55, 0, 4], [7, 0x81, 0, 9, 0xF0], [0xF3]]).2.map hostView ∧
      (newParser.feedAll [[0xAA], [0xAA, 0x55, 0, 4, 7, 0x81], [0, 9, 0xF0, 0xF3]]).2 =
        [⟨7, 1, true, 0, [9]⟩] :=
  ⟨rfl, hostParser_agrees rfl, by decide +kernel⟩

end EspNetwork.Serial
