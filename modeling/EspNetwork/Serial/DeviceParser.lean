import EspNetwork.Serial.Machine

/-!
# The device parser

`proto_parser_feed` of `main/proto.c`, a state machine with a fixed body array and a running
CRC. `parser_reset` only rewinds the state and the CRC: `body_len`, `body_recv`, `body` and
`crc_hi` keep whatever an earlier frame left in them. The parser is the common machine whose
cells are the fixed array, so it reads exactly the grammar and never leaves its arrays.
-/

namespace EspNetwork.Serial

/-- `struct proto_parser`, without the callback. -/
structure ProtoParser where
  state : ParseState
  bodyLen : UInt16
  bodyRecv : UInt16
  body : Vector Byte (2 + protoMaxPayload)
  crcHi : Byte
  crcCalc : UInt16

/-- `proto_parser_create`: `calloc` zeroes every field. -/
def protoParserCreate : ProtoParser where
  state := .magic0
  bodyLen := 0
  bodyRecv := 0
  body := Vector.replicate _ 0
  crcHi := 0
  crcCalc := crcInit

def parserReset (p : ProtoParser) : ProtoParser :=
  { p with state := .magic0, crcCalc := crcInit }

/-- The frame that `ST_CRC_L` hands to the callback. -/
def parsedFrame (p : ProtoParser) : ProtoFrame where
  seq := p.body[0]
  cmd := p.body[1]
  payload := (p.body.toList.drop 2).take (p.bodyLen - 2).toNat

/-- One iteration of the loop of `proto_parser_feed`, with the frames it calls back. -/
def protoParserByte (p : ProtoParser) (b : Byte) : ProtoParser × List ProtoFrame :=
  match p.state with
  | .magic0 =>
    if b = protoMagic0 then
      ({ p with crcCalc := crc16Update crcInit b, state := .magic1 }, [])
    else (p, [])
  | .magic1 =>
    let p := { p with crcCalc := crc16Update p.crcCalc b }
    if b = protoMagic1 then ({ p with state := .lenH }, [])
    else
      let p := parserReset p
      -- the byte that broke the magic may start the next one
      if b = protoMagic0 then
        ({ p with crcCalc := crc16Update crcInit b, state := .magic1 }, [])
      else (p, [])
  | .lenH =>
    ({ p with
      crcCalc := crc16Update p.crcCalc b
      bodyLen := b.toUInt16 <<< 8
      state := .lenL }, [])
  | .lenL =>
    let p := { p with crcCalc := crc16Update p.crcCalc b, bodyLen := p.bodyLen ||| b.toUInt16 }
    if p.bodyLen.toNat < 2 ∨ 2 + protoMaxPayload < p.bodyLen.toNat then (parserReset p, [])
    else ({ p with bodyRecv := 0, state := .body }, [])
  | .body =>
    let p := { p with
      crcCalc := crc16Update p.crcCalc b
      body := p.body.setIfInBounds p.bodyRecv.toNat b
      bodyRecv := p.bodyRecv + 1 }
    if p.bodyLen ≤ p.bodyRecv then ({ p with state := .crcH }, []) else (p, [])
  | .crcH => ({ p with crcHi := b, state := .crcL }, [])
  | .crcL =>
    (parserReset p, if ofPair p.crcHi b = p.crcCalc then [parsedFrame p] else [])

def deviceParser : Transducer ProtoParser Byte ProtoFrame := ⟨protoParserByte⟩

/-- `proto_parser_feed`: the parser afterwards and the callbacks made, in order. -/
def protoParserFeed (p : ProtoParser) (data : Bytes) : ProtoParser × List ProtoFrame :=
  deviceParser.feed p data

/-- Successive calls of `proto_parser_feed` on the chunks of a stream. -/
def protoParserFeedAll (p : ProtoParser) (chunks : List Bytes) : ProtoParser × List ProtoFrame :=
  deviceParser.feedChunks p chunks

/-! ## The parser as a machine over its array -/

def ProtoParser.machine (p : ProtoParser) : Machine where
  state := p.state
  bodyLen := p.bodyLen
  bodyRecv := p.bodyRecv.toNat
  cells := p.body.toList
  crcHi := p.crcHi
  crcCalc := p.crcCalc

/-- The array is never reallocated. -/
def keepCells (_ : Nat) (cells : Bytes) : Bytes := cells

/-- It holds a body of any valid length. -/
theorem ProtoParser.room (p : ProtoParser) (n : Nat) (valid : ValidLen n) :
    n ≤ (keepCells n p.machine.cells).length := by
  simp only [keepCells, machine, Vector.length_toList]
  exact valid.2

theorem exists_seq_cmd {body : Bytes} (h : 2 ≤ body.length) :
    ∃ seq cmd payload, body = seq :: cmd :: payload := by
  rcases body with _ | ⟨seq, _ | ⟨cmd, payload⟩⟩
  · simp at h
  · simp at h
  · exact ⟨seq, cmd, payload, rfl⟩

/-- The callback of `ST_CRC_L` gets the frame stored in the first `body_len` cells. -/
theorem finish_eq_parsedFrame (p : ProtoParser) (valid : ValidLen p.bodyLen.toNat) (b : Byte) :
    p.machine.finish b = if ofPair p.crcHi b = p.crcCalc then [parsedFrame p] else [] := by
  have full : (p.body.toList.take p.bodyLen.toNat).length = p.bodyLen.toNat := by
    rw [List.length_take]
    exact Nat.min_eq_left (p.room _ valid)
  obtain ⟨seq, cmd, payload, stored⟩ := exists_seq_cmd (full ▸ valid.1)
  have split : p.body.toList = seq :: cmd :: (payload ++ p.body.toList.drop p.bodyLen.toNat) := by
    conv_lhs => rw [← List.take_append_drop p.bodyLen.toNat p.body.toList, stored]
    rfl
  have first : p.body[0] = seq := by
    rw [← Vector.getElem_toList (by rw [split]; simp)]
    exact List.getElem_of_eq split _
  have second : p.body[1] = cmd := by
    rw [← Vector.getElem_toList (by rw [split]; simp)]
    exact List.getElem_of_eq split _
  have count : (p.bodyLen - 2).toNat = payload.length := by
    rw [stored] at full
    rw [UInt16.toNat_sub_of_le p.bodyLen 2 (UInt16.le_iff_toNat_le.mpr valid.1), ← full]
    rfl
  have frame : parsedFrame p = ⟨seq, cmd, payload⟩ := by
    rw [parsedFrame, first, second, count, split]
    simp
  simp only [Machine.finish, ProtoParser.machine, stored, frame]
  rfl

/-- The loop body is a step of the machine; counting in `uint16_t` does not show because
the next cell lies inside a valid body. -/
theorem protoParserByte_eq_step {p : ProtoParser} {pend : Bytes} (t : p.machine.Tracks pend)
    (b : Byte) :
    (protoParserByte p b).1.machine = (p.machine.step keepCells b).1 ∧
      (protoParserByte p b).2 = (p.machine.step keepCells b).2 := by
  cases h : p.state with
  | magic0 =>
    by_cases hb : b = protoMagic0 <;>
      simp [protoParserByte, Machine.step, ProtoParser.machine, h, hb, crc16Update]
  | magic1 =>
    by_cases h1 : b = protoMagic1
    · simp [protoParserByte, Machine.step, ProtoParser.machine, h, h1, crc16Update]
    · by_cases h0 : b = protoMagic0
      · subst h0
        simp [protoParserByte, Machine.step, ProtoParser.machine, h, h1, crc16Update, parserReset]
      · simp [protoParserByte, Machine.step, ProtoParser.machine, h, h1, h0, parserReset,
          Machine.rewind]
  | lenH => simp [protoParserByte, Machine.step, ProtoParser.machine, h, crc16Update]
  | lenL =>
    simp only [protoParserByte, Machine.step, ProtoParser.machine, h]
    generalize p.bodyLen ||| b.toUInt16 = len
    have guard : (len.toNat < 2 ∨ 2 + protoMaxPayload < len.toNat) ↔ ¬ ValidLen len.toNat := by
      unfold ValidLen; omega
    simp only [guard]
    by_cases valid : ValidLen len.toNat <;>
      simp [valid, crc16Update, parserReset, Machine.rewind, keepCells]
  | body =>
    obtain ⟨short, -, small⟩ := t.recv_lt h
    have next : (p.bodyRecv + 1).toNat = p.bodyRecv.toNat + 1 := by
      simp only [ProtoParser.machine, protoMaxPayload] at short small
      rw [UInt16.toNat_add]
      change (p.bodyRecv.toNat + 1) % 65536 = _
      omega
    have done : p.bodyLen ≤ p.bodyRecv + 1 ↔ p.bodyLen.toNat ≤ p.bodyRecv.toNat + 1 := by
      rw [UInt16.le_iff_toNat_le, next]
    simp only [protoParserByte, Machine.step, ProtoParser.machine, h, done]
    by_cases last : p.bodyLen.toNat ≤ p.bodyRecv.toNat + 1 <;>
      simp [last, next, crc16Update]
  | crcH => simp [protoParserByte, Machine.step, ProtoParser.machine, h]
  | crcL =>
    have frame := finish_eq_parsedFrame p (t.validLen h) b
    simp only [protoParserByte, Machine.step, ProtoParser.machine, h] at frame ⊢
    exact ⟨rfl, frame.symm⟩

/-- The parser tracks the assembler of the grammar through its fields. -/
theorem deviceParser_simulates :
    Transducer.Simulation deviceParser assembler id (fun p pend => p.machine.Tracks pend) where
  related p pend b t := by
    have tracked := (t.step keepCells p.room b).1
    rwa [← (protoParserByte_eq_step t b).1] at tracked
  outputs p pend b t := by
    have same := (t.step keepCells p.room b).2
    rw [← (protoParserByte_eq_step t b).2] at same
    exact same.symm.trans (List.map_id _).symm

/-- What feeding does, in terms of the bytes already read since the magic. -/
theorem deviceParser_feed {p : ProtoParser} {pend : Bytes} (t : p.machine.Tracks pend)
    (h : Unfinished pend) (bs : Bytes) :
    (deviceParser.feed p bs).1.machine.Tracks (assembler.feed pend bs).1 ∧
      (deviceParser.feed p bs).2 = scan (pend ++ bs) := by
  obtain ⟨related, outputs⟩ := deviceParser_simulates.feed t bs
  refine ⟨related, ?_⟩
  rw [← (assembler_feed h bs).2, outputs, List.map_id]

/-- The array accesses the parser makes next stay inside `body` and `frame.payload`. -/
structure InBounds (p : ProtoParser) : Prop where
  body : p.state = .body → p.bodyRecv < p.bodyLen ∧ p.bodyLen.toNat ≤ 2 + protoMaxPayload
  write : p.state = .body → p.bodyRecv.toNat < 2 + protoMaxPayload
  copy : p.state = .crcL → 2 + (p.bodyLen - 2).toNat ≤ 2 + protoMaxPayload ∧
    (p.bodyLen - 2).toNat ≤ protoMaxPayload

theorem inBounds_of_tracks {p : ProtoParser} {pend : Bytes} (t : p.machine.Tracks pend) :
    InBounds p where
  body h := by
    obtain ⟨short, -, small⟩ := t.recv_lt h
    exact ⟨UInt16.lt_iff_toNat_lt.mpr short, small⟩
  write h := by
    obtain ⟨short, -, small⟩ := t.recv_lt h
    exact Nat.lt_of_lt_of_le short small
  copy h := by
    obtain ⟨large, small⟩ := t.validLen h
    have size : (p.bodyLen - 2).toNat = p.bodyLen.toNat - 2 :=
      UInt16.toNat_sub_of_le p.bodyLen 2 (UInt16.le_iff_toNat_le.mpr large)
    simp only [ProtoParser.machine] at small
    omega

theorem protoParserCreate_tracks : protoParserCreate.machine.Tracks [] := .magic0 rfl

/-- The callbacks depend only on the concatenation of the chunks. -/
theorem protoParserFeedAll_frames (chunks : List Bytes) :
    (protoParserFeedAll protoParserCreate chunks).2 = scan chunks.flatten := by
  rw [protoParserFeedAll, Transducer.feedChunks_eq_feed]
  exact (deviceParser_feed protoParserCreate_tracks .none chunks.flatten).2

/-- **The device parser is its grammar.** For every split of every stream the callbacks are
the frames of `scan`, and every state reached accesses its arrays in range. -/
theorem protoParser_eq_grammar (chunks : List Bytes) :
    (protoParserFeedAll protoParserCreate chunks).2 = scan chunks.flatten ∧
      InBounds (protoParserFeedAll protoParserCreate chunks).1 := by
  refine ⟨protoParserFeedAll_frames chunks, ?_⟩
  rw [protoParserFeedAll, Transducer.feedChunks_eq_feed]
  exact inBounds_of_tracks (deviceParser_feed protoParserCreate_tracks .none chunks.flatten).1

end EspNetwork.Serial
