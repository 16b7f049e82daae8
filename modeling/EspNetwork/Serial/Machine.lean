import EspNetwork.Serial.Grammar

/-!
# The machine that both parsers run

The device and the host parser are written independently, with a fixed array on one side and
a slice allocated for each frame on the other. Both run the same seven states over the same
fields. `Machine` is that common core with the body as a list of cells; `alloc` says what the
cells are when a body starts. Only the state and the CRC are rewound between frames, so
`Tracks` leaves the other fields free until they are written again.
-/

namespace EspNetwork.Serial

/-- `parse_state_t` and `parseState`. -/
inductive ParseState where
  | magic0 | magic1 | lenH | lenL | body | crcH | crcL
  deriving DecidableEq, Repr

/-- The fields both parsers keep. -/
structure Machine where
  state : ParseState
  bodyLen : UInt16
  bodyRecv : Nat
  cells : Bytes
  crcHi : Byte
  crcCalc : UInt16

namespace Machine

def rewind (m : Machine) : Machine := { m with state := .magic0, crcCalc := crcInit }

/-- The frame in a complete body, when the received CRC is the computed one. -/
def finish (m : Machine) (b : Byte) : List ProtoFrame :=
  match m.cells.take m.bodyLen.toNat with
  | seq :: cmd :: payload => if ofPair m.crcHi b = m.crcCalc then [⟨seq, cmd, payload⟩] else []
  | _ => []

/-- One byte; `alloc` provides the cells of a new body from its length and the old cells. -/
def step (alloc : Nat → Bytes → Bytes) (m : Machine) (b : Byte) : Machine × List ProtoFrame :=
  match m.state with
  | .magic0 =>
    if b = protoMagic0 then ({ m with crcCalc := crcByte crcInit b, state := .magic1 }, [])
    else (m, [])
  | .magic1 =>
    if b = protoMagic1 then ({ m with crcCalc := crcByte m.crcCalc b, state := .lenH }, [])
    else if b = protoMagic0 then ({ m with crcCalc := crcByte crcInit b, state := .magic1 }, [])
    else (m.rewind, [])
  | .lenH =>
    ({ m with
      crcCalc := crcByte m.crcCalc b
      bodyLen := b.toUInt16 <<< 8
      state := .lenL }, [])
  | .lenL =>
    let len := m.bodyLen ||| b.toUInt16
    if ValidLen len.toNat then
      ({ m with
        crcCalc := crcByte m.crcCalc b
        bodyLen := len
        bodyRecv := 0
        cells := alloc len.toNat m.cells
        state := .body }, [])
    else (rewind { m with bodyLen := len }, [])
  | .body =>
    ({ m with
      crcCalc := crcByte m.crcCalc b
      cells := m.cells.set m.bodyRecv b
      bodyRecv := m.bodyRecv + 1
      state := if m.bodyLen.toNat ≤ m.bodyRecv + 1 then .crcH else .body }, [])
  | .crcH => ({ m with crcHi := b, state := .crcL }, [])
  | .crcL => (m.rewind, m.finish b)

/-- The fields against the bytes read since the magic. -/
inductive Tracks : Machine → Bytes → Prop where
  | magic0 {m : Machine} (state : m.state = .magic0) : Tracks m []
  | magic1 {m : Machine} (state : m.state = .magic1)
      (crc : m.crcCalc = crc16 [protoMagic0]) : Tracks m [protoMagic0]
  | lenH {m : Machine} (state : m.state = .lenH)
      (crc : m.crcCalc = crc16 [protoMagic0, protoMagic1]) : Tracks m [protoMagic0, protoMagic1]
  | lenL {m : Machine} {h : Byte} (state : m.state = .lenL)
      (crc : m.crcCalc = crc16 [protoMagic0, protoMagic1, h])
      (len : m.bodyLen = h.toUInt16 <<< 8) : Tracks m [protoMagic0, protoMagic1, h]
  | body {m : Machine} {h l : Byte} (state : m.state = .body)
      (len : m.bodyLen = ofPair h l) (valid : ValidLen (ofPair h l).toNat)
      (size : (ofPair h l).toNat ≤ m.cells.length) (short : m.bodyRecv < (ofPair h l).toNat)
      (crc : m.crcCalc =
        crc16 (protoMagic0 :: protoMagic1 :: h :: l :: m.cells.take m.bodyRecv)) :
      Tracks m (protoMagic0 :: protoMagic1 :: h :: l :: m.cells.take m.bodyRecv)
  | crcH {m : Machine} {h l : Byte} (state : m.state = .crcH)
      (len : m.bodyLen = ofPair h l) (valid : ValidLen (ofPair h l).toNat)
      (size : (ofPair h l).toNat ≤ m.cells.length)
      (crc : m.crcCalc =
        crc16 (protoMagic0 :: protoMagic1 :: h :: l :: m.cells.take (ofPair h l).toNat)) :
      Tracks m (protoMagic0 :: protoMagic1 :: h :: l :: m.cells.take (ofPair h l).toNat)
  | crcL {m : Machine} {h l : Byte} (state : m.state = .crcL)
      (len : m.bodyLen = ofPair h l) (valid : ValidLen (ofPair h l).toNat)
      (size : (ofPair h l).toNat ≤ m.cells.length)
      (crc : m.crcCalc =
        crc16 (protoMagic0 :: protoMagic1 :: h :: l :: m.cells.take (ofPair h l).toNat)) :
      Tracks m (protoMagic0 :: protoMagic1 :: h :: l ::
        (m.cells.take (ofPair h l).toNat ++ [m.crcHi]))

/-- While a body is read, the next cell lies inside a valid length. -/
theorem Tracks.recv_lt {m : Machine} {pend : Bytes} (t : Tracks m pend) (h : m.state = .body) :
    m.bodyRecv < m.bodyLen.toNat ∧ ValidLen m.bodyLen.toNat := by
  cases t with
  | body state len valid size short crc => rw [len]; exact ⟨short, valid⟩
  | _ state => simp [state] at h

/-- When the CRC is complete, the length that was read is a valid one. -/
theorem Tracks.validLen {m : Machine} {pend : Bytes} (t : Tracks m pend) (h : m.state = .crcL) :
    ValidLen m.bodyLen.toNat := by
  cases t with
  | crcL state len valid size crc => rw [len]; exact valid
  | _ state => simp [state] at h

/-- Writing the next cell extends the stored body by one byte. -/
theorem take_succ_set {cells : Bytes} {i : Nat} (hi : i < cells.length) (b : Byte) :
    (cells.set i b).take (i + 1) = cells.take i ++ [b] := by
  apply List.ext_getElem
  · simp; omega
  · intro j h1 h2
    grind

/-- Each byte keeps the fields in step with the assembler. -/
theorem Tracks.step (alloc : Nat → Bytes → Bytes) {m : Machine} {pend : Bytes}
    (t : Tracks m pend) (room : ∀ n, ValidLen n → n ≤ (alloc n m.cells).length) (b : Byte) :
    Tracks (m.step alloc b).1 (assemble pend b).1 ∧
      (m.step alloc b).2 = (assemble pend b).2 := by
  cases t with
  | magic0 state =>
    by_cases hb : b = protoMagic0
    · simp only [Machine.step, state, assemble, hb, if_true, and_true]
      exact .magic1 rfl rfl
    · simp only [Machine.step, state, assemble, hb, if_false, and_true]
      exact .magic0 state
  | magic1 state crc =>
    by_cases h1 : b = protoMagic1
    · simp only [Machine.step, state, assemble, h1, if_true, and_true]
      exact .lenH rfl (by simp [crc, crc16])
    · by_cases h0 : b = protoMagic0
      · subst h0
        simp only [Machine.step, state, assemble, h1, if_true, if_false, and_true]
        exact .magic1 rfl rfl
      · simp only [Machine.step, state, assemble, h1, h0, if_false, and_true]
        exact .magic0 rfl
  | lenH state crc =>
    simp only [Machine.step, state, assemble, and_true]
    exact .lenL rfl (by simp [crc, crc16]) rfl
  | @lenL h state crc len =>
    have whole : m.bodyLen ||| b.toUInt16 = ofPair h b := by rw [len]; rfl
    by_cases valid : ValidLen (ofPair h b).toNat
    · simp only [Machine.step, state, assemble, whole, valid, if_true, and_true]
      exact .body rfl rfl valid (room _ valid) (by have := valid.1; simp; omega)
        (by simp [crc, crc16])
    · simp only [Machine.step, state, assemble, whole, valid, if_false, and_true]
      exact .magic0 rfl
  | @body h l state len valid size short crc =>
    have unfilled : (m.cells.take m.bodyRecv).drop (ofPair h l).toNat = [] :=
      List.drop_eq_nil_of_le (by simp; omega)
    have kept := take_succ_set (show m.bodyRecv < m.cells.length by omega) b
    have sum : crcByte m.crcCalc b = crc16 (protoMagic0 :: protoMagic1 :: h :: l ::
        (m.cells.set m.bodyRecv b).take (m.bodyRecv + 1)) := by
      rw [crc, kept]
      exact (crc16_append_singleton
        (protoMagic0 :: protoMagic1 :: h :: l :: m.cells.take m.bodyRecv) b).symm
    simp only [Machine.step, state, assemble, unfilled, and_true, List.cons_append, ← kept, len]
    by_cases last : (ofPair h l).toNat ≤ m.bodyRecv + 1
    · simp only [last, if_true]
      have full : m.bodyRecv + 1 = (ofPair h l).toNat := by omega
      rw [full] at sum ⊢
      exact .crcH rfl rfl valid (by simpa using size) sum
    · simp only [last, if_false]
      exact .body rfl rfl valid (by simpa using size) (by simp; omega) sum
  | @crcH h l state len valid size crc =>
    have unfilled : (m.cells.take (ofPair h l).toNat).drop (ofPair h l).toNat = [] :=
      List.drop_eq_nil_of_le (List.length_take_le _ _)
    simp only [Machine.step, state, assemble, unfilled, and_true]
    exact .crcL rfl len valid size crc
  | @crcL h l state len valid size crc =>
    have full : (m.cells.take (ofPair h l).toNat).length = (ofPair h l).toNat := by
      simp; omega
    have first : (m.cells.take (ofPair h l).toNat ++ [m.crcHi]).drop (ofPair h l).toNat =
        [m.crcHi] := by simp [full]
    have body : (m.cells.take (ofPair h l).toNat ++ [m.crcHi]).take (ofPair h l).toNat =
        m.cells.take (ofPair h l).toNat := by simp [full]
    simp only [Machine.step, state, assemble, first, body, Machine.finish, checkedFrame, len, crc]
    exact ⟨.magic0 rfl, rfl⟩

end Machine

end EspNetwork.Serial
