import EspNetwork.Base.OutBuffer
import EspNetwork.Serial.Frame

/-!
# The frame builders and their buffer

`proto_build_response` and `proto_build_push` of `main/proto.c` as they write into `buf`, with the
integer types of the device. The check of the buffer uses a body length of 16 bits, the copy the
whole `data_len`.
-/

namespace EspNetwork.Serial.Builders

/-- The loop over `buf[0..n-1]`. -/
def crcOf (o : OutBuffer Byte) : UInt16 := o.filled.foldl crc16Update crcInit

/-- The copy of the data. -/
def copyData (o : OutBuffer Byte) (data : Option Bytes) (dataLen : UInt32) : OutBuffer Byte :=
  match data with
  | some d => if 0 < dataLen then o.memcpy (d.take dataLen.toNat) else o
  | none => o

def putCrc (o : OutBuffer Byte) : OutBuffer Byte :=
  let crc := crcOf o
  (o.put (hiByte crc)).put (loByte crc)

/-- Both builders; `fields` stands in front of the data. They return what they have written into
memory, and their result. -/
def buildFrame (fields : Bytes) (data : Option Bytes) (dataLen bufSize : UInt32) (mem : ℕ → Byte) :
    OutBuffer Byte × UInt32 :=
  let bodyLen := (UInt32.ofNat fields.length + dataLen).toUInt16
  let frameLen := 2 + 2 + bodyLen.toUInt32 + 2
  if bufSize < frameLen then (.start mem, 0)
  else
    let header := [protoMagic0, protoMagic1, hiByte bodyLen, loByte bodyLen]
    let o := putCrc (copyData ((OutBuffer.start mem).putAll (header ++ fields)) data dataLen)
    (o, o.cursor)

/-- body = [SEQ:1][CMD|0x80:1][STATUS:1][DATA:N]. -/
def protoBuildResponse (seq cmd status : Byte) : Option Bytes → UInt32 → UInt32 → (ℕ → Byte) →
    OutBuffer Byte × UInt32 :=
  buildFrame [seq, cmd ||| protoRespFlag, status]

/-- body = [SEQ=0:1][CMD:1][DATA:N]. -/
def protoBuildPush (cmd : Byte) : Option Bytes → UInt32 → UInt32 → (ℕ → Byte) →
    OutBuffer Byte × UInt32 :=
  buildFrame [0, cmd]

/-! ## What the contract says -/

/-- A pointer and a length: null with length 0, or as many readable bytes. -/
structure DataArg where
  ptr : Option Bytes
  fits : (ptr.getD []).length < 2 ^ 32

def DataArg.len (data : DataArg) : UInt32 := UInt32.ofNat (data.ptr.getD []).length

/-- Nothing was written and 0 returned, or a frame with this body, all of it inside the buffer, and
its length returned. -/
def KeepsContract (bodyLen : ℕ) (bufSize : UInt32) (built : OutBuffer Byte × UInt32) : Prop :=
  built.2 = 0 ∧ built.1.touched = [] ∨
    built.2.toNat = 6 + bodyLen ∧ built.1.touched = List.range (6 + bodyLen) ∧
      (∀ k ∈ built.1.touched, k < bufSize.toNat) ∧
      (ofPair (built.1.mem 2) (built.1.mem 3)).toNat = bodyLen

/-- The body length fits its field, or what is left of it in 16 bits is too large for the buffer. -/
def LengthFits (bodyLen : ℕ) (bufSize : UInt32) : Prop :=
  bodyLen < 2 ^ 16 ∨ bufSize.toNat < 6 + bodyLen % 2 ^ 16

/-! ## What is written -/

variable {fields : Bytes} {data : DataArg} {bufSize : UInt32} {mem : ℕ → Byte}

theorem DataArg.toNat_len (data : DataArg) : data.len.toNat = (data.ptr.getD []).length := by
  rw [len, UInt32.toNat_ofNat']
  exact Nat.mod_eq_of_lt data.fits

/-- The body length as the builders see it. -/
theorem toNat_bodyLen (few : fields.length < 2 ^ 32) :
    (UInt32.ofNat fields.length + data.len).toUInt16.toNat =
      (fields.length + data.len.toNat) % 2 ^ 16 := by
  rw [UInt32.toNat_toUInt16, UInt32.toNat_add, UInt32.toNat_ofNat', Nat.mod_eq_of_lt few]
  exact Nat.mod_mod_of_dvd _ (by decide)

theorem toNat_frameLen (bodyLen : UInt16) :
    (2 + 2 + bodyLen.toUInt32 + 2).toNat = 6 + bodyLen.toNat := by
  have := bodyLen.toNat_lt
  rw [UInt32.toNat_add, UInt32.toNat_add, UInt16.toNat_toUInt32]
  change ((4 + bodyLen.toNat) % 2 ^ 32 + 2) % 2 ^ 32 = _
  omega

theorem crcOf_eq {o : OutBuffer Byte} {bs : Bytes} (h : o.Holds bs) : crcOf o = crc16 bs := by
  rw [crcOf, h.filled_eq]
  rfl

theorem holds_copyData {o : OutBuffer Byte} {bs : Bytes} (h : o.Holds bs)
    (fits : bs.length + data.len.toNat < 2 ^ 32) :
    (copyData o data.ptr data.len).Holds (bs ++ data.ptr.getD []) := by
  have size := data.toNat_len
  cases ptr : data.ptr with
  | none => simpa [copyData] using h
  | some d =>
    simp only [ptr, Option.getD_some] at size
    simp only [copyData, Option.getD_some, UInt32.lt_iff_toNat_lt, size, List.take_length]
    split_ifs with some_bytes
    · exact h.memcpy d (size ▸ fits)
    · obtain rfl : d = [] := List.eq_nil_of_length_eq_zero (Nat.eq_zero_of_not_pos some_bytes)
      simpa using h

theorem holds_putCrc {o : OutBuffer Byte} {head : Bytes} (h : o.Holds head)
    (fits : head.length + 2 < 2 ^ 32) : (putCrc o).Holds (sealFrame head) := by
  have high := h.put (hiByte (crc16 head)) (by omega)
  have low := high.put (loByte (crc16 head)) (by simp; omega)
  simpa [putCrc, crcOf_eq h, sealFrame] using low

section Written

variable (room : ¬ bufSize < 2 + 2 + (UInt32.ofNat fields.length + data.len).toUInt16.toUInt32 + 2)

include room

/-- With the buffer large enough for the truncated length, the last write is that of the CRC. -/
theorem buildFrame_touched :
    ∃ front last, (buildFrame fields data.ptr data.len bufSize mem).1.touched = front ++ [last] := by
  rw [buildFrame, if_neg room]
  exact ⟨_, _, rfl⟩

/-- A frame that does not make the cursor wrap is written from its first byte to its last. -/
theorem buildFrame_holds (short : fields.length + data.len.toNat + 6 < 2 ^ 32) :
    (buildFrame fields data.ptr data.len bufSize mem).1.Holds
      (sealFrame (frameHead (UInt32.ofNat fields.length + data.len).toUInt16
        (fields ++ data.ptr.getD []))) := by
  rw [buildFrame, if_neg room]
  generalize (UInt32.ofNat fields.length + data.len).toUInt16 = bodyLen
  have size := data.toNat_len
  have front := (OutBuffer.holds_start mem).putAll
    ([protoMagic0, protoMagic1, hiByte bodyLen, loByte bodyLen] ++ fields) (by simp; omega)
  have head := @holds_copyData data _ _ front (by simp; omega)
  exact holds_putCrc head (by simp [frameHead]; omega)

theorem buildFrame_snd : (buildFrame fields data.ptr data.len bufSize mem).2 =
    (buildFrame fields data.ptr data.len bufSize mem).1.cursor := by
  rw [buildFrame, if_neg room]

end Written

theorem length_sealFrame (len : UInt16) (body : Bytes) :
    (sealFrame (frameHead len body)).length = 6 + body.length := by
  simp [sealFrame, frameHead]
  omega

theorem keepsContract_iff (few : fields.length < 8) :
    KeepsContract (fields.length + data.len.toNat) bufSize
        (buildFrame fields data.ptr data.len bufSize mem) ↔
      LengthFits (fields.length + data.len.toNat) bufSize := by
  have bodyLen := @toNat_bodyLen fields data (by omega)
  have frameLen := toNat_frameLen (UInt32.ofNat fields.length + data.len).toUInt16
  rw [bodyLen] at frameLen
  by_cases room :
    bufSize < 2 + 2 + (UInt32.ofNat fields.length + data.len).toUInt16.toUInt32 + 2
  · have refused : buildFrame fields data.ptr data.len bufSize mem = (.start mem, 0) := by
      rw [buildFrame, if_pos room]
    rw [UInt32.lt_iff_toNat_lt, frameLen] at room
    exact iff_of_true (refused ▸ .inl ⟨rfl, rfl⟩) (.inr room)
  · constructor
    · rintro (⟨-, nothing⟩ | ⟨-, -, -, length⟩)
      · obtain ⟨front, last, touched⟩ := @buildFrame_touched fields data bufSize mem room
        simp [touched] at nothing
      · exact .inl (length ▸ UInt16.toNat_lt _)
    · intro fits
      have enough : 6 + (fields.length + data.len.toNat) % 2 ^ 16 ≤ bufSize.toNat := by
        rw [← frameLen]
        exact UInt32.not_lt.mp room
      have small : fields.length + data.len.toNat < 2 ^ 16 :=
        fits.resolve_right (not_lt.mpr enough)
      rw [Nat.mod_eq_of_lt small] at enough bodyLen
      have holds := @buildFrame_holds fields data bufSize mem room (by omega)
      have size : (sealFrame (frameHead (UInt32.ofNat fields.length + data.len).toUInt16
          (fields ++ data.ptr.getD []))).length = 6 + (fields.length + data.len.toNat) := by
        rw [length_sealFrame, List.length_append, data.toNat_len]
      have high := Option.some.inj (holds.cells 2 (by omega))
      have low := Option.some.inj (holds.cells 3 (by omega))
      refine .inr ⟨?_, ?_, fun k touched => ?_, ?_⟩
      · rw [buildFrame_snd room, holds.cursor, size]
      · rw [holds.touched, size]
      · rw [holds.touched, size, List.mem_range] at touched
        exact touched.trans_le enough
      · rw [← high, ← low, ofPair_hiByte_loByte, bodyLen]

/-- **The builders keep their contract exactly if the body length fits its 16 bits, or its
remainder is too large for the buffer.** -/
theorem builders_keepContract_iff (seq cmd status : Byte) (data : DataArg) (bufSize : UInt32)
    (mem : ℕ → Byte) :
    (KeepsContract (3 + data.len.toNat) bufSize
        (protoBuildResponse seq cmd status data.ptr data.len bufSize mem) ↔
      LengthFits (3 + data.len.toNat) bufSize) ∧
    (KeepsContract (2 + data.len.toNat) bufSize
        (protoBuildPush cmd data.ptr data.len bufSize mem) ↔
      LengthFits (2 + data.len.toNat) bufSize) :=
  ⟨keepsContract_iff (by simp), keepsContract_iff (by simp)⟩

def zeros (n : ℕ) (fits : n < 2 ^ 32) : DataArg where
  ptr := some (List.replicate n 0)
  fits := by rwa [Option.getD_some, List.length_replicate]

theorem toNat_len_zeros {n : ℕ} (fits : n < 2 ^ 32) : (zeros n fits).len.toNat = n := by
  rw [DataArg.toNat_len, zeros, Option.getD_some, List.length_replicate]

/-- The body length of such a response is 0 in 16 bits. -/
theorem response_not_kept {seq cmd status : Byte} (wraps : data.len.toNat = 65533)
    (room : 6 ≤ bufSize.toNat) :
    ¬ KeepsContract (3 + data.len.toNat) bufSize
      (protoBuildResponse seq cmd status data.ptr data.len bufSize mem) := by
  intro kept
  have fits : LengthFits (3 + data.len.toNat) bufSize := (keepsContract_iff (by simp)).mp kept
  simp only [LengthFits, wraps] at fits
  omega

/-- Into a buffer of 16 bytes a frame of 65542 bytes is written. -/
theorem response_overruns :
    ∃ data : DataArg, data.len.toNat = 65533 ∧
      ¬ KeepsContract (3 + data.len.toNat) 16
        (protoBuildResponse 1 2 0 data.ptr data.len 16 fun _ => 0) := by
  have size : ∀ fits, (zeros 65533 fits).len.toNat = 65533 := toNat_len_zeros
  exact ⟨_, size (by norm_num), response_not_kept (size _) (by decide)⟩

/-! ## The builders as functions to bytes -/

theorem toUInt16_len (n : ℕ) :
    (UInt32.ofNat n + data.len).toUInt16 = UInt16.ofNat (n + data.len.toNat) := by
  apply UInt16.toNat_inj.mp
  rw [UInt32.toNat_toUInt16, UInt32.toNat_add, UInt32.toNat_ofNat', UInt16.toNat_ofNat']
  omega

/-- Unless the cursor wraps, memory holds the frame that the model of the wire speaks of. -/
theorem buildFrame_filled (short : fields.length + data.len.toNat + 6 < 2 ^ 32) :
    (buildFrame fields data.ptr data.len bufSize mem).1.filled =
      let bodyLen := UInt16.ofNat (fields.length + data.len.toNat)
      if bufSize.toNat < 2 + 2 + bodyLen.toNat + 2 then []
      else sealFrame (frameHead bodyLen (fields ++ copiedData data.ptr data.len.toNat)) := by
  have frameLen := toNat_frameLen (UInt32.ofNat fields.length + data.len).toUInt16
  dsimp only
  rw [← toUInt16_len]
  by_cases room :
    bufSize < 2 + 2 + (UInt32.ofNat fields.length + data.len).toUInt16.toUInt32 + 2
  · rw [buildFrame, if_pos room, if_pos]
    · rfl
    · rw [UInt32.lt_iff_toNat_lt, frameLen] at room
      omega
  · have holds := @buildFrame_holds fields data bufSize mem room short
    rw [holds.filled_eq, if_neg, data.toNat_len, copiedData_getD]
    rw [UInt32.lt_iff_toNat_lt, frameLen] at room
    omega

theorem protoBuildResponse_filled {seq cmd status : Byte}
    (short : 3 + data.len.toNat + 6 < 2 ^ 32) :
    (protoBuildResponse seq cmd status data.ptr data.len bufSize mem).1.filled =
      Serial.protoBuildResponse seq cmd status data.ptr data.len.toNat bufSize.toNat :=
  buildFrame_filled short

theorem protoBuildPush_filled {cmd : Byte} (short : 2 + data.len.toNat + 6 < 2 ^ 32) :
    (protoBuildPush cmd data.ptr data.len bufSize mem).1.filled =
      Serial.protoBuildPush cmd data.ptr data.len.toNat bufSize.toNat :=
  buildFrame_filled short

end EspNetwork.Serial.Builders
