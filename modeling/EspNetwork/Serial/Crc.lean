import EspNetwork.Base.ShiftRegister
import EspNetwork.Serial.Codec

/-!
# What the CRC detects

The byte loop is a shift register that takes the bits of each byte, most significant first. It is
linear in exclusive or, so a flipped frame passes the check exactly when the register, started
from zero, maps the flipped bits to zero. The polynomial `0x1021` has an odd number of terms
besides `x^16`, and `x` does not return within the bits that a frame covers.
-/

namespace EspNetwork.Serial

/-! ## The byte loop as a shift register -/

/-- The register with exclusive or as its addition. -/
structure CrcReg where
  crc : UInt16
  deriving DecidableEq

namespace CrcReg

instance : Add CrcReg := ⟨fun a b => ⟨a.crc ^^^ b.crc⟩⟩
instance : Zero CrcReg := ⟨⟨0⟩⟩
instance : Neg CrcReg := ⟨id⟩

@[simp] theorem crc_add (a b : CrcReg) : (a + b).crc = a.crc ^^^ b.crc := rfl
@[simp] theorem crc_zero : (0 : CrcReg).crc = 0 := rfl

instance : AddCommGroup CrcReg where
  add_assoc a b c := congrArg mk (UInt16.xor_assoc a.crc b.crc c.crc)
  zero_add a := congrArg mk UInt16.zero_xor
  add_zero a := congrArg mk UInt16.xor_zero
  add_comm a b := congrArg mk (UInt16.xor_comm a.crc b.crc)
  neg_add_cancel a := congrArg mk UInt16.xor_self
  nsmul := nsmulRec
  zsmul := zsmulRec

end CrcReg

/-- The top bit decides whether the polynomial is folded in. -/
theorem topBit_eq (r : UInt16) :
    r &&& 0x8000 = if r.toBitVec.getLsbD 15 then 0x8000 else 0 := by
  apply UInt16.toBitVec_inj.mp
  have masked := BitVec.and_twoPow r.toBitVec 15
  rw [UInt16.toBitVec_and, show (0x8000 : UInt16).toBitVec = BitVec.twoPow 16 15 by decide, masked]
  split <;> rfl

theorem crcRound_eq (r : UInt16) :
    crcRound r = if r.toBitVec.getLsbD 15 then (r <<< 1) ^^^ 0x1021 else r <<< 1 := by
  rw [crcRound, topBit_eq]
  cases r.toBitVec.getLsbD 15 <;> simp

theorem xor_cancel (a b p : UInt16) : (a ^^^ p) ^^^ (b ^^^ p) = a ^^^ b := by
  have regroup : (a ^^^ p) ^^^ (b ^^^ p) = (a ^^^ b) ^^^ (p ^^^ p) := by ac_rfl
  rw [regroup, UInt16.xor_self, UInt16.xor_zero]

theorem crcRound_xor (r s : UInt16) : crcRound (r ^^^ s) = crcRound r ^^^ crcRound s := by
  simp only [crcRound_eq, UInt16.toBitVec_xor, BitVec.getLsbD_xor, UInt16.shiftLeft_xor]
  cases r.toBitVec.getLsbD 15 <;> cases s.toBitVec.getLsbD 15
  · rfl
  · exact UInt16.xor_assoc _ _ _
  · simp only [Bool.xor_false, if_true, Bool.false_eq_true, if_false]
    ac_rfl
  · exact (xor_cancel _ _ _).symm

/-- No register but zero is shifted to zero: the polynomial has its last bit set. -/
theorem eq_zero_of_crcRound {r : UInt16} (h : crcRound r = 0) : r = 0 := by
  have doubled : (r <<< 1).toNat = 2 * r.toNat % 65536 := by
    rw [UInt16.toNat_shiftLeft, Nat.shiftLeft_eq]
    change r.toNat * 2 % 65536 = _
    rw [Nat.mul_comm]
  rw [crcRound_eq] at h
  cases top : r.toBitVec.getLsbD 15 with
  | true =>
    rw [top, if_pos rfl, UInt16.xor_eq_zero_iff] at h
    have odd : 2 * r.toNat % 65536 = 0x1021 := doubled.symm.trans (congrArg UInt16.toNat h)
    omega
  | false =>
    rw [top, if_neg Bool.false_ne_true] at h
    have small : 2 * r.toBitVec.toNat < 2 ^ 16 := BitVec.msb_eq_false_iff_two_mul_lt.mp top
    have zero : 2 * r.toNat % 65536 = 0 := doubled.symm.trans (congrArg UInt16.toNat h)
    rw [UInt16.toNat_toBitVec] at small
    exact UInt16.toNat_inj.mp (by simp; omega)

/-- One shift, as a homomorphism. -/
def crcShift : CrcReg →+ CrcReg where
  toFun r := ⟨crcRound r.crc⟩
  map_zero' := by decide
  map_add' r s := congrArg CrcReg.mk (crcRound_xor r.crc s.crc)

/-- The register of both parsers. -/
def crcRegister : ShiftRegister CrcReg := ⟨crcShift, ⟨0x8000⟩⟩

theorem crcShift_iterate (n : ℕ) (r : UInt16) : crcShift^[n] ⟨r⟩ = ⟨crcRound^[n] r⟩ := by
  induction n generalizing r with
  | zero => rfl
  | succ n ih => exact ih (crcRound r)

theorem crcShift_injective : Function.Injective crcShift := by
  refine (injective_iff_map_eq_zero _).mpr fun r h => ?_
  exact congrArg CrcReg.mk (eq_zero_of_crcRound (congrArg CrcReg.crc h))

/-- The bits of a byte, most significant first. -/
def bitsOf (b : Byte) : List Bool := (List.range 8).map fun i => b.toBitVec.getMsbD i

def bitString (bs : Bytes) : List Bool := bs.flatMap bitsOf

@[simp] theorem length_bitsOf (b : Byte) : (bitsOf b).length = 8 := by simp [bitsOf]

theorem length_bitString (bs : Bytes) : (bitString bs).length = 8 * bs.length := by
  induction bs with
  | nil => rfl
  | cons b bs ih => simp [bitString] at ih ⊢; omega

theorem crcRound_iterate_xor (n : ℕ) (r s : UInt16) :
    crcRound^[n] (r ^^^ s) = crcRound^[n] r ^^^ crcRound^[n] s := by
  induction n generalizing r s with
  | zero => rfl
  | succ n ih => simp only [Function.iterate_succ_apply, crcRound_xor, ih]

theorem crcByte_xor (r s : UInt16) (b e : Byte) :
    crcByte (r ^^^ s) (b ^^^ e) = crcByte r b ^^^ crcByte s e := by
  have swap : r ^^^ s ^^^ (b ^^^ e).toUInt16 <<< 8 =
      (r ^^^ b.toUInt16 <<< 8) ^^^ (s ^^^ e.toUInt16 <<< 8) := by
    rw [UInt8.toUInt16_xor, UInt16.shiftLeft_xor]
    ac_rfl
  rw [crcByte, swap, crcRound_iterate_xor]
  rfl

/-- The byte loop takes the bits of the byte one by one. -/
theorem run_bitsOf (r : UInt16) (b : Byte) :
    crcRegister.run ⟨r⟩ (bitsOf b) = ⟨crcByte r b⟩ := by
  have fromZero : ∀ n : Fin 256,
      crcRegister.run 0 (bitsOf (UInt8.ofNat n)) = ⟨crcByte 0 (UInt8.ofNat n)⟩ := by
    decide +kernel
  have split : crcByte r b = crcByte 0 b ^^^ crcRound^[8] r := by
    have := crcByte_xor 0 r b 0
    simpa [crcByte] using this
  have here : crcRegister.run 0 (bitsOf b) = ⟨crcByte 0 b⟩ := by
    simpa using fromZero ⟨b.toNat, b.toNat_lt⟩
  rw [ShiftRegister.run_eq_add, here, length_bitsOf, split]
  exact congrArg _ (crcShift_iterate 8 r)

/-- The byte loop over a string is the register over its bits. -/
theorem run_bitString (r : UInt16) (bs : Bytes) :
    crcRegister.run ⟨r⟩ (bitString bs) = ⟨bs.foldl crcByte r⟩ := by
  induction bs generalizing r with
  | nil => rfl
  | cons b bs ih =>
    rw [List.foldl_cons, ← ih, ← run_bitsOf, ← ShiftRegister.run_append]
    rfl

/-! ## The three properties of the polynomial -/

theorem ofPair_eq_xor (c d : Byte) : ofPair c d = c.toUInt16 <<< 8 ^^^ d.toUInt16 := by
  apply UInt16.toBitVec_inj.mp
  ext i hi
  by_cases low : i < 8
  · simp [ofPair, low]
  · have beyond : d.toBitVec.getLsbD i = false := BitVec.getLsbD_of_ge _ _ (by omega)
    simp [ofPair, low, beyond]

theorem ofPair_xor (c d c' d' : Byte) :
    ofPair (c ^^^ c') (d ^^^ d') = ofPair c d ^^^ ofPair c' d' := by
  simp only [ofPair_eq_xor, UInt8.toUInt16_xor, UInt16.shiftLeft_xor]
  ac_rfl

/-- Two bytes are a whole register. -/
theorem crcByte_pair (r : UInt16) (c d : Byte) :
    crcByte (crcByte r c) d = crcRound^[16] (r ^^^ ofPair c d) := by
  have low : ∀ n : Fin 256,
      (UInt8.ofNat n).toUInt16 <<< 8 = crcRound^[8] (UInt8.ofNat n).toUInt16 := by decide +kernel
  have shifted : d.toUInt16 <<< 8 = crcRound^[8] d.toUInt16 := by
    simpa using low ⟨d.toNat, d.toNat_lt⟩
  rw [crcByte, crcByte, shifted, ← crcRound_iterate_xor, ← Function.iterate_add_apply,
    ofPair_eq_xor, UInt16.xor_assoc]

theorem crcRound_iterate_eq_zero {n : ℕ} {r : UInt16} (h : crcRound^[n] r = 0) : r = 0 := by
  induction n generalizing r with
  | zero => exact h
  | succ n ih => exact eq_zero_of_crcRound (ih h)

theorem exists_bitsOf {w : List Bool} (h : w.length = 8) : ∃ b, bitsOf b = w := by
  match w, h with
  | [b0, b1, b2, b3, b4, b5, b6, b7], _ =>
    exact ⟨⟨BitVec.ofBoolListBE [b0, b1, b2, b3, b4, b5, b6, b7]⟩, by
      simp [bitsOf, List.range_succ]⟩

/-- Sixteen bits that the register maps to zero are zero. -/
theorem window_zero (w : List Bool) (len : w.length = 16) (unseen : crcRegister.run 0 w = 0) :
    true ∉ w := by
  obtain ⟨c, hc⟩ := exists_bitsOf (show (w.take 8).length = 8 by simp [len])
  obtain ⟨d, hd⟩ := exists_bitsOf (show (w.drop 8).length = 8 by simp [len])
  have bytes : w = bitString [c, d] := by simp [bitString, hc, hd]
  have pair : crcByte (crcByte 0 c) d = 0 := by
    have := (run_bitString 0 [c, d]).symm.trans (bytes ▸ unseen)
    exact congrArg CrcReg.crc this
  rw [crcByte_pair, UInt16.zero_xor] at pair
  have zero := congrArg UInt16.toNat (crcRound_iterate_eq_zero pair)
  rw [toNat_ofPair] at zero
  have hc0 : c = 0 := UInt8.toNat_inj.mp (by simp at zero ⊢; omega)
  have hd0 : d = 0 := UInt8.toNat_inj.mp (by simp at zero ⊢; omega)
  rw [bytes, hc0, hd0]
  decide

def bitAt (r : UInt16) (i : ℕ) : ZMod 2 := if r.toBitVec.getLsbD i then 1 else 0

theorem bitAt_xor (r s : UInt16) (i : ℕ) : bitAt (r ^^^ s) i = bitAt r i + bitAt s i := by
  simp only [bitAt, UInt16.toBitVec_xor, BitVec.getLsbD_xor]
  cases r.toBitVec.getLsbD i <;> cases s.toBitVec.getLsbD i <;> rfl

theorem bitAt_shiftLeft_zero (r : UInt16) : bitAt (r <<< 1) 0 = 0 := by simp [bitAt]

theorem bitAt_shiftLeft_succ (r : UInt16) (i : Fin 15) : bitAt (r <<< 1) (i + 1) = bitAt r i := by
  have inside : (i : ℕ) + 1 < 16 := by omega
  simp [bitAt, inside, -BitVec.getLsbD_eq_getElem]

theorem sum_bitAt_shiftLeft (r : UInt16) :
    ∑ i : Fin 16, bitAt (r <<< 1) i = ∑ i : Fin 16, bitAt r i + bitAt r 15 := by
  have twice : bitAt r 15 + bitAt r 15 = 0 := CharTwo.add_self_eq_zero _
  rw [Fin.sum_univ_succ, Fin.sum_univ_castSucc (fun i : Fin 16 => bitAt r i)]
  simp only [Fin.val_zero, Fin.val_succ, Fin.val_castSucc, Fin.val_last, bitAt_shiftLeft_zero,
    bitAt_shiftLeft_succ, zero_add, add_assoc, twice, add_zero]

/-- The number of set bits, modulo two. -/
def crcParity : CrcReg →+ ZMod 2 where
  toFun r := ∑ i : Fin 16, bitAt r.crc i
  map_zero' := by decide
  map_add' r s := by
    simp only [CrcReg.crc_add, bitAt_xor]
    exact Finset.sum_add_distrib

/-- Shifting gives up the top bit, and folding in three bits makes up for it. -/
theorem crcParity_shift (r : CrcReg) : crcParity (crcRegister.shift r) = crcParity r := by
  have poly : ∑ i : Fin 16, bitAt 0x1021 i = 1 := by decide
  change ∑ i : Fin 16, bitAt (crcRound r.crc) i = ∑ i : Fin 16, bitAt r.crc i
  rw [crcRound_eq]
  cases top : r.crc.toBitVec.getLsbD 15 with
  | false =>
    have gone : bitAt r.crc 15 = 0 := by rw [bitAt, top]; rfl
    rw [if_neg Bool.false_ne_true, sum_bitAt_shiftLeft, gone, add_zero]
  | true =>
    have gone : bitAt r.crc 15 = 1 := by rw [bitAt, top]; rfl
    simp only [if_true, bitAt_xor, Finset.sum_add_distrib, sum_bitAt_shiftLeft, gone, poly]
    rw [add_assoc, CharTwo.add_self_eq_zero, add_zero]

/-- The register started from `r` does not meet `c` within `n` shifts. -/
def avoids (c : UInt16) : ℕ → UInt16 → Bool
  | 0, _ => true
  | n + 1, r => if crcRound r = c then false else avoids c n (crcRound r)

theorem ne_of_avoids {c r : UInt16} {n : ℕ} (h : avoids c n r = true) {d : ℕ} (pos : 0 < d)
    (le : d ≤ n) : crcRound^[d] r ≠ c := by
  induction n generalizing r d with
  | zero => omega
  | succ n ih =>
    simp only [avoids] at h
    split at h
    · exact absurd h (by simp)
    · rcases d with _ | _ | d
      · omega
      · assumption
      · exact ih h (by omega) (by omega)

/-- `x` does not return within the bits of a frame. -/
theorem avoids_tap : avoids 0x8000 8223 0x8000 = true := by decide +kernel

theorem tap_order (d : ℕ) (pos : 0 < d) (lt : d < 8224) :
    crcRegister.shift^[d] crcRegister.tap + crcRegister.tap ≠ 0 := by
  intro returned
  have iterated : crcRegister.shift^[d] crcRegister.tap = ⟨crcRound^[d] 0x8000⟩ :=
    crcShift_iterate d 0x8000
  rw [iterated] at returned
  have same := congrArg CrcReg.crc returned
  simp only [CrcReg.crc_add, CrcReg.crc_zero, crcRegister, UInt16.xor_eq_zero_iff] at same
  exact ne_of_avoids avoids_tap pos (by omega) same

/-- The error patterns of the guarantee. -/
def SmallError (bits : List Bool) : Prop :=
  (ShiftRegister.Burst 16 bits ∧ true ∈ bits) ∨ Odd (bits.count true) ∨ bits.count true = 2

/-- No small error in the bits of a frame has syndrome zero. -/
theorem syndrome_ne_zero {e : Bytes} (fits : e.length ≤ 4 + protoMaxPayload)
    (small : SmallError (bitString e)) : e.foldl crcByte 0 ≠ 0 := by
  have detected : crcRegister.run 0 (bitString e) ≠ 0 := by
    rcases small with ⟨burst, some⟩ | odd | pair
    · exact ShiftRegister.burst_detected crcShift_injective window_zero burst some
    · exact ShiftRegister.odd_detected crcParity_shift (by decide) odd
    · refine ShiftRegister.pair_detected crcShift_injective tap_order ?_ pair
      rw [length_bitString]
      simp only [protoMaxPayload] at fits
      omega
  intro zero
  refine detected ((run_bitString 0 e).trans ?_)
  rw [zero]
  rfl

/-! ## Corrupted frames -/

/-- The bytes behind magic and length with the bits of `e` flipped. -/
def corrupt (wire e : Bytes) : Bytes := wire.take 4 ++ List.zipWith (· ^^^ ·) (wire.drop 4) e

theorem foldl_crcByte_xor (r s : UInt16) {bs es : Bytes} (len : bs.length = es.length) :
    (List.zipWith (· ^^^ ·) bs es).foldl crcByte (r ^^^ s) =
      bs.foldl crcByte r ^^^ es.foldl crcByte s := by
  induction bs generalizing r s es with
  | nil =>
    rw [List.length_nil, eq_comm, List.length_eq_zero_iff] at len
    subst len
    rfl
  | cons b bs ih =>
    obtain ⟨e, es, rfl⟩ := List.exists_cons_of_length_eq_add_one len.symm
    rw [List.zipWith_cons_cons, List.foldl_cons, crcByte_xor]
    exact ih _ _ (by simpa using len)

/-- The flipped check fails exactly when the flipped bits have a syndrome. -/
theorem ofPair_eq_crc_iff {crc : UInt16} {e : Bytes} {eh el : Byte} :
    ofPair (hiByte crc ^^^ eh) (loByte crc ^^^ el) = crc ^^^ e.foldl crcByte 0 ↔
      (e ++ [eh, el]).foldl crcByte 0 = 0 := by
  have whole : (e ++ [eh, el]).foldl crcByte 0 =
      crcRound^[16] (e.foldl crcByte 0 ^^^ ofPair eh el) := by
    rw [List.foldl_append]
    exact crcByte_pair _ _ _
  rw [ofPair_xor, ofPair_hiByte_loByte, whole, UInt16.xor_right_inj]
  constructor
  · intro same
    rw [same, UInt16.xor_self]
    exact Function.iterate_fixed (show crcRound 0 = 0 by decide) 16
  · intro zero
    exact (UInt16.xor_eq_zero_iff.mp (crcRound_iterate_eq_zero zero)).symm

theorem checkedFrame_eq_nil {h l : Byte} {body : Bytes} {c d : Byte}
    (wrong : ofPair c d ≠ crc16 (protoMagic0 :: protoMagic1 :: h :: l :: body)) :
    checkedFrame h l body c d = [] := by
  unfold checkedFrame
  split
  · exact if_neg wrong
  · rfl

theorem corrupt_frame (h l c d eh el : Byte) {body eb : Bytes} (len : body.length = eb.length) :
    corrupt ([protoMagic0, protoMagic1, h, l] ++ (body ++ [c, d])) (eb ++ [eh, el]) =
      [protoMagic0, protoMagic1, h, l] ++
        (List.zipWith (· ^^^ ·) body eb ++ [c ^^^ eh, d ^^^ el]) := by
  change [protoMagic0, protoMagic1, h, l] ++
    List.zipWith (· ^^^ ·) (body ++ [c, d]) (eb ++ [eh, el]) = _
  rw [List.zipWith_append len]
  rfl

theorem crc16_flipped (h l : Byte) {body eb : Bytes} (len : body.length = eb.length) :
    crc16 (protoMagic0 :: protoMagic1 :: h :: l :: List.zipWith (· ^^^ ·) body eb) =
      crc16 (protoMagic0 :: protoMagic1 :: h :: l :: body) ^^^ eb.foldl crcByte 0 := by
  simp only [crc16, List.foldl_cons]
  generalize crcByte (crcByte (crcByte (crcByte crcInit protoMagic0) protoMagic1) h) l = start
  rw [← foldl_crcByte_xor start 0 len, UInt16.xor_zero]

/-- A frame whose flipped bits have a syndrome is dropped, and the assembler starts anew. -/
theorem assembler_feed_corrupt {f : ProtoFrame} (fits : f.payload.length ≤ protoMaxPayload)
    {e : Bytes} (size : e.length + 4 = (encodeFrame f).length) (seen : e.foldl crcByte 0 ≠ 0) :
    assembler.feed [] (corrupt (encodeFrame f) e) = ([], []) := by
  have long : e.length = f.payload.length + 2 + 2 := by
    simp [encodeFrame, sealFrame, frameHead] at size
    omega
  obtain ⟨eb, ec, rfl, covered, check⟩ : ∃ eb ec, e = eb ++ ec ∧
      eb.length = f.payload.length + 2 ∧ ec.length = 2 :=
    ⟨e.take (f.payload.length + 2), e.drop (f.payload.length + 2), by simp, by simp [long],
      by simp [long]⟩
  obtain ⟨eh, el, rfl⟩ := List.length_eq_two.mp check
  have len : (f.seq :: f.cmd :: f.payload).length = eb.length := by simp [covered]
  have announced := toNat_frameLen fits
  rw [encodeFrame_eq]
  generalize UInt16.ofNat (2 + f.payload.length) = n at announced
  have parts : ofPair (hiByte n) (loByte n) = n := ofPair_hiByte_loByte n
  rw [corrupt_frame _ _ _ _ _ _ len, assembler_feed_checked, checkedFrame_eq_nil]
  · rw [crc16_flipped _ _ len]
    exact fun same => seen (ofPair_eq_crc_iff.mp same)
  · rw [parts, announced]
    exact ⟨by omega, by omega⟩
  · rw [parts, announced, List.length_zipWith, len, Nat.min_self, covered, Nat.add_comm]

/-- **Every small error is rejected.** A parser between frames that is fed a frame with a burst
of up to 16 bits, an odd number of bits or two bits flipped behind the length field makes no
callback and is between frames again. -/
theorem crc_rejects_small_errors {f : ProtoFrame} (fits : f.payload.length ≤ protoMaxPayload)
    {e : Bytes} (size : e.length + 4 = (encodeFrame f).length)
    (small : SmallError (bitString e)) {chunks : List Bytes}
    (wire : chunks.flatten = corrupt (encodeFrame f) e) :
    (∀ p : ProtoParser, p.state = .magic0 →
      (protoParserFeedAll p chunks).2 = [] ∧ (protoParserFeedAll p chunks).1.state = .magic0) ∧
    (∀ p : Parser, p.state = .magic0 → p.onFrame = true →
      (p.feedAll chunks).2 = [] ∧ (p.feedAll chunks).1.state = .magic0) := by
  have length : (encodeFrame f).length = f.payload.length + 8 := by
    simp [encodeFrame, sealFrame, frameHead]
  have dropped := assembler_feed_corrupt fits size (syndrome_ne_zero (by omega) small)
  have nothing : scan (corrupt (encodeFrame f) e) = [] := by
    rw [← List.nil_append (corrupt _ _), ← (assembler_feed .none _).2, dropped]
  constructor
  · intro p idle
    obtain ⟨tracked, out⟩ := deviceParser_feed (.magic0 idle) .none chunks.flatten
    rw [wire, dropped] at tracked
    rw [protoParserFeedAll, Transducer.feedChunks_eq_feed, out, wire]
    exact ⟨nothing, tracked.state_of_nil⟩
  · intro p idle on
    have start : p.Tracks [] := ⟨on, .magic0 idle, by simp [idle]⟩
    obtain ⟨tracked, out⟩ := hostParser_feed start .none chunks.flatten
    rw [wire, dropped] at tracked
    rw [Parser.feedAll, Transducer.feedChunks_eq_feed, out, wire, List.nil_append, nothing]
    exact ⟨rfl, tracked.fields.state_of_nil⟩

/-- The last bit of the CRC flipped. -/
theorem crc_rejects_last_bit :
    (protoParserFeedAll protoParserCreate [corrupt (encodeFrame ⟨1, 2, []⟩) [0, 0, 0, 1]]).2 = [] ∧
      (newParser.feedAll [corrupt (encodeFrame ⟨1, 2, []⟩) [0, 0, 0, 1]]).2 = [] := by
  have both := @crc_rejects_small_errors ⟨1, 2, []⟩ (by simp) [0, 0, 0, 1]
    (by simp [encodeFrame, sealFrame, frameHead]) (.inr (.inl (by decide)))
    [corrupt (encodeFrame ⟨1, 2, []⟩) [0, 0, 0, 1]] (by simp)
  exact ⟨(both.1 protoParserCreate rfl).1, (both.2 newParser rfl rfl).1⟩

end EspNetwork.Serial
