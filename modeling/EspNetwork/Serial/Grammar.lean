import EspNetwork.Base.Transducer
import EspNetwork.Serial.Frame

/-!
# The grammar of a serial stream

`scan` reads a whole stream declaratively: find the next magic pair, read the length, drop
the four bytes when it is out of range, otherwise check the CRC and go on behind the frame.
`assembler` is the same grammar one byte at a time; its state is the list of bytes since the
magic, the only thing a parser has to remember. Both parsers of the link are later shown to
track the assembler, so `scan` is what each of them computes.
-/

namespace EspNetwork.Serial

/-- A length the parsers accept: `SEQ` and `CMD` at least, a full payload at most. -/
def ValidLen (n : Nat) : Prop := 2 ≤ n ∧ n ≤ 2 + protoMaxPayload

instance (n : Nat) : Decidable (ValidLen n) := inferInstanceAs (Decidable (_ ∧ _))

/-- What follows the leftmost adjacent pair `AA 55`, if there is one. -/
def afterMagic : Bytes → Option Bytes
  | a :: b :: rest =>
    if a = protoMagic0 ∧ b = protoMagic1 then some rest else afterMagic (b :: rest)
  | _ => none

theorem afterMagic_length {bs rest : Bytes} (h : afterMagic bs = some rest) :
    rest.length + 2 ≤ bs.length := by
  fun_induction afterMagic bs with
  | case1 a b rest _ => simp_all
  | case2 a b rest _ ih => have := ih h; simp_all; omega
  | case3 => simp at h

/-- The frame with length bytes `h` and `l`, a complete body and CRC bytes `c` and `d`;
nothing when the CRC disagrees. -/
def checkedFrame (h l : Byte) (body : Bytes) (c d : Byte) : List ProtoFrame :=
  match body with
  | seq :: cmd :: payload =>
    if ofPair c d = crc16 (protoMagic0 :: protoMagic1 :: h :: l :: body) then
      [⟨seq, cmd, payload⟩]
    else []
  | _ => []

/-- The frames of a stream, read declaratively. -/
def scan (bs : Bytes) : List ProtoFrame :=
  match _found : afterMagic bs with
  | some (h :: l :: rest) =>
    let len := (ofPair h l).toNat
    if ¬ ValidLen len then scan rest
    else
      match _long : rest.drop len with
      | c :: d :: after => checkedFrame h l (rest.take len) c d ++ scan after
      | _ => []
  | _ => []
termination_by bs.length
decreasing_by
  · have := afterMagic_length _found; simp at this; omega
  · have := afterMagic_length _found
    have := congrArg List.length _long
    simp at *; omega

/-- The scanner only looks at what follows the next magic pair. -/
theorem scan_congr {xs ys : Bytes} (h : afterMagic xs = afterMagic ys) : scan xs = scan ys := by
  rw [scan, scan.eq_def ys]
  rw [h]

theorem scan_eq_nil {bs : Bytes} (h : afterMagic bs = none) : scan bs = [] := by
  rw [scan]
  split <;> simp_all

theorem afterMagic_skip {a : Byte} (h : a ≠ protoMagic0) (bs : Bytes) :
    afterMagic (a :: bs) = afterMagic bs := by
  cases bs with
  | nil => rfl
  | cons b rest => simp [afterMagic, h]

theorem scan_skip {a : Byte} (h : a ≠ protoMagic0) (bs : Bytes) : scan (a :: bs) = scan bs :=
  scan_congr (afterMagic_skip h bs)

/-- A first magic byte is forgotten when the second does not follow. -/
theorem scan_lone {b : Byte} (h : b ≠ protoMagic1) (bs : Bytes) :
    scan (protoMagic0 :: b :: bs) = scan (b :: bs) :=
  scan_congr (by simp [afterMagic, h])

theorem afterMagic_magic (rest : Bytes) :
    afterMagic (protoMagic0 :: protoMagic1 :: rest) = some rest := by
  simp [afterMagic]

theorem scan_header (h l : Byte) (rest : Bytes) :
    scan (protoMagic0 :: protoMagic1 :: h :: l :: rest) =
      if ¬ ValidLen (ofPair h l).toNat then scan rest
      else
        match rest.drop (ofPair h l).toNat with
        | c :: d :: after => checkedFrame h l (rest.take (ofPair h l).toNat) c d ++ scan after
        | _ => [] := by
  rw [scan]
  split
  next h' l' rest' found =>
    rw [afterMagic_magic] at found
    cases found
    dsimp only
    congr 1
    split <;> simp_all
  next missing => exact absurd (afterMagic_magic _) (missing h l rest)

/-! ## One byte at a time -/

/-- Bytes kept since the magic, and the frame that a new byte completes. -/
def assemble (pend : Bytes) (b : Byte) : Bytes × List ProtoFrame :=
  match pend with
  | [] => if b = protoMagic0 then ([b], []) else ([], [])
  | [_] =>
    if b = protoMagic1 then (pend ++ [b], [])
    else if b = protoMagic0 then ([b], []) else ([], [])
  | [_, _] => (pend ++ [b], [])
  | [_, _, h] => if ValidLen (ofPair h b).toNat then (pend ++ [b], []) else ([], [])
  | _ :: _ :: h :: l :: rest =>
    match rest.drop (ofPair h l).toNat with
    | [] => (pend ++ [b], [])
    | c :: _ => ([], checkedFrame h l (rest.take (ofPair h l).toNat) c b)

def assembler : Transducer Bytes Byte ProtoFrame := ⟨assemble⟩

/-- An unfinished frame: the bytes since a magic that may still become a frame. -/
inductive Unfinished : Bytes → Prop where
  | none : Unfinished []
  | magic0 : Unfinished [protoMagic0]
  | magic1 : Unfinished [protoMagic0, protoMagic1]
  | lenH (h : Byte) : Unfinished [protoMagic0, protoMagic1, h]
  | open (h l : Byte) (rest : Bytes) (valid : ValidLen (ofPair h l).toNat)
      (short : rest.length < (ofPair h l).toNat + 2) :
      Unfinished (protoMagic0 :: protoMagic1 :: h :: l :: rest)

/-- An unfinished frame emits nothing by itself. -/
theorem Unfinished.scan_eq_nil {pend : Bytes} (h : Unfinished pend) : scan pend = [] := by
  cases h with
  | none => exact Serial.scan_eq_nil rfl
  | magic0 => exact Serial.scan_eq_nil rfl
  | magic1 => rw [scan]; split <;> simp_all [afterMagic_magic]
  | lenH h => rw [scan]; split <;> simp_all [afterMagic_magic]
  | «open» h l rest valid short =>
    rw [scan_header, if_neg (not_not.mpr valid)]
    split
    next c d after long =>
      have := congrArg List.length long
      simp at this
      omega
    next => rfl

/-- One byte of the assembler does to the stream ahead what the scanner does. -/
theorem assemble_correct {pend : Bytes} (h : Unfinished pend) (b : Byte) :
    Unfinished (assemble pend b).1 ∧
      ∀ bs, scan (pend ++ b :: bs) = (assemble pend b).2 ++ scan ((assemble pend b).1 ++ bs) := by
  cases h with
  | none =>
    by_cases hb : b = protoMagic0
    · simp [assemble, hb, Unfinished.magic0]
    · simp [assemble, hb, Unfinished.none, scan_skip hb]
  | magic0 =>
    by_cases h1 : b = protoMagic1
    · simp [assemble, h1, Unfinished.magic1]
    · by_cases h0 : b = protoMagic0
      · subst h0
        simp [assemble, h1, Unfinished.magic0, scan_lone h1]
      · simp [assemble, h1, h0, Unfinished.none, scan_lone h1, scan_skip h0]
  | magic1 => simp [assemble, Unfinished.lenH]
  | lenH h =>
    by_cases valid : ValidLen (ofPair h b).toNat
    · simp [assemble, valid, Unfinished.open h b [] valid]
    · simp [assemble, valid, Unfinished.none, scan_header]
  | «open» h l rest valid short =>
    simp only [assemble]
    split
    next unfilled =>
      have : rest.length ≤ (ofPair h l).toNat := by simpa using unfilled
      refine ⟨?_, by simp⟩
      exact Unfinished.open h l (rest ++ [b]) valid (by simp; omega)
    next c more filled =>
      have full := congrArg List.length filled
      simp only [List.length_drop, List.length_cons] at full
      have : more = [] := List.eq_nil_of_length_eq_zero (by omega)
      subst this
      refine ⟨.none, fun bs => ?_⟩
      simp only [List.cons_append, scan_header, if_neg (not_not.mpr valid)]
      rw [List.drop_append_of_le_length (by omega), filled,
        List.take_append_of_le_length (by omega)]
      rfl

/-- The assembler emits the frames of the grammar, whatever it has read before. -/
theorem assembler_feed {pend : Bytes} (h : Unfinished pend) (bs : Bytes) :
    Unfinished (assembler.feed pend bs).1 ∧ (assembler.feed pend bs).2 = scan (pend ++ bs) := by
  induction bs generalizing pend with
  | nil => simp [h, h.scan_eq_nil]
  | cons b bs ih =>
    obtain ⟨next, step⟩ := assemble_correct h b
    obtain ⟨last, rest⟩ := ih next
    refine ⟨last, ?_⟩
    rw [step bs, Transducer.feed_cons]
    exact congrArg _ rest

end EspNetwork.Serial
