import EspNetwork.Base.PrefixCode
import EspNetwork.Base.Reader
import EspNetwork.Serial.Frame

/-!
# Virtual frames on the relay stream

All virtual connections share one relay byte stream. `ctrl/proxy/client.go` and
`proxy/main.go` both write and read

    [cmd:1][connID:4 LE][payloadLen:2 LE][payload...]

through `writeFrame`, `Client.readLoop` and `ProxyServer.Run`. The writers agree byte for
byte, and the two read loops are the same loop over different readers.
-/

namespace EspNetwork.Relay

open Serial (Byte Bytes)

/-- The arguments of `writeFrame` and of `dispatch`. -/
structure VFrame where
  cmd : Byte
  connID : UInt32
  data : Bytes
  deriving DecidableEq, Repr

def frameHdrLen : Nat := 7

/-! ## `binary.LittleEndian` -/

def putUint16 (v : UInt16) : Bytes := [v.toUInt8, (v >>> 8).toUInt8]

def putUint32 (v : UInt32) : Bytes :=
  [v.toUInt8, (v >>> 8).toUInt8, (v >>> 16).toUInt8, (v >>> 24).toUInt8]

def uint16 (b0 b1 : Byte) : UInt16 := b0.toUInt16 ||| (b1.toUInt16 <<< 8)

def uint32 (b0 b1 b2 b3 : Byte) : UInt32 :=
  b0.toUInt32 ||| (b1.toUInt32 <<< 8) ||| (b2.toUInt32 <<< 16) ||| (b3.toUInt32 <<< 24)

/-- Disjoint bit ranges of a word add up. -/
theorem or_shiftLeft_mod {a b i w : Nat} (low : a < 2 ^ i) (high : b < 2 ^ (w - i)) (le : i ≤ w) :
    a ||| b <<< i % 2 ^ w = a + b * 2 ^ i := by
  have fits : b <<< i < 2 ^ w := by
    rw [Nat.shiftLeft_eq, ← Nat.sub_add_cancel le, pow_add]
    exact Nat.mul_lt_mul_of_pos_right high (by positivity)
  rw [Nat.mod_eq_of_lt fits, Nat.or_comm, ← Nat.shiftLeft_add_eq_or_of_lt low, Nat.shiftLeft_eq,
    Nat.add_comm]

/-- The next byte of a number, on top of the bits below it. -/
theorem mod_or_byte {n i w : Nat} (le : i + 8 ≤ w) :
    n % 2 ^ i ||| (n / 2 ^ i % 2 ^ 8) <<< i % 2 ^ w = n % 2 ^ (i + 8) := by
  have high : n / 2 ^ i % 2 ^ 8 < 2 ^ (w - i) :=
    (Nat.mod_lt _ (by positivity)).trans_le (Nat.pow_le_pow_right (by omega) (by omega))
  rw [or_shiftLeft_mod (Nat.mod_lt _ (by positivity)) high (by omega), pow_add, Nat.mod_mul,
    Nat.mul_comm]

theorem uint16_putUint16 (v : UInt16) : uint16 v.toUInt8 (v >>> 8).toUInt8 = v := by
  apply UInt16.toNat_inj.mp
  simp only [uint16, UInt16.toNat_or, UInt16.toNat_shiftLeft, UInt8.toNat_toUInt16,
    UInt16.toNat_toUInt8, UInt16.toNat_shiftRight, Nat.shiftRight_eq_div_pow]
  change v.toNat % 2 ^ 8 ||| (v.toNat / 2 ^ 8 % 2 ^ 8) <<< 8 % 2 ^ 16 = v.toNat
  rw [mod_or_byte (by omega), Nat.mod_eq_of_lt v.toNat_lt]

theorem toNat_uint16 (b0 b1 : Byte) : (uint16 b0 b1).toNat = b0.toNat + b1.toNat * 2 ^ 8 := by
  simp only [uint16, UInt16.toNat_or, UInt16.toNat_shiftLeft, UInt8.toNat_toUInt16]
  exact or_shiftLeft_mod b0.toNat_lt b1.toNat_lt (by omega)

theorem putUint16_uint16 (b0 b1 : Byte) : putUint16 (uint16 b0 b1) = [b0, b1] := by
  have low : (uint16 b0 b1).toUInt8 = b0 := by
    apply UInt8.toNat_inj.mp
    have := b0.toNat_lt
    rw [UInt16.toNat_toUInt8, toNat_uint16]
    omega
  have high : (uint16 b0 b1 >>> 8).toUInt8 = b1 := by
    apply UInt8.toNat_inj.mp
    have := b0.toNat_lt
    have := b1.toNat_lt
    rw [UInt16.toNat_toUInt8, UInt16.toNat_shiftRight, toNat_uint16, Nat.shiftRight_eq_div_pow]
    change (b0.toNat + b1.toNat * 2 ^ 8) / 2 ^ 8 % 2 ^ 8 = b1.toNat
    omega
  rw [putUint16, low, high]
theorem uint32_putUint32 (v : UInt32) :
    uint32 v.toUInt8 (v >>> 8).toUInt8 (v >>> 16).toUInt8 (v >>> 24).toUInt8 = v := by
  apply UInt32.toNat_inj.mp
  simp only [uint32, UInt32.toNat_or, UInt32.toNat_shiftLeft, UInt8.toNat_toUInt32,
    UInt32.toNat_toUInt8, UInt32.toNat_shiftRight, Nat.shiftRight_eq_div_pow]
  change v.toNat % 2 ^ 8 ||| (v.toNat / 2 ^ 8 % 2 ^ 8) <<< 8 % 2 ^ 32 |||
    (v.toNat / 2 ^ 16 % 2 ^ 8) <<< 16 % 2 ^ 32 ||| (v.toNat / 2 ^ 24 % 2 ^ 8) <<< 24 % 2 ^ 32 =
    v.toNat
  rw [mod_or_byte (by omega), mod_or_byte (by omega), mod_or_byte (by omega),
    Nat.mod_eq_of_lt v.toNat_lt]

/-! ## One frame on the stream -/

/-- The bytes `writeFrame` puts on the stream, in the client and in the server. The length
field keeps the low 16 bits of `len(data)`. -/
def frameBytes (f : VFrame) : Bytes :=
  f.cmd :: (putUint32 f.connID ++ putUint16 (UInt16.ofNat f.data.length) ++ f.data)

/-- The header fields of a frame: command, connection and payload length. -/
def parseHdr : Bytes → Option (Byte × UInt32 × Nat)
  | [cmd, i0, i1, i2, i3, l0, l1] => some (cmd, uint32 i0 i1 i2 i3, (uint16 l0 l1).toNat)
  | _ => none

/-- One round of the two read loops: the header, then as much payload as it announces, and
no second read when it announces none. `none` is the end of the loop. -/
def readFrame {ρ : Type} (R : Reader ρ Byte) (r : ρ) : Option (VFrame × ρ) := do
  let (hdr, r) ← R.readFull r frameHdrLen
  let (cmd, connID, payLen) ← parseHdr hdr
  if 0 < payLen then
    let (payload, r) ← R.readFull r payLen
    return (⟨cmd, connID, payload⟩, r)
  else
    return (⟨cmd, connID, []⟩, r)

/-- A frame at the front of a byte sequence that is all there. -/
def takeFrame (bs : Bytes) : Option (VFrame × Bytes) :=
  match bs with
  | cmd :: i0 :: i1 :: i2 :: i3 :: l0 :: l1 :: rest =>
    let payLen := (uint16 l0 l1).toNat
    if payLen ≤ rest.length then
      some (⟨cmd, uint32 i0 i1 i2 i3, rest.take payLen⟩, rest.drop payLen)
    else none
  | _ => none

theorem takeFrame_short {bs : Bytes} (short : bs.length < frameHdrLen) : takeFrame bs = none := by
  rcases bs with _ | ⟨_, _ | ⟨_, _ | ⟨_, _ | ⟨_, _ | ⟨_, _ | ⟨_, _ | ⟨_, _⟩⟩⟩⟩⟩⟩⟩ <;>
    simp [frameHdrLen, takeFrame] at short ⊢
  omega

theorem exists_hdr {bs : Bytes} (enough : frameHdrLen ≤ bs.length) :
    ∃ cmd i0 i1 i2 i3 l0 l1 rest, bs = cmd :: i0 :: i1 :: i2 :: i3 :: l0 :: l1 :: rest := by
  rcases bs with _ | ⟨_, _ | ⟨_, _ | ⟨_, _ | ⟨_, _ | ⟨_, _ | ⟨_, _ | ⟨_, _⟩⟩⟩⟩⟩⟩⟩ <;>
    simp [frameHdrLen] at enough ⊢

theorem takeFrame_length {bs rest : Bytes} {f : VFrame} (h : takeFrame bs = some (f, rest)) :
    bs.length = frameHdrLen + f.data.length + rest.length := by
  by_cases short : bs.length < frameHdrLen
  · simp [takeFrame_short short] at h
  · obtain ⟨cmd, i0, i1, i2, i3, l0, l1, tail, rfl⟩ := exists_hdr (not_lt.mp short)
    simp only [takeFrame] at h
    split at h
    · obtain ⟨rfl, rfl⟩ : _ ∧ _ := by simpa using h
      simp only [List.length_cons, List.length_take, List.length_drop, frameHdrLen]
      omega
    · simp at h

theorem takeFrame_shrinks {bs rest : Bytes} {f : VFrame} (h : takeFrame bs = some (f, rest)) :
    rest.length < bs.length := by
  have := takeFrame_length h
  rw [frameHdrLen] at this
  omega

/-- A round of the loop takes the next frame of the content, however the reader cuts it. -/
theorem readFrame_eq {ρ : Type} (R : Reader ρ Byte) (r : ρ) :
    (readFrame R r).map (fun q => (q.1, R.content q.2)) = takeFrame (R.content r) := by
  by_cases short : (R.content r).length < frameHdrLen
  · rw [readFrame, R.readFull_eq_none short, takeFrame_short short]
    rfl
  · obtain ⟨r', hread, hrest⟩ := R.readFull_eq_some (not_lt.mp short)
    obtain ⟨cmd, i0, i1, i2, i3, l0, l1, tail, hbs⟩ := exists_hdr (not_lt.mp short)
    rw [hbs] at hread hrest
    replace hread : R.readFull r frameHdrLen = some ([cmd, i0, i1, i2, i3, l0, l1], r') := hread
    have behind : R.content r' = tail := by simpa [frameHdrLen] using hrest
    have round : readFrame R r = if 0 < (uint16 l0 l1).toNat then
        (R.readFull r' (uint16 l0 l1).toNat).map fun q => (⟨cmd, uint32 i0 i1 i2 i3, q.1⟩, q.2)
        else some (⟨cmd, uint32 i0 i1 i2 i3, []⟩, r') := by
      simp only [readFrame, hread, parseHdr, Option.bind_eq_bind, Option.bind_some]
      split
      · cases R.readFull r' (uint16 l0 l1).toNat <;> rfl
      · rfl
    rw [round, hbs, takeFrame]
    by_cases whole : (uint16 l0 l1).toNat ≤ tail.length
    · obtain ⟨r'', hpay, htail⟩ := R.readFull_eq_some (behind ▸ whole)
      by_cases some_payload : 0 < (uint16 l0 l1).toNat
      · simp [some_payload, whole, hpay, htail, behind]
      · obtain none_left : (uint16 l0 l1).toNat = 0 := by omega
        simp [none_left, behind]
    · have cut : R.readFull r' (uint16 l0 l1).toNat = none :=
        R.readFull_eq_none (by rw [behind]; omega)
      have some_payload : 0 < (uint16 l0 l1).toNat := by omega
      simp [some_payload, whole, cut]

/-- The reader takes as much payload as the low 16 bits of the length announce, and the rest of
a longer payload stays on the stream. -/
theorem takeFrame_truncated (f : VFrame) (rest : Bytes) :
    takeFrame (frameBytes f ++ rest) = some (⟨f.cmd, f.connID, f.data.take (f.data.length % 65536)⟩,
      f.data.drop (f.data.length % 65536) ++ rest) := by
  have size : (UInt16.ofNat f.data.length).toNat = f.data.length % 65536 := by simp
  have le : f.data.length % 65536 ≤ f.data.length := Nat.mod_le _ _
  have shape : frameBytes f ++ rest = f.cmd :: f.connID.toUInt8 :: (f.connID >>> 8).toUInt8 ::
      (f.connID >>> 16).toUInt8 :: (f.connID >>> 24).toUInt8 ::
      (UInt16.ofNat f.data.length).toUInt8 :: (UInt16.ofNat f.data.length >>> 8).toUInt8 ::
      (f.data ++ rest) := by
    simp [frameBytes, putUint32, putUint16]
  rw [shape]
  simp only [takeFrame, uint32_putUint32, uint16_putUint16, size]
  rw [if_pos (by simp; omega), List.take_append_of_le_length le, List.drop_append_of_le_length le]

theorem takeFrame_frameBytes {f : VFrame} (fits : f.data.length ≤ 65535) (rest : Bytes) :
    takeFrame (frameBytes f ++ rest) = some (f, rest) := by
  have whole : f.data.length % 65536 = f.data.length := Nat.mod_eq_of_lt (by omega)
  rw [takeFrame_truncated, whole, List.take_length, List.drop_length, List.nil_append]

theorem length_frameBytes (f : VFrame) : (frameBytes f).length = frameHdrLen + f.data.length := by
  simp [frameBytes, putUint32, putUint16, frameHdrLen]; omega

/-- What the front of a stream decodes to does not depend on what follows it. -/
theorem takeFrame_append {bs rest more : Bytes} {f : VFrame} (h : takeFrame bs = some (f, rest)) :
    takeFrame (bs ++ more) = some (f, rest ++ more) := by
  by_cases short : bs.length < frameHdrLen
  · simp [takeFrame_short short] at h
  · obtain ⟨cmd, i0, i1, i2, i3, l0, l1, tail, rfl⟩ := exists_hdr (not_lt.mp short)
    simp only [takeFrame] at h
    split at h
    · rename_i whole
      obtain ⟨rfl, rfl⟩ : _ ∧ _ := by simpa using h
      have longer : (uint16 l0 l1).toNat ≤ tail.length + more.length := by omega
      simp [takeFrame, longer, List.take_append_of_le_length whole,
        List.drop_append_of_le_length whole]
    · simp at h

/-- A proper prefix of a frame is not yet a frame. -/
theorem takeFrame_cut {f : VFrame} {cut : Bytes} (fits : f.data.length ≤ 65535)
    (short : cut <+: frameBytes f) (proper : cut ≠ frameBytes f) : takeFrame cut = none := by
  cases h : takeFrame cut with
  | none => rfl
  | some p =>
    obtain ⟨g, rest⟩ := p
    obtain ⟨more, hmore⟩ := short
    have whole : takeFrame (cut ++ more) = some (g, rest ++ more) := takeFrame_append h
    rw [hmore, ← List.append_nil (frameBytes f), takeFrame_frameBytes fits] at whole
    obtain ⟨-, hrest⟩ : f = g ∧ rest ++ more = [] := by simpa using whole
    obtain ⟨-, rfl⟩ : rest = [] ∧ more = [] := by simpa using hrest
    exact absurd (by simpa using hmore) proper

/-- The wire protocol as a code; the length field holds payloads of at most 65535 bytes. -/
def virtualFrames : PrefixCode VFrame Byte where
  Valid f := f.data.length ≤ 65535
  encode := frameBytes
  decode := takeFrame
  decode_encode _ rest fits := takeFrame_frameBytes fits rest
  decode_cut _ _ fits short proper := takeFrame_cut fits short proper
  decode_shrinks := takeFrame_shrinks

/-- Every frame costs its header, and what is not in a frame is left over. -/
theorem length_decodeAll (bs : Bytes) :
    bs.length = frameHdrLen * (virtualFrames.decodeAll bs).length +
      ((virtualFrames.decodeAll bs).map VFrame.data).flatten.length +
      (virtualFrames.rest bs).length := by
  fun_induction virtualFrames.decodeAll bs with
  | case1 bs done => simp [virtualFrames.rest_of_none done]
  | case2 bs f rest taken ih =>
    have first := takeFrame_length taken
    rw [virtualFrames.rest_of_some taken, List.length_cons, List.map_cons, List.flatten_cons,
      List.length_append]
    rw [frameHdrLen] at *
    omega

/-! ## What frames carry for one connection -/

/-- The payloads of the frames with this command and connection. -/
def chunksOf (cmd : Byte) (id : UInt32) (fs : List VFrame) : List Bytes :=
  (fs.filter fun f => f.cmd = cmd ∧ f.connID = id).map VFrame.data

@[simp] theorem chunksOf_nil (cmd : Byte) (id : UInt32) : chunksOf cmd id [] = [] := rfl

theorem chunksOf_cons (cmd : Byte) (id : UInt32) (f : VFrame) (fs : List VFrame) :
    chunksOf cmd id (f :: fs) = chunksOf cmd id [f] ++ chunksOf cmd id fs := by
  by_cases h : f.cmd = cmd ∧ f.connID = id <;> simp [chunksOf, h]

@[simp] theorem chunksOf_append (cmd : Byte) (id : UInt32) (fs gs : List VFrame) :
    chunksOf cmd id (fs ++ gs) = chunksOf cmd id fs ++ chunksOf cmd id gs := by
  simp [chunksOf]

theorem chunksOf_singleton (cmd : Byte) (id : UInt32) (f : VFrame) :
    chunksOf cmd id [f] = if f.cmd = cmd ∧ f.connID = id then [f.data] else [] := by
  by_cases h : f.cmd = cmd ∧ f.connID = id <;> simp [chunksOf, h]

/-! ## The read loops -/

theorem readFrame_shrinks {ρ : Type} {R : Reader ρ Byte} {r r' : ρ} {f : VFrame}
    (h : readFrame R r = some (f, r')) : (R.content r').length < (R.content r).length := by
  apply takeFrame_shrinks (f := f)
  rw [← readFrame_eq, h]
  rfl

/-- The loop of `Client.readLoop` and of `ProxyServer.Run` while its context is alive: the
frames it passes to `dispatch` until the reader ends. -/
def readLoop {ρ : Type} (R : Reader ρ Byte) (r : ρ) : List VFrame :=
  match _h : readFrame R r with
  | none => []
  | some (f, r') => f :: readLoop R r'
termination_by (R.content r).length
decreasing_by exact readFrame_shrinks _h

/-- The loop dispatches the frames of the content. -/
theorem readLoop_eq_decodeAll {ρ : Type} (R : Reader ρ Byte) (r : ρ) :
    readLoop R r = virtualFrames.decodeAll (R.content r) := by
  have round := readFrame_eq R r
  rw [readLoop]
  split
  case h_1 h =>
    rw [h] at round
    exact (virtualFrames.decodeAll_of_none round.symm).symm
  case h_2 f r' h =>
    rw [h] at round
    rw [virtualFrames.decodeAll_of_some round.symm, readLoop_eq_decodeAll R r']
termination_by (R.content r).length
decreasing_by exact readFrame_shrinks ‹_›

/-- The reader where the loop finds no further frame. -/
def readLoopEnd {ρ : Type} (R : Reader ρ Byte) (r : ρ) : ρ :=
  match _h : readFrame R r with
  | none => r
  | some (_, r') => readLoopEnd R r'
termination_by (R.content r).length
decreasing_by exact readFrame_shrinks _h

theorem content_readLoopEnd {ρ : Type} (R : Reader ρ Byte) (r : ρ) :
    R.content (readLoopEnd R r) = virtualFrames.rest (R.content r) := by
  have round := readFrame_eq R r
  rw [readLoopEnd]
  split
  case h_1 h =>
    rw [h] at round
    exact (virtualFrames.rest_of_none round.symm).symm
  case h_2 f r' h =>
    rw [h] at round
    rw [virtualFrames.rest_of_some round.symm, content_readLoopEnd R r']
termination_by (R.content r).length
decreasing_by exact readFrame_shrinks ‹_›

/-! ## What the two loops read from -/

/-- `Read` of the server's `net.Conn` over the segments in which the stream arrives: at most
`n` bytes of the next segment that has some. -/
def connRead : List Bytes → Nat → Option (Bytes × List Bytes)
  | [], _ => none
  | seg :: segs, n => if seg = [] then connRead segs n else some (seg.take n, seg.drop n :: segs)

theorem connRead_eq_some {segs : List Bytes} {n : Nat} (more : segs.flatten ≠ []) (pos : 0 < n) :
    ∃ piece segs', connRead segs n = some (piece, segs') ∧ piece ≠ [] ∧ piece.length ≤ n ∧
      segs.flatten = piece ++ segs'.flatten := by
  induction segs with
  | nil => simp at more
  | cons seg segs ih =>
    by_cases empty : seg = []
    · subst empty
      obtain ⟨piece, segs', hread, hrest⟩ := ih (by simpa using more)
      exact ⟨piece, segs', by simpa [connRead] using hread, by simpa using hrest⟩
    · refine ⟨seg.take n, seg.drop n :: segs, by simp [connRead, empty], ?_, by simp, ?_⟩
      · simp [empty]; omega
      · simp [← List.append_assoc]

def tcpReader : Reader (List Bytes) Byte where
  read := connRead
  content := List.flatten
  read_eq_none segs n done := by
    induction segs with
    | nil => rfl
    | cons seg segs ih =>
      obtain ⟨rfl, rest⟩ : seg = [] ∧ segs.flatten = [] := by simpa using done
      simp [connRead, ih rest]
  read_eq_some _ _ more pos := connRead_eq_some more pos

/-- The calls of `dispatch` that `ProxyServer.Run` makes on a stream arriving in `segs`. -/
def serverRun (segs : List Bytes) : List VFrame := readLoop tcpReader segs

theorem serverRun_eq_decodeAll (segs : List Bytes) :
    serverRun segs = virtualFrames.decodeAll segs.flatten := readLoop_eq_decodeAll tcpReader segs

/-- `relayReader`: the rest of the last chunk, and the chunks `TCPConn.Read` will still
deliver before `recvCh` is closed. -/
structure RelayReader where
  buf : Bytes
  recvCh : List Bytes

/-- The loop that refills `buf` while it is empty. -/
def RelayReader.refill : Bytes → List Bytes → Option RelayReader
  | [], [] => none
  | [], data :: recvCh => refill data recvCh
  | b :: buf, recvCh => some ⟨b :: buf, recvCh⟩

def RelayReader.read (r : RelayReader) (n : Nat) : Option (Bytes × RelayReader) :=
  (refill r.buf r.recvCh).map fun r => (r.buf.take n, { r with buf := r.buf.drop n })

def RelayReader.content (r : RelayReader) : Bytes := r.buf ++ r.recvCh.flatten

theorem RelayReader.refill_eq_none {buf : Bytes} {recvCh : List Bytes}
    (done : buf ++ recvCh.flatten = []) : refill buf recvCh = none := by
  fun_induction refill buf recvCh with
  | case1 => rfl
  | case2 data recvCh ih => exact ih (by simpa using done)
  | case3 b buf recvCh => simp at done

theorem RelayReader.refill_eq_some {buf : Bytes} {recvCh : List Bytes}
    (more : buf ++ recvCh.flatten ≠ []) :
    ∃ r, refill buf recvCh = some r ∧ r.buf ≠ [] ∧ r.content = buf ++ recvCh.flatten := by
  fun_induction refill buf recvCh with
  | case1 => simp at more
  | case2 data recvCh ih => exact ih (by simpa using more)
  | case3 b buf recvCh => exact ⟨_, rfl, by simp, rfl⟩

theorem RelayReader.read_eq_some {r : RelayReader} {n : Nat} (more : r.content ≠ []) (pos : 0 < n) :
    ∃ piece r', r.read n = some (piece, r') ∧ piece ≠ [] ∧ piece.length ≤ n ∧
      r.content = piece ++ r'.content := by
  obtain ⟨r', hrefill, hbuf, hcontent⟩ := refill_eq_some more
  refine ⟨_, _, by rw [read, hrefill]; rfl, ?_, by simp, ?_⟩
  · simp [hbuf]; omega
  · rw [content, ← hcontent]
    simp [content, ← List.append_assoc]

def relayReader : Reader RelayReader Byte where
  read := RelayReader.read
  content := RelayReader.content
  read_eq_none r n done := by simp [RelayReader.read, RelayReader.refill_eq_none done]
  read_eq_some _ _ more pos := RelayReader.read_eq_some more pos

/-- The calls of `dispatch` that `Client.readLoop` makes on the chunks that `recvCh` delivers. -/
def clientReadLoop (recvCh : List Bytes) : List VFrame := readLoop relayReader ⟨[], recvCh⟩

theorem clientReadLoop_eq_decodeAll (recvCh : List Bytes) :
    clientReadLoop recvCh = virtualFrames.decodeAll recvCh.flatten :=
  readLoop_eq_decodeAll relayReader ⟨[], recvCh⟩

end EspNetwork.Relay
