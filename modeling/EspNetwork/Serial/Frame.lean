import Mathlib

/-!
# The serial frame format

Constants, CRC and the three frame builders of the serial link, from `main/proto.h`,
`main/proto.c` and `ctrl/proto/proto.go`:

    [0xAA][0x55][LEN_H][LEN_L][SEQ][CMD][PAYLOAD...][CRC_H][CRC_L]

`LEN` counts `SEQ`, `CMD` and the payload; the CRC is CRC16-CCITT over everything before
it. A response sets bit 7 of `CMD` and starts its payload with a status byte.
-/

namespace EspNetwork.Serial

abbrev Byte := UInt8
abbrev Bytes := List UInt8

def protoMagic0 : Byte := 0xAA
def protoMagic1 : Byte := 0x55
def protoRespFlag : Byte := 0x80
def protoMaxPayload : Nat := 1024

/-! ## CRC16-CCITT -/

def crcInit : UInt16 := 0xFFFF

/-- One shift of the register; the polynomial is folded in when the top bit leaves. -/
def crcRound (crc : UInt16) : UInt16 :=
  if crc &&& 0x8000 ≠ 0 then (crc <<< 1) ^^^ 0x1021 else crc <<< 1

/-- The byte loop that the device and the host both write out. -/
def crcByte (crc : UInt16) (b : Byte) : UInt16 :=
  crcRound^[8] (crc ^^^ (b.toUInt16 <<< 8))

/-- `crc16_update` of `main/proto.c`. -/
def crc16Update (crc : UInt16) (b : Byte) : UInt16 := crcByte crc b

/-- `crc16` of `ctrl/proto/proto.go`. -/
def crc16 (data : Bytes) : UInt16 := data.foldl crcByte crcInit

theorem crc16_append_singleton (data : Bytes) (b : Byte) :
    crc16 (data ++ [b]) = crcByte (crc16 data) b := by
  simp [crc16]

/-- The published check value of CRC16-CCITT with initial value `0xFFFF`. -/
example : crc16 [0x31, 0x32, 0x33, 0x34, 0x35, 0x36, 0x37, 0x38, 0x39] = 0x29B1 := by decide +kernel

/-! ## Big-endian pairs -/

def hiByte (n : UInt16) : Byte := (n >>> 8).toUInt8
def loByte (n : UInt16) : Byte := (n &&& 0xFF).toUInt8

/-- A 16-bit field from its two bytes, most significant first. -/
def ofPair (hi lo : Byte) : UInt16 := (hi.toUInt16 <<< 8) ||| lo.toUInt16

theorem toNat_ofPair (hi lo : Byte) : (ofPair hi lo).toNat = 256 * hi.toNat + lo.toNat := by
  have hh := hi.toNat_lt
  have hl := lo.toNat_lt
  have shift : hi.toNat <<< 8 % 65536 = hi.toNat <<< 8 := by
    rw [Nat.shiftLeft_eq]; omega
  simp only [ofPair, UInt16.toNat_or, UInt16.toNat_shiftLeft, UInt8.toNat_toUInt16]
  change hi.toNat <<< 8 % 65536 ||| lo.toNat = _
  rw [shift, ← Nat.shiftLeft_add_eq_or_of_lt hl, Nat.shiftLeft_eq]
  omega

theorem toNat_hiByte (n : UInt16) : (hiByte n).toNat = n.toNat / 256 := by
  have h := n.toNat_lt
  simp only [hiByte, UInt16.toNat_toUInt8, UInt16.toNat_shiftRight]
  change n.toNat >>> 8 % 256 = _
  rw [Nat.shiftRight_eq_div_pow]
  omega

theorem toNat_loByte (n : UInt16) : (loByte n).toNat = n.toNat % 256 := by
  have mask : n.toNat &&& 255 = n.toNat % 256 := Nat.and_two_pow_sub_one_eq_mod n.toNat 8
  simp only [loByte, UInt16.toNat_toUInt8, UInt16.toNat_and]
  change (n.toNat &&& 255) % 256 = _
  omega

/-- Splitting a field and reading it back is the identity. -/
@[simp] theorem ofPair_hiByte_loByte (n : UInt16) : ofPair (hiByte n) (loByte n) = n := by
  apply UInt16.toNat_inj.mp
  rw [toNat_ofPair, toNat_hiByte, toNat_loByte]
  omega

/-! ## Frames -/

/-- `proto_frame_t`; `payload_len` is the length of the list. -/
structure ProtoFrame where
  seq : Byte
  cmd : Byte
  payload : Bytes
  deriving DecidableEq, Repr

/-- Everything of a frame that its CRC covers. -/
def frameHead (len : UInt16) (body : Bytes) : Bytes :=
  protoMagic0 :: protoMagic1 :: hiByte len :: loByte len :: body

/-- Append the CRC of all the bytes before it. -/
def sealFrame (head : Bytes) : Bytes := head ++ [hiByte (crc16 head), loByte (crc16 head)]

/-- The layout of the header comment: what a frame looks like on the wire. -/
def encodeFrame (f : ProtoFrame) : Bytes :=
  sealFrame (frameHead (UInt16.ofNat (2 + f.payload.length)) (f.seq :: f.cmd :: f.payload))

/-- `BuildRequest`; the length bytes are truncations of an `int`. -/
def buildRequest (seq cmd : Byte) (payload : Bytes) : Bytes :=
  let bodyLen := 2 + payload.length
  let buf := [protoMagic0, protoMagic1, (bodyLen >>> 8).toUInt8, bodyLen.toUInt8, seq, cmd] ++
    payload
  let crc := crc16 buf
  buf ++ [(crc >>> 8).toUInt8, crc.toUInt8]

theorem toUInt8_eq_loByte (n : UInt16) : n.toUInt8 = loByte n := by
  apply UInt8.toNat_inj.mp
  rw [toNat_loByte]
  simp

/-- The host writes the documented layout as long as the length fits its field. -/
theorem buildRequest_eq_encodeFrame (seq cmd : Byte) {payload : Bytes}
    (fits : payload.length ≤ protoMaxPayload) :
    buildRequest seq cmd payload = encodeFrame ⟨seq, cmd, payload⟩ := by
  simp only [protoMaxPayload] at fits
  have high : ((2 + payload.length) >>> 8).toUInt8 =
      hiByte (UInt16.ofNat (2 + payload.length)) := by
    apply UInt8.toNat_inj.mp
    rw [toNat_hiByte]
    simp [Nat.shiftRight_eq_div_pow]
    omega
  have low : (2 + payload.length).toUInt8 = loByte (UInt16.ofNat (2 + payload.length)) := by
    apply UInt8.toNat_inj.mp
    rw [toNat_loByte]
    simp
  simp only [buildRequest, encodeFrame, sealFrame, frameHead, high, low]
  rw [toUInt8_eq_loByte (crc16 (_ ++ _))]
  rfl

/-- The bytes that `memcpy(&buf[n], data, data_len)` copies behind the guard
`data && data_len > 0`; `none` is the null pointer. -/
def copiedData (data : Option Bytes) (dataLen : Nat) : Bytes :=
  match data with
  | some d => if 0 < dataLen then d.take dataLen else []
  | none => []

/-- `proto_build_response`: the bytes written from `buf[0]` on, none when it returns 0.
The body length is computed in `uint16_t`. -/
def protoBuildResponse (seq cmd status : Byte) (data : Option Bytes) (dataLen bufSize : Nat) :
    Bytes :=
  let bodyLen := UInt16.ofNat (3 + dataLen)
  if bufSize < 2 + 2 + bodyLen.toNat + 2 then []
  else sealFrame (frameHead bodyLen
    (seq :: (cmd ||| protoRespFlag) :: status :: copiedData data dataLen))

/-- `proto_build_push`: sequence number 0, no response flag, no status byte. -/
def protoBuildPush (cmd : Byte) (data : Option Bytes) (dataLen bufSize : Nat) : Bytes :=
  let bodyLen := UInt16.ofNat (2 + dataLen)
  if bufSize < 2 + 2 + bodyLen.toNat + 2 then []
  else sealFrame (frameHead bodyLen (0 :: cmd :: copiedData data dataLen))

/-- A pointer and length that describe `d`: null is only passed with length 0. -/
@[simp] theorem copiedData_getD (data : Option Bytes) :
    copiedData data (data.getD []).length = data.getD [] := by
  cases data with
  | none => rfl
  | some d => cases d <;> simp [copiedData]

/-- Within the payload limit a response is the documented layout. -/
theorem protoBuildResponse_eq_encodeFrame (seq cmd status : Byte) (data : Option Bytes)
    {bufSize : Nat} (fits : (data.getD []).length + 1 ≤ protoMaxPayload)
    (room : 9 + (data.getD []).length ≤ bufSize) :
    protoBuildResponse seq cmd status data (data.getD []).length bufSize =
      encodeFrame ⟨seq, cmd ||| protoRespFlag, status :: data.getD []⟩ := by
  simp only [protoMaxPayload] at fits
  have body : (UInt16.ofNat (3 + (data.getD []).length)).toNat = 3 + (data.getD []).length := by
    simp; omega
  rw [protoBuildResponse, if_neg (by omega), copiedData_getD, encodeFrame]
  simp only [List.length_cons]
  congr 3
  omega

/-- Within the payload limit a push is the documented layout. -/
theorem protoBuildPush_eq_encodeFrame (cmd : Byte) (data : Option Bytes) {bufSize : Nat}
    (fits : (data.getD []).length ≤ protoMaxPayload) (room : 8 + (data.getD []).length ≤ bufSize) :
    protoBuildPush cmd data (data.getD []).length bufSize =
      encodeFrame ⟨0, cmd, data.getD []⟩ := by
  simp only [protoMaxPayload] at fits
  have body : (UInt16.ofNat (2 + (data.getD []).length)).toNat = 2 + (data.getD []).length := by
    simp; omega
  rw [protoBuildPush, if_neg (by omega), copiedData_getD, encodeFrame]

end EspNetwork.Serial
