import EspNetwork.Relay.Wire
import EspNetwork.Settings.Api

/-!
# The payload decoders of the API

The handlers of `ctrl/api/api.go` that take a payload apart, with every index and every slice
expression checked against the payload. An expression is in range or the handler overruns; the
guards in front of the expressions decide which payloads never overrun.
-/

namespace EspNetwork.Api

open Serial (Byte Bytes Frame)
open Settings (ApiError statusBadGateway statusString)

/-! ## Checked access -/

/-- `p[i]`. -/
def index (p : Bytes) (i : ℕ) : Except ApiError Byte :=
  if h : i < p.length then .ok p[i] else .error .overrun

/-- `p[lo:hi]`. Go bounds a slice by its capacity and this by its length, behind which there is no byte
of the payload. -/
def sliceOf (p : Bytes) (lo hi : ℕ) : Except ApiError Bytes :=
  if lo ≤ hi ∧ hi ≤ p.length then .ok ((p.take hi).drop lo) else .error .overrun

/-- `p[lo:]`. -/
def sliceFrom (p : Bytes) (lo : ℕ) : Except ApiError Bytes := sliceOf p lo p.length

/-- The handler has not left its payload. -/
def InRange {α : Type} (r : Except ApiError α) : Prop := r ≠ .error .overrun

section InRange

variable {α β : Type} {p : Bytes}

@[simp] theorem inRange_pure (a : α) : InRange (pure a : Except ApiError α) := by
  simp [InRange, pure, Except.pure]

@[simp] theorem inRange_http (code : ℕ) (text : String) :
    InRange (throw (.http code text) : Except ApiError α) := by
  simp [InRange, throw, throwThe, MonadExceptOf.throw]

theorem inRange_index_bind {i : ℕ} {f : Byte → Except ApiError β} :
    InRange (index p i >>= f) ↔ i < p.length ∧ InRange (f (p.getD i 0)) := by
  by_cases h : i < p.length
  · simp [index, h, Except.ok_bind]
  · simp [index, h, Except.error_bind, InRange]

theorem inRange_slice_bind {lo hi : ℕ} {f : Bytes → Except ApiError β} :
    InRange (sliceOf p lo hi >>= f) ↔
      (lo ≤ hi ∧ hi ≤ p.length) ∧ InRange (f ((p.take hi).drop lo)) := by
  by_cases h : lo ≤ hi ∧ hi ≤ p.length
  · simp [sliceOf, h, Except.ok_bind]
  · simp [sliceOf, h, Except.error_bind, InRange]

theorem inRange_slice {lo hi : ℕ} : InRange (sliceOf p lo hi) ↔ lo ≤ hi ∧ hi ≤ p.length := by
  rw [← bind_pure (sliceOf p lo hi), inRange_slice_bind]
  simp

theorem inRange_sliceFrom_bind {lo : ℕ} {f : Bytes → Except ApiError β} :
    InRange (sliceFrom p lo >>= f) ↔ lo ≤ p.length ∧ InRange (f (p.drop lo)) := by
  simp [sliceFrom, inRange_slice_bind]

theorem inRange_ite {c : Prop} [Decidable c] {x y : Except ApiError α} :
    InRange (if c then x else y) ↔ (c → InRange x) ∧ (¬ c → InRange y) := by
  split <;> simp_all

end InRange

/-! ## The handlers -/

/-- `checkStatus`, with the answer of its callers. -/
def checkStatus (f : Frame) : Except ApiError Bytes :=
  if f.status ≠ Firmware.statusOk then
    throw (.http statusBadGateway ("device returned status " ++ statusString f.status))
  else return f.payload

/-- The entries of `handleGetDevInfo`; a shorter payload leaves the last two out. -/
structure DevInfo where
  fwVersion : Bytes
  freeHeap : UInt32
  totalHeap : UInt32
  minFreeHeap : UInt32
  heapUsedPct : UInt32
  cpuLoad : Byte
  uptimeS : UInt32
  taskCount : UInt16
  txBytes : UInt64
  rxBytes : UInt64
  tempC : Option Int8
  cpuFreqMhz : Option UInt16
  deriving DecidableEq, Repr

/-- `le32` in `handleGetDevInfo`. -/
def le32 (b : Bytes) : Except ApiError UInt32 :=
  return Relay.uint32 (← index b 0) (← index b 1) (← index b 2) (← index b 3)

/-- The value of eight bytes, least significant first. -/
def uint64 (b0 b1 b2 b3 b4 b5 b6 b7 : Byte) : UInt64 :=
  b0.toUInt64 ||| (b1.toUInt64 <<< 8) ||| (b2.toUInt64 <<< 16) ||| (b3.toUInt64 <<< 24) |||
    (b4.toUInt64 <<< 32) ||| (b5.toUInt64 <<< 40) ||| (b6.toUInt64 <<< 48) |||
    (b7.toUInt64 <<< 56)

/-- `binary.LittleEndian.Uint64`. -/
def leUint64 (b : Bytes) : Except ApiError UInt64 :=
  return uint64 (← index b 0) (← index b 1) (← index b 2) (← index b 3) (← index b 4)
    (← index b 5) (← index b 6) (← index b 7)

/-- `uint16(p[i]) | uint16(p[i+1])<<8`. -/
def le16 (p : Bytes) (i : ℕ) : Except ApiError UInt16 :=
  return Relay.uint16 (← index p i) (← index p (i + 1))

/-- What `handleGetDevInfo` reads behind the version string. -/
def readStats (fwVer p : Bytes) : Except ApiError DevInfo := do
  let freeHeap ← le32 (← sliceOf p 0 4)
  let totalHeap ← le32 (← sliceOf p 4 8)
  let minHeap ← le32 (← sliceOf p 8 12)
  let cpuLoad ← index p 12
  let uptimeS ← le32 (← sliceOf p 13 17)
  let taskCount ← le16 p 17
  let heapUsedPct := if totalHeap > 0 then (totalHeap - freeHeap) * 100 / totalHeap else 0
  let txBytes ← leUint64 (← sliceOf p 19 27)
  let rxBytes ← leUint64 (← sliceOf p 27 35)
  let tempC ← if p.length ≥ 36 then (some ·.toInt8) <$> index p 35 else pure none
  let cpuFreqMhz ← if p.length ≥ 38 then some <$> le16 p 36 else pure none
  return {
    fwVersion := fwVer
    freeHeap, totalHeap, heapUsedPct, cpuLoad, uptimeS, taskCount, txBytes, rxBytes, tempC
    minFreeHeap := minHeap
    cpuFreqMhz }

/-- `handleGetDevInfo`. -/
def handleGetDevInfo (f : Frame) : Except ApiError DevInfo := do
  let p ← checkStatus f
  if p.length < 1 then throw (.http statusBadGateway "short payload")
  else
    let verLen := (← index p 0).toNat
    let p ← sliceFrom p 1
    if p.length < verLen + 16 then throw (.http statusBadGateway "truncated payload")
    else
      let fwVer ← sliceOf p 0 verLen
      readStats fwVer (← sliceFrom p verLen)

/-- `handleLedGet`. -/
def handleLedGet (f : Frame) : Except ApiError Bool := do
  let p ← checkStatus f
  if p.length < 1 then throw (.http statusBadGateway "short payload")
  else return (← index p 0) ≠ 0

/-- `handleWifiGetConfig`: the SSID and the password. -/
def handleWifiGetConfig (f : Frame) : Except ApiError (Bytes × Bytes) := do
  let p ← checkStatus f
  if p.length < 1 then throw (.http statusBadGateway "short payload")
  else
    let ssidLen := (← index p 0).toNat
    if p.length < 1 + ssidLen + 1 then throw (.http statusBadGateway "truncated payload")
    else
      let ssid ← sliceOf p 1 (1 + ssidLen)
      let passLen := (← index p (1 + ssidLen)).toNat
      let passMask ← sliceOf p (2 + ssidLen) (2 + ssidLen + passLen)
      return (ssid, passMask)

/-- The entries of `handleWifiGetStatus`. -/
structure WifiStatus where
  state : Byte
  stateName : String
  ip : String
  rssi : Int
  manuallyDisconnected : Bool
  deriving DecidableEq, Repr

/-- `wifiStateNames`, with the default of its reader. -/
def wifiStateName (state : Byte) : String :=
  if state = 0 then "disconnected"
  else if state = 1 then "connecting"
  else if state = 2 then "connected"
  else if state = 3 then "failed"
  else "unknown"

/-- `net.IPv4(a, b, c, d).String()`. -/
def ipv4String (a b c d : Byte) : String :=
  toString a.toNat ++ "." ++ toString b.toNat ++ "." ++ toString c.toNat ++ "." ++ toString d.toNat

/-- `handleWifiGetStatus`. -/
def handleWifiGetStatus (manuallyDisconnected : Bool) (f : Frame) :
    Except ApiError WifiStatus := do
  let p ← checkStatus f
  if p.length < 6 then throw (.http statusBadGateway "short status payload")
  else
    let state ← index p 0
    let ip := ipv4String (← index p 1) (← index p 2) (← index p 3) (← index p 4)
    let rssi := (← index p 5).toInt8.toInt
    return ⟨state, wifiStateName state, ip, rssi, manuallyDisconnected⟩

/-- `APInfo`. -/
structure APInfo where
  ssid : Bytes
  rssi : Int
  authMode : Int
  deriving DecidableEq, Repr

/-- The loop of `handleWifiScan`, which may still run `count` times. -/
def readAps : ℕ → Bytes → Except ApiError (List APInfo)
  | 0, _ => return []
  | count + 1, p =>
    if p.length ≥ 1 then do
      let ssidLen := (← index p 0).toNat
      let p ← sliceFrom p 1
      if p.length < ssidLen + 2 then return []
      else
        let ssid ← sliceOf p 0 ssidLen
        let rssi := (← index p ssidLen).toInt8.toInt
        let authMode := ((← index p (ssidLen + 1)).toNat : Int)
        let aps ← readAps count (← sliceFrom p (ssidLen + 2))
        return ⟨ssid, rssi, authMode⟩ :: aps
    else return []

/-- `handleWifiScan`. -/
def handleWifiScan (f : Frame) : Except ApiError (List APInfo) := do
  let p ← checkStatus f
  if p.length < 1 then return []
  else
    let count := (← index p 0).toNat
    readAps count (← sliceFrom p 1)

/-- `handleWifiGetHostname`. -/
def handleWifiGetHostname (f : Frame) : Except ApiError Bytes := do
  let p ← checkStatus f
  if p.length < 1 then throw (.http statusBadGateway "short payload")
  else
    let hlen := (← index p 0).toNat
    if p.length < 1 + hlen then throw (.http statusBadGateway "truncated payload")
    else sliceOf p 1 (1 + hlen)

/-! ## The settings decoders -/

section Settings

variable {p : Bytes}

theorem index_bind_of_lt {α : Type} {i : ℕ} (h : i < p.length) (f : Byte → Except ApiError α) :
    (index p i >>= f) = f (p.getD i 0) := by
  simp [index, h, Except.ok_bind]

theorem slice_bind_of_le {α : Type} {lo n : ℕ} (h : lo + n ≤ p.length)
    (f : Bytes → Except ApiError α) :
    (sliceOf p lo (lo + n) >>= f) = f (Settings.slice p lo n) := by
  have inside : lo ≤ lo + n ∧ lo + n ≤ p.length := ⟨Nat.le_add_right _ _, h⟩
  simp [sliceOf, inside, Except.ok_bind, Settings.slice, List.drop_take]

/-- The settings are read as `Settings.Api` reads them. -/
theorem handleWifiGetConfig_eq (a : Firmware.Answer) (seq cmd : Byte) :
    handleWifiGetConfig ⟨seq, cmd, true, a.status, a.data.getD []⟩ = Settings.apiGetConfig a := by
  unfold handleWifiGetConfig Settings.apiGetConfig checkStatus Settings.checkStatus
  split_ifs with bad
  · rfl
  · simp only [pure_bind, Except.ok_bind]
    generalize a.data.getD [] = p
    by_cases short : p.length < 1
    · rw [if_pos short, if_pos short]
    · rw [if_neg short, if_neg short, index_bind_of_lt (by omega)]
      change (if p.length < 1 + Settings.byteAt p 0 + 1 then _ else _) = _
      split_ifs with truncated behind
      · rfl
      · change (sliceOf p 1 (1 + Settings.byteAt p 0) >>= _) = _
        rw [slice_bind_of_le (by omega)]
        change (index p (1 + Settings.byteAt p 0) >>= _) = _
        rw [index_bind_of_lt (by omega)]
        change (sliceOf p (2 + Settings.byteAt p 0)
          (2 + Settings.byteAt p 0 + Settings.byteAt p (1 + Settings.byteAt p 0)) >>= _) = _
        rw [sliceOf, if_neg (by omega)]
        rfl
      · change (sliceOf p 1 (1 + Settings.byteAt p 0) >>= _) = _
        rw [slice_bind_of_le (by omega)]
        change (index p (1 + Settings.byteAt p 0) >>= _) = _
        rw [index_bind_of_lt (by omega)]
        change (sliceOf p (2 + Settings.byteAt p 0)
          (2 + Settings.byteAt p 0 + Settings.byteAt p (1 + Settings.byteAt p 0)) >>= _) = _
        rw [slice_bind_of_le (by omega)]

theorem handleWifiGetHostname_eq (a : Firmware.Answer) (seq cmd : Byte) :
    handleWifiGetHostname ⟨seq, cmd, true, a.status, a.data.getD []⟩ =
      Settings.apiGetHostname a := by
  unfold handleWifiGetHostname Settings.apiGetHostname checkStatus Settings.checkStatus
  split_ifs with bad
  · rfl
  · simp only [pure_bind, Except.ok_bind]
    generalize a.data.getD [] = p
    by_cases short : p.length < 1
    · rw [if_pos short, if_pos short]
    · rw [if_neg short, if_neg short, index_bind_of_lt (by omega)]
      change (if p.length < 1 + Settings.byteAt p 0 then _ else _) = _
      split_ifs with truncated
      · rfl
      · change sliceOf p 1 (1 + Settings.byteAt p 0) = _
        rw [← bind_pure (sliceOf p 1 _), slice_bind_of_le (by omega)]

end Settings

/-! ## Which payloads overrun -/

section Overruns

variable {p : Bytes}

theorem inRange_checkStatus_bind {α : Type} {f : Frame} (status : f.status = Firmware.statusOk)
    {k : Bytes → Except ApiError α} : InRange (checkStatus f >>= k) ↔ InRange (k f.payload) := by
  simp [checkStatus, status]

/-- 35 bytes are read whatever the payload is. -/
theorem inRange_readStats {fwVer : Bytes} :
    InRange (readStats fwVer p) ↔ 35 ≤ p.length := by
  simp only [readStats, le32, leUint64, le16, bind_assoc, pure_bind, bind_map_left,
    inRange_index_bind, inRange_slice_bind, inRange_ite, inRange_pure, List.length_drop,
    List.length_take, implies_true, and_true]
  omega

/-- The guard of `handleGetDevInfo` admits 16 bytes behind the version, and 35 are read. -/
def DevInfoFits (p : Bytes) : Prop :=
  p.length < 1 + (p.getD 0 0).toNat + 16 ∨ 1 + (p.getD 0 0).toNat + 35 ≤ p.length

/-- No guard of `handleWifiGetConfig` looks at the second length byte. -/
def ConfigFits (p : Bytes) : Prop :=
  let ssidLen := (p.getD 0 0).toNat
  p.length < 2 + ssidLen ∨ 2 + ssidLen + (p.getD (1 + ssidLen) 0).toNat ≤ p.length

instance (p : Bytes) : Decidable (DevInfoFits p) := by unfold DevInfoFits; infer_instance

instance (p : Bytes) : Decidable (ConfigFits p) := by unfold ConfigFits; infer_instance

variable {f : Frame} (status : f.status = Firmware.statusOk)
include status

theorem inRange_handleGetDevInfo : InRange (handleGetDevInfo f) ↔ DevInfoFits f.payload := by
  rw [handleGetDevInfo, inRange_checkStatus_bind status]
  simp only [inRange_ite, inRange_http, inRange_index_bind, inRange_sliceFrom_bind,
    inRange_slice_bind, inRange_readStats, List.length_drop, implies_true, true_and, DevInfoFits]
  omega

theorem inRange_handleLedGet : InRange (handleLedGet f) := by
  rw [handleLedGet, inRange_checkStatus_bind status]
  simp only [inRange_ite, inRange_http, inRange_index_bind, inRange_pure, implies_true, and_true,
    true_and]
  omega

theorem inRange_handleWifiGetConfig :
    InRange (handleWifiGetConfig f) ↔ ConfigFits f.payload := by
  rw [handleWifiGetConfig, inRange_checkStatus_bind status]
  simp only [inRange_ite, inRange_http, inRange_index_bind, inRange_slice_bind, inRange_pure,
    implies_true, and_true, true_and, ConfigFits]
  omega

theorem inRange_handleWifiGetStatus (manually : Bool) :
    InRange (handleWifiGetStatus manually f) := by
  rw [handleWifiGetStatus, inRange_checkStatus_bind status]
  simp only [inRange_ite, inRange_http, inRange_index_bind, inRange_pure, implies_true, and_true,
    true_and]
  omega

omit status in
/-- Every entry is behind the test for its length. -/
theorem inRange_readAps (count : ℕ) (p : Bytes) : InRange (readAps count p) := by
  induction count generalizing p with
  | zero => exact inRange_pure _
  | succ count ih =>
    have rest (p : Bytes) (k : List APInfo → List APInfo) :
        InRange (readAps count p >>= fun aps => pure (k aps)) := by
      have := ih p
      cases h : readAps count p with
      | ok aps => exact inRange_pure _
      | error e =>
        rw [h] at this
        simpa [InRange, Except.error_bind] using this
    simp only [readAps, inRange_ite, inRange_index_bind, inRange_sliceFrom_bind,
      inRange_slice_bind, inRange_pure, List.length_drop, rest, implies_true, and_true, true_and]
    omega

theorem inRange_handleWifiScan : InRange (handleWifiScan f) := by
  rw [handleWifiScan, inRange_checkStatus_bind status]
  simp only [inRange_ite, inRange_index_bind, inRange_sliceFrom_bind, inRange_pure,
    inRange_readAps, implies_true, and_true, true_and]
  omega

theorem inRange_handleWifiGetHostname : InRange (handleWifiGetHostname f) := by
  rw [handleWifiGetHostname, inRange_checkStatus_bind status]
  simp only [inRange_ite, inRange_http, inRange_index_bind, inRange_slice, implies_true, true_and]
  omega

omit status in
/-- All six decoders stay in the payload. -/
def DecodersInRange (f : Frame) : Prop :=
  InRange (handleGetDevInfo f) ∧ InRange (handleLedGet f) ∧ InRange (handleWifiGetConfig f) ∧
    (∀ manually, InRange (handleWifiGetStatus manually f)) ∧ InRange (handleWifiScan f) ∧
    InRange (handleWifiGetHostname f)

theorem decodersInRange_iff :
    DecodersInRange f ↔ DevInfoFits f.payload ∧ ConfigFits f.payload := by
  rw [DecodersInRange, inRange_handleGetDevInfo status, inRange_handleWifiGetConfig status]
  constructor
  · rintro ⟨info, -, config, -⟩
    exact ⟨info, config⟩
  · rintro ⟨info, config⟩
    exact ⟨info, inRange_handleLedGet status, config, inRange_handleWifiGetStatus status,
      inRange_handleWifiScan status, inRange_handleWifiGetHostname status⟩

omit status in
/-- The hostname `esp`, read by every decoder. -/
theorem decodersInRange_esp : DecodersInRange ⟨1, 0x17, true, 0, [3, 0x65, 0x73, 0x70]⟩ :=
  (decodersInRange_iff rfl).mpr (by decide)

omit status in
/-- A version of no bytes with 16 more, and an SSID of no bytes whose password is cut off. -/
theorem decoders_overrun :
    handleGetDevInfo ⟨1, 0x02, true, 0, List.replicate 17 0⟩ = .error .overrun ∧
      handleWifiGetConfig ⟨1, 0x11, true, 0, [0, 255]⟩ = .error .overrun := by
  decide

end Overruns

end EspNetwork.Api
