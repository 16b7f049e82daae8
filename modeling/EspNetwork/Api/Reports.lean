import EspNetwork.Api.Decoders
import EspNetwork.Firmware.Reports
import EspNetwork.Serial.Codec

/-!
# Reports over the wire

What the device writes into a report against what the API reads from it: the device
information, where two counters of the same width change places, and the scan list, which both
ends may cut and neither does.
-/

namespace EspNetwork.Api

open Serial (Byte Bytes Frame)
open Firmware (DevStats devInfoPayload statsBytes putU32 putU64 statusOk)

/-! ## Words -/

theorem toUInt8_mask16 (v : UInt16) : (v &&& 0xFF).toUInt8 = v.toUInt8 := by
  apply UInt8.toNat_inj.mp
  have mask : v.toNat &&& 255 = v.toNat % 2 ^ 8 := Nat.and_two_pow_sub_one_eq_mod _ 8
  simp only [UInt16.toNat_toUInt8, UInt16.toNat_and]
  change (v.toNat &&& 255) % 2 ^ 8 = _
  rw [mask, Nat.mod_mod]

theorem toUInt8_mask32 (v : UInt32) : (v &&& 0xFF).toUInt8 = v.toUInt8 := by
  apply UInt8.toNat_inj.mp
  have mask : v.toNat &&& 255 = v.toNat % 2 ^ 8 := Nat.and_two_pow_sub_one_eq_mod _ 8
  simp only [UInt32.toNat_toUInt8, UInt32.toNat_and]
  change (v.toNat &&& 255) % 2 ^ 8 = _
  rw [mask, Nat.mod_mod]

theorem toUInt8_mask64 (v : UInt64) : (v &&& 0xFF).toUInt8 = v.toUInt8 := by
  apply UInt8.toNat_inj.mp
  have mask : v.toNat &&& 255 = v.toNat % 2 ^ 8 := Nat.and_two_pow_sub_one_eq_mod _ 8
  simp only [UInt64.toNat_toUInt8, UInt64.toNat_and]
  change (v.toNat &&& 255) % 2 ^ 8 = _
  rw [mask, Nat.mod_mod]

theorem uint64_bytes (v : UInt64) :
    uint64 v.toUInt8 (v >>> 8).toUInt8 (v >>> 16).toUInt8 (v >>> 24).toUInt8 (v >>> 32).toUInt8
      (v >>> 40).toUInt8 (v >>> 48).toUInt8 (v >>> 56).toUInt8 = v := by
  apply UInt64.toNat_inj.mp
  simp only [uint64, UInt64.toNat_or, UInt64.toNat_shiftLeft, UInt8.toNat_toUInt64,
    UInt64.toNat_toUInt8, UInt64.toNat_shiftRight, Nat.shiftRight_eq_div_pow]
  change v.toNat % 2 ^ 8 ||| (v.toNat / 2 ^ 8 % 2 ^ 8) <<< 8 % 2 ^ 64 |||
    (v.toNat / 2 ^ 16 % 2 ^ 8) <<< 16 % 2 ^ 64 ||| (v.toNat / 2 ^ 24 % 2 ^ 8) <<< 24 % 2 ^ 64 |||
    (v.toNat / 2 ^ 32 % 2 ^ 8) <<< 32 % 2 ^ 64 ||| (v.toNat / 2 ^ 40 % 2 ^ 8) <<< 40 % 2 ^ 64 |||
    (v.toNat / 2 ^ 48 % 2 ^ 8) <<< 48 % 2 ^ 64 ||| (v.toNat / 2 ^ 56 % 2 ^ 8) <<< 56 % 2 ^ 64 =
    v.toNat
  have next {i : ℕ} (le : i + 8 ≤ 64) := Relay.mod_or_byte (n := v.toNat) le
  rw [next (by omega), next (by omega), next (by omega), next (by omega), next (by omega),
    next (by omega), next (by omega), Nat.mod_eq_of_lt v.toNat_lt]

/-! ## Device information -/

def cmdGetDevInfo : Byte := 0x02

/-- The statistics under the names of the API, the two counters as it reads them. -/
def statsRead (fwVer : Bytes) (s : DevStats) : DevInfo where
  fwVersion := fwVer
  freeHeap := s.freeHeap
  totalHeap := s.totalHeap
  minFreeHeap := s.minHeap
  heapUsedPct := if s.totalHeap > 0 then (s.totalHeap - s.freeHeap) * 100 / s.totalHeap else 0
  cpuLoad := s.cpuLoad
  uptimeS := s.uptimeS
  taskCount := s.taskCount
  txBytes := s.rxBytes
  rxBytes := s.txBytes
  tempC := some s.tempC
  cpuFreqMhz := some s.cpuFreq

section Reads

variable {α : Type} {p : Bytes}

theorem getD_slice {lo hi i : ℕ} (h : lo + i < hi) :
    ((p.take hi).drop lo).getD i 0 = p.getD (lo + i) 0 := by
  simp [List.getD, h]

theorem index_eq {i : ℕ} (h : i < p.length) : index p i = .ok (p.getD i 0) := by
  simp [index, h]

theorem slice_bind {lo hi : ℕ} (order : lo ≤ hi) (fits : hi ≤ p.length)
    (k : Bytes → Except Settings.ApiError α) :
    (sliceOf p lo hi >>= k) = k ((p.take hi).drop lo) := by
  rw [sliceOf, if_pos ⟨order, fits⟩, Except.ok_bind]

theorem length_slice {lo hi : ℕ} (fits : hi ≤ p.length) :
    ((p.take hi).drop lo).length = hi - lo := by
  simp [fits]

theorem le32_slice_bind {lo hi : ℕ} (width : hi = lo + 4) (fits : hi ≤ p.length)
    (k : UInt32 → Except Settings.ApiError α) :
    (sliceOf p lo hi >>= fun b => le32 b >>= k) =
      k (Relay.uint32 (p.getD lo 0) (p.getD (lo + 1) 0) (p.getD (lo + 2) 0) (p.getD (lo + 3) 0)) := by
  have size : ((p.take hi).drop lo).length = hi - lo := length_slice fits
  rw [slice_bind (by omega) fits, le32]
  simp (disch := omega) only [pure_bind, index_bind_of_lt, getD_slice]
  rfl

theorem leUint64_slice_bind {lo hi : ℕ} (width : hi = lo + 8) (fits : hi ≤ p.length)
    (k : UInt64 → Except Settings.ApiError α) :
    (sliceOf p lo hi >>= fun b => leUint64 b >>= k) =
      k (uint64 (p.getD lo 0) (p.getD (lo + 1) 0) (p.getD (lo + 2) 0) (p.getD (lo + 3) 0)
        (p.getD (lo + 4) 0) (p.getD (lo + 5) 0) (p.getD (lo + 6) 0) (p.getD (lo + 7) 0)) := by
  have size : ((p.take hi).drop lo).length = hi - lo := length_slice fits
  rw [slice_bind (by omega) fits, leUint64]
  simp (disch := omega) only [pure_bind, index_bind_of_lt, getD_slice]
  rfl

theorem le16_eq {i : ℕ} (fits : i + 1 < p.length) :
    le16 p i = .ok (Relay.uint16 (p.getD i 0) (p.getD (i + 1) 0)) := by
  rw [le16]
  simp (disch := omega) only [index_bind_of_lt]
  rfl

/-- The bytes behind the version, read as they stand. -/
theorem readStats_eq (fwVer : Bytes) (enough : 38 ≤ p.length) :
    let u32 i := Relay.uint32 (p.getD i 0) (p.getD (i + 1) 0) (p.getD (i + 2) 0) (p.getD (i + 3) 0)
    let u64 i := uint64 (p.getD i 0) (p.getD (i + 1) 0) (p.getD (i + 2) 0) (p.getD (i + 3) 0)
      (p.getD (i + 4) 0) (p.getD (i + 5) 0) (p.getD (i + 6) 0) (p.getD (i + 7) 0)
    readStats fwVer p = .ok {
      fwVersion := fwVer
      freeHeap := u32 0
      totalHeap := u32 4
      minFreeHeap := u32 8
      heapUsedPct := if u32 4 > 0 then (u32 4 - u32 0) * 100 / u32 4 else 0
      cpuLoad := p.getD 12 0
      uptimeS := u32 13
      taskCount := Relay.uint16 (p.getD 17 0) (p.getD 18 0)
      txBytes := u64 19
      rxBytes := u64 27
      tempC := some (p.getD 35 0).toInt8
      cpuFreqMhz := some (Relay.uint16 (p.getD 36 0) (p.getD 37 0)) } := by
  intro u32 u64
  rw [readStats, le32_slice_bind (by omega) (by omega), le32_slice_bind (by omega) (by omega),
    le32_slice_bind (by omega) (by omega), index_bind_of_lt (by omega),
    le32_slice_bind (by omega) (by omega), le16_eq (by omega), Except.ok_bind,
    leUint64_slice_bind (by omega) (by omega), leUint64_slice_bind (by omega) (by omega),
    if_pos (show p.length ≥ 36 by omega), index_eq (by omega)]
  change (if p.length ≥ 38 then _ else _) = _
  rw [if_pos enough, le16_eq (by omega)]
  rfl

end Reads

theorem readStats_statsBytes (fwVer : Bytes) (s : DevStats) :
    readStats fwVer (statsBytes s) = .ok (statsRead fwVer s) := by
  rw [readStats_eq fwVer (Firmware.length_statsBytes s).ge]
  simp only [statsBytes, putU32, putU64, toUInt8_mask16, toUInt8_mask32, toUInt8_mask64]
  simp only [List.cons_append, List.nil_append, List.getD_cons_succ, List.getD_cons_zero,
    Relay.uint16_putUint16, Relay.uint32_putUint32, uint64_bytes]
  rfl

theorem sliceFrom_eq {p : Bytes} {lo : ℕ} (h : lo ≤ p.length) :
    sliceFrom p lo = .ok (p.drop lo) := by
  simp [sliceFrom, sliceOf, h]

theorem slice_zero_eq {p : Bytes} {hi : ℕ} (h : hi ≤ p.length) :
    sliceOf p 0 hi = .ok (p.take hi) := by
  simp [sliceOf, h]

/-- Behind its guard the decoder splits the payload at the length byte. -/
theorem handleGetDevInfo_eq {f : Frame} {n : Byte} {rest : Bytes} (status : f.status = statusOk)
    (payload : f.payload = n :: rest) (enough : n.toNat + 16 ≤ rest.length) :
    handleGetDevInfo f = readStats (rest.take n.toNat) (rest.drop n.toNat) := by
  have first : index (n :: rest) 0 = .ok n := rfl
  have behind : sliceFrom (n :: rest) 1 = .ok rest := sliceFrom_eq (by simp)
  rw [handleGetDevInfo, checkStatus, if_neg (not_not.mpr status), pure_bind, payload,
    if_neg (by simp), first, Except.ok_bind, behind, Except.ok_bind, if_neg (by omega),
    slice_zero_eq (by omega), Except.ok_bind, sliceFrom_eq (by omega), Except.ok_bind]

theorem handleGetDevInfo_devInfoPayload {ver : CString} (h : ver.length ≤ 64) (s : DevStats)
    (seq : Byte) :
    handleGetDevInfo ⟨seq, cmdGetDevInfo, true, statusOk, devInfoPayload ver s⟩ =
      .ok (statsRead ver.chars s) := by
  have small : (UInt8.ofNat ver.length).toNat = ver.chars.length :=
    UInt8.toNat_ofNat_of_lt' (show _ < 256 by omega)
  have payload : devInfoPayload ver s = UInt8.ofNat ver.length :: (ver.chars ++ statsBytes s) := by
    rw [devInfoPayload, small, List.take_length]
    rfl
  rw [handleGetDevInfo_eq rfl payload (by simp [small, Firmware.length_statsBytes]), small,
    List.take_left, List.drop_left, readStats_statsBytes]

/-- Every value of a report arrives under its name. -/
def DevInfoSurvives (ver : CString) (s : DevStats) : Prop :=
  ∀ seq, ∃ info,
    handleGetDevInfo ⟨seq, cmdGetDevInfo, true, statusOk, devInfoPayload ver s⟩ = .ok info ∧
      info.fwVersion = ver.chars ∧ info.freeHeap = s.freeHeap ∧ info.totalHeap = s.totalHeap ∧
      info.minFreeHeap = s.minHeap ∧ info.cpuLoad = s.cpuLoad ∧ info.uptimeS = s.uptimeS ∧
      info.taskCount = s.taskCount ∧ info.rxBytes = s.rxBytes ∧ info.txBytes = s.txBytes ∧
      info.tempC = some s.tempC ∧ info.cpuFreqMhz = some s.cpuFreq

/-- Device information survives exactly when the swap of the two counters cannot be seen. -/
theorem devInfoSurvives_iff {ver : CString} (h : ver.length ≤ 64) (s : DevStats) :
    DevInfoSurvives ver s ↔ s.rxBytes = s.txBytes := by
  constructor
  · intro survives
    obtain ⟨info, decoded, -, -, -, -, -, -, -, rx, -⟩ := survives 0
    rw [handleGetDevInfo_devInfoPayload h] at decoded
    obtain rfl := Except.ok.inj decoded
    exact rx.symm
  · intro same seq
    exact ⟨_, handleGetDevInfo_devInfoPayload h s seq, rfl, rfl, rfl, rfl, rfl, rfl, rfl, same.symm,
      same, rfl, rfl⟩

/-- A device that has relayed nothing yet, and one that has received a byte. -/
def idleStats : DevStats := ⟨200000, 320000, 180000, 7, 60, 12, 0, 0, -5, 240⟩

theorem devInfoSurvives_idle : DevInfoSurvives ⟨[0x35, 0x2E, 0x31], by decide⟩ idleStats :=
  (devInfoSurvives_iff (by decide) idleStats).mpr rfl

theorem rxBytes_swapped :
    (handleGetDevInfo ⟨1, cmdGetDevInfo, true, statusOk,
      devInfoPayload ⟨[0x35, 0x2E, 0x31], by decide⟩ { idleStats with rxBytes := 1 }⟩).map
        (fun info => (info.rxBytes, info.txBytes)) = .ok (0, 1) := by
  decide

/-! ## Scan -/

open Firmware (WifiApRecord WifiMgrApInfo Copied apBytes copyRecords scanPayload)

def cmdWifiScan : Byte := 0x15

/-- An access point as the driver found it. -/
def found (r : WifiApRecord) : APInfo where
  ssid := r.ssid.str.chars
  rssi := r.rssi.toInt
  authMode := r.authmode.toUInt8.toNat

/-- An entry of the list as the API reads it. -/
def listed (ap : WifiMgrApInfo) : APInfo where
  ssid := ap.ssid.str.chars
  rssi := ap.rssi.toInt
  authMode := ap.authmode.toNat

/-- One round of the loop takes one entry. -/
theorem readAps_entry {n r a : Byte} {chars more : Bytes} (size : n.toNat = chars.length)
    {count : ℕ} {aps : List APInfo} (rest : readAps count more = .ok aps) :
    readAps (count + 1) (n :: (chars ++ r :: a :: more)) =
      .ok (⟨chars, r.toInt8.toInt, a.toNat⟩ :: aps) := by
  have first : index (n :: (chars ++ r :: a :: more)) 0 = .ok n := rfl
  have behind : sliceFrom (n :: (chars ++ r :: a :: more)) 1 = .ok (chars ++ r :: a :: more) :=
    sliceFrom_eq (by simp)
  have rssi : index (chars ++ r :: a :: more) chars.length = .ok r := by
    rw [index_eq (by simp)]
    simp
  have auth : index (chars ++ r :: a :: more) (chars.length + 1) = .ok a := by
    rw [index_eq (by simp)]
    simp
  have later : sliceFrom (chars ++ r :: a :: more) (chars.length + 2) = .ok more := by
    rw [sliceFrom_eq (by simp)]
    simp
  rw [readAps, if_pos (by simp), first, Except.ok_bind, behind, Except.ok_bind]
  dsimp only
  rw [size, if_neg (by simp), slice_zero_eq (by simp), Except.ok_bind, rssi, Except.ok_bind, auth,
    Except.ok_bind, later, Except.ok_bind, rest, List.take_left]
  rfl

theorem readAps_flatten {aps : List WifiMgrApInfo}
    (short : ∀ ap ∈ aps, ap.ssid.str.length ≤ Settings.wifiMgrSsidMax) :
    readAps aps.length (aps.map apBytes).flatten = .ok (aps.map listed) := by
  induction aps with
  | nil => rfl
  | cons ap aps ih =>
    have le : ap.ssid.str.length ≤ 32 := short ap (by simp)
    have small : (UInt8.ofNat ap.ssid.str.length).toNat = ap.ssid.str.chars.length :=
      UInt8.toNat_ofNat_of_lt' (show _ < 256 by omega)
    have rest := ih fun ap mem => short ap (by simp [mem])
    have entry := readAps_entry (r := ap.rssi.toUInt8) (a := ap.authmode) small rest
    simpa [apBytes, listed] using entry

/-- The list arrives as the driver found it, with SSIDs that no copy has to cut. -/
theorem map_listed {rs : List WifiApRecord} {aps : List WifiMgrApInfo}
    (copied : List.Forall₂ Copied rs aps)
    (short : ∀ r ∈ rs, r.ssid.str.length ≤ Settings.wifiMgrSsidMax) :
    aps.map listed = rs.map found := by
  induction copied with
  | nil => rfl
  | @cons r ap rs aps entry entries ih =>
    have whole : r.ssid.str.take Settings.wifiMgrSsidMax = r.ssid.str :=
      CString.take_eq_iff.mpr (short r (by simp))
    have same : listed ap = found r := by
      simp only [listed, found, entry.ssid, entry.rssi, entry.authmode, whole]
    rw [List.map_cons, List.map_cons, same, ih fun r mem => short r (by simp [mem])]

/-- The scan of up to 20 access points arrives whole: the device answers with one frame that the
host's parser hands on, and the API lists what the driver found, in its order. -/
theorem scan_survives {rs : List WifiApRecord} (few : rs.length ≤ Firmware.wifiMgrScanMax)
    (short : ∀ r ∈ rs, r.ssid.str.length ≤ Settings.wifiMgrSsidMax)
    (mem : ℕ → CharArray (Settings.wifiMgrSsidMax + 1)) :
    ∃ aps payload, copyRecords mem 0 rs = .ok aps ∧ scanPayload aps = .ok payload ∧
      ∀ (seq : Byte) (chunks : List Bytes),
        chunks.flatten = Serial.protoBuildResponse seq cmdWifiScan statusOk (some payload)
          payload.length Firmware.respBufSize →
        ∃ f, (Serial.newParser.feedAll chunks).2 = [f] ∧
          f = ⟨seq, cmdWifiScan, true, statusOk, payload⟩ ∧
          handleWifiScan f = .ok (rs.map found) := by
  obtain ⟨aps, copied, entries⟩ := Firmware.copyRecords_eq mem 0 rs
  have count : aps.length = rs.length := entries.length_eq.symm
  have bounded := Firmware.bounded_of_copied entries
  have short' : ∀ ap ∈ aps, ap.ssid.str.length ≤ Settings.wifiMgrSsidMax :=
    fun ap mem => (bounded ap mem).2
  have size := Firmware.length_flatten_apBytes_le short'
  have decoded := readAps_flatten short'
  simp only [Firmware.wifiMgrScanMax] at few
  have payload : scanPayload aps = .ok (UInt8.ofNat aps.length :: (aps.map apBytes).flatten) :=
    Firmware.putAps_eq bounded (by simp [Serial.protoMaxPayload]; omega)
  rw [map_listed entries short] at decoded
  generalize (aps.map apBytes).flatten = bytes at size decoded payload
  refine ⟨aps, _, copied, payload, fun seq chunks wire => ?_⟩
  refine ⟨⟨seq, cmdWifiScan, true, statusOk, UInt8.ofNat aps.length :: bytes⟩, ?_, rfl, ?_⟩
  · have fits : (UInt8.ofNat aps.length :: bytes).length ≤ 1023 := by simp; omega
    refine @Serial.feedAll_deviceFrames
      [.response seq cmdWifiScan statusOk (some (UInt8.ofNat aps.length :: bytes))
        Firmware.respBufSize] _ ?_ ?_
    · intro o mem
      obtain rfl := List.mem_singleton.mp mem
      exact ⟨by decide, fits, Nat.add_le_add_left fits 9 |>.trans (by decide)⟩
    · simpa [Serial.DeviceFrame.build] using wire
  · have n : (UInt8.ofNat aps.length).toNat = aps.length :=
      UInt8.toNat_ofNat_of_lt' (show _ < 256 by omega)
    have first : index (UInt8.ofNat aps.length :: bytes) 0 = .ok (UInt8.ofNat aps.length) := rfl
    have behind : sliceFrom (UInt8.ofNat aps.length :: bytes) 1 = .ok bytes :=
      sliceFrom_eq (by simp)
    rw [handleWifiScan, checkStatus, if_neg (by simp), pure_bind, if_neg (by simp), first,
      Except.ok_bind, behind, Except.ok_bind, n, decoded]

theorem nul_notMem_cafe : (0 : Byte) ∉ [0x63, 0x61, 0x66, 0x65] := by decide

/-- An open network nearby and a hidden one far away. -/
def cafeRecords : List WifiApRecord :=
  [⟨(CharArray.zero 33).store ⟨[0x63, 0x61, 0x66, 0x65], nul_notMem_cafe⟩ (by decide), -40, 0⟩,
    ⟨CharArray.zero 33, -91, 3⟩]

theorem scan_survives_cafe :
    ∃ aps payload, copyRecords (fun _ => .zero _) 0 cafeRecords = .ok aps ∧
      scanPayload aps = .ok payload ∧
      ∀ (seq : Byte) (chunks : List Bytes),
        chunks.flatten = Serial.protoBuildResponse seq cmdWifiScan statusOk (some payload)
          payload.length Firmware.respBufSize →
        ∃ f, (Serial.newParser.feedAll chunks).2 = [f] ∧
          f = ⟨seq, cmdWifiScan, true, statusOk, payload⟩ ∧
          handleWifiScan f = .ok (cafeRecords.map found) :=
  scan_survives (by decide) (by decide) fun _ => .zero _

end EspNetwork.Api
