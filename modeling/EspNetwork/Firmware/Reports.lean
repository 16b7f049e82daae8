import EspNetwork.Base.CString
import EspNetwork.Relay.Wire
import EspNetwork.Settings.WifiMgr

/-!
# What the device reports

The payloads that `handle_get_dev_info`, `handle_wifi_get_status` and `handle_wifi_scan` of
`main/esp32-network.c` build, with `wifi_mgr_get_status` and the copy loop of `wifi_mgr_scan`
from `main/wifi_mgr.c`. A buffer is the list of the bytes written to it so far.
-/

namespace EspNetwork.Firmware

open Serial (Byte Bytes)
open Settings (WifiMgrState wifiMgrSsidMax)

/-! ## Device information -/

/-- The values `handle_get_dev_info` collects, in their C types. -/
structure DevStats where
  freeHeap : UInt32
  totalHeap : UInt32
  minHeap : UInt32
  cpuLoad : UInt8
  uptimeS : UInt32
  taskCount : UInt16
  rxBytes : UInt64
  txBytes : UInt64
  tempC : Int8
  cpuFreq : UInt16
  deriving DecidableEq, Repr

/-- `PUT_U32`. -/
def putU32 (v : UInt32) : Bytes :=
  [(v &&& 0xFF).toUInt8, ((v >>> 8) &&& 0xFF).toUInt8, ((v >>> 16) &&& 0xFF).toUInt8,
    ((v >>> 24) &&& 0xFF).toUInt8]

/-- `PUT_U64`. -/
def putU64 (v : UInt64) : Bytes :=
  [(v &&& 0xFF).toUInt8, ((v >>> 8) &&& 0xFF).toUInt8, ((v >>> 16) &&& 0xFF).toUInt8,
    ((v >>> 24) &&& 0xFF).toUInt8, ((v >>> 32) &&& 0xFF).toUInt8, ((v >>> 40) &&& 0xFF).toUInt8,
    ((v >>> 48) &&& 0xFF).toUInt8, ((v >>> 56) &&& 0xFF).toUInt8]

/-- The payload behind the version string. -/
def statsBytes (s : DevStats) : Bytes :=
  putU32 s.freeHeap ++ putU32 s.totalHeap ++ putU32 s.minHeap ++ [s.cpuLoad] ++ putU32 s.uptimeS ++
    [(s.taskCount &&& 0xFF).toUInt8, (s.taskCount >>> 8).toUInt8] ++ putU64 s.rxBytes ++
    putU64 s.txBytes ++ [s.tempC.toUInt8] ++
    [(s.cpuFreq &&& 0xFF).toUInt8, (s.cpuFreq >>> 8).toUInt8]

def devInfoBufSize : ℕ := 1 + 64 + 4 + 4 + 4 + 1 + 4 + 2 + 8 + 8 + 1 + 2

/-- The payload of `handle_get_dev_info`; the length of the version is cut to a byte. -/
def devInfoPayload (ver : CString) (s : DevStats) : Bytes :=
  let verLen := UInt8.ofNat ver.length
  verLen :: ver.chars.take verLen.toNat ++ statsBytes s

theorem length_statsBytes (s : DevStats) : (statsBytes s).length = 38 := by
  simp [statsBytes, putU32, putU64]

/-- The buffer is exactly as long as the payload with a version of 64 bytes. -/
theorem length_devInfoPayload_le {ver : CString} (h : ver.length ≤ 64) (s : DevStats) :
    (devInfoPayload ver s).length ≤ devInfoBufSize := by
  have small : (UInt8.ofNat ver.length).toNat = ver.length :=
    UInt8.toNat_ofNat_of_lt' (show _ < 256 by omega)
  simp only [devInfoPayload, small, List.length_append, List.length_cons, length_statsBytes,
    List.length_take, devInfoBufSize]
  omega

/-! ## Wi-Fi status -/

/-- `wifi_mgr_status_t`. -/
structure WifiMgrStatus where
  state : WifiMgrState
  ip : Vector Byte 4
  rssi : Int8
  deriving DecidableEq

/-- The numbers of `wifi_mgr_state_t`. -/
def stateByte : WifiMgrState → Byte
  | .disconnected => 0
  | .connecting => 1
  | .connected => 2
  | .failed => 3

/-- `wifi_mgr_get_status`; `apInfo` is what `esp_wifi_sta_get_ap_info` finds. -/
def wifiMgrGetStatus (sState : WifiMgrState) (sIp : Vector Byte 4) (apInfo : Option Int8) :
    WifiMgrStatus where
  state := sState
  ip := sIp
  rssi := if sState = .connected then apInfo.getD 0 else 0

/-- The payload of `handle_wifi_get_status`. -/
def wifiStatusPayload (st : WifiMgrStatus) : Bytes :=
  stateByte st.state :: st.ip.toList ++ [st.rssi.toUInt8]

/-! ## Scan -/

/-- `wifi_ap_record_t`. -/
structure WifiApRecord where
  ssid : CharArray 33
  rssi : Int8
  authmode : UInt32
  deriving DecidableEq

/-- `wifi_mgr_ap_info_t`. -/
structure WifiMgrApInfo where
  ssid : CharArray (wifiMgrSsidMax + 1)
  rssi : Int8
  authmode : Byte
  deriving DecidableEq

def wifiMgrScanMax : ℕ := 20

/-- The body of the copy loop of `wifi_mgr_scan`, over an entry that was never written. -/
def copyRecord (old : CharArray (wifiMgrSsidMax + 1)) (r : WifiApRecord) :
    Except MemFault WifiMgrApInfo := do
  let ssid := old.strncpy r.ssid.str wifiMgrSsidMax (by decide)
  return ⟨← ssid.put wifiMgrSsidMax 0, r.rssi, r.authmode.toUInt8⟩

/-- The copy loop of `wifi_mgr_scan` into an array that was only allocated. -/
def copyRecords (mem : ℕ → CharArray (wifiMgrSsidMax + 1)) :
    ℕ → List WifiApRecord → Except MemFault (List WifiMgrApInfo)
  | _, [] => return []
  | i, r :: rs => return (← copyRecord (mem i) r) :: (← copyRecords mem (i + 1) rs)

/-- The loop of `handle_wifi_scan`, which stops early when an entry might not fit. -/
def putAps (buf : Bytes) : List WifiMgrApInfo → Except MemFault Bytes
  | [] => return buf
  | ap :: aps => do
    if buf.length < Serial.protoMaxPayload - 3 then
      let slen := UInt8.ofNat (← ap.ssid.strlen)
      if buf.length + 1 + slen.toNat + 2 > Serial.protoMaxPayload then return buf
      else
        putAps (buf ++ slen :: ap.ssid.cells.take slen.toNat ++ [ap.rssi.toUInt8, ap.authmode]) aps
    else return buf

/-- The payload of `handle_wifi_scan`. -/
def scanPayload (aps : List WifiMgrApInfo) : Except MemFault Bytes :=
  putAps [UInt8.ofNat aps.length] aps

/-- The bytes of one entry. -/
def apBytes (ap : WifiMgrApInfo) : Bytes :=
  UInt8.ofNat ap.ssid.str.length :: ap.ssid.str.chars ++ [ap.rssi.toUInt8, ap.authmode]

/-- An entry as the copy loop leaves it. -/
structure Copied (r : WifiApRecord) (ap : WifiMgrApInfo) : Prop where
  terminated : ap.ssid.Terminated
  ssid : ap.ssid.str = r.ssid.str.take wifiMgrSsidMax
  rssi : ap.rssi = r.rssi
  authmode : ap.authmode = r.authmode.toUInt8

theorem Copied.length_le {r : WifiApRecord} {ap : WifiMgrApInfo} (h : Copied r ap) :
    ap.ssid.str.length ≤ wifiMgrSsidMax := by
  rw [h.ssid]
  exact List.length_take_le _ _

theorem bounded_of_copied {rs : List WifiApRecord} {aps : List WifiMgrApInfo}
    (h : List.Forall₂ Copied rs aps) :
    ∀ ap ∈ aps, ap.ssid.Terminated ∧ ap.ssid.str.length ≤ wifiMgrSsidMax := by
  induction h with
  | nil => simp
  | cons entry _ ih => exact List.forall_mem_cons.mpr ⟨⟨entry.terminated, entry.length_le⟩, ih⟩

theorem copyRecord_eq (old : CharArray (wifiMgrSsidMax + 1)) (r : WifiApRecord) :
    ∃ ap, copyRecord old r = .ok ap ∧ Copied r ap := by
  obtain ⟨ssid, written, terminated, str⟩ := old.strncpy_put_last r.ssid.str (by decide)
  refine ⟨⟨ssid, r.rssi, r.authmode.toUInt8⟩, ?_, terminated, str, rfl, rfl⟩
  rw [copyRecord, written]
  rfl

theorem copyRecords_eq (mem : ℕ → CharArray (wifiMgrSsidMax + 1)) (i : ℕ)
    (rs : List WifiApRecord) :
    ∃ aps, copyRecords mem i rs = .ok aps ∧ List.Forall₂ Copied rs aps := by
  induction rs generalizing i with
  | nil => exact ⟨[], rfl, .nil⟩
  | cons r rs ih =>
    obtain ⟨ap, copied, entry⟩ := copyRecord_eq (mem i) r
    obtain ⟨aps, rest, entries⟩ := ih (i + 1)
    refine ⟨ap :: aps, ?_, .cons entry entries⟩
    rw [copyRecords, copied, Except.ok_bind, rest]
    rfl

/-- While every entry has room for the longest one, none is cut. -/
theorem putAps_eq {buf : Bytes} {aps : List WifiMgrApInfo}
    (entries : ∀ ap ∈ aps, ap.ssid.Terminated ∧ ap.ssid.str.length ≤ wifiMgrSsidMax)
    (room : buf.length + 35 * aps.length < Serial.protoMaxPayload - 3) :
    putAps buf aps = .ok (buf ++ (aps.map apBytes).flatten) := by
  induction aps generalizing buf with
  | nil => simp [putAps, pure, Except.pure]
  | cons ap aps ih =>
    obtain ⟨terminated, le⟩ := entries ap (by simp)
    have short : ap.ssid.str.length ≤ 32 := le
    rw [Serial.protoMaxPayload, List.length_cons] at room
    have small : (UInt8.ofNat ap.ssid.str.length).toNat = ap.ssid.str.length :=
      UInt8.toNat_ofNat_of_lt' (show _ < 256 by omega)
    have len : ap.ssid.strlen = .ok ap.ssid.str.length := if_pos terminated
    have size : (apBytes ap).length = ap.ssid.str.length + 3 := by simp [apBytes, CString.length]
    have next := @ih (buf ++ apBytes ap) (fun ap mem => entries ap (by simp [mem])) (by
      rw [Serial.protoMaxPayload, List.length_append, size]
      omega)
    rw [putAps, Serial.protoMaxPayload, if_pos (by omega), len, Except.ok_bind]
    dsimp only
    rw [small, if_neg (by omega), CharArray.take_length_str, List.map_cons, List.flatten_cons,
      ← List.append_assoc, ← next, apBytes, ← List.append_assoc]

theorem length_apBytes_le {ap : WifiMgrApInfo} (short : ap.ssid.str.length ≤ wifiMgrSsidMax) :
    (apBytes ap).length ≤ 35 := by
  have le : ap.ssid.str.chars.length ≤ 32 := short
  simp only [apBytes, List.cons_append, List.length_cons, List.length_append, List.length_nil]
  omega

theorem length_flatten_apBytes_le {aps : List WifiMgrApInfo}
    (short : ∀ ap ∈ aps, ap.ssid.str.length ≤ wifiMgrSsidMax) :
    (aps.map apBytes).flatten.length ≤ 35 * aps.length := by
  induction aps with
  | nil => simp
  | cons ap aps ih =>
    have first := length_apBytes_le (short ap (by simp))
    have rest := ih fun ap mem => short ap (by simp [mem])
    simp only [List.map_cons, List.flatten_cons, List.length_append, List.length_cons]
    omega

end EspNetwork.Firmware
