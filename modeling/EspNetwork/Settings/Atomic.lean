import EspNetwork.Settings.Board
import EspNetwork.Settings.Buffers

/-!
# Whether an answer tells what is stored

A setter is atomic when `PROTO_STATUS_OK` means that the new value is stored and every other
answer that the old one still is. The conditions below are those under which the three setters
are: none of them takes back what it has written, the hostname is stored before it is applied,
the LED flag is answered without a look at the store, and a NUL in a string cuts it.
-/

namespace EspNetwork.Settings

open Serial (Byte Bytes ProtoFrame)
open Firmware (Answer statusOk statusError statusInvalid ok error)
open Fallible

/-! ## What is stored -/

/-- A stored string as bytes. -/
def Nvs.bytes (n : Nvs) (key : NvsKey) : Option Bytes := (n.str key).map CString.chars

/-- The SSID and the password. -/
def Board.config (b : Board) : Option Bytes × Option Bytes := (b.nvs.bytes .ssid, b.nvs.bytes .pass)

def Board.hostname (b : Board) : Option Bytes := b.nvs.bytes .hostname

def Board.enabled (b : Board) : Option Byte := b.nvs.enabled

/-- The answer is `PROTO_STATUS_OK`. -/
def Succeeded (a : Option Answer) : Prop := a.map Answer.status = some statusOk

instance (a : Option Answer) : Decidable (Succeeded a) :=
  inferInstanceAs (Decidable (a.map Answer.status = some statusOk))

/-- The answer to the frame tells whether the setting has become `new` or stayed. -/
def Atomic {β : Type} (fails : Failures) (b : Board) (f : ProtoFrame) (setting : Board → β)
    (new : β) : Prop :=
  AllOrNothing (onFrame fails f) Succeeded setting new b

/-! ## Conditions -/

/-- For strings that `wifi_mgr_set_config` gets to store. -/
def StoresConfig (fails : Failures) (n : Nvs) (ssid pass : Bytes) : Prop :=
  match fails .nvsOpen, fails (.nvsSetStr .ssid), fails (.nvsSetStr .pass), fails .nvsCommit with
  | some _, _, _, _ => True
  | none, some _, _, _ => True
  | none, none, some _, _ => n.str .ssid = some (.ofBytes ssid)
  | none, none, none, some _ =>
    n.str .ssid = some (.ofBytes ssid) ∧ n.str .pass = some (.ofBytes pass)
  | none, none, none, none => 0 ∉ ssid ∧ 0 ∉ pass

/-- For a string that `wifi_mgr_set_hostname` gets to store. -/
def StoresHostname (fails : Failures) (n : Nvs) (hostname : Bytes) : Prop :=
  match fails .nvsOpen, fails (.nvsSetStr .hostname), fails .nvsCommit,
    fails .netifSetHostname with
  | some _, _, _, _ => True
  | none, some _, _, _ => True
  | none, none, none, none => 0 ∉ hostname
  | none, none, _, _ => n.str .hostname = some (.ofBytes hostname)

def ConfigAtomic (fails : Failures) (n : Nvs) (payload : Bytes) : Prop :=
  let ssid := configSsid payload
  let pass := configPass payload
  ConfigRefused payload ∨
    ConfigCopied payload ∧ Terminates (wifiMgrSsidMax + 1) ssid ∧
      ((CString.ofBytes ssid).length = 0 ∨
        Terminates (wifiMgrPassMax + 1) pass ∧ StoresConfig fails n ssid pass)

def HostnameAtomic (fails : Failures) (n : Nvs) (payload : Bytes) : Prop :=
  HostnameRefused payload ∨ (CString.ofBytes (hostnameOf payload)).length = 0 ∨
    StoresHostname fails n (hostnameOf payload)

/-- The flag that `handle_led_set` is to store. -/
def ledFlag (payload : Bytes) : Byte := if payload.getD 0 0 ≠ 0 then 1 else 0

def LedAtomic (fails : Failures) (n : Nvs) (payload : Bytes) : Prop :=
  payload = [] ∨ fails .nvsOpen = none ∧ fails .nvsSetU8 = none ∨
    n.enabled = some (ledFlag payload)

/-! ## The setters -/

variable {fails : Failures} {b : Board}

theorem Nvs.bytes_eq_iff {n : Nvs} {key : NvsKey} {s : CString} :
    n.bytes key = some s.chars ↔ n.str key = some s := by
  simp only [Nvs.bytes, Option.map_eq_some_iff]
  constructor
  · rintro ⟨t, stored, chars⟩
    rw [stored, CString.ext chars]
  · exact fun stored => ⟨s, stored, rfl⟩

theorem config_setStr_ssid (s : CString) :
    (b.setStr .ssid s).config = (some s.chars, b.nvs.bytes .pass) := by
  simp [Board.config, Nvs.bytes, Board.setStr, Nvs.setStr]

theorem config_setStr (s p : CString) :
    ((b.setStr .ssid s).setStr .pass p).config = (some s.chars, some p.chars) := by
  simp [Board.config, Nvs.bytes, Board.setStr, Nvs.setStr]

theorem hostname_setStr (s : CString) : (b.setStr .hostname s).hostname = some s.chars := by
  simp [Board.hostname, Nvs.bytes, Board.setStr, Nvs.setStr]

theorem not_succeeded_invalid : ¬ Succeeded (some invalid) := by
  simp [Succeeded, invalid, statusInvalid, statusOk]

theorem success_answerOf :
    (fun ret => Succeeded (some (answerOf ret))) = fun ret => ret = .ok () := by
  funext ret
  simp [Succeeded, status_answerOf]

/-- A board that had the strings already looks as before. -/
theorem config_eq_iff {s p : CString} :
    (some s.chars, some p.chars) = b.config ↔
      b.nvs.str .ssid = some s ∧ b.nvs.str .pass = some p := by
  rw [eq_comm, Board.config, Prod.mk.injEq, Nvs.bytes_eq_iff, Nvs.bytes_eq_iff]

theorem wifiMgrSetConfig_atomic {ssid pass : Bytes} (pos : (CString.ofBytes ssid).length ≠ 0)
    (ssid_le : (CString.ofBytes ssid).length ≤ wifiMgrSsidMax)
    (pass_le : (CString.ofBytes pass).length ≤ wifiMgrPassMax) :
    AllOrNothing (wifiMgrSetConfig fails (.string (.ofBytes ssid)) (.string (.ofBytes pass)))
        (· = .ok ()) Board.config (some ssid, some pass) b ↔
      StoresConfig fails b.nvs ssid pass := by
  have accepted : ¬ ((CString.ofBytes ssid).length = 0 ∨
      wifiMgrSsidMax < (CString.ofBytes ssid).length ∨
      wifiMgrPassMax < (CString.ofBytes pass).length) := by omega
  unfold AllOrNothing StoresConfig
  rw [settles_wifiMgrSetConfig, if_neg accepted]
  generalize fails .nvsOpen = opens, fails (.nvsSetStr .ssid) = setsSsid,
    fails (.nvsSetStr .pass) = setsPass, fails .nvsCommit = commits
  match opens, setsSsid, setsPass, commits with
  | some e, _, _, _ => simp
  | none, some e, _, _ => simp
  | none, none, some e, _ =>
    have half : (b.setStr .ssid (.ofBytes ssid)).config = b.config ↔
        b.nvs.str .ssid = some (.ofBytes ssid) := by
      rw [config_setStr_ssid, Board.config, Prod.mk.injEq, ← Nvs.bytes_eq_iff]
      simp [eq_comm]
    simpa using half
  | none, none, none, some e =>
    simp only [reduceCtorEq, config_setStr, config_eq_iff]
    simp
  | none, none, none, none =>
    simp only [config_setStr, Prod.mk.injEq, Option.some.injEq, CString.ofBytes_eq_iff]
    simp

theorem wifiMgrSetHostname_atomic {hostname : Bytes} (pos : (CString.ofBytes hostname).length ≠ 0)
    (le : (CString.ofBytes hostname).length ≤ wifiMgrHostnameMax) :
    AllOrNothing (wifiMgrSetHostname fails (.string (.ofBytes hostname))) (· = .ok ())
        Board.hostname (some hostname) b ↔
      StoresHostname fails b.nvs hostname := by
  have accepted : ¬ ((CString.ofBytes hostname).length = 0 ∨
      wifiMgrHostnameMax < (CString.ofBytes hostname).length) := by omega
  have same : some (CString.ofBytes hostname).chars = b.hostname ↔
      b.nvs.str .hostname = some (.ofBytes hostname) := by
    rw [eq_comm, Board.hostname, Nvs.bytes_eq_iff]
  unfold AllOrNothing StoresHostname
  rw [settles_wifiMgrSetHostname, if_neg accepted]
  generalize fails .nvsOpen = opens, fails (.nvsSetStr .hostname) = sets,
    fails .nvsCommit = commits, fails .netifSetHostname = applies
  match opens, sets, commits, applies with
  | some e, _, _, _ => simp
  | none, some e, _, _ => simp
  | none, none, some e, _ => simpa [hostname_setStr] using same
  | none, none, none, some e => simpa [hostname_setStr] using same
  | none, none, none, none =>
    simp only [hostname_setStr, Option.some.injEq, CString.ofBytes_eq_iff]
    simp

/-! ## The frames -/

theorem setConfig_atomic_iff (seq : Byte) (payload : Bytes) :
    Atomic fails b ⟨seq, cmdWifiSetConfig, payload⟩ Board.config
        (some (configSsid payload), some (configPass payload)) ↔
      ConfigAtomic fails b.nvs payload := by
  unfold Atomic ConfigAtomic
  rw [onFrame_setConfig rfl, allOrNothing_map]
  obtain ⟨refused, args⟩ | ⟨unbounded, args⟩ | ⟨fits, ssid, pass, args, ssid_ptr, pass_ptr⟩ :=
    wifiSetConfigArgs_cases payload
  · rw [handleWifiSetConfig_badArg args]
    exact iff_of_true (allOrNothing_pure not_succeeded_invalid) (.inl refused)
  · have faults : ¬ (ConfigRefused payload ∨ ConfigCopied payload) := fun h =>
      unbounded (h.elim ConfigRefused.bounded ConfigCopied.bounded)
    refine iff_of_false ?_ (by tauto)
    simp [AllOrNothing, handleWifiSetConfig, args]
  · rw [handleWifiSetConfig_args args, allOrNothing_map, success_answerOf, ssid_ptr, pass_ptr]
    have not_refused : ¬ ConfigRefused payload := fun h => h.not_copied fits
    have ssid_fits : (configSsid payload).length ≤ wifiMgrSsidMax + 1 :=
      fits.length_configSsid.trans_le fits.2.1
    have pass_fits : (configPass payload).length ≤ wifiMgrPassMax + 1 :=
      fits.length_configPass.trans_le fits.2.2
    by_cases ssid_ends : Terminates (wifiMgrSsidMax + 1) (configSsid payload)
    swap
    · rw [CharPtr.inArray, if_neg ssid_ends, wifiMgrSetConfig_unterminated]
      exact iff_of_false (fun h => h) (by tauto)
    have ssid_lt := CString.length_ofBytes_lt ssid_ends ssid_fits
    rw [CharPtr.inArray, if_pos ssid_ends]
    by_cases empty : (CString.ofBytes (configSsid payload)).length = 0
    · rw [wifiMgrSetConfig_empty empty]
      exact iff_of_true (allOrNothing_pure (by simp)) (.inr ⟨fits, ssid_ends, .inl empty⟩)
    by_cases pass_ends : Terminates (wifiMgrPassMax + 1) (configPass payload)
    swap
    · rw [CharPtr.inArray, if_neg pass_ends,
        wifiMgrSetConfig_password_unterminated empty (by omega)]
      exact iff_of_false (fun h => h) (by tauto)
    have pass_lt := CString.length_ofBytes_lt pass_ends pass_fits
    rw [CharPtr.inArray, if_pos pass_ends,
      wifiMgrSetConfig_atomic empty (by omega) (by omega)]
    tauto

theorem setHostname_atomic_iff (seq : Byte) (payload : Bytes) :
    Atomic fails b ⟨seq, cmdWifiSetHostname, payload⟩ Board.hostname (some (hostnameOf payload)) ↔
      HostnameAtomic fails b.nvs payload := by
  unfold Atomic HostnameAtomic
  rw [onFrame_setHostname rfl, allOrNothing_map]
  obtain ⟨refused, args⟩ | ⟨accepted, hostname, args, le, hostname_ptr⟩ :=
    wifiSetHostnameArgs_cases payload
  · rw [handleWifiSetHostname_badArg args]
    exact iff_of_true (allOrNothing_pure not_succeeded_invalid) (.inl refused)
  · rw [handleWifiSetHostname_args args, allOrNothing_map, success_answerOf, hostname_ptr]
    by_cases empty : (CString.ofBytes (hostnameOf payload)).length = 0
    · rw [wifiMgrSetHostname_empty empty]
      exact iff_of_true (allOrNothing_pure (by simp)) (.inr (.inl empty))
    rw [wifiMgrSetHostname_atomic empty le]
    tauto

theorem ledSet_atomic_iff (seq : Byte) (payload : Bytes) :
    Atomic fails b ⟨seq, cmdLedSet, payload⟩ Board.enabled (some (ledFlag payload)) ↔
      LedAtomic fails b.nvs payload := by
  unfold Atomic LedAtomic
  rw [onFrame_ledSet rfl, allOrNothing_map]
  cases payload with
  | nil =>
    rw [handleLedSet_badArg rfl]
    exact iff_of_true (allOrNothing_pure not_succeeded_invalid) (.inl rfl)
  | cons first rest =>
    have args : ledSetArgs (first :: rest) = .ok (some (ledFlag (first :: rest))) := rfl
    generalize ledFlag (first :: rest) = val at args ⊢
    have succeeded : Succeeded (some ok) := rfl
    simp only [AllOrNothing, handleLedSet, args, nvsSetU8, settles_bind, settles_check,
      settles_modify, settles_attempt, settles_espCall]
    cases fails .nvsOpen <;> cases fails .nvsSetU8 <;> cases fails .nvsCommit <;>
      simp [Board.enabled, succeeded]

/-- For each setter, every payload, every prior state and every pattern of failures: exactly
when the answer tells what is stored. -/
theorem setters_atomic_iff (fails : Failures) (b : Board) (seq : Byte) (payload : Bytes) :
    (Atomic fails b ⟨seq, cmdWifiSetConfig, payload⟩ Board.config
        (some (configSsid payload), some (configPass payload)) ↔
      ConfigAtomic fails b.nvs payload) ∧
    (Atomic fails b ⟨seq, cmdWifiSetHostname, payload⟩ Board.hostname
        (some (hostnameOf payload)) ↔
      HostnameAtomic fails b.nvs payload) ∧
    (Atomic fails b ⟨seq, cmdLedSet, payload⟩ Board.enabled (some (ledFlag payload)) ↔
      LedAtomic fails b.nvs payload) :=
  ⟨setConfig_atomic_iff seq payload, setHostname_atomic_iff seq payload,
    ledSet_atomic_iff seq payload⟩

/-- A store in which every key has a value. -/
def configured : Board :=
  { erased with nvs := ⟨fun _ => some ⟨[0x61], by decide⟩, some 1⟩ }

/-- The calls in the list fail. -/
def failing (calls : List EspCall) : Failures :=
  fun c => if c ∈ calls then some (.other 1) else none

/-- A failed call in the middle leaves a new SSID with the old password, a hostname that cannot
be applied is stored all the same, and an LED flag that cannot be stored is answered with
`PROTO_STATUS_OK`. -/
theorem setters_not_atomic :
    ¬ Atomic (failing [.nvsSetStr .pass]) configured ⟨0, cmdWifiSetConfig, [1, 0x62, 1, 0x63]⟩
        Board.config (some [0x62], some [0x63]) ∧
      ¬ Atomic (failing [.netifSetHostname]) configured ⟨0, cmdWifiSetHostname, [1, 0x62]⟩
        Board.hostname (some [0x62]) ∧
      ¬ Atomic (failing [.nvsOpen]) configured ⟨0, cmdLedSet, [0]⟩ Board.enabled (some 0) := by
  refine ⟨?_, ?_, ?_⟩
  · rintro ⟨-, kept⟩
    exact absurd (kept (by decide)) (by decide)
  · rintro ⟨-, kept⟩
    exact absurd (kept (by decide)) (by decide)
  · rintro ⟨stored, -⟩
    exact absurd (stored rfl) (by decide)

end EspNetwork.Settings
