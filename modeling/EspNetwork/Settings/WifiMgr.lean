import EspNetwork.Base.CString
import EspNetwork.Base.Fallible
import EspNetwork.Serial.Frame

/-!
# The Wi-Fi manager and its flash store

The parts of `main/wifi_mgr.c` that read or write the settings, over a board that holds the
NVS store and the variables of the module. Every call of ESP-IDF may fail: a `Failures` says
which calls of one function do, and with which error. What was set in the store stays visible
whether or not it is committed.
-/

namespace EspNetwork.Settings

open Serial (Byte Bytes)
open Fallible

def wifiMgrSsidMax : ℕ := 32
def wifiMgrPassMax : ℕ := 64
def wifiMgrHostnameMax : ℕ := 32

/-! ## ESP-IDF -/

/-- `esp_err_t`, without `ESP_OK`. -/
inductive EspErr where
  | invalidArg
  | notFound
  | nvsNotFound
  | nvsInvalidLength
  | other (code : ℕ)
  deriving DecidableEq, Repr

/-- The string keys of the namespace `wifi_mgr`. -/
inductive NvsKey where
  | ssid
  | pass
  | hostname
  deriving DecidableEq, Repr

/-- The store: the keys of `wifi_mgr`, and `enabled` of `led_cfg`. -/
structure Nvs where
  str : NvsKey → Option CString
  enabled : Option Byte

/-- The calls that may fail. -/
inductive EspCall where
  | nvsOpen
  | nvsSetStr (key : NvsKey)
  | nvsSetU8
  | nvsCommit
  | nvsGetStr (key : NvsKey)
  | nvsGetU8
  | netifSetHostname
  | wifiSetConfig
  | wifiConnect
  | wifiDisconnect
  deriving DecidableEq, Repr

/-- The calls that fail, with their errors. -/
abbrev Failures := EspCall → Option EspErr

def noFailures : Failures := fun _ => none

/-! ## The board -/

inductive WifiMgrState where
  | disconnected
  | connecting
  | connected
  | failed
  deriving DecidableEq, Repr

inductive WifiAuth where
  | authOpen
  | authWpa2Psk
  deriving DecidableEq, Repr

/-- `wifi_sta_config_t`; the driver needs no terminator. -/
structure WifiStaConfig where
  ssid : CharArray 32
  password : CharArray 64
  authmode : WifiAuth
  deriving DecidableEq

/-- `wifi_mgr_config_t`. -/
structure WifiMgrConfig where
  ssid : CharArray (wifiMgrSsidMax + 1)
  password : CharArray (wifiMgrPassMax + 1)

/-- The store, the variables, and the configurations the driver was passed so far. -/
structure Board where
  nvs : Nvs
  sLedEnabled : Byte
  /-- `s_wifi_eg` is not `NULL`. -/
  sWifiEg : Bool
  sState : WifiMgrState
  sAutoReconnect : Bool
  staConfigs : List WifiStaConfig

/-- Why a function does not return. -/
inductive Halt where
  | fault (m : MemFault)
  | restart
  deriving DecidableEq, Repr

/-- A function of the firmware that returns a value. -/
abbrev Exec := Fallible Board Halt

/-- A function that returns an `esp_err_t`. -/
abbrev EspExec := Fallible Board EspErr

def Nvs.setStr (n : Nvs) (key : NvsKey) (s : CString) : Nvs :=
  { n with str := Function.update n.str key (some s) }

def Board.setStr (b : Board) (key : NvsKey) (s : CString) : Board :=
  { b with nvs := b.nvs.setStr key s }

/-- A call that changes nothing here. -/
def espCall (fails : Failures) (c : EspCall) : EspExec Unit :=
  match fails c with
  | none => pure ()
  | some e => throw e

def nvsSetStr (fails : Failures) (key : NvsKey) (s : CString) : EspExec Unit := do
  espCall fails (.nvsSetStr key)
  modify (·.setStr key s)

/-- `xEventGroupSetBits`, `xEventGroupClearBits` and `xEventGroupWaitBits` assert that there is a
group. -/
def xEventGroupBits : Exec Unit := do
  if (← get).sWifiEg then pure () else throw .restart

/-- `nvs_get_str` into an array whose size it is given. -/
def nvsGetStr {size : ℕ} (fails : Failures) (key : NvsKey) (out : CharArray size) :
    EspExec (CharArray size) := do
  espCall fails (.nvsGetStr key)
  match (← get).nvs.str key with
  | none => throw .nvsNotFound
  | some s => if h : s.length < size then pure (out.store s h) else throw .nvsInvalidLength

/-- The driver is passed the configuration whether or not it takes it. -/
def espWifiSetConfig (fails : Failures) (cfg : WifiStaConfig) : EspExec Unit := do
  modify fun b => { b with staConfigs := b.staConfigs ++ [cfg] }
  espCall fails .wifiSetConfig

/-! ## The store functions -/

variable (fails : Failures)

/-- `wifi_mgr_set_config`. -/
def wifiMgrSetConfig : CharPtr → CharPtr → Exec (Except EspErr Unit)
  | .null, _ => return .error .invalidArg
  | ssid, password => do
    let ssid ← check .fault ssid.read
    if ssid.length = 0 ∨ ssid.length > wifiMgrSsidMax then return .error .invalidArg
    else
      let password ← check .fault password.orEmpty
      if password.length > wifiMgrPassMax then return .error .invalidArg
      else
        attempt do
          espCall fails .nvsOpen
          nvsSetStr fails .ssid ssid
          nvsSetStr fails .pass password
          espCall fails .nvsCommit

/-- `wifi_mgr_get_config` into a cleared `wifi_mgr_config_t`. -/
def wifiMgrGetConfig : EspExec WifiMgrConfig := do
  espCall fails .nvsOpen
  let ssid ← nvsGetStr fails .ssid (.zero (wifiMgrSsidMax + 1))
  let password ← nvsGetStr fails .pass (.zero (wifiMgrPassMax + 1))
  return ⟨ssid, password⟩

/-- `wifi_mgr_set_hostname`. -/
def wifiMgrSetHostname : CharPtr → Exec (Except EspErr Unit)
  | .null => return .error .invalidArg
  | hostname => do
    let hostname ← check .fault hostname.read
    if hostname.length = 0 ∨ hostname.length > wifiMgrHostnameMax then return .error .invalidArg
    else
      attempt do
        espCall fails .nvsOpen
        nvsSetStr fails .hostname hostname
        espCall fails .nvsCommit
        espCall fails .netifSetHostname

/-- `wifi_mgr_get_hostname` into a cleared array. -/
def wifiMgrGetHostname : EspExec (CharArray (wifiMgrHostnameMax + 1)) := do
  espCall fails .nvsOpen
  nvsGetStr fails .hostname (.zero (wifiMgrHostnameMax + 1))

/-! ## Connecting -/

theorem ssid_room : 32 - 1 ≤ 32 := by decide

theorem password_room : 64 - 1 ≤ 64 := by decide

/-- `wifi_mgr_connect`; `ESP_ERROR_CHECK` restarts the chip when the driver refuses the
configuration. -/
def wifiMgrConnect : Exec (Except EspErr Unit) := do
  match ← attempt (wifiMgrGetConfig fails) with
  | .error _ => return .error .notFound
  | .ok cfg =>
    let wifiCfg : WifiStaConfig :=
      { ssid := (CharArray.zero 32).strncpy cfg.ssid.str (32 - 1) ssid_room
        password := (CharArray.zero 64).strncpy cfg.password.str (64 - 1) password_room
        authmode := if cfg.password.cells.head? ≠ some 0 then .authWpa2Psk else .authOpen }
    xEventGroupBits
    modify fun b => { b with sState := .connecting, sAutoReconnect := true }
    match ← attempt (espWifiSetConfig fails wifiCfg) with
    | .error _ => throw .restart
    | .ok () =>
      match ← attempt (espCall fails .wifiConnect) with
      | .ok () => return .ok ()
      | .error e =>
        modify fun b => { b with sState := .failed }
        return .error e

/-- `reconnect_timer_cb`; it builds the configuration a second time, and ignores whether the
driver takes it. -/
def reconnectTimerCb : Exec Unit := do
  let b ← get
  if ¬ b.sAutoReconnect then return ()
  else if b.sState = .connected ∨ b.sState = .connecting then return ()
  else
    match ← attempt (wifiMgrGetConfig fails) with
    | .error _ => return ()
    | .ok cfg =>
      let wifiCfg : WifiStaConfig :=
        { ssid := (CharArray.zero 32).strncpy cfg.ssid.str (32 - 1) ssid_room
          password := (CharArray.zero 64).strncpy cfg.password.str (64 - 1) password_room
          authmode := if cfg.password.cells.head? ≠ some 0 then .authWpa2Psk else .authOpen }
      let _ ← attempt (espWifiSetConfig fails wifiCfg)
      match ← attempt (espCall fails .wifiConnect) with
      | .ok () => modify fun b => { b with sState := .connecting }
      | .error _ => return ()

/-- `wifi_mgr_disconnect`. -/
def wifiMgrDisconnect : Exec (Except EspErr Unit) := do
  modify fun b => { b with sAutoReconnect := false }
  match ← attempt (espCall fails .wifiDisconnect) with
  | .ok () =>
    modify fun b => { b with sState := .disconnected }
    return .ok ()
  | .error e => return .error e

/-! ## What the calls do -/

section Rules

variable {fails : Failures} {b : Board}

@[simp] theorem settles_espCall {c : EspCall} {done : Unit → Board → Prop}
    {failed : EspErr → Board → Prop} :
    Settles (espCall fails c) b done failed ↔
      match fails c with
      | none => done () b
      | some e => failed e b := by
  cases h : fails c <;> simp [espCall, h]

@[simp] theorem settles_xEventGroupBits {done : Unit → Board → Prop}
    {failed : Halt → Board → Prop} :
    Settles xEventGroupBits b done failed ↔ if b.sWifiEg then done () b else failed .restart b := by
  simp only [xEventGroupBits, settles_bind, settles_get, settles_ite, settles_pure, settles_throw]

@[simp] theorem settles_nvsSetStr {key : NvsKey} {s : CString} {done : Unit → Board → Prop}
    {failed : EspErr → Board → Prop} :
    Settles (nvsSetStr fails key s) b done failed ↔
      match fails (.nvsSetStr key) with
      | none => done () (b.setStr key s)
      | some e => failed e b := by
  simp [nvsSetStr]

/-- A stored string that fits is read back into the array. -/
theorem settles_nvsGetStr {size : ℕ} {key : NvsKey} {out : CharArray size} {s : CString}
    (stored : b.nvs.str key = some s) (fits : s.length < size)
    {done : CharArray size → Board → Prop} {failed : EspErr → Board → Prop} :
    Settles (nvsGetStr fails key out) b done failed ↔
      match fails (.nvsGetStr key) with
      | none => done (out.store s fits) b
      | some e => failed e b := by
  simp [nvsGetStr, stored, fits]

/-- `wifi_mgr_set_config` writes one key after the other, and a failure does not take back
what was written before it. -/
theorem settles_wifiMgrSetConfig {ssid password : CString}
    {done : Except EspErr Unit → Board → Prop} {failed : Halt → Board → Prop} :
    Settles (wifiMgrSetConfig fails (.string ssid) (.string password)) b done failed ↔
      if ssid.length = 0 ∨ wifiMgrSsidMax < ssid.length ∨ wifiMgrPassMax < password.length then
        done (.error .invalidArg) b
      else
        match fails .nvsOpen, fails (.nvsSetStr .ssid), fails (.nvsSetStr .pass),
          fails .nvsCommit with
        | some e, _, _, _ => done (.error e) b
        | none, some e, _, _ => done (.error e) b
        | none, none, some e, _ => done (.error e) (b.setStr .ssid ssid)
        | none, none, none, some e =>
          done (.error e) ((b.setStr .ssid ssid).setStr .pass password)
        | none, none, none, none =>
          done (.ok ()) ((b.setStr .ssid ssid).setStr .pass password) := by
  simp only [wifiMgrSetConfig, CharPtr.read, CharPtr.orEmpty, settles_bind, settles_check,
    settles_ite, settles_attempt, settles_espCall, settles_nvsSetStr, settles_pure]
  cases fails .nvsOpen <;> cases fails (.nvsSetStr .ssid) <;> cases fails (.nvsSetStr .pass) <;>
    cases fails .nvsCommit <;> grind

/-- The SSID is read before anything else, the password only behind a good SSID. -/
theorem wifiMgrSetConfig_unterminated (password : CharPtr) :
    wifiMgrSetConfig fails .unterminated password = throw (.fault .read) := by
  simp [wifiMgrSetConfig, CharPtr.read, check]

theorem wifiMgrSetConfig_empty {ssid : CString} (h : ssid.length = 0) (password : CharPtr) :
    wifiMgrSetConfig fails (.string ssid) password = pure (.error .invalidArg) := by
  simp [wifiMgrSetConfig, CharPtr.read, check, h]

theorem wifiMgrSetConfig_password_unterminated {ssid : CString} (pos : ssid.length ≠ 0)
    (le : ssid.length ≤ wifiMgrSsidMax) :
    wifiMgrSetConfig fails (.string ssid) .unterminated = throw (.fault .read) := by
  simp [wifiMgrSetConfig, CharPtr.read, CharPtr.orEmpty, check, pos, Nat.not_lt.mpr le]

/-- `wifi_mgr_set_hostname` applies the hostname after it has stored it. -/
theorem settles_wifiMgrSetHostname {hostname : CString}
    {done : Except EspErr Unit → Board → Prop} {failed : Halt → Board → Prop} :
    Settles (wifiMgrSetHostname fails (.string hostname)) b done failed ↔
      if hostname.length = 0 ∨ wifiMgrHostnameMax < hostname.length then
        done (.error .invalidArg) b
      else
        match fails .nvsOpen, fails (.nvsSetStr .hostname), fails .nvsCommit,
          fails .netifSetHostname with
        | some e, _, _, _ => done (.error e) b
        | none, some e, _, _ => done (.error e) b
        | none, none, some e, _ => done (.error e) (b.setStr .hostname hostname)
        | none, none, none, some e => done (.error e) (b.setStr .hostname hostname)
        | none, none, none, none => done (.ok ()) (b.setStr .hostname hostname) := by
  simp only [wifiMgrSetHostname, CharPtr.read, settles_bind, settles_check, settles_ite,
    settles_attempt, settles_espCall, settles_nvsSetStr, settles_pure]
  cases fails .nvsOpen <;> cases fails (.nvsSetStr .hostname) <;> cases fails .nvsCommit <;>
    cases fails .netifSetHostname <;> grind

theorem wifiMgrSetHostname_empty {hostname : CString} (h : hostname.length = 0) :
    wifiMgrSetHostname fails (.string hostname) = pure (.error .invalidArg) := by
  simp [wifiMgrSetHostname, CharPtr.read, check, h]

end Rules

/-! ## What the calls leave alone -/

section Frames

variable {β : Type} {view : Board → β} {fails : Failures}

theorem keeps_espCall {c : EspCall} : Keeps view (espCall fails c) := by
  unfold espCall
  split
  · exact keeps_pure ()
  · exact keeps_throw _

theorem keeps_xEventGroupBits : Keeps view xEventGroupBits := by
  refine keeps_get.bind fun b => ?_
  split
  · exact keeps_pure ()
  · exact keeps_throw _

theorem keeps_nvsSetStr {key : NvsKey} {s : CString}
    (h : ∀ b : Board, view (b.setStr key s) = view b) : Keeps view (nvsSetStr fails key s) :=
  keeps_espCall.bind fun _ => keeps_modify h

theorem keeps_nvsGetStr {size : ℕ} {key : NvsKey} {out : CharArray size} :
    Keeps view (nvsGetStr fails key out) := by
  refine keeps_espCall.bind fun _ => keeps_get.bind fun b => ?_
  split
  · exact keeps_throw _
  · split
    · exact keeps_pure _
    · exact keeps_throw _

theorem keeps_espWifiSetConfig {cfg : WifiStaConfig} :
    Keeps Board.nvs (espWifiSetConfig fails cfg) :=
  (keeps_modify (by intro b; rfl)).bind fun _ => keeps_espCall

theorem keeps_wifiMgrGetConfig : Keeps view (wifiMgrGetConfig fails) :=
  keeps_espCall.bind fun _ => keeps_nvsGetStr.bind fun _ => keeps_nvsGetStr.bind fun _ =>
    keeps_pure _

theorem keeps_wifiMgrGetHostname : Keeps view (wifiMgrGetHostname fails) :=
  keeps_espCall.bind fun _ => keeps_nvsGetStr

theorem keeps_wifiMgrSetConfig {ssid password : CharPtr}
    (h : ∀ (b : Board) s, view (b.setStr .ssid s) = view b ∧ view (b.setStr .pass s) = view b) :
    Keeps view (wifiMgrSetConfig fails ssid password) := by
  unfold wifiMgrSetConfig
  split
  · exact keeps_pure _
  · refine (keeps_check _ _).bind fun ssid => ?_
    split
    · exact keeps_pure _
    · refine (keeps_check _ _).bind fun password => ?_
      split
      · exact keeps_pure _
      · exact (keeps_espCall.bind fun _ => (keeps_nvsSetStr fun b => (h b _).1).bind fun _ =>
          (keeps_nvsSetStr fun b => (h b _).2).bind fun _ => keeps_espCall).attempt

theorem keeps_wifiMgrSetHostname {hostname : CharPtr}
    (h : ∀ (b : Board) s, view (b.setStr .hostname s) = view b) :
    Keeps view (wifiMgrSetHostname fails hostname) := by
  unfold wifiMgrSetHostname
  split
  · exact keeps_pure _
  · refine (keeps_check _ _).bind fun hostname => ?_
    split
    · exact keeps_pure _
    · exact (keeps_espCall.bind fun _ => (keeps_nvsSetStr fun b => h b _).bind fun _ =>
        keeps_espCall.bind fun _ => keeps_espCall).attempt

theorem keeps_wifiMgrDisconnect
    (h : ∀ (b : Board) auto state,
      view { b with sAutoReconnect := auto } = view b ∧ view { b with sState := state } = view b) :
    Keeps view (wifiMgrDisconnect fails) := by
  refine (keeps_modify fun b => (h b _ .failed).1).bind fun _ =>
    keeps_espCall.attempt.bind fun ret => ?_
  split
  · exact (keeps_modify fun b => (h b false _).2).bind fun _ => keeps_pure _
  · exact keeps_pure _

theorem keeps_wifiMgrConnect : Keeps Board.nvs (wifiMgrConnect fails) := by
  refine keeps_wifiMgrGetConfig.attempt.bind fun ret => ?_
  split
  · exact keeps_pure _
  · refine keeps_xEventGroupBits.bind fun _ => (keeps_modify (by intro b; rfl)).bind fun _ =>
      keeps_espWifiSetConfig.attempt.bind fun ret => ?_
    split
    · exact keeps_throw _
    · refine keeps_espCall.attempt.bind fun ret => ?_
      split
      · exact keeps_pure _
      · exact (keeps_modify (by intro b; rfl)).bind fun _ => keeps_pure _

theorem keeps_reconnectTimerCb : Keeps Board.nvs (reconnectTimerCb fails) := by
  refine keeps_get.bind fun b => ?_
  split
  · exact keeps_pure _
  · split
    · exact keeps_pure _
    · refine keeps_wifiMgrGetConfig.attempt.bind fun ret => ?_
      split
      · exact keeps_pure _
      · refine keeps_espWifiSetConfig.attempt.bind fun _ => keeps_espCall.attempt.bind
          fun ret => ?_
        split
        · exact keeps_modify (by intro b; rfl)
        · exact keeps_pure _

end Frames

end EspNetwork.Settings
