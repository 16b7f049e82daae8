import EspNetwork.Firmware.CmdTask
import EspNetwork.Settings.WifiMgr

/-!
# The settings handlers of the device

The handlers of `main/esp32-network.c` that read or write the settings, with every access to
the payload and to their arrays checked. A handler that parses a payload is in two parts: the
arguments it cuts out of the payload, where `none` is the jump to `bad_arg`, and what it does
with them.
-/

namespace EspNetwork.Settings

open Serial (Byte Bytes ProtoFrame)
open Firmware (Answer statusOk statusError statusInvalid ok error)
open Fallible

def cmdLedSet : Byte := 0x04
def cmdLedGet : Byte := 0x05
def cmdWifiSetConfig : Byte := 0x10
def cmdWifiGetConfig : Byte := 0x11
def cmdWifiConnect : Byte := 0x12
def cmdWifiDisconnect : Byte := 0x13
def cmdWifiSetHostname : Byte := 0x16
def cmdWifiGetHostname : Byte := 0x17

def invalid : Answer := ⟨statusInvalid, none, Firmware.noData_fits⟩

/-! ## Arguments -/

/-- `handle_led_set`. -/
def ledSetArgs (payload : Bytes) : Except MemFault (Option Byte) := do
  if payload.length < 1 then return none
  else
    let b ← readByte payload 0
    return some (if b ≠ 0 then 1 else 0)

/-- `handle_wifi_set_config`: no length byte is compared with the array it fills. -/
def wifiSetConfigArgs (payload : Bytes) :
    Except MemFault (Option (CharArray (wifiMgrSsidMax + 1) × CharArray (wifiMgrPassMax + 1))) := do
  let p := 0
  let remaining := payload.length
  if remaining < 1 then return none
  else
    let ssidLen ← readByte payload p
    let p := p + 1
    let remaining := remaining - 1
    if remaining < ssidLen.toNat + 1 then return none
    else
      let ssid ← (CharArray.zero _).memcpy (← readBytes payload p ssidLen.toNat)
      let p := p + ssidLen.toNat
      let remaining := remaining - ssidLen.toNat
      let passLen ← readByte payload p
      let p := p + 1
      let remaining := remaining - 1
      if remaining < passLen.toNat then return none
      else
        let pass ← (CharArray.zero _).memcpy (← readBytes payload p passLen.toNat)
        return some (ssid, pass)

/-- `handle_wifi_set_hostname`. -/
def wifiSetHostnameArgs (payload : Bytes) :
    Except MemFault (Option (CharArray (wifiMgrHostnameMax + 1))) := do
  let p := 0
  let rem := payload.length
  if rem < 1 then return none
  else
    let hlen ← readByte payload p
    let p := p + 1
    let rem := rem - 1
    if rem < hlen.toNat ∨ hlen = 0 ∨ hlen.toNat > wifiMgrHostnameMax then return none
    else
      let hostname ← (CharArray.zero _).memcpy (← readBytes payload p hlen.toNat)
      return some hostname

/-- `handle_proxy_connect`; `host` is not cleared, so its cells start with what they held. -/
def proxyConnectArgs (host : CharArray 256) (payload : Bytes) :
    Except MemFault (Option (CharArray 256 × UInt16)) := do
  let p := 0
  let rem := payload.length
  if rem < 1 then return none
  else
    let hostLen ← readByte payload p
    let p := p + 1
    let rem := rem - 1
    if rem < hostLen.toNat + 2 then return none
    else
      let host ← host.memcpy (← readBytes payload p hostLen.toNat)
      let host ← host.put hostLen.toNat 0
      let p := p + hostLen.toNat
      return some (host, Serial.ofPair (← readByte payload p) (← readByte payload (p + 1)))

/-! ## Handlers -/

variable (fails : Failures) (f : ProtoFrame)

/-- The answer that stands for an `esp_err_t`. -/
def answerOf : Except EspErr Unit → Answer
  | .ok () => ok
  | .error _ => error

def nvsSetU8 (val : Byte) : EspExec Unit := do
  espCall fails .nvsSetU8
  modify fun b => { b with nvs := { b.nvs with enabled := some val } }

/-- `handle_led_set`. -/
def handleLedSet : Exec Answer := do
  match ← check .fault (ledSetArgs f.payload) with
  | none => return invalid
  | some val =>
    modify fun b => { b with sLedEnabled := val }
    match ← attempt (espCall fails .nvsOpen) with
    | .ok () =>
      let _ ← attempt (nvsSetU8 fails val)
      let _ ← attempt (espCall fails .nvsCommit)
      return ok
    | .error _ => return ok

/-- `handle_led_get`. -/
def handleLedGet : Exec Answer := do
  return ⟨statusOk, some [(← get).sLedEnabled], by simp⟩

/-- `handle_wifi_set_config`. -/
def handleWifiSetConfig : Exec Answer := do
  match ← check .fault (wifiSetConfigArgs f.payload) with
  | none => return invalid
  | some (ssid, pass) => return answerOf (← wifiMgrSetConfig fails ssid.ptr pass.ptr)

/-- `handle_wifi_get_config`; the lengths are cut to a byte. -/
def handleWifiGetConfig : Exec Answer := do
  match ← attempt (wifiMgrGetConfig fails) with
  | .error _ => return error
  | .ok cfg =>
    let ssidLen := UInt8.ofNat (← check .fault cfg.ssid.strlen)
    let passLen := UInt8.ofNat (← check .fault cfg.password.strlen)
    return {
      status := statusOk
      data := some (ssidLen :: cfg.ssid.cells.take ssidLen.toNat ++
        passLen :: cfg.password.cells.take passLen.toNat)
      fits := by
        simp [cfg.ssid.length_cells, cfg.password.length_cells, wifiMgrSsidMax, wifiMgrPassMax]
        omega }

/-- `handle_wifi_connect`. -/
def handleWifiConnect : Exec Answer := return answerOf (← wifiMgrConnect fails)

/-- `handle_wifi_disconnect`. -/
def handleWifiDisconnect : Exec Answer := return answerOf (← wifiMgrDisconnect fails)

/-- `handle_wifi_set_hostname`. -/
def handleWifiSetHostname : Exec Answer := do
  match ← check .fault (wifiSetHostnameArgs f.payload) with
  | none => return invalid
  | some hostname => return answerOf (← wifiMgrSetHostname fails hostname.ptr)

/-- `handle_wifi_get_hostname`. -/
def handleWifiGetHostname : Exec Answer := do
  match ← attempt (wifiMgrGetHostname fails) with
  | .error _ => return error
  | .ok hostname =>
    let hlen := UInt8.ofNat (← check .fault hostname.strlen)
    return {
      status := statusOk
      data := some (hlen :: hostname.cells.take hlen.toNat)
      fits := by simp [hostname.length_cells, wifiMgrHostnameMax] }

/-- The switch of `on_frame`. The commands it leaves out answer without touching the settings,
except `CMD_RESET`, which restarts the chip after its answer. -/
def onFrame : Exec (Option Answer) :=
  if f.cmd = Firmware.cmdReset then throw .restart
  else if f.cmd = cmdLedSet then some <$> handleLedSet fails f
  else if f.cmd = cmdLedGet then some <$> handleLedGet
  else if f.cmd = cmdWifiSetConfig then some <$> handleWifiSetConfig fails f
  else if f.cmd = cmdWifiGetConfig then some <$> handleWifiGetConfig fails
  else if f.cmd = cmdWifiConnect then some <$> handleWifiConnect fails
  else if f.cmd = cmdWifiDisconnect then some <$> handleWifiDisconnect fails
  else if f.cmd = cmdWifiSetHostname then some <$> handleWifiSetHostname fails f
  else if f.cmd = cmdWifiGetHostname then some <$> handleWifiGetHostname fails
  else return none

/-- `esp_err_t` as the answer reports it. -/
theorem status_answerOf (ret : Except EspErr Unit) :
    (answerOf ret).status = statusOk ↔ ret = .ok () := by
  rcases ret with e | ⟨⟩ <;> simp [answerOf, ok, error, statusOk, statusError]

/-! ## Dispatch and bad arguments -/

section

variable {fails f}

theorem onFrame_ledSet (cmd : f.cmd = cmdLedSet) :
    onFrame fails f = some <$> handleLedSet fails f := by
  simp only [onFrame, cmd]
  rfl

theorem onFrame_setConfig (cmd : f.cmd = cmdWifiSetConfig) :
    onFrame fails f = some <$> handleWifiSetConfig fails f := by
  simp only [onFrame, cmd]
  rfl

theorem onFrame_getConfig (cmd : f.cmd = cmdWifiGetConfig) :
    onFrame fails f = some <$> handleWifiGetConfig fails := by
  simp only [onFrame, cmd]
  rfl

theorem onFrame_connect (cmd : f.cmd = cmdWifiConnect) :
    onFrame fails f = some <$> handleWifiConnect fails := by
  simp only [onFrame, cmd]
  rfl

theorem onFrame_setHostname (cmd : f.cmd = cmdWifiSetHostname) :
    onFrame fails f = some <$> handleWifiSetHostname fails f := by
  simp only [onFrame, cmd]
  rfl

theorem onFrame_getHostname (cmd : f.cmd = cmdWifiGetHostname) :
    onFrame fails f = some <$> handleWifiGetHostname fails := by
  simp only [onFrame, cmd]
  rfl

theorem handleWifiSetConfig_badArg (bad : wifiSetConfigArgs f.payload = .ok none) :
    handleWifiSetConfig fails f = pure invalid := by
  simp [handleWifiSetConfig, bad, check]

theorem handleWifiSetHostname_badArg (bad : wifiSetHostnameArgs f.payload = .ok none) :
    handleWifiSetHostname fails f = pure invalid := by
  simp [handleWifiSetHostname, bad, check]

theorem handleWifiSetConfig_args {ssid pass}
    (args : wifiSetConfigArgs f.payload = .ok (some (ssid, pass))) :
    handleWifiSetConfig fails f = answerOf <$> wifiMgrSetConfig fails ssid.ptr pass.ptr := by
  simp [handleWifiSetConfig, args, check]

theorem handleWifiSetHostname_args {hostname}
    (args : wifiSetHostnameArgs f.payload = .ok (some hostname)) :
    handleWifiSetHostname fails f = answerOf <$> wifiMgrSetHostname fails hostname.ptr := by
  simp [handleWifiSetHostname, args, check]

theorem handleLedSet_badArg (bad : ledSetArgs f.payload = .ok none) :
    handleLedSet fails f = pure invalid := by
  simp [handleLedSet, bad, check]

end

/-! ## What the handlers leave alone -/

section Frames

variable {β : Type} {view : Board → β} {fails f}

theorem keeps_handleLedSet
    (h : ∀ b val, view { b with sLedEnabled := val } = view b ∧
      view { b with nvs := { b.nvs with enabled := some val } } = view b) :
    Keeps view (handleLedSet fails f) := by
  refine (keeps_check _ _).bind fun args => ?_
  split
  · exact keeps_pure _
  · have set (val : Byte) : Keeps view (nvsSetU8 fails val) :=
      keeps_espCall.bind fun _ => keeps_modify fun b => (h b val).2
    refine (keeps_modify fun b => (h b _).1).bind fun _ => keeps_espCall.attempt.bind fun ret => ?_
    split
    · exact (set _).attempt.bind fun _ => keeps_espCall.attempt.bind fun _ => keeps_pure _
    · exact keeps_pure _

theorem keeps_handleLedGet : Keeps view handleLedGet := keeps_get.bind fun _ => keeps_pure _

theorem keeps_handleWifiSetConfig
    (h : ∀ (b : Board) s, view (b.setStr .ssid s) = view b ∧ view (b.setStr .pass s) = view b) :
    Keeps view (handleWifiSetConfig fails f) := by
  refine (keeps_check _ _).bind fun args => ?_
  split
  · exact keeps_pure _
  · exact (keeps_wifiMgrSetConfig h).bind fun _ => keeps_pure _

theorem keeps_handleWifiGetConfig : Keeps view (handleWifiGetConfig fails) := by
  refine keeps_wifiMgrGetConfig.attempt.bind fun ret => ?_
  split
  · exact keeps_pure _
  · exact (keeps_check _ _).bind fun _ => (keeps_check _ _).bind fun _ => keeps_pure _

theorem keeps_handleWifiDisconnect
    (h : ∀ (b : Board) auto state,
      view { b with sAutoReconnect := auto } = view b ∧ view { b with sState := state } = view b) :
    Keeps view (handleWifiDisconnect fails) :=
  (keeps_wifiMgrDisconnect h).bind fun _ => keeps_pure _

theorem keeps_handleWifiSetHostname
    (h : ∀ (b : Board) s, view (b.setStr .hostname s) = view b) :
    Keeps view (handleWifiSetHostname fails f) := by
  refine (keeps_check _ _).bind fun args => ?_
  split
  · exact keeps_pure _
  · exact (keeps_wifiMgrSetHostname h).bind fun _ => keeps_pure _

theorem keeps_handleWifiGetHostname : Keeps view (handleWifiGetHostname fails) := by
  refine keeps_wifiMgrGetHostname.attempt.bind fun ret => ?_
  split
  · exact keeps_pure _
  · exact (keeps_check _ _).bind fun _ => keeps_pure _

end Frames

end EspNetwork.Settings
