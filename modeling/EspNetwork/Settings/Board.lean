import EspNetwork.Base.Schedule
import EspNetwork.Settings.Handlers

/-!
# The board over its runs

The board takes one step for a frame that `cmd_task` handles, one for a call of the timer
callback, one for an event of the Wi-Fi driver and one for a restart, which keeps the flash
store only. Every step carries the failures it meets. A function runs to its end in one step:
the functions share nothing but the store and single variables.
-/

namespace EspNetwork.Settings

open Serial (Byte Bytes ProtoFrame)
open Firmware (Answer)
open Fallible

/-- What `on_wifi_event` and `on_ip_event` are told. -/
inductive WifiEvent where
  | staConnected
  | staDisconnected
  | scanDone
  | staGotIp
  | staLostIp
  deriving DecidableEq, Repr

def setState (state : WifiMgrState) : Exec Unit := modify fun b => { b with sState := state }

/-- `on_wifi_event` and `on_ip_event`. -/
def onWifiEvent : WifiEvent → Exec Unit
  | .staConnected => setState .connecting
  | .staDisconnected => do
    setState .disconnected
    xEventGroupBits
  | .scanDone => xEventGroupBits
  | .staGotIp => do
    setState .connected
    xEventGroupBits
  | .staLostIp => setState .disconnected

def nvsGetU8 (fails : Failures) : EspExec Byte := do
  espCall fails .nvsGetU8
  match (← get).nvs.enabled with
  | none => throw .nvsNotFound
  | some val => return val

/-- The first block of `app_main`. -/
def restoreLed (fails : Failures) : Exec Unit := do
  match ← attempt (espCall fails .nvsOpen) with
  | .ok () =>
    match ← attempt (nvsGetU8 fails) with
    | .ok val => modify fun b => { b with sLedEnabled := val }
    | .error _ => modify fun b => { b with sLedEnabled := 1 }
  | .error _ => return ()

/-- `app_main` and `wifi_mgr_init`, with the result of `xEventGroupCreate` and the failures of the
three functions that read the store. -/
def appMain (group : Bool) (led saved connect : Failures) : Exec Unit := do
  restoreLed led
  modify fun b => { b with sWifiEg := group }
  match ← attempt (wifiMgrGetConfig saved) with
  | .ok _ =>
    let _ ← wifiMgrConnect connect
    return ()
  | .error _ => return ()

/-- The variables as the program starts; the driver's record is the observer's and stays. -/
def Board.restart (b : Board) : Board where
  nvs := b.nvs
  sLedEnabled := 1
  sWifiEg := false
  sState := .disconnected
  sAutoReconnect := false
  staConfigs := b.staConfigs

inductive Act where
  | frame (fails : Failures) (f : ProtoFrame)
  | timer (fails : Failures)
  | event (e : WifiEvent)
  | boot (group : Bool) (led saved connect : Failures)

/-- A function that runs to its end or restarts the chip; after a fault nothing is known. -/
def Board.run {α : Type} (b : Board) (p : Exec α) : Option Board :=
  match p.outcome b with
  | (.ok _, c) => some c
  | (.error .restart, c) => some c.restart
  | (.error (.fault _), _) => none

def Board.step (b : Board) : Act → Option Board
  | .frame fails f => b.run (onFrame fails f)
  | .timer fails => b.run (reconnectTimerCb fails)
  | .event e => b.run (onWifiEvent e)
  | .boot group led saved connect => b.restart.run (appMain group led saved connect)

/-- What a function leaves however it ends, and a restart keeps, holds after its step. -/
theorem Board.run_settles {α : Type} {b c : Board} {p : Exec α} {I : Board → Prop}
    (h : Settles p b (fun _ => I) (fun _ => I)) (restart : ∀ b, I b → I b.restart)
    (taken : b.run p = some c) : I c := by
  have left : I (p.outcome b).2 := h.state
  unfold Board.run at taken
  generalize p.outcome b = ending at taken left
  match ending, taken with
  | (.ok _, d), taken =>
    obtain rfl : d = c := by simpa using taken
    exact left
  | (.error .restart, d), taken =>
    obtain rfl : d.restart = c := by simpa using taken
    exact restart d left

/-- A function that returns makes its step. -/
theorem Board.run_returns {α : Type} {b : Board} {p : Exec α} {done : α → Board → Prop}
    (h : Settles p b done fun _ _ => False) :
    ∃ a c, p.outcome b = (.ok a, c) ∧ b.run p = some c ∧ done a c := by
  unfold Settles at h
  unfold Board.run
  generalize p.outcome b = ending at h ⊢
  match ending, h with
  | (.ok a, c), h => exact ⟨a, c, rfl, rfl, h⟩

/-- The board after its flash has been erased, and with its event group. -/
def erased : Board where
  nvs := ⟨fun _ => none, none⟩
  sLedEnabled := 1
  sWifiEg := true
  sState := .disconnected
  sAutoReconnect := false
  staConfigs := []

/-! ## Who sets what -/

/-- The step calls the function that sets the key: a frame with arguments that can be read. -/
def Sets (key : NvsKey) : Act → Prop
  | .frame _ f =>
    if key = .hostname then
      f.cmd = cmdWifiSetHostname ∧ wifiSetHostnameArgs f.payload ≠ .ok none
    else f.cmd = cmdWifiSetConfig ∧ wifiSetConfigArgs f.payload ≠ .ok none
  | _ => False

variable {fails : Failures} {f : ProtoFrame} {key : NvsKey} {b c : Board}

theorem keeps_onFrame_str (h : ¬ Sets key (.frame fails f)) :
    Keeps (fun b => b.nvs.str key) (onFrame fails f) := by
  unfold onFrame
  split_ifs with reset ledSet ledGet setConfig getConfig connect disconnect setHostname getHostname
  · exact keeps_throw _
  · exact (keeps_handleLedSet fun _ _ => ⟨rfl, rfl⟩).map _
  · exact keeps_handleLedGet.map _
  · apply Keeps.map
    by_cases hostname : key = .hostname
    · subst hostname
      exact keeps_handleWifiSetConfig fun _ _ => by simp [Board.setStr, Nvs.setStr]
    · have bad : wifiSetConfigArgs f.payload = .ok none := by
        simpa [Sets, hostname, setConfig] using h
      rw [handleWifiSetConfig_badArg bad]
      exact keeps_pure _
  · exact keeps_handleWifiGetConfig.map _
  · exact ((keeps_wifiMgrConnect.bind fun _ => keeps_pure _).comp fun n => n.str key).map _
  · exact (keeps_handleWifiDisconnect fun _ _ _ => ⟨rfl, rfl⟩).map _
  · apply Keeps.map
    by_cases hostname : key = .hostname
    · have bad : wifiSetHostnameArgs f.payload = .ok none := by
        simpa [Sets, hostname, setHostname] using h
      rw [handleWifiSetHostname_badArg bad]
      exact keeps_pure _
    · exact keeps_handleWifiSetHostname fun _ _ => by simp [Board.setStr, Nvs.setStr, hostname]
  · exact keeps_handleWifiGetHostname.map _
  · exact keeps_pure _

/-- Only `CMD_WIFI_CONNECT` passes a configuration to the driver. -/
theorem keeps_onFrame_staConfigs (h : f.cmd ≠ cmdWifiConnect) :
    Keeps Board.staConfigs (onFrame fails f) := by
  unfold onFrame
  split_ifs
  · exact keeps_throw _
  · exact (keeps_handleLedSet fun _ _ => ⟨rfl, rfl⟩).map _
  · exact keeps_handleLedGet.map _
  · exact (keeps_handleWifiSetConfig fun _ _ => ⟨rfl, rfl⟩).map _
  · exact keeps_handleWifiGetConfig.map _
  · exact (keeps_handleWifiDisconnect fun _ _ _ => ⟨rfl, rfl⟩).map _
  · exact (keeps_handleWifiSetHostname fun _ _ => rfl).map _
  · exact keeps_handleWifiGetHostname.map _
  · exact keeps_pure _

/-- The LED is restored whatever fails, and nothing else is. -/
theorem settles_restoreLed (b : Board) :
    Settles (restoreLed fails) b (fun _ c => ∃ led, c = { b with sLedEnabled := led })
      fun _ _ => False := by
  simp only [restoreLed, nvsGetU8, settles_bind, settles_attempt, settles_espCall, settles_get]
  cases fails .nvsOpen with
  | some e => exact ⟨b.sLedEnabled, rfl⟩
  | none =>
    cases fails .nvsGetU8 with
    | some e => exact ⟨1, rfl⟩
    | none =>
      cases enabled : b.nvs.enabled with
      | none => simp
      | some val => simp

theorem keeps_onWifiEvent (e : WifiEvent) :
    Keeps (fun b => (b.nvs, b.staConfigs)) (onWifiEvent e) := by
  have set (state : WifiMgrState) : Keeps (fun b => (b.nvs, b.staConfigs)) (setState state) :=
    keeps_modify (by intro b; rfl)
  cases e with
  | staConnected | staLostIp => exact set _
  | staDisconnected | staGotIp => exact (set _).bind fun _ => keeps_xEventGroupBits
  | scanDone => exact keeps_xEventGroupBits

theorem keeps_appMain {group : Bool} {led saved connect : Failures} :
    Keeps Board.nvs (appMain group led saved connect) := by
  have led : Keeps Board.nvs (restoreLed led) := fun b =>
    (settles_restoreLed b).mono (by rintro _ _ ⟨led, rfl⟩; rfl) fun _ _ no => no.elim
  refine led.bind fun _ => (keeps_modify (by intro b; rfl)).bind fun _ =>
    keeps_wifiMgrGetConfig.attempt.bind fun ret => ?_
  split
  · exact keeps_wifiMgrConnect.bind fun _ => keeps_pure _
  · exact keeps_pure _

/-- A string stays as it is until its setter is called, over restarts too. -/
theorem Board.step_str {act : Act} (h : ¬ Sets key act) (taken : b.step act = some c) :
    c.nvs.str key = b.nvs.str key := by
  cases act with
  | frame fails f =>
    exact Board.run_settles (I := fun c => c.nvs.str key = b.nvs.str key) (keeps_onFrame_str h b)
      (fun _ same => same) taken
  | timer fails =>
    exact Board.run_settles (I := fun c => c.nvs.str key = b.nvs.str key)
      (keeps_reconnectTimerCb.comp (fun n => n.str key) b) (fun _ same => same) taken
  | event e =>
    exact Board.run_settles (I := fun c => c.nvs.str key = b.nvs.str key)
      ((keeps_onWifiEvent e).comp (fun p => p.1.str key) b) (fun _ same => same) taken
  | boot group led saved connect =>
    exact Board.run_settles (I := fun c => c.nvs.str key = b.nvs.str key)
      (keeps_appMain.comp (fun n => n.str key) b.restart) (fun _ same => same) taken

theorem Board.exec_str {acts : List Act} (h : ∀ act ∈ acts, ¬ Sets key act)
    (run : Schedule.exec Board.step b acts = some c) : c.nvs.str key = b.nvs.str key :=
  Schedule.exec_invariant_of_obeys (fun d => d.nvs.str key = b.nvs.str key)
    (fun _ _ _ same keeps taken => (Board.step_str keeps taken).trans same) rfl
    (Schedule.obeys_of_forall fun _ => h) run

end EspNetwork.Settings
