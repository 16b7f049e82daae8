import EspNetwork.Base.Focus
import EspNetwork.Base.History
import EspNetwork.Settings.Board

/-!
# The Wi-Fi manager over its runs

All of `main/wifi_mgr.c` that decides whether the station is connected: the state, the address
it reports and the timer that tries again. The board of `Settings.Board` is a part of this
state, and its functions are what the functions here show of themselves there. Every callback
and every call is one step, with the failures it meets; the marks are the observer's.
-/

namespace EspNetwork.Wifi

open Serial (Byte Bytes)
open Settings (Board EspErr EspCall Failures Halt Nvs WifiMgrConfig WifiMgrState WifiStaConfig)
open Fallible

/-! ## State -/

/-- The calls of `wifi_mgr_init` that may fail. -/
inductive InitCall where
  | xEventGroupCreate
  | xTimerCreate
  | espNetifInit
  | espEventLoopCreateDefault
  | espWifiInit
  | registerWifiEvent
  | registerIpEvent
  | espWifiSetMode
  | espWifiSetMac
  | espWifiStart
  deriving DecidableEq, Repr

/-- What `on_wifi_event` and `on_ip_event` are called with. -/
inductive Event where
  | staStart
  | staConnected
  | staDisconnected
  | scanDone
  | staGotIp (addr : UInt32)
  | staLostIp
  deriving DecidableEq, Repr

inductive Mark where
  | event (e : Event)
  /-- `wifi_mgr_connect` has found a stored configuration. -/
  | connect
  /-- `wifi_mgr_disconnect` has been called. -/
  | disconnect
  /-- `esp_wifi_disconnect` has succeeded in it. -/
  | disconnected
  | espWifiConnect
  deriving DecidableEq, Repr

/-- What `s_reconnect_timer` holds. -/
inductive Timer where
  | null
  | dormant
  | running
  deriving DecidableEq, Repr

def noIp : Vector Byte 4 := .replicate 4 0

/-- The bytes of `ip_info.ip.addr` as `on_ip_event` takes it apart. -/
def ipBytes (ip : UInt32) : Vector Byte 4 :=
  #v[((ip >>> 0) &&& 0xFF).toUInt8, ((ip >>> 8) &&& 0xFF).toUInt8,
    ((ip >>> 16) &&& 0xFF).toUInt8, ((ip >>> 24) &&& 0xFF).toUInt8]

structure Station where
  board : Board
  sIp : Vector Byte 4
  sReconnectTimer : Timer
  /-- The default event loop exists. -/
  eventLoop : Bool
  marks : List Mark

namespace Station

def mark (s : Station) (m : Mark) : Station := { s with marks := s.marks ++ [m] }

def setState (s : Station) (state : WifiMgrState) : Station :=
  { s with board := { s.board with sState := state } }

def setAutoReconnect (s : Station) (auto : Bool) : Station :=
  { s with board := { s.board with sAutoReconnect := auto } }

def setIp (s : Station) (ip : Vector Byte 4) : Station := { s with sIp := ip }

def setTimer (s : Station) (timer : Timer) : Station := { s with sReconnectTimer := timer }

/-- `xTimerStart` and `xTimerStop` behind their test for `NULL`. -/
def startTimer (s : Station) : Station :=
  s.setTimer (if s.sReconnectTimer = .null then .null else .running)

def stopTimer (s : Station) : Station :=
  s.setTimer (if s.sReconnectTimer = .null then .null else .dormant)

/-- The variables as the program starts. -/
def restart (s : Station) : Station where
  board := s.board.restart
  sIp := noIp
  sReconnectTimer := .null
  eventLoop := false
  marks := s.marks

/-- The program starts for the first time, on any store. -/
def start (nvs : Nvs) : Station where
  board := { Settings.erased with nvs := nvs, sWifiEg := false }
  sIp := noIp
  sReconnectTimer := .null
  eventLoop := false
  marks := []

end Station

abbrev Exec := Fallible Station Halt
abbrev EspExec := Fallible Station EspErr

/-- A function that knows the board only. -/
def onBoard {ε α : Type} (p : Fallible Board ε α) : Fallible Station ε α :=
  focus Station.board (fun s b => { s with board := b }) p

/-! ## ESP-IDF and FreeRTOS -/

/-- What `xEventGroupCreate` has returned. -/
def setGroup (group : Bool) (b : Board) : Board := { b with sWifiEg := group }

@[simp] theorem setGroup_sWifiEg (group : Bool) (b : Board) : (setGroup group b).sWifiEg = group :=
  rfl

@[simp] theorem setGroup_sState (group : Bool) (b : Board) : (setGroup group b).sState = b.sState :=
  rfl

@[simp] theorem setGroup_sAutoReconnect (group : Bool) (b : Board) :
    (setGroup group b).sAutoReconnect = b.sAutoReconnect := rfl

def xEventGroupBits : Exec Unit := onBoard Settings.xEventGroupBits

def espWifiConnect (fails : Failures) : EspExec Unit := do
  modify (·.mark .espWifiConnect)
  onBoard (Settings.espCall fails .wifiConnect)

/-- `ESP_ERROR_CHECK` of a call of `wifi_mgr_init`. -/
def errorCheck (fails : InitCall → Bool) (c : InitCall) : Exec Unit :=
  if fails c then throw .restart else pure ()

/-- There is one default event loop only. -/
def espEventLoopCreateDefault (fails : InitCall → Bool) : Exec Unit := do
  if (← get).eventLoop then throw .restart
  else
    errorCheck fails .espEventLoopCreateDefault
    modify fun s => { s with eventLoop := true }

/-! ## Timer and events -/

variable (fails : Failures)

def wifiConfig (cfg : WifiMgrConfig) : WifiStaConfig where
  ssid := (CharArray.zero 32).strncpy cfg.ssid.str (32 - 1) Settings.ssid_room
  password := (CharArray.zero 64).strncpy cfg.password.str (64 - 1) Settings.password_room
  authmode := if cfg.password.cells.head? ≠ some 0 then .authWpa2Psk else .authOpen

/-- `reconnect_timer_cb`. -/
def reconnectTimerCb : Exec Unit := do
  let s ← get
  if ¬ s.board.sAutoReconnect then return ()
  else if s.board.sState = .connected ∨ s.board.sState = .connecting then return ()
  else
    match ← attempt (onBoard (Settings.wifiMgrGetConfig fails)) with
    | .error _ => return ()
    | .ok cfg =>
      let _ ← attempt (onBoard (Settings.espWifiSetConfig fails (wifiConfig cfg)))
      match ← attempt (espWifiConnect fails) with
      | .ok () => modify (·.setState .connecting)
      | .error _ => return ()

/-- `on_wifi_event` and `on_ip_event`. -/
def onEvent : Event → Exec Unit
  | .staStart => return ()
  | .staConnected => modify (·.setState .connecting)
  | .staDisconnected => do
    modify (·.setIp noIp)
    modify (·.setState .disconnected)
    xEventGroupBits
    if (← get).board.sAutoReconnect then modify (·.startTimer) else pure ()
  | .scanDone => xEventGroupBits
  | .staGotIp ip => do
    modify (·.setIp (ipBytes ip))
    modify (·.setState .connected)
    xEventGroupBits
  | .staLostIp => do
    modify (·.setIp noIp)
    modify (·.setState .disconnected)

/-! ## Public API -/

/-- `wifi_mgr_connect`. -/
def wifiMgrConnect : Exec (Except EspErr Unit) := do
  match ← attempt (onBoard (Settings.wifiMgrGetConfig fails)) with
  | .error _ => return .error .notFound
  | .ok cfg =>
    modify (·.mark .connect)
    xEventGroupBits
    modify fun s => (s.setState .connecting).setAutoReconnect true
    match ← attempt (onBoard (Settings.espWifiSetConfig fails (wifiConfig cfg))) with
    | .error _ => throw .restart
    | .ok () =>
      match ← attempt (espWifiConnect fails) with
      | .ok () => return .ok ()
      | .error e =>
        modify (·.setState .failed)
        return .error e

/-- `wifi_mgr_disconnect`. -/
def wifiMgrDisconnect : Exec (Except EspErr Unit) := do
  modify (·.mark .disconnect)
  modify (·.setAutoReconnect false)
  modify (·.stopTimer)
  match ← attempt (onBoard (Settings.espCall fails .wifiDisconnect)) with
  | .ok () =>
    modify (·.mark .disconnected)
    modify (·.setState .disconnected)
    modify (·.setIp noIp)
    return .ok ()
  | .error e => return .error e

/-- `wifi_mgr_init`, with the failures of its own calls and of the three functions it calls.
Whether the stored hostname can be applied makes no difference to it. -/
def wifiMgrInit (init : InitCall → Bool) (hostname saved connect : Failures) : Exec Unit := do
  modify fun s => { s with board := setGroup (!init .xEventGroupCreate) s.board }
  errorCheck init .xTimerCreate
  modify (·.setTimer .dormant)
  errorCheck init .espNetifInit
  espEventLoopCreateDefault init
  errorCheck init .espWifiInit
  errorCheck init .registerWifiEvent
  errorCheck init .registerIpEvent
  errorCheck init .espWifiSetMode
  let _ ← attempt (onBoard (Settings.wifiMgrGetHostname hostname))
  errorCheck init .espWifiSetMac
  errorCheck init .espWifiStart
  match ← attempt (onBoard (Settings.wifiMgrGetConfig saved)) with
  | .ok _ =>
    let _ ← wifiMgrConnect connect
    return ()
  | .error _ => return ()

/-! ## Runs -/

inductive Act where
  | init (init : InitCall → Bool) (hostname saved connect : Failures)
  | connect (fails : Failures)
  | disconnect (fails : Failures)
  | setConfig (fails : Failures) (ssid password : CharPtr)
  | setHostname (fails : Failures) (hostname : CharPtr)
  | timer (fails : Failures)
  | event (e : Event)
  /-- `esp_restart`, a panic elsewhere or a power cut. -/
  | reset

namespace Station

/-- A function that runs to its end or restarts the chip; after a fault nothing is known. -/
def run {α : Type} (s : Station) (p : Exec α) : Option Station :=
  match p.outcome s with
  | (.ok _, t) => some t
  | (.error .restart, t) => some t.restart
  | (.error (.fault _), _) => none

/-- The callback may come late: a timer that exists may tick at any time. -/
def step (s : Station) : Act → Option Station
  | .init init hostname saved connect => s.run (wifiMgrInit init hostname saved connect)
  | .connect fails => s.run (wifiMgrConnect fails)
  | .disconnect fails => s.run (wifiMgrDisconnect fails)
  | .setConfig fails ssid password =>
    s.run (onBoard (Settings.wifiMgrSetConfig fails ssid password))
  | .setHostname fails hostname => s.run (onBoard (Settings.wifiMgrSetHostname fails hostname))
  | .timer fails =>
    if s.sReconnectTimer = .null then none else s.run (reconnectTimerCb fails)
  | .event e => (s.mark (.event e)).run (onEvent e)
  | .reset => some s.restart

end Station

/-! ## What the calls do -/

/-- What `wifi_mgr_get_config` finds. -/
def storedConfig (b : Board) : Except EspErr WifiMgrConfig :=
  ((Settings.wifiMgrGetConfig fails).outcome b).1

section Rules

variable {fails : Failures} {s t : Station}

@[simp] theorem settles_onBoard {ε α : Type} {p : Fallible Board ε α} {done : α → Station → Prop}
    {failed : ε → Station → Prop} :
    Settles (onBoard p) s done failed ↔
      Settles p s.board (fun a b => done a { s with board := b })
        (fun e b => failed e { s with board := b }) := settles_focus

/-- A function that leaves the board alone only decides what comes next. -/
theorem settles_of_keeps {ε α : Type} {p : Fallible Board ε α} {b : Board} (h : Keeps id p)
    {done : α → Board → Prop} {failed : ε → Board → Prop} :
    Settles p b done failed ↔
      match (p.outcome b).1 with
      | .ok a => done a b
      | .error e => failed e b := by
  have same : (p.outcome b).2 = b := (h b).state
  unfold Settles
  rcases ends : p.outcome b with ⟨e | a, c⟩ <;> (rw [ends] at same; obtain rfl := same; rfl)

@[simp] theorem settles_wifiMgrGetConfig {b : Board} {done : WifiMgrConfig → Board → Prop}
    {failed : EspErr → Board → Prop} :
    Settles (Settings.wifiMgrGetConfig fails) b done failed ↔
      match storedConfig fails b with
      | .ok cfg => done cfg b
      | .error e => failed e b := by
  rw [settles_of_keeps Settings.keeps_wifiMgrGetConfig, storedConfig]
  cases ((Settings.wifiMgrGetConfig fails).outcome b).1 <;> rfl

@[simp] theorem settles_espWifiSetConfig {b : Board} {cfg : WifiStaConfig}
    {done : Unit → Board → Prop} {failed : EspErr → Board → Prop} :
    Settles (Settings.espWifiSetConfig fails cfg) b done failed ↔
      match fails .wifiSetConfig with
      | none => done () { b with staConfigs := b.staConfigs ++ [cfg] }
      | some e => failed e { b with staConfigs := b.staConfigs ++ [cfg] } := by
  cases set : fails .wifiSetConfig <;> simp [Settings.espWifiSetConfig, set]

@[simp] theorem settles_xEventGroupBits {done : Unit → Station → Prop}
    {failed : Halt → Station → Prop} :
    Settles xEventGroupBits s done failed ↔
      if s.board.sWifiEg then done () s else failed .restart s := by
  rw [xEventGroupBits, settles_onBoard, Settings.settles_xEventGroupBits]

@[simp] theorem settles_espWifiConnect {done : Unit → Station → Prop}
    {failed : EspErr → Station → Prop} :
    Settles (espWifiConnect fails) s done failed ↔
      match fails .wifiConnect with
      | none => done () (s.mark .espWifiConnect)
      | some e => failed e (s.mark .espWifiConnect) := by
  cases connect : fails .wifiConnect <;> simp [espWifiConnect, connect]

namespace Station

/-- The station behind `esp_wifi_set_config` and `esp_wifi_connect`. -/
def passed (s : Station) (cfg : WifiMgrConfig) : Station :=
  { s with
    board := { s.board with staConfigs := s.board.staConfigs ++ [wifiConfig cfg] }
    marks := s.marks ++ [.espWifiConnect] }

/-- The station behind an `esp_wifi_set_config` that fails. -/
def refused (s : Station) (cfg : WifiMgrConfig) : Station :=
  { s with board := { s.board with staConfigs := s.board.staConfigs ++ [wifiConfig cfg] } }

end Station

/-- `reconnect_timer_cb` calls the driver only while the connection is wanted and missing. -/
theorem settles_reconnectTimerCb {done : Unit → Station → Prop} {failed : Halt → Station → Prop} :
    Settles (reconnectTimerCb fails) s done failed ↔
      if ¬ s.board.sAutoReconnect ∨ s.board.sState = .connected ∨ s.board.sState = .connecting then
        done () s
      else
        match storedConfig fails s.board, fails .wifiConnect with
        | .error _, _ => done () s
        | .ok cfg, some _ => done () (s.passed cfg)
        | .ok cfg, none => done () ((s.passed cfg).setState .connecting) := by
  simp only [reconnectTimerCb, settles_bind, settles_get, settles_ite, settles_pure,
    settles_attempt, settles_onBoard, settles_wifiMgrGetConfig]
  by_cases auto : s.board.sAutoReconnect
  · by_cases busy : s.board.sState = .connected ∨ s.board.sState = .connecting
    · simp [auto, busy]
    · cases storedConfig fails s.board with
      | error e => simp [auto, busy]
      | ok cfg =>
        cases set : fails .wifiSetConfig <;> cases connect : fails .wifiConnect <;>
          simp [auto, busy, set, connect, Station.passed, Station.mark, Station.setState]
  · simp [auto]

/-- `wifi_mgr_connect` wants the connection from then on, whatever the driver says. -/
theorem settles_wifiMgrConnect {done : Except EspErr Unit → Station → Prop}
    {failed : Halt → Station → Prop} :
    Settles (wifiMgrConnect fails) s done failed ↔
      match storedConfig fails s.board with
      | .error _ => done (.error .notFound) s
      | .ok cfg =>
        let t := s.mark .connect
        if s.board.sWifiEg then
          let t := (t.setState .connecting).setAutoReconnect true
          match fails .wifiSetConfig, fails .wifiConnect with
          | some _, _ => failed .restart (t.refused cfg)
          | none, none => done (.ok ()) (t.passed cfg)
          | none, some e => done (.error e) ((t.passed cfg).setState .failed)
        else failed .restart t := by
  simp only [wifiMgrConnect, settles_bind, settles_attempt, settles_onBoard,
    settles_wifiMgrGetConfig]
  cases storedConfig fails s.board with
  | error e => rfl
  | ok cfg =>
    cases eg : s.board.sWifiEg
    · simp [Station.mark, eg]
    · cases set : fails .wifiSetConfig <;> cases connect : fails .wifiConnect <;>
        simp [Station.mark, Station.setState, Station.setAutoReconnect, Station.passed,
          Station.refused, eg, set, connect]

theorem settles_wifiMgrDisconnect {done : Except EspErr Unit → Station → Prop}
    {failed : Halt → Station → Prop} :
    Settles (wifiMgrDisconnect fails) s done failed ↔
      let t := ((s.mark .disconnect).setAutoReconnect false).stopTimer
      match fails .wifiDisconnect with
      | some e => done (.error e) t
      | none => done (.ok ()) (((t.mark .disconnected).setState .disconnected).setIp noIp) := by
  cases disconnect : fails .wifiDisconnect <;>
    simp [wifiMgrDisconnect, disconnect]

theorem settles_onEvent {e : Event} {done : Unit → Station → Prop}
    {failed : Halt → Station → Prop} :
    Settles (onEvent e) s done failed ↔
      match e with
      | .staStart => done () s
      | .staConnected => done () (s.setState .connecting)
      | .staDisconnected =>
        let t := (s.setIp noIp).setState .disconnected
        if s.board.sWifiEg then
          if s.board.sAutoReconnect then done () t.startTimer else done () t
        else failed .restart t
      | .scanDone => if s.board.sWifiEg then done () s else failed .restart s
      | .staGotIp ip =>
        let t := (s.setIp (ipBytes ip)).setState .connected
        if s.board.sWifiEg then done () t else failed .restart t
      | .staLostIp => done () ((s.setIp noIp).setState .disconnected) := by
  cases e <;> cases eg : s.board.sWifiEg <;> cases auto : s.board.sAutoReconnect <;>
    simp [onEvent, Station.setIp, Station.setState, eg, auto]

@[simp] theorem settles_errorCheck {init : InitCall → Bool} {c : InitCall}
    {done : Unit → Station → Prop} {failed : Halt → Station → Prop} :
    Settles (errorCheck init c) s done failed ↔
      if init c then failed .restart s else done () s := by
  simp only [errorCheck, settles_ite, settles_pure, settles_throw]

end Rules

/-! ## Steps -/

namespace Station

/-- However the function ends, `Q` holds of the station behind its step. -/
def Leaves {α : Type} (s : Station) (p : Exec α) (Q : Station → Prop) : Prop :=
  Settles p s (fun _ => Q) (fun e t => e = .restart → Q t.restart)

theorem Leaves.run {α : Type} {s t : Station} {p : Exec α} {Q : Station → Prop}
    (leaves : s.Leaves p Q) (taken : s.run p = some t) : Q t := by
  unfold Leaves Settles at leaves
  unfold Station.run at taken
  generalize p.outcome s = ending at leaves taken
  match ending, taken with
  | (.ok _, u), taken =>
    obtain rfl : u = t := by simpa using taken
    exact leaves
  | (.error .restart, u), taken =>
    obtain rfl : u.restart = t := by simpa using taken
    exact leaves rfl

/-- The variables of the board that its store functions leave alone. -/
def vars (b : Board) : WifiMgrState × Bool × Bool := (b.sState, b.sAutoReconnect, b.sWifiEg)

/-- A store function that leaves the variables alone. -/
theorem leaves_onBoard {α : Type} {s : Station} {p : Fallible Board Halt α} {Q : Station → Prop}
    (keeps : Keeps vars p)
    (h : ∀ b : Board, b.sState = s.board.sState → b.sAutoReconnect = s.board.sAutoReconnect →
      b.sWifiEg = s.board.sWifiEg → Q { s with board := b } ∧ Q { s with board := b }.restart) :
    s.Leaves (onBoard p) Q := by
  have same {b : Board} (hb : vars b = vars s.board) :
      Q { s with board := b } ∧ Q { s with board := b }.restart := by
    obtain ⟨state, rest⟩ := Prod.mk.inj hb
    obtain ⟨auto, group⟩ := Prod.mk.inj rest
    exact h b state auto group
  unfold Leaves
  rw [settles_onBoard]
  exact (keeps s.board).mono (fun _ _ hb => (same hb).1) fun _ _ hb _ => (same hb).2

end Station

/-- The calls of `wifi_mgr_init` that are checked. -/
def fatalCalls : List InitCall :=
  [.xTimerCreate, .espNetifInit, .espEventLoopCreateDefault, .espWifiInit, .registerWifiEvent,
    .registerIpEvent, .espWifiSetMode, .espWifiSetMac, .espWifiStart]

/-- `wifi_mgr_init` restarts the chip before it looks for a configuration. -/
def InitFails (init : InitCall → Bool) (s : Station) : Prop :=
  s.eventLoop = true ∨ ∃ c ∈ fatalCalls, init c = true

instance (init : InitCall → Bool) (s : Station) : Decidable (InitFails init s) :=
  inferInstanceAs (Decidable (s.eventLoop = true ∨ ∃ c ∈ fatalCalls, init c = true))

/-- The station with everything created. -/
def Station.ready (s : Station) (init : InitCall → Bool) : Station :=
  { s with
    board := setGroup (!init .xEventGroupCreate) s.board
    sReconnectTimer := .dormant
    eventLoop := true }

section Group

variable {group : Bool} {fails : Failures} {b : Board}

theorem shows_espCall {c : EspCall} :
    Shows (setGroup group) (Settings.espCall fails c) (Settings.espCall fails c) b := by
  unfold Settings.espCall
  split
  · exact shows_pure _
  · exact shows_throw _

theorem shows_nvsGetStr {key : Settings.NvsKey} {size : ℕ} {out : CharArray size} :
    Shows (setGroup group) (Settings.nvsGetStr fails key out) (Settings.nvsGetStr fails key out)
      b := by
  refine shows_espCall.bind fun _ b _ => shows_get_bind ?_
  dsimp only [setGroup]
  cases b.nvs.str key with
  | none => exact shows_throw _
  | some s =>
    dsimp only
    split
    · exact shows_pure _
    · exact shows_throw _

/-- What is stored does not depend on the group. -/
theorem storedConfig_setGroup : storedConfig fails (setGroup group b) = storedConfig fails b := by
  have same : Shows (setGroup group) (Settings.wifiMgrGetConfig fails)
      (Settings.wifiMgrGetConfig fails) b :=
    shows_espCall.bind fun _ _ _ => shows_nvsGetStr.bind fun _ _ _ => shows_nvsGetStr.bind
      fun _ _ _ => shows_pure _
  exact (congrArg Prod.fst same).symm

end Group

section Init

variable {s : Station} {α : Type} {init : InitCall → Bool} {Q : Station → Prop}

theorem leaves_modify_bind {g : Station → Station} {f : Unit → Exec α} :
    s.Leaves (modify g >>= f) Q ↔ (g s).Leaves (f ()) Q := by
  simp only [Station.Leaves, settles_bind, settles_modify]

theorem leaves_errorCheck_bind {c : InitCall} {f : Unit → Exec α} :
    s.Leaves (errorCheck init c >>= f) Q ↔
      if init c then Q s.restart else s.Leaves (f ()) Q := by
  simp only [Station.Leaves, settles_bind, settles_errorCheck, true_implies]

theorem leaves_espEventLoopCreateDefault_bind {f : Unit → Exec α} :
    s.Leaves (espEventLoopCreateDefault init >>= f) Q ↔
      if s.eventLoop ∨ init .espEventLoopCreateDefault then Q s.restart
      else Station.Leaves { s with eventLoop := true } (f ()) Q := by
  simp only [Station.Leaves, espEventLoopCreateDefault, settles_bind, settles_get, settles_ite,
    settles_throw, settles_errorCheck, settles_modify, true_implies]
  split_ifs <;> simp_all

/-- The stored hostname is read and decides nothing. -/
theorem leaves_hostname_bind {hostname : Failures} {f : Except EspErr _ → Exec α}
    {k : Exec α} (same : ∀ r, f r = k) :
    s.Leaves (attempt (onBoard (Settings.wifiMgrGetHostname hostname)) >>= f) Q ↔ s.Leaves k Q := by
  simp only [Station.Leaves, settles_bind, settles_attempt, settles_onBoard,
    settles_of_keeps Settings.keeps_wifiMgrGetHostname, same]
  split <;> rfl

theorem leaves_wifiMgrInit {hostname saved connect : Failures} :
    s.Leaves (wifiMgrInit init hostname saved connect) Q ↔
      if InitFails init s then Q s.restart
      else
        match storedConfig saved s.board with
        | .error _ => Q (s.ready init)
        | .ok _ => (s.ready init).Leaves (wifiMgrConnect connect) Q := by
  have reset (group loop : Bool) (timer : Timer) : Station.restart
      { s with
        board := setGroup group s.board
        sReconnectTimer := timer
        eventLoop := loop } = s.restart := rfl
  have tail : Station.Leaves (s.ready init) (do
        match ← attempt (onBoard (Settings.wifiMgrGetConfig saved)) with
        | .ok _ => let _ ← wifiMgrConnect connect; return ()
        | .error _ => return ()) Q ↔
      match storedConfig saved s.board with
      | .error _ => Q (s.ready init)
      | .ok _ => (s.ready init).Leaves (wifiMgrConnect connect) Q := by
    simp only [Station.Leaves, settles_bind, settles_attempt, settles_onBoard,
      settles_wifiMgrGetConfig, Station.ready, storedConfig_setGroup]
    cases storedConfig saved s.board <;> simp
  rw [← tail]
  simp only [wifiMgrInit, leaves_modify_bind, leaves_errorCheck_bind,
    leaves_espEventLoopCreateDefault_bind, leaves_hostname_bind fun _ => rfl, Station.setTimer,
    reset, InitFails, fatalCalls, List.mem_cons, List.not_mem_nil, or_false, exists_eq_or_imp,
    exists_eq_left, Station.ready, ← ite_or]
  -- the calls fail in another order than they are listed in
  refine iff_of_eq (if_congr ?_ rfl rfl)
  simp only [or_assoc, or_left_comm]

end Init

/-! ## The board's part -/

section Board

variable {fails : Failures} {s : Station}

theorem shows_onBoard {ε α : Type} (p : Fallible Board ε α) : Shows Station.board (onBoard p) p s :=
  shows_focus fun _ _ => rfl

theorem shows_espWifiConnect :
    Shows Station.board (espWifiConnect fails) (Settings.espCall fails .wifiConnect) s :=
  shows_after rfl rfl (shows_onBoard _)

theorem shows_reconnectTimerCb :
    Shows Station.board (reconnectTimerCb fails) (Settings.reconnectTimerCb fails) s := by
  unfold reconnectTimerCb Settings.reconnectTimerCb
  refine shows_get_bind ?_
  split
  · exact shows_pure ()
  · split
    · exact shows_pure ()
    · refine (shows_onBoard _).attempt.bind fun ret _ _ => ?_
      rcases ret with e | cfg
      · exact shows_pure ()
      · refine (shows_onBoard _).attempt.bind fun _ _ _ =>
          shows_espWifiConnect.attempt.bind fun ret _ _ => ?_
        rcases ret with e | ⟨⟩
        · exact shows_pure ()
        · exact shows_modify rfl

theorem shows_wifiMgrConnect :
    Shows Station.board (wifiMgrConnect fails) (Settings.wifiMgrConnect fails) s := by
  unfold wifiMgrConnect Settings.wifiMgrConnect
  refine (shows_onBoard _).attempt.bind fun ret _ _ => ?_
  rcases ret with e | cfg
  · exact shows_pure _
  · refine shows_after rfl rfl ((shows_onBoard _).bind fun _ _ _ => shows_modify_bind (by rfl) ?_)
    refine (shows_onBoard _).attempt.bind fun ret _ _ => ?_
    rcases ret with e | ⟨⟩
    · exact shows_throw _
    · refine shows_espWifiConnect.attempt.bind fun ret _ _ => ?_
      rcases ret with e | ⟨⟩
      · exact shows_modify_bind (by rfl) (shows_pure _)
      · exact shows_pure _

theorem shows_wifiMgrDisconnect :
    Shows Station.board (wifiMgrDisconnect fails) (Settings.wifiMgrDisconnect fails) s := by
  unfold wifiMgrDisconnect Settings.wifiMgrDisconnect
  refine shows_after rfl rfl (shows_modify_bind (by rfl) (shows_after rfl rfl ?_))
  refine (shows_onBoard _).attempt.bind fun ret _ _ => ?_
  rcases ret with e | ⟨⟩
  · exact shows_pure _
  · exact shows_after rfl rfl (shows_modify_bind (by rfl) (shows_after rfl rfl (shows_pure _)))

/-- The event the board's model is told of, with the address it leaves out. -/
def eventOf (addr : UInt32) : Settings.WifiEvent → Event
  | .staConnected => .staConnected
  | .staDisconnected => .staDisconnected
  | .scanDone => .scanDone
  | .staGotIp => .staGotIp addr
  | .staLostIp => .staLostIp

theorem shows_onEvent (addr : UInt32) (e : Settings.WifiEvent) :
    Shows Station.board (onEvent (eventOf addr e)) (Settings.onWifiEvent e) s := by
  have group (t : Station) : Shows Station.board xEventGroupBits Settings.xEventGroupBits t :=
    shows_onBoard _
  have timer (t : Station) : Shows Station.board
      (do if (← get).board.sAutoReconnect then modify (·.startTimer) else pure () : Exec Unit)
      (pure ()) t := by
    refine shows_after rfl rfl ?_
    split
    · exact rfl
    · exact shows_pure ()
  cases e with
  | staConnected => exact shows_modify rfl
  | staDisconnected =>
    refine shows_after rfl rfl (shows_modify_bind (by rfl) ?_)
    rw [← bind_pure Settings.xEventGroupBits]
    exact (group _).bind fun _ t _ => timer t
  | scanDone => exact group s
  | staGotIp => exact shows_after rfl rfl (shows_modify_bind (by rfl) (group _))
  | staLostIp => exact shows_after rfl rfl (shows_modify (by rfl))

end Board

/-- An SSID of one letter. -/
theorem nul_notMem_a : (0 : Byte) ∉ [97] := by decide

end EspNetwork.Wifi
