import EspNetwork.Settings.Board

/-!
# From stored credentials to the driver

`wifi_mgr_connect` and `reconnect_timer_cb` read the stored credentials and copy them into a
configuration for the driver, each with its own copy of the code. Both keep the last byte of
the driver's fields free for a terminator that the driver does not need.
-/

namespace EspNetwork.Settings

open Serial (Byte Bytes ProtoFrame)
open Fallible Schedule

variable {fails : Failures} {b c : Board} {ssid password : CString}

/-! ## Stored credentials -/

/-- The store holds credentials within the limits of `wifi_mgr_set_config`. -/
structure Stored (b : Board) (ssid password : CString) : Prop where
  ssid_eq : b.nvs.str .ssid = some ssid
  password_eq : b.nvs.str .pass = some password
  ssid_pos : ssid.length ≠ 0
  ssid_lt : ssid.length < wifiMgrSsidMax + 1
  password_lt : password.length < wifiMgrPassMax + 1

/-- What `wifi_mgr_get_config` reads back. -/
def Stored.config (h : Stored b ssid password) : WifiMgrConfig :=
  ⟨(CharArray.zero _).store ssid h.ssid_lt, (CharArray.zero _).store password h.password_lt⟩

/-- The error of the first call that fails. -/
def firstError (fails : Failures) (calls : List EspCall) : Option EspErr := calls.findSome? fails

theorem Stored.settles_wifiMgrGetConfig (h : Stored b ssid password)
    {done : WifiMgrConfig → Board → Prop} {failed : EspErr → Board → Prop} :
    Settles (wifiMgrGetConfig fails) b done failed ↔
      match firstError fails [.nvsOpen, .nvsGetStr .ssid, .nvsGetStr .pass] with
      | none => done h.config b
      | some e => failed e b := by
  simp only [wifiMgrGetConfig, settles_bind, settles_espCall, settles_pure, firstError,
    List.findSome?_cons, settles_nvsGetStr h.ssid_eq h.ssid_lt,
    settles_nvsGetStr h.password_eq h.password_lt, Stored.config]
  cases fails .nvsOpen <;> cases fails (.nvsGetStr .ssid) <;> cases fails (.nvsGetStr .pass) <;>
    rfl

/-- Credentials that `wifi_mgr_set_config` accepted are stored. -/
theorem settles_stored :
    Settles (wifiMgrSetConfig fails (.string ssid) (.string password)) b
      (fun ret d => ret = .ok () → Stored d ssid password) fun _ _ => True := by
  rw [settles_wifiMgrSetConfig]
  split_ifs with bad
  · simp
  · push Not at bad
    split <;> try (intro h; cases h; done)
    intro _
    exact ⟨by simp [Board.setStr, Nvs.setStr], by simp [Board.setStr, Nvs.setStr], bad.1,
      by omega, by omega⟩

theorem stored_of_wifiMgrSetConfig
    (returns : (wifiMgrSetConfig fails (.string ssid) (.string password)).outcome b =
      (.ok (.ok ()), c)) : Stored c ssid password :=
  settles_stored.of_outcome returns rfl

theorem Stored.congr (h : Stored b ssid password) (ssid_eq : c.nvs.str .ssid = b.nvs.str .ssid)
    (password_eq : c.nvs.str .pass = b.nvs.str .pass) : Stored c ssid password where
  ssid_eq := ssid_eq.trans h.ssid_eq
  password_eq := password_eq.trans h.password_eq
  ssid_pos := h.ssid_pos
  ssid_lt := h.ssid_lt
  password_lt := h.password_lt

/-! ## Both paths -/

/-- The configuration that both paths build from the stored strings. -/
def staConfig (ssid password : CString) : WifiStaConfig where
  ssid := (CharArray.zero 32).strncpy ssid (32 - 1) ssid_room
  password := (CharArray.zero 64).strncpy password (64 - 1) password_room
  authmode := if password.length = 0 then .authOpen else .authWpa2Psk

/-- `cfg.password[0]` is NUL exactly when the stored password is empty. -/
theorem Stored.head?_password (h : Stored b ssid password) :
    h.config.password.cells.head? = some 0 ↔ password.length = 0 := by
  obtain ⟨chars, noNul⟩ := password
  cases chars with
  | nil => simp [Stored.config, CharArray.store, CString.length]
  | cons x xs =>
    have : x ≠ 0 := fun h => noNul (h ▸ List.mem_cons_self)
    simp [Stored.config, CharArray.store, CString.length, this]

/-- What either path makes of the configuration it has read. -/
theorem Stored.staConfig_eq (h : Stored b ssid password) :
    ({ ssid := (CharArray.zero 32).strncpy h.config.ssid.str (32 - 1) ssid_room
       password := (CharArray.zero 64).strncpy h.config.password.str (64 - 1) password_room
       authmode :=
         if h.config.password.cells.head? ≠ some 0 then .authWpa2Psk else .authOpen } :
      WifiStaConfig) = staConfig ssid password := by
  have ssid_str : h.config.ssid.str = ssid := CharArray.str_store _ _ h.ssid_lt
  have password_str : h.config.password.str = password := CharArray.str_store _ _ h.password_lt
  simp [ssid_str, password_str, h.head?_password, staConfig]

/-- What the driver is left with after an attempt. -/
def Board.passed (b : Board) (ssid password : CString) : Board :=
  { b with staConfigs := b.staConfigs ++ [staConfig ssid password] }

theorem Stored.settles_wifiMgrConnect (h : Stored b ssid password)
    {done : Except EspErr Unit → Board → Prop} {failed : Halt → Board → Prop} :
    Settles (wifiMgrConnect fails) b done failed ↔
      match firstError fails [.nvsOpen, .nvsGetStr .ssid, .nvsGetStr .pass] with
      | some _ => done (.error .notFound) b
      | none =>
        let tried :=
          { b.passed ssid password with sState := .connecting, sAutoReconnect := true }
        if b.sWifiEg then
          match fails .wifiSetConfig, fails .wifiConnect with
          | some _, _ => failed .restart tried
          | none, none => done (.ok ()) tried
          | none, some e => done (.error e) { tried with sState := .failed }
        else failed .restart b := by
  simp only [wifiMgrConnect, settles_bind, settles_attempt, h.settles_wifiMgrGetConfig,
    h.staConfig_eq]
  cases firstError fails [.nvsOpen, .nvsGetStr .ssid, .nvsGetStr .pass] with
  | some e => rfl
  | none =>
    cases group : b.sWifiEg
    · simp [group]
    · cases refused : fails .wifiSetConfig <;> cases lost : fails .wifiConnect <;>
        simp [espWifiSetConfig, group, refused, lost, Board.passed]

theorem Stored.settles_reconnectTimerCb (h : Stored b ssid password)
    {done : Unit → Board → Prop} {failed : Halt → Board → Prop} :
    Settles (reconnectTimerCb fails) b done failed ↔
      if ¬ b.sAutoReconnect ∨ b.sState = .connected ∨ b.sState = .connecting then done () b
      else
        match firstError fails [.nvsOpen, .nvsGetStr .ssid, .nvsGetStr .pass],
          fails .wifiConnect with
        | some _, _ => done () b
        | none, none => done () { b.passed ssid password with sState := .connecting }
        | none, some _ => done () (b.passed ssid password) := by
  simp only [reconnectTimerCb, settles_bind, settles_get, settles_ite, settles_pure,
    settles_attempt, h.settles_wifiMgrGetConfig, h.staConfig_eq, ite_or]
  split_ifs with off busy
  · rfl
  · rfl
  · cases firstError fails [.nvsOpen, .nvsGetStr .ssid, .nvsGetStr .pass] with
    | some e => rfl
    | none =>
      cases refused : fails .wifiSetConfig <;> cases lost : fails .wifiConnect <;>
        simp [espWifiSetConfig, refused, lost, Board.passed]
  · rfl

/-! ## Runs -/

/-- The credentials are still stored, and since `old` the driver was passed nothing but what
is built from them. -/
structure Passes (ssid password : CString) (old : List WifiStaConfig) (b : Board) : Prop where
  stored : Stored b ssid password
  passed : ∃ n, b.staConfigs = old ++ List.replicate n (staConfig ssid password)

variable {old : List WifiStaConfig} {act : Act}

theorem Passes.again (h : Passes ssid password old b) :
    Passes ssid password old (b.passed ssid password) := by
  obtain ⟨n, hn⟩ := h.passed
  refine ⟨h.stored.congr rfl rfl, n + 1, ?_⟩
  simp [Board.passed, hn, List.replicate_succ']

/-- Only the credentials in the store and the driver's record matter. -/
theorem Passes.congr (h : Passes ssid password old b) (ssid_eq : c.nvs.str .ssid = b.nvs.str .ssid)
    (password_eq : c.nvs.str .pass = b.nvs.str .pass) (passed : c.staConfigs = b.staConfigs) :
    Passes ssid password old c where
  stored := h.stored.congr ssid_eq password_eq
  passed := by
    rw [passed]
    exact h.passed

theorem Passes.wifiMgrConnect (h : Passes ssid password old b) :
    Settles (wifiMgrConnect fails) b (fun _ => Passes ssid password old)
      (fun _ => Passes ssid password old) := by
  have tried := h.again
  rw [h.stored.settles_wifiMgrConnect]
  split
  · exact h
  · split_ifs
    · split <;> exact tried.congr rfl rfl rfl
    · exact h

theorem Passes.reconnectTimerCb (h : Passes ssid password old b) :
    Settles (reconnectTimerCb fails) b (fun _ => Passes ssid password old)
      (fun _ => Passes ssid password old) := by
  have tried := h.again
  rw [h.stored.settles_reconnectTimerCb]
  split_ifs
  · exact h
  · split
    · exact h
    · exact tried.congr rfl rfl rfl
    · exact tried

theorem Passes.restart (h : Passes ssid password old b) : Passes ssid password old b.restart :=
  h.congr rfl rfl rfl

theorem Passes.appMain {group : Bool} {led saved connect : Failures}
    (h : Passes ssid password old b) :
    Settles (appMain group led saved connect) b (fun _ => Passes ssid password old)
      (fun _ => Passes ssid password old) := by
  simp only [Settings.appMain, settles_bind]
  refine (settles_restoreLed b).mono ?_ fun _ _ no => no.elim
  rintro _ _ ⟨led, rfl⟩
  have created : Passes ssid password old { b with sLedEnabled := led, sWifiEg := group } :=
    h.congr rfl rfl rfl
  rw [settles_modify, settles_attempt, created.stored.settles_wifiMgrGetConfig]
  split
  · simp only [settles_bind, settles_pure]
    exact created.wifiMgrConnect
  · exact created

theorem sets_pass : Sets .ssid act = Sets .pass act := by
  cases act <;> simp [Sets]

/-- A step that does not set the credentials passes nothing but them. -/
theorem Passes.step (h : Passes ssid password old b) (keeps : ¬ Sets .ssid act)
    (taken : b.step act = some c) : Passes ssid password old c := by
  cases act with
  | frame fails f =>
    by_cases connect : f.cmd = cmdWifiConnect
    · have run : Settles (onFrame fails f) b (fun _ => Passes ssid password old)
          (fun _ => Passes ssid password old) := by
        rw [onFrame_connect connect, settles_map, handleWifiConnect, settles_bind]
        exact h.wifiMgrConnect
      exact Board.run_settles run (fun _ => Passes.restart) taken
    · exact h.congr (Board.step_str keeps taken) (Board.step_str (sets_pass ▸ keeps) taken)
        (Board.run_settles (I := fun d => d.staConfigs = b.staConfigs)
          (keeps_onFrame_staConfigs connect b) (fun _ same => same) taken)
  | timer fails => exact Board.run_settles h.reconnectTimerCb (fun _ => Passes.restart) taken
  | event e =>
    have kept : (c.nvs, c.staConfigs) = (b.nvs, b.staConfigs) :=
      Board.run_settles (I := fun d => (d.nvs, d.staConfigs) = (b.nvs, b.staConfigs))
        (keeps_onWifiEvent e b) (fun _ same => same) taken
    obtain ⟨nvs, passed⟩ := Prod.mk.inj kept
    exact h.congr (by rw [nvs]) (by rw [nvs]) passed
  | boot group led saved connect =>
    exact Board.run_settles h.restart.appMain (fun _ => Passes.restart) taken

/-- Over every run until the credentials are set again. -/
theorem Passes.exec {acts : List Act} (h : Passes ssid password old b)
    (keeps : ∀ act ∈ acts, ¬ Sets .ssid act) (run : exec Board.step b acts = some c) :
    Passes ssid password old c :=
  exec_invariant_of_obeys (Passes ssid password old) (fun _ _ _ hp hk => hp.step hk) h
    (obeys_of_forall fun _ => keeps) run

/-! ## What reaches the driver -/

/-- In every run until the credentials are set again, all the configurations that the driver
is passed are the same, and their fields read as the credentials. -/
def ReachDriver (b : Board) (ssid password : CString) : Prop :=
  ∀ acts c, (∀ act ∈ acts, ¬ Sets .ssid act) → exec Board.step b acts = some c →
    ∃ new, c.staConfigs = b.staConfigs ++ new ∧
      (∀ cfg ∈ new, cfg.ssid.str = ssid ∧ cfg.password.str = password) ∧
      ∀ cfg ∈ new, ∀ cfg' ∈ new, cfg = cfg'

theorem staConfig_reads_iff :
    (staConfig ssid password).ssid.str = ssid ∧ (staConfig ssid password).password.str = password ↔
      ssid.length < wifiMgrSsidMax ∧ password.length < wifiMgrPassMax := by
  simp only [staConfig, CharArray.str_strncpy_zero, CString.take_eq_iff, wifiMgrSsidMax,
    wifiMgrPassMax]
  omega

/-- The program starts, and nothing fails. -/
def bootAct : Act := .boot true noFailures noFailures noFailures

/-- The program connects as soon as it has started. -/
theorem Stored.boot_step (h : Stored b ssid password) :
    ∃ c, b.step bootAct = some c ∧ c.staConfigs = b.staConfigs ++ [staConfig ssid password] := by
  have settled : Settles (appMain true noFailures noFailures noFailures) b.restart
      (fun _ c => c.staConfigs = b.staConfigs ++ [staConfig ssid password])
      fun _ _ => False := by
    simp only [appMain, settles_bind]
    refine (settles_restoreLed b.restart).mono ?_ fun _ _ no => no
    rintro _ _ ⟨led, rfl⟩
    have started : Stored { b.restart with sLedEnabled := led, sWifiEg := true } ssid password :=
      h.congr rfl rfl
    rw [settles_modify, settles_attempt, started.settles_wifiMgrGetConfig]
    simp only [firstError, noFailures, List.findSome?_cons, List.findSome?_nil, settles_bind,
      started.settles_wifiMgrConnect, if_true]
    rfl
  obtain ⟨_, c, -, taken, passed⟩ := Board.run_returns settled
  exact ⟨c, taken, passed⟩

theorem Stored.reachDriver_iff (h : Stored b ssid password) :
    ReachDriver b ssid password ↔
      ssid.length < wifiMgrSsidMax ∧ password.length < wifiMgrPassMax := by
  rw [← staConfig_reads_iff]
  constructor
  · intro reach
    obtain ⟨c, taken, passed⟩ := h.boot_step
    have keeps : ¬ Sets .ssid bootAct := id
    obtain ⟨new, hnew, reads, -⟩ := reach [bootAct] c (by simpa using keeps)
      (exec_cons.mpr ⟨c, taken, rfl⟩)
    obtain rfl : [staConfig ssid password] = new := List.append_cancel_left (passed.symm.trans hnew)
    exact reads _ (List.mem_singleton_self _)
  · intro reads acts c keeps run
    have start : Passes ssid password b.staConfigs b := ⟨h, 0, by simp⟩
    obtain ⟨n, hn⟩ := (start.exec keeps run).passed
    refine ⟨List.replicate n (staConfig ssid password), hn, ?_, ?_⟩
    · intro cfg mem
      rw [List.eq_of_mem_replicate mem]
      exact reads
    · intro cfg mem cfg' mem'
      rw [List.eq_of_mem_replicate mem, List.eq_of_mem_replicate mem']

/-- After credentials have been stored, they reach the driver unchanged exactly when they
leave the last byte of its fields free. -/
theorem credentials_reach_driver
    (stored : (wifiMgrSetConfig fails (.string ssid) (.string password)).outcome b =
      (.ok (.ok ()), c)) :
    ReachDriver c ssid password ↔
      ssid.length < wifiMgrSsidMax ∧ password.length < wifiMgrPassMax :=
  (stored_of_wifiMgrSetConfig stored).reachDriver_iff

def cafe : CString := ⟨[0x63, 0x61, 0x66, 0x65], by decide⟩

theorem credentials_reach_driver_cafe :
    ReachDriver ((erased.setStr .ssid cafe).setStr .pass .empty) cafe .empty := by
  have stored : (wifiMgrSetConfig noFailures (.string cafe) (.string .empty)).outcome erased =
      (.ok (.ok ()), (erased.setStr .ssid cafe).setStr .pass .empty) := rfl
  exact (credentials_reach_driver stored).mpr (by decide)

/-- As many characters as an SSID may have. -/
def longSsid : CString := ⟨List.replicate 32 0x61, by decide⟩

/-- A network name of 32 characters is accepted and stored, and the driver looks for another
network. -/
theorem credentials_cut :
    (wifiMgrSetConfig noFailures (.string longSsid) (.string .empty)).outcome erased =
        (.ok (.ok ()), (erased.setStr .ssid longSsid).setStr .pass .empty) ∧
      ¬ ReachDriver ((erased.setStr .ssid longSsid).setStr .pass .empty) longSsid .empty := by
  have stored : (wifiMgrSetConfig noFailures (.string longSsid) (.string .empty)).outcome erased =
      (.ok (.ok ()), (erased.setStr .ssid longSsid).setStr .pass .empty) := rfl
  refine ⟨stored, ?_⟩
  rw [(stored_of_wifiMgrSetConfig stored).reachDriver_iff]
  decide

end EspNetwork.Settings
