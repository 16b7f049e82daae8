import EspNetwork.Wifi.Station

/-!
# When the reconnect timer runs

A connection that is wanted and missing is tried again by the timer. Only `on_wifi_event` starts
it, so a failed call of `esp_wifi_connect` and a lost address leave the station asleep unless
the timer runs already. The steps that do are exactly the ones after which it sleeps.
-/

namespace EspNetwork.Wifi

open Settings (Failures)
open Fallible

namespace Station

/-- A wanted connection that is missing is tried again. -/
def Awake (s : Station) : Prop :=
  s.board.sAutoReconnect = true →
    s.board.sState = .disconnected ∨ s.board.sState = .failed → s.sReconnectTimer = .running

/-- A connection is wanted only where the event group is, and the group is not there without
the timer and the event loop. -/
structure Equipped (s : Station) : Prop where
  wanted : s.board.sAutoReconnect = true → s.board.sWifiEg = true
  timer : s.board.sWifiEg = true → s.sReconnectTimer ≠ .null
  loop : s.board.sWifiEg = true → s.eventLoop = true

instance (s : Station) : Decidable s.Awake := by unfold Awake; infer_instance

/-- `wifi_mgr_connect` gets as far as `esp_wifi_connect`, and that fails. -/
def ConnectFails (fails : Failures) (s : Station) : Prop :=
  (storedConfig fails s.board).isOk = true ∧ s.board.sWifiEg = true ∧ fails .wifiSetConfig = none ∧
    fails .wifiConnect ≠ none

instance (fails : Failures) (s : Station) : Decidable (ConnectFails fails s) := by
  unfold ConnectFails; infer_instance

/-- The step does not leave a missing connection to a timer that does not run. -/
def StaysAwake (s : Station) : Act → Prop
  | .init init _ saved connect =>
    InitFails init s ∨ ¬ (storedConfig saved s.board).isOk ∨ ¬ ConnectFails connect (s.ready init)
  | .connect fails => s.sReconnectTimer = .running ∨ ¬ ConnectFails fails s
  | .event .staLostIp => s.board.sAutoReconnect = true → s.sReconnectTimer = .running
  | _ => True

end Station

open Station

theorem awake_restart (s : Station) : s.restart.Awake := by
  intro auto
  simp [restart, Settings.Board.restart] at auto

theorem equipped_restart (s : Station) : s.restart.Equipped := by
  constructor <;> simp [restart, Settings.Board.restart]

instance (s : Station) (act : Act) : Decidable (s.StaysAwake act) := by
  unfold Station.StaysAwake
  split <;> infer_instance

/-! ## Steps -/

/-- Behind a step from `s`, the station sleeps exactly when the condition is not met. -/
def Station.Accounts (s : Station) (condition : Prop) (t : Station) : Prop :=
  t.Equipped ∧ (s.Awake → (t.Awake ↔ condition))

variable {s : Station} {fails : Failures}

theorem accounts_restart {condition : Prop} (met : condition) (t : Station) :
    s.Accounts condition t.restart :=
  ⟨equipped_restart t, fun _ => iff_of_true (awake_restart t) met⟩

theorem leaves_connect (equipped : s.Equipped) :
    s.Leaves (wifiMgrConnect fails) (s.Accounts (s.StaysAwake (.connect fails))) := by
  rw [Leaves, settles_wifiMgrConnect]
  cases stored : storedConfig fails s.board with
  | error e =>
    refine ⟨equipped, fun awake => iff_of_true awake (.inr ?_)⟩
    simp [ConnectFails, stored, Except.isOk, Except.toBool]
  | ok cfg =>
    cases group : s.board.sWifiEg
    · intro _
      exact accounts_restart (.inr (by simp [ConnectFails, group])) _
    · cases set : fails .wifiSetConfig with
      | some e =>
        intro _
        exact accounts_restart (.inr (by simp [ConnectFails, set])) _
      | none =>
        cases connect : fails .wifiConnect with
        | none =>
          refine ⟨⟨fun _ => group, equipped.timer, equipped.loop⟩,
            fun _ => iff_of_true ?_ (.inr (by simp [ConnectFails, connect]))⟩
          simp [Awake, passed, setAutoReconnect, setState]
        | some e =>
          refine ⟨⟨fun _ => group, equipped.timer, equipped.loop⟩, fun _ => ?_⟩
          simp [Awake, StaysAwake, ConnectFails, passed, setAutoReconnect, setState, mark, stored,
            group, set, connect, Except.isOk, Except.toBool]

theorem leaves_init {init : InitCall → Bool} {hostname saved connect : Failures}
    (equipped : s.Equipped) :
    s.Leaves (wifiMgrInit init hostname saved connect)
      (s.Accounts (s.StaysAwake (.init init hostname saved connect))) := by
  rw [leaves_wifiMgrInit]
  split_ifs with failed
  · exact accounts_restart (.inl failed) s
  · have unwanted : s.board.sAutoReconnect = false := by
      by_contra wanted
      exact failed (.inl (equipped.loop (equipped.wanted (by simpa using wanted))))
    have ready : (s.ready init).Equipped :=
      ⟨fun wanted => by simp [Station.ready, unwanted] at wanted, fun _ => by simp [Station.ready],
        fun _ => rfl⟩
    have awake : (s.ready init).Awake := by
      intro wanted
      simp [Station.ready, unwanted] at wanted
    cases stored : storedConfig saved s.board with
    | error e =>
      exact ⟨ready, fun _ => iff_of_true awake
        (.inr (.inl (by simp [stored, Except.isOk, Except.toBool])))⟩
    | ok cfg =>
      have same : (s.ready init).StaysAwake (.connect connect) ↔
          s.StaysAwake (.init init hostname saved connect) := by
        simp [StaysAwake, failed, stored, Except.isOk, Except.toBool, Station.ready]
      refine (leaves_connect ready).mono (fun _ t h => ?_) fun _ t h halt => ?_
      · exact ⟨h.1, fun _ => (h.2 awake).trans same⟩
      · exact ⟨(h halt).1, fun _ => ((h halt).2 awake).trans same⟩

theorem leaves_disconnect (equipped : s.Equipped) :
    s.Leaves (wifiMgrDisconnect fails) (s.Accounts True) := by
  rw [Leaves, settles_wifiMgrDisconnect]
  cases fails .wifiDisconnect with
  | none =>
    refine ⟨⟨?_, fun group => ?_, equipped.loop⟩, fun _ => iff_of_true ?_ trivial⟩
    · simp [setIp, setState, mark, stopTimer, setTimer, setAutoReconnect]
    · have there := equipped.timer group
      simp [setIp, setState, mark, stopTimer, setTimer, setAutoReconnect, there]
    · simp [Awake, setIp, setState, mark, stopTimer, setTimer, setAutoReconnect]
  | some e =>
    refine ⟨⟨?_, fun group => ?_, equipped.loop⟩, fun _ => iff_of_true ?_ trivial⟩
    · simp [mark, stopTimer, setTimer, setAutoReconnect]
    · have there := equipped.timer group
      simp [mark, stopTimer, setTimer, setAutoReconnect, there]
    · simp [Awake, mark, stopTimer, setTimer, setAutoReconnect]

theorem leaves_timer (equipped : s.Equipped) :
    s.Leaves (reconnectTimerCb fails) (s.Accounts True) := by
  rw [Leaves, settles_reconnectTimerCb]
  split_ifs with idle
  · exact ⟨equipped, fun awake => iff_of_true awake trivial⟩
  · cases storedConfig fails s.board with
    | error e => exact ⟨equipped, fun awake => iff_of_true awake trivial⟩
    | ok cfg =>
      have kept : (s.passed cfg).Equipped := ⟨equipped.wanted, equipped.timer, equipped.loop⟩
      cases fails .wifiConnect with
      | some e => exact ⟨kept, fun awake => iff_of_true awake trivial⟩
      | none =>
        refine ⟨⟨kept.wanted, kept.timer, kept.loop⟩, fun _ => iff_of_true ?_ trivial⟩
        simp [Awake, setState]

theorem leaves_event (equipped : s.Equipped) (e : Event) :
    (s.mark (.event e)).Leaves (onEvent e) (s.Accounts (s.StaysAwake (.event e))) := by
  have marked : (s.mark (.event e)).Equipped :=
    ⟨equipped.wanted, equipped.timer, equipped.loop⟩
  rw [Leaves, settles_onEvent]
  cases e with
  | staStart => exact ⟨marked, fun awake => iff_of_true awake trivial⟩
  | staConnected =>
    refine ⟨⟨marked.wanted, marked.timer, marked.loop⟩, fun _ => iff_of_true ?_ trivial⟩
    simp [Awake, setState]
  | staDisconnected =>
    change if s.board.sWifiEg then (if s.board.sAutoReconnect then _ else _) else _
    split_ifs with group auto
    · have there := equipped.timer group
      refine ⟨⟨marked.wanted, fun _ => ?_, marked.loop⟩, fun _ => iff_of_true ?_ trivial⟩
      · simp [startTimer, setTimer, setState, setIp, mark, there]
      · simp [Awake, startTimer, setTimer, setState, setIp, mark, there]
    · refine ⟨⟨marked.wanted, marked.timer, marked.loop⟩, fun _ => iff_of_true ?_ trivial⟩
      simp [Awake, setState, setIp, mark, auto]
    · intro _
      exact accounts_restart trivial _
  | scanDone =>
    change if s.board.sWifiEg then _ else _
    split_ifs with group
    · exact ⟨marked, fun awake => iff_of_true awake trivial⟩
    · intro _
      exact accounts_restart trivial _
  | staGotIp ip =>
    change if s.board.sWifiEg then _ else _
    split_ifs with group
    · refine ⟨⟨marked.wanted, marked.timer, marked.loop⟩, fun _ => iff_of_true ?_ trivial⟩
      simp [Awake, setState]
    · intro _
      exact accounts_restart trivial _
  | staLostIp =>
    refine ⟨⟨marked.wanted, marked.timer, marked.loop⟩, fun _ => ?_⟩
    simp [Awake, StaysAwake, setIp, setState, mark]

theorem leaves_store {α : Type} {p : Fallible Settings.Board Settings.Halt α}
    (keeps : Keeps vars p) (equipped : s.Equipped) :
    s.Leaves (onBoard p) (s.Accounts True) := by
  refine leaves_onBoard keeps fun b state auto group => ⟨⟨⟨?_, ?_, ?_⟩, ?_⟩, ?_⟩
  · exact fun wanted => group ▸ equipped.wanted (auto ▸ wanted)
  · exact fun there => equipped.timer (group ▸ there)
  · exact fun there => equipped.loop (group ▸ there)
  · intro awake
    refine iff_of_true ?_ trivial
    simpa [Awake, state, auto] using awake
  · exact accounts_restart trivial _

theorem step_accounts {act : Act} {t : Station} (equipped : s.Equipped)
    (taken : s.step act = some t) : s.Accounts (s.StaysAwake act) t := by
  cases act with
  | init init hostname saved connect => exact (leaves_init equipped).run taken
  | connect fails => exact (leaves_connect equipped).run taken
  | disconnect fails => exact (leaves_disconnect equipped).run taken
  | setConfig fails ssid password =>
    exact (leaves_store (Settings.keeps_wifiMgrSetConfig fun _ _ => ⟨rfl, rfl⟩) equipped).run taken
  | setHostname fails hostname =>
    exact (leaves_store (Settings.keeps_wifiMgrSetHostname fun _ _ => rfl) equipped).run taken
  | timer fails =>
    have ticks : s.run (reconnectTimerCb fails) = some t := by
      simp only [step] at taken
      split_ifs at taken
      exact taken
    exact (leaves_timer equipped).run ticks
  | event e => exact (leaves_event equipped e).run taken
  | reset =>
    obtain rfl := Option.some.inj taken
    exact accounts_restart trivial s

/-! ## Runs -/

/-- A run in which the station never sleeps is one in which no call of `esp_wifi_connect` fails
and no address is lost while the timer does not run. -/
theorem awake_throughout_iff (nvs : Settings.Nvs) {acts : List Act} {t : Station}
    (run : Schedule.exec Station.step (start nvs) acts = some t) :
    (∀ bs u, bs <+: acts → Schedule.exec Station.step (start nvs) bs = some u → u.Awake) ↔
      Schedule.Obeys Station.step Station.StaysAwake (start nvs) acts := by
  apply Schedule.obeys_iff_forall_prefix Station.Equipped Station.Awake
  · exact fun s a t equipped taken => (step_accounts equipped taken).1
  · exact fun s a t equipped awake taken => (step_accounts equipped taken).2 awake
  · constructor <;> simp [start, Settings.erased]
  · simp [Awake, start, Settings.erased]
  · exact run

/-- A configuration is stored, the first call of `esp_wifi_connect` fails, and nothing tries
again. -/
def asleepRun : List Act :=
  [.init (fun _ => false) Settings.noFailures Settings.noFailures Settings.noFailures,
    .setConfig Settings.noFailures (.string ⟨[97], nul_notMem_a⟩) (.string .empty),
    .connect fun c => if c = .wifiConnect then some (.other 0x3007) else none]

theorem asleepRun_ends :
    ∃ t, Schedule.exec Station.step (start Settings.erased.nvs) asleepRun = some t ∧
      ¬ t.Awake := by
  refine ⟨_, rfl, ?_⟩
  decide

/-- A connection that gets lost, with a tick in which `esp_wifi_connect` fails and one in which it
does not. -/
def awakeRun : List Act :=
  [.init (fun _ => false) Settings.noFailures Settings.noFailures Settings.noFailures,
    .setConfig Settings.noFailures (.string ⟨[97], nul_notMem_a⟩) (.string .empty),
    .connect Settings.noFailures, .event .staConnected, .event .staDisconnected,
    .timer fun c => if c = .wifiConnect then some (.other 0x3007) else none,
    .timer Settings.noFailures, .event (.staGotIp 0x0100A8C0), .event .staLostIp]

theorem awakeRun_stays_awake :
    (Schedule.exec Station.step (start Settings.erased.nvs) awakeRun).isSome ∧
      ∀ bs u, bs <+: awakeRun →
        Schedule.exec Station.step (start Settings.erased.nvs) bs = some u → u.Awake := by
  constructor
  · decide
  · exact (awake_throughout_iff Settings.erased.nvs rfl).mpr (by decide)

end EspNetwork.Wifi
