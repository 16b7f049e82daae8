import EspNetwork.Wifi.Station

/-!
# What the reported state says

`s_state` is `CONNECTED` only while the last thing that happened to the link is that it got the
address in `s_ip`. The driver is asked to connect only behind a `wifi_mgr_connect` that found a
configuration and was not taken back by `wifi_mgr_disconnect`, however late the timer ticks.
-/

namespace EspNetwork.Wifi

open Settings (Failures)
open Fallible History

/-- The link is not what the last `GOT_IP` made it. -/
def EndsLink : Mark → Prop
  | .event .staConnected | .event .staDisconnected | .event (.staGotIp _) | .event .staLostIp
  | .connect | .disconnected => True
  | .event .staStart | .event .scanDone | .disconnect | .espWifiConnect => False

/-- The link got this address, and nothing has happened to it since. -/
def Linked (ip : UInt32) (marks : List Mark) : Prop :=
  Since (· = .event (.staGotIp ip)) EndsLink marks

/-- A connection was asked for and not taken back. -/
def Asked (marks : List Mark) : Prop := Since (· = .connect) (· = .disconnect) marks

structure Station.Truthful (s : Station) : Prop where
  link : s.board.sState = .connected → ∃ ip, Linked ip s.marks ∧ s.sIp = ipBytes ip
  wanted : s.board.sAutoReconnect = true → Asked s.marks
  asked : Guarded (· = .espWifiConnect) Asked s.marks

open Station

variable {s : Station} {fails : Failures}

theorem truthful_restart (h : Guarded (· = .espWifiConnect) Asked s.marks) :
    s.restart.Truthful where
  link := by simp [restart, Settings.Board.restart]
  wanted := by simp [restart, Settings.Board.restart]
  asked := h

theorem asked_concat {m : Mark} {marks : List Mark} (h : Guarded (· = .espWifiConnect) Asked marks)
    (other : m ≠ .espWifiConnect) : Guarded (· = .espWifiConnect) Asked (marks ++ [m]) :=
  guarded_concat.mpr ⟨h, fun same => absurd same other⟩

theorem truthful_connect (h : s.Truthful) :
    s.Leaves (wifiMgrConnect fails) Station.Truthful := by
  rw [Leaves, settles_wifiMgrConnect]
  have found : Asked (s.marks ++ [.connect]) := since_of_start rfl
  have before : Guarded (· = .espWifiConnect) Asked (s.marks ++ [.connect]) :=
    asked_concat h.asked (by simp)
  have called : Guarded (· = .espWifiConnect) Asked (s.marks ++ [.connect] ++ [.espWifiConnect]) :=
    guarded_concat.mpr ⟨before, fun _ => found⟩
  cases storedConfig fails s.board with
  | error e => exact h
  | ok cfg =>
    change if s.board.sWifiEg then _ else _
    split_ifs with group
    · cases fails .wifiSetConfig with
      | some e => exact fun _ => truthful_restart before
      | none =>
        cases fails .wifiConnect with
        | none =>
          refine ⟨?_, fun _ => found.concat (by simp), called⟩
          simp [passed, setAutoReconnect, setState]
        | some e => exact ⟨by simp [setState], fun _ => found.concat (by simp), called⟩
    · exact fun _ => truthful_restart before

theorem truthful_init {init : InitCall → Bool} {hostname saved connect : Failures}
    (h : s.Truthful) : s.Leaves (wifiMgrInit init hostname saved connect) Station.Truthful := by
  rw [leaves_wifiMgrInit]
  split_ifs with failed
  · exact truthful_restart h.asked
  · have ready : (s.ready init).Truthful := ⟨h.link, h.wanted, h.asked⟩
    cases storedConfig saved s.board with
    | error e => exact ready
    | ok cfg => exact truthful_connect ready

theorem truthful_disconnect (h : s.Truthful) :
    s.Leaves (wifiMgrDisconnect fails) Station.Truthful := by
  rw [Leaves, settles_wifiMgrDisconnect]
  have called : Guarded (· = .espWifiConnect) Asked (s.marks ++ [.disconnect]) :=
    asked_concat h.asked (by simp)
  cases fails .wifiDisconnect with
  | none =>
    refine ⟨?_, ?_, asked_concat called (by simp)⟩
    · simp [setIp, setState]
    · simp [setIp, setState, mark, stopTimer, setTimer, setAutoReconnect]
  | some e =>
    refine ⟨fun connected => ?_, ?_, called⟩
    · obtain ⟨ip, linked, same⟩ := h.link connected
      exact ⟨ip, linked.concat id, same⟩
    · simp [mark, stopTimer, setTimer, setAutoReconnect]

theorem truthful_timer (h : s.Truthful) :
    s.Leaves (reconnectTimerCb fails) Station.Truthful := by
  rw [Leaves, settles_reconnectTimerCb]
  split_ifs with idle
  · exact h
  · obtain ⟨wanted, free⟩ := not_or.mp idle
    have found : Asked s.marks := h.wanted (not_not.mp wanted)
    have called : Guarded (· = .espWifiConnect) Asked (s.marks ++ [.espWifiConnect]) :=
      guarded_concat.mpr ⟨h.asked, fun _ => found⟩
    cases storedConfig fails s.board with
    | error e => exact h
    | ok cfg =>
      cases fails .wifiConnect with
      | some e =>
        exact ⟨fun connected => absurd (.inl connected) free, fun _ => found.concat (by simp),
          called⟩
      | none => exact ⟨by simp [setState], fun _ => found.concat (by simp), called⟩

theorem truthful_event (h : s.Truthful) (e : Event) :
    (s.mark (.event e)).Leaves (onEvent e) Station.Truthful := by
  have marked : Guarded (· = .espWifiConnect) Asked (s.marks ++ [.event e]) :=
    asked_concat h.asked (by simp)
  have wanted (auto : s.board.sAutoReconnect = true) : Asked (s.marks ++ [.event e]) :=
    (h.wanted auto).concat (by simp)
  rw [Leaves, settles_onEvent]
  cases e with
  | staStart =>
    refine ⟨fun connected => ?_, wanted, marked⟩
    obtain ⟨ip, linked, same⟩ := h.link connected
    exact ⟨ip, linked.concat id, same⟩
  | staConnected => exact ⟨by simp [setState], wanted, marked⟩
  | staDisconnected =>
    change if s.board.sWifiEg then (if s.board.sAutoReconnect then _ else _) else _
    split_ifs with group auto
    · exact ⟨by simp [startTimer, setTimer, setState], wanted, marked⟩
    · exact ⟨by simp [setState], wanted, marked⟩
    · exact fun _ => truthful_restart marked
  | scanDone =>
    change if s.board.sWifiEg then _ else _
    split_ifs with group
    · refine ⟨fun connected => ?_, wanted, marked⟩
      obtain ⟨ip, linked, same⟩ := h.link connected
      exact ⟨ip, linked.concat id, same⟩
    · exact fun _ => truthful_restart marked
  | staGotIp ip =>
    change if s.board.sWifiEg then _ else _
    split_ifs with group
    · exact ⟨fun _ => ⟨ip, since_of_start rfl, rfl⟩, wanted, marked⟩
    · exact fun _ => truthful_restart marked
  | staLostIp => exact ⟨by simp [setState], wanted, marked⟩

theorem truthful_store {α : Type} {p : Fallible Settings.Board Settings.Halt α}
    (keeps : Keeps vars p) (h : s.Truthful) :
    s.Leaves (onBoard p) Station.Truthful :=
  leaves_onBoard keeps fun _ state auto _ =>
    ⟨⟨fun connected => h.link (state ▸ connected), fun wanted => h.wanted (auto ▸ wanted), h.asked⟩,
      truthful_restart h.asked⟩

theorem step_truthful {act : Act} {t : Station} (h : s.Truthful) (taken : s.step act = some t) :
    t.Truthful := by
  cases act with
  | init init hostname saved connect => exact (truthful_init h).run taken
  | connect fails => exact (truthful_connect h).run taken
  | disconnect fails => exact (truthful_disconnect h).run taken
  | setConfig fails ssid password =>
    exact (truthful_store (Settings.keeps_wifiMgrSetConfig fun _ _ => ⟨rfl, rfl⟩) h).run taken
  | setHostname fails hostname =>
    exact (truthful_store (Settings.keeps_wifiMgrSetHostname fun _ _ => rfl) h).run taken
  | timer fails =>
    have ticks : s.run (reconnectTimerCb fails) = some t := by
      simp only [step] at taken
      split_ifs at taken
      exact taken
    exact (truthful_timer h).run ticks
  | event e => exact (truthful_event h e).run taken
  | reset =>
    obtain rfl := Option.some.inj taken
    exact truthful_restart h.asked

/-- Over every run, a reported connection has the address it got last, and the driver is asked
to connect behind a `wifi_mgr_disconnect` only when `wifi_mgr_connect` has found a configuration
in between. -/
theorem truthful_throughout (nvs : Settings.Nvs) {acts : List Act} {t : Station}
    (run : Schedule.exec Station.step (start nvs) acts = some t) :
    (t.board.sState = .connected → ∃ ip, Linked ip t.marks ∧ t.sIp = ipBytes ip) ∧
      ∀ before between after,
        t.marks = before ++ .disconnect :: between ++ .espWifiConnect :: after →
          .connect ∈ between := by
  have initial : (start nvs).Truthful :=
    ⟨by simp [start, Settings.erased], by simp [start, Settings.erased], guarded_nil⟩
  have truthful : t.Truthful :=
    Schedule.exec_invariant Station.Truthful (fun _ _ _ => step_truthful) initial run
  refine ⟨truthful.link, fun before between after split => ?_⟩
  have asked : Asked (before ++ .disconnect :: between) := truthful.asked _ _ _ split rfl
  obtain ⟨m, mem, rfl⟩ := asked.mem_of_append rfl (by simp)
  exact mem

/-- Connected with an address, asked to disconnect, which the driver refuses, and a late tick. -/
def refusedRun : List Act :=
  [.init (fun _ => false) Settings.noFailures Settings.noFailures Settings.noFailures,
    .setConfig Settings.noFailures (.string ⟨[97], nul_notMem_a⟩) (.string .empty),
    .connect Settings.noFailures, .event .staConnected, .event (.staGotIp 0x0100A8C0),
    .disconnect fun c => if c = .wifiDisconnect then some (.other 0x3002) else none,
    .event .staDisconnected, .timer Settings.noFailures, .connect Settings.noFailures,
    .event (.staGotIp 0x0200A8C0)]

theorem refusedRun_truthful :
    ∃ t, Schedule.exec Station.step (start Settings.erased.nvs) refusedRun = some t ∧
      (t.board.sState = .connected → ∃ ip, Linked ip t.marks ∧ t.sIp = ipBytes ip) ∧
      ∀ before between after,
        t.marks = before ++ .disconnect :: between ++ .espWifiConnect :: after →
          .connect ∈ between := by
  obtain ⟨t, run⟩ :
      ∃ t, Schedule.exec Station.step (start Settings.erased.nvs) refusedRun = some t := ⟨_, rfl⟩
  exact ⟨t, run, truthful_throughout Settings.erased.nvs run⟩

end EspNetwork.Wifi
