import Mathlib
import EspNetwork.Firmware.Ownership

/-!
# Failures of an old connection

A background task sees a failure on the connection it had in its hands and calls `close_relay`,
which closes whatever `s_fd` holds by then. That is the same connection, or none, as long as no
other was stored before the failure was reported, nor between the report and the critical
section of `close_relay`.
-/

namespace EspNetwork.Firmware

open Serial
open Schedule

namespace Traced

/-- When a background task reports a failure, `s_fd` holds no newer connection than the one it
looked at, and no connection is stored while such a task waits for `s_mu`. -/
def Unreplaced (t : Traced) : Event → Prop
  | .task (.rx c) => c.fails → t.Holds t.ledger.rxConn
  | .task (.send c) => c.fails → t.Holds t.ledger.sendConn
  | .task (.cmd _) => t.dev.cmd.stores → t.dev.rx ≠ .closing .take ∧ t.dev.send ≠ .closing .take
  | .host _ => True

instance (t : Traced) : (e : Event) → Decidable (Unreplaced t e)
  | .task (.rx _) | .task (.send _) => inferInstanceAs (Decidable (_ → t.Holds _))
  | .task (.cmd _) => inferInstanceAs (Decidable (_ → _ ∧ _))
  | .host _ => isTrue trivial

/-- A task about to take the connection out of `s_fd` would take the one it looked at. -/
structure TakesOwn (t : Traced) : Prop where
  rx : t.dev.rx = .closing .take → t.Holds t.ledger.rxConn
  send : t.dev.send = .closing .take → t.Holds t.ledger.sendConn
  takes : ∀ take ∈ t.ledger.takes, take.who ≠ .cmd → take.snapshot = some take.conn

theorem takesOwn_boot : TakesOwn boot := ⟨by simp [boot, Firmware.boot], by simp [boot, Firmware.boot],
  by simp [boot, Ledger.empty]⟩

/-- Nobody waits for `s_mu` with a failure when a connection is stored. -/
theorem Unreplaced.waiting {t : Traced} {e : Event} (unreplaced : Unreplaced t e)
    (waits : t.dev.rx = .closing .take ∨ t.dev.send = .closing .take) (c : CmdChoice)
    (cmd : e = .task (.cmd c)) : ¬ t.dev.cmd.stores := by
  subst cmd
  intro store
  obtain ⟨rx, send⟩ := unreplaced store
  rcases waits with h | h
  · exact rx h
  · exact send h

theorem setClosing_waits {d : Device} {who : Who} {pc : ClosePc} (inside : d.closing who = some pc)
    (m : Mgr) (next : Option ClosePc) (past : next ≠ some .take) :
    (((d.setMgr m).setClosing who next).rx = .closing .take → d.rx = .closing .take) ∧
    (((d.setMgr m).setClosing who next).send = .closing .take → d.send = .closing .take) := by
  cases who with
  | rx => cases next <;> simp_all [Device.setClosing, Device.setMgr]
  | send => cases next <;> simp_all [Device.setClosing, Device.setMgr]
  | cmd =>
    simp only [Device.closing] at inside
    split at inside
    · rename_i cmd
      cases next <;> simp [Device.setClosing, Device.setMgr, cmd]
    · cases inside

theorem TakesOwn.rx_step {t t' : Traced} {e : Event} (own : TakesOwn t) (o : Owned t)
    (unreplaced : Unreplaced t e) (m : Moves t e t') (take : t'.dev.rx = .closing .take) :
    t'.Holds t'.ledger.rxConn := by
  have keeps : t.dev.rx = .closing .take → t'.ledger.rxConn = t.ledger.rxConn →
      t'.Holds t'.ledger.rxConn := by
    intro before same
    rw [same]
    exact (own.rx before).step o m (unreplaced.waiting (.inl before))
  cases m with
  | host | answer | free | noSocket | socket | connectFail | connected | abandon | store | request
  | alloc | put | oom | queueFull | discard | sendSnapshot | sent | accept | sendFail =>
    exact keeps take rfl
  | quiet c light next mgr rx send => exact keeps (rx ▸ take) rfl
  | receive send queue =>
    refine keeps take ?_
    cases t.ledger.tags <;> rfl
  | restart => cases take
  | rxIdle => exact own.rx take
  | rxSnapshot | rxReady | rxAgain | rxData | rxPush | rxLost => cases take
  | rxFail failure => exact unreplaced failure
  | closeNone malloc inside =>
    exact keeps ((setClosing_waits inside t.dev.mgr none (by simp)).1 take) rfl
  | closeTake malloc inside | closeShut malloc inside | closeClose malloc inside
  | closePush malloc inside => exact keeps ((setClosing_waits inside _ _ (by simp)).1 take) rfl

theorem TakesOwn.send_step {t t' : Traced} {e : Event} (own : TakesOwn t) (o : Owned t)
    (unreplaced : Unreplaced t e) (m : Moves t e t') (take : t'.dev.send = .closing .take) :
    t'.Holds t'.ledger.sendConn := by
  have keeps : t.dev.send = .closing .take → t'.ledger.sendConn = t.ledger.sendConn →
      t'.Holds t'.ledger.sendConn := by
    intro before same
    rw [same]
    exact (own.send before).step o m (unreplaced.waiting (.inr before))
  cases m with
  | host | answer | free | noSocket | socket | connectFail | connected | abandon | store | request
  | alloc | put | oom | queueFull | rxSnapshot | rxReady | rxAgain | rxData | rxPush | rxLost | rxFail =>
    exact keeps take rfl
  | quiet c light next mgr rx send => exact keeps (send ▸ take) rfl
  | rxIdle => exact own.send take
  | restart | receive | discard | sendSnapshot | sent | accept => cases take
  | sendFail send => exact unreplaced rfl
  | closeNone malloc inside =>
    exact keeps ((setClosing_waits inside t.dev.mgr none (by simp)).2 take) rfl
  | closeTake malloc inside | closeShut malloc inside | closeClose malloc inside
  | closePush malloc inside => exact keeps ((setClosing_waits inside _ _ (by simp)).2 take) rfl

/-- The critical section of `close_relay` in a background task. -/
theorem TakesOwn.snapshot_eq {t : Traced} (own : TakesOwn t) {who : Who} {fd : Fd} {k : SockId}
    (inside : t.dev.closing who = some .take) (background : who ≠ .cmd)
    (up : t.dev.mgr.sFd = some fd) (conn : t.dev.mgr.net.fds fd = some k) :
    t.ledger.snapshot who = some k := by
  have at_store : t.connAt .store = some k := by simp [connAt, Device.fdAt, up, conn]
  have held : ∀ c, t.Holds c → c = some k := by
    rintro c (empty | same)
    · rw [up] at empty
      cases empty
    · exact same.symm.trans at_store
  cases who with
  | rx => exact held _ (own.rx (Device.closing_rx.mp inside))
  | send => exact held _ (own.send (Device.closing_send.mp inside))
  | cmd => exact absurd rfl background

theorem TakesOwn.takes_step {t t' : Traced} {e : Event} (own : TakesOwn t) (m : Moves t e t') :
    ∀ take ∈ t'.ledger.takes, take.who ≠ .cmd → take.snapshot = some take.conn := by
  cases m with
  | closeTake malloc inside up =>
    intro take mem background
    rcases List.mem_append.mp mem with old | new
    · exact own.takes take old background
    · obtain ⟨k, conn, rfl⟩ := List.mem_map.mp new
      exact own.snapshot_eq inside background up (by simpa using conn)
  | restart => simp [Ledger.empty]
  | receive =>
    cases tags : t.ledger.tags <;> exact own.takes
  | _ => exact own.takes

theorem TakesOwn.step {t t' : Traced} {e : Event} (own : TakesOwn t) (o : Owned t)
    (unreplaced : Unreplaced t e) (m : Moves t e t') : TakesOwn t' :=
  ⟨own.rx_step o unreplaced m, own.send_step o unreplaced m, own.takes_step m⟩

/-- A background task closes the connection it saw fail, or none, in every run in which no newer
connection is in `s_fd` when a failure is reported or gets there while the task waits to take
`s_fd`. -/
theorem close_relay_takes_own {es : List Event} {t : Traced} (obeys : Obeys step Unreplaced boot es)
    (run : exec step boot es = some t) :
    ∀ take ∈ t.ledger.takes, take.who ≠ .cmd → take.snapshot = some take.conn := by
  have inv := exec_invariant_of_obeys (fun t => Owned t ∧ TakesOwn t) ?_ ⟨owned_boot, takesOwn_boot⟩
    obeys run
  · exact inv.2.takes
  · rintro s e u ⟨o, own⟩ unreplaced taken
    have m := step_moves taken
    exact ⟨o.step m, own.step o unreplaced m⟩

/-- The host takes the relay down while `tcp_rx_task` is about to call `recv`, and the failure
finds none. The peer ends the next connection, and the task that sees it closes it. -/
def endRun : List Event :=
  connect 3 [] ++ .task (.cmd .go) :: [.task (.rx .go), .task (.rx .go)] ++ disconnect ++
    [.task (.rx .error), .task (.rx .go)] ++ .task (.cmd .go) :: connect 3 [] ++
    .task (.cmd .go) :: [.task (.rx .go), .task (.rx .go), .task (.rx .eof), .task (.rx .go)]

theorem close_relay_takes_own_end : ∃ t, exec step boot endRun = some t ∧
    t.ledger.takes = [⟨.cmd, none, 0⟩, ⟨.rx, some 1, 1⟩] ∧
    ∀ take ∈ t.ledger.takes, take.who ≠ .cmd → take.snapshot = some take.conn := by
  have ends : (exec step boot endRun).map (fun t => t.ledger.takes) =
      some [⟨.cmd, none, 0⟩, ⟨.rx, some 1, 1⟩] := by
    decide +kernel
  have obeys : Obeys step Unreplaced boot endRun := by decide +kernel
  obtain ⟨t, run, takes⟩ := Option.map_eq_some_iff.mp ends
  exact ⟨t, run, takes, close_relay_takes_own obeys run⟩

/-- While `tcp_rx_task` is about to call `recv`, the host takes the relay down and up again. Then
`recv` fails on the old descriptor, and the new connection is closed. -/
def reconnectRun : List Event :=
  connect 3 [] ++ [.task (.cmd .go), .task (.rx .go), .task (.rx .go)] ++ disconnect ++
    .task (.cmd .go) :: connect 4 [] ++ [.task (.rx .error), .task (.rx .go)]

theorem close_relay_takes_newer : ∃ t, exec step boot reconnectRun = some t ∧
    ¬ ∀ take ∈ t.ledger.takes, take.who ≠ .cmd → take.snapshot = some take.conn := by
  have ends : (exec step boot reconnectRun).map (fun t => t.ledger.takes) =
      some [⟨.cmd, none, 0⟩, ⟨.rx, some 0, 1⟩] := by
    decide +kernel
  obtain ⟨t, run, takes⟩ := Option.map_eq_some_iff.mp ends
  refine ⟨t, run, fun own => ?_⟩
  rw [takes] at own
  simpa using own ⟨.rx, some 0, 1⟩

end Traced

end EspNetwork.Firmware
