import Mathlib
import EspNetwork.Firmware.CmdTask

/-!
# The device with a ledger

The tasks of the device know the relay by a descriptor, which says little: descriptors are
handed out again, and a task may hold one long after its connection is gone. The ledger
records, beside the device and without influence on it, which connection every step is about:
what each task holds in its hands, and what happened to a connection from `socket` to the push
that reports its end. It starts anew when the device restarts.
-/

namespace EspNetwork.Firmware

open Serial

/-- The tasks that call `close_relay`. -/
inductive Who where
  | rx
  | send
  | cmd
  deriving DecidableEq, Repr

/-- `close_relay` of a task took `conn` out of `s_fd`. A background task closes the relay
because of what it saw on the connection it had in its hands, `snapshot`. -/
structure Take where
  who : Who
  snapshot : Option SockId
  conn : SockId
  deriving DecidableEq, Repr

/-- What a frame on USB tells the host about a connection. -/
inductive Note where
  | ok (k : SockId)
  | data (k : SockId)
  | closed (k : SockId)
  deriving DecidableEq, Repr

structure Ledger where
  /-- Sockets opened, and those closed again because the connection failed. -/
  opened : List SockId
  abandoned : List SockId
  /-- Connections put into `s_fd`, taken out of it, shut down and closed. -/
  stored : List SockId
  takes : List Take
  shut : List SockId
  closed : List SockId
  /-- Calls of `s_push_cb(CMD_PROXY_CLOSED_PUSH)`. -/
  pushed : List SockId
  /-- The frames of the relay on USB. -/
  notes : List Note
  /-- Payloads handed to `tcp_mgr_send` while a connection was open, and those it has queued. -/
  requests : List (SockId × Bytes)
  accepted : List (SockId × Bytes)
  /-- What `send` took: for which connection, and the connection its job was accepted for. -/
  sent : List (SockId × Option SockId × Bytes)
  /-- The connection `tcp_rx_task` looks at, and that of the piece it received. -/
  rxConn : Option SockId
  piece : Option SockId
  /-- The connection `tcp_send_task` sends on, and that its job was accepted for. -/
  sendConn : Option SockId
  tag : Option SockId
  /-- The connections the queued jobs were accepted for. -/
  tags : List (Option SockId)
  /-- The connection `tcp_mgr_send` found open. -/
  asked : Option SockId
  /-- The connection whose OK response is still to be written. -/
  fresh : Option SockId
  /-- The connection inside `close_relay` of a task. -/
  holding : Who → Option SockId

def Ledger.empty : Ledger where
  opened := []
  abandoned := []
  stored := []
  takes := []
  shut := []
  closed := []
  pushed := []
  notes := []
  requests := []
  accepted := []
  sent := []
  rxConn := none
  piece := none
  sendConn := none
  tag := none
  tags := []
  asked := none
  fresh := none
  holding _ := none

namespace Ledger

/-- The connection a task holds when it calls `close_relay`. -/
def snapshot (l : Ledger) : Who → Option SockId
  | .rx => l.rxConn
  | .send => l.sendConn
  | .cmd => none

def close (l : Ledger) (m : Mgr) (who : Who) (malloc : Bool) : ClosePc → Ledger
  | .take =>
    match m.sFd with
    | none => l
    | some fd =>
      { l with
        takes := l.takes ++ (m.net.fds fd).toList.map (Take.mk who (l.snapshot who))
        holding := Function.update l.holding who (m.net.fds fd) }
  | .shut fd => { l with shut := l.shut ++ (m.net.fds fd).toList }
  | .close fd => { l with closed := l.closed ++ (m.net.fds fd).toList }
  | .push =>
    { l with
      pushed := l.pushed ++ (l.holding who).toList
      notes := if malloc then l.notes ++ (l.holding who).toList.map .closed else l.notes
      holding := Function.update l.holding who none }

def send (l : Ledger) (m : Mgr) : SendPc → SendChoice → Ledger
  | .receive, .go =>
    match l.tags with
    | [] => l
    | tag :: tags => { l with tag, tags }
  | .snapshot _, .go =>
    match m.sFd with
    | none => l
    | some fd => { l with sendConn := m.net.fds fd }
  | .sending fd rest, .accept n =>
    { l with sent := l.sent ++ (m.net.fds fd).toList.map fun k => (k, l.tag, rest.take n) }
  | .closing pc, .go => l.close m .send true pc
  | .closing pc, .oom => l.close m .send false pc
  | _, _ => l

def rx (l : Ledger) (m : Mgr) : RxPc → RxChoice → Ledger
  | .top, .go =>
    match m.sFd with
    | none => l
    | some fd => { l with rxConn := m.net.fds fd }
  | .recv fd, .data _ => { l with piece := m.net.fds fd }
  | .push _, .go => { l with notes := l.notes ++ l.piece.toList.map .data, piece := none }
  | .push _, .oom => { l with piece := none }
  | .closing pc, .go => l.close m .rx true pc
  | .closing pc, .oom => l.close m .rx false pc
  | _, _ => l

def cmd (l : Ledger) (m : Mgr) : CmdPc → CmdChoice → Ledger
  | .connectSocket .., .socket _ => { l with opened := l.opened ++ [m.net.socks.length] }
  | .connectFailed _ sock, .go => { l with abandoned := l.abandoned ++ (m.net.fds sock).toList }
  | .connectStore _ sock, .go =>
    { l with stored := l.stored ++ (m.net.fds sock).toList, fresh := m.net.fds sock }
  | .sendUp data, .go =>
    match m.sFd with
    | none => l
    | some fd =>
      { l with
        asked := m.net.fds fd
        requests := l.requests ++ (m.net.fds fd).toList.map (·, data) }
  | .sendPut data, .go =>
    { l with
      tags := l.tags ++ [l.asked]
      accepted := l.accepted ++ l.asked.toList.map (·, data) }
  | .disconnect _ pc, .go => l.close m .cmd true pc
  | .disconnect _ pc, .oom => l.close m .cmd false pc
  | .respond _ _, .go => { l with notes := l.notes ++ l.fresh.toList.map .ok, fresh := none }
  | .restart, _ => empty
  | _, _ => l

def record (l : Ledger) (d : Device) : Action → Ledger
  | .cmd c => l.cmd d.mgr d.cmd c
  | .send c => l.send d.mgr d.send c
  | .rx c => l.rx d.mgr d.rx c

end Ledger

structure Traced where
  dev : Device
  ledger : Ledger

/-- A task moves, or the host writes to the serial line. -/
inductive Event where
  | task (a : Action)
  | host (bytes : Bytes)

/-! ## Inside `close_relay` -/

namespace Device

/-- Where a task stands inside `close_relay`. -/
def closing (d : Device) : Who → Option ClosePc
  | .rx => match d.rx with | .closing pc => some pc | _ => none
  | .send => match d.send with | .closing pc => some pc | _ => none
  | .cmd => match d.cmd with | .disconnect _ pc => some pc | _ => none

theorem closing_rx {d : Device} {pc : ClosePc} : d.closing .rx = some pc ↔ d.rx = .closing pc := by
  cases rx : d.rx <;> simp [closing, rx]

theorem closing_send {d : Device} {pc : ClosePc} :
    d.closing .send = some pc ↔ d.send = .closing pc := by
  cases send : d.send <;> simp [closing, send]

/-- A task goes on inside `close_relay` or returns from it. -/
def setClosing (d : Device) : Who → Option ClosePc → Device
  | .rx, some pc => { d with rx := .closing pc }
  | .rx, none => { d with rx := .top }
  | .send, some pc => { d with send := .closing pc }
  | .send, none => { d with send := .receive }
  | .cmd, next =>
    match d.cmd with
    | .disconnect f _ => { d with cmd := match next with | some pc => .disconnect f pc | none => .respond f ok }
    | _ => d

def setMgr (d : Device) (mgr : Mgr) : Device := { d with mgr }

@[simp] theorem setMgr_mgr (d : Device) (m : Mgr) : (d.setMgr m).mgr = m := rfl

@[simp] theorem setClosing_mgr (d : Device) (who : Who) (next : Option ClosePc) :
    (d.setClosing who next).mgr = d.mgr := by
  unfold setClosing
  split <;> try rfl
  split <;> rfl

end Device

@[simp] theorem Mgr.cdcSendPush_fields (m : Mgr) (cmd : Byte) (data : Option Bytes) (malloc : Bool) :
    (m.cdcSendPush cmd data malloc).sFd = m.sFd ∧
    (m.cdcSendPush cmd data malloc).sendQueue = m.sendQueue ∧
    (m.cdcSendPush cmd data malloc).net = m.net := by
  unfold cdcSendPush
  split <;> exact ⟨rfl, rfl, rfl⟩

/-- The step a task makes inside `close_relay`. -/
def closeAction : Who → Bool → Action
  | .rx, true => .rx .go
  | .rx, false => .rx .oom
  | .send, true => .send .go
  | .send, false => .send .oom
  | .cmd, true => .cmd .go
  | .cmd, false => .cmd .oom

/-- The command task has nothing of the relay in its hands. -/
def CmdPc.Light : CmdPc → Prop
  | .idle | .other _ | .reset _ | .restart | .connectBusy .. | .sendUp _ | .getStatus _
  | .disconnect _ .take => True
  | _ => False

/-- The command task is about to store a connection into `s_fd`. -/
def CmdPc.stores : CmdPc → Bool
  | .connectStore .. => true
  | _ => false

/-- The command task answers with OK for `CMD_PROXY_CONNECT` only when it has stored a connection. -/
def CmdPc.Proper : CmdPc → Prop
  | .other f | .reset f | .disconnect f _ | .getStatus f => f.cmd ≠ cmdProxyConnect
  | .connectBusy f .. | .connectSocket f .. | .connecting f _ | .connectFailed f _
  | .connectStore f _ => f.cmd = cmdProxyConnect
  | .respond f a => ¬ (f.cmd = cmdProxyConnect ∧ a.status = statusOk)
  | .idle | .restart | .sendUp _ | .sendAlloc _ | .sendPut _ => True

/-- `select` or `recv` reports an error or the end of the stream. -/
def RxChoice.fails : RxChoice → Bool
  | .error | .eof => true
  | _ => false

/-- `send` reports an error. -/
def SendChoice.fails : SendChoice → Bool
  | .error => true
  | _ => false

namespace Traced

def boot : Traced := ⟨Firmware.boot, .empty⟩

def step (t : Traced) : Event → Option Traced
  | .task a => (Firmware.step t.dev a).map fun dev => ⟨dev, t.ledger.record t.dev a⟩
  | .host bytes => some ⟨{ t.dev with serial := t.dev.serial ++ bytes }, t.ledger⟩

/-! ## What a step can do -/

/-- The transitions of the device one by one, with their entries. -/
inductive Moves (t : Traced) : Event → Traced → Prop where
  | host (bytes : Bytes) :
    Moves t (.host bytes) ⟨{ t.dev with serial := t.dev.serial ++ bytes }, t.ledger⟩
  /-- A handler starts or ends, or the command task reads on. -/
  | quiet {dev : Device} (c : CmdChoice) (light : t.dev.cmd.Light)
    (next : dev.cmd.Light ∨ ∃ f a, dev.cmd = .respond f a)
    (mgr : dev.mgr = { t.dev.mgr with usb := dev.mgr.usb }) (rx : dev.rx = t.dev.rx)
    (send : dev.send = t.dev.send) (proper : t.dev.cmd.Proper → dev.cmd.Proper)
    (usb : dev.mgr.usb = t.dev.mgr.usb ∨ ∃ f a, (t.dev.cmd = .other f ∨ t.dev.cmd = .reset f) ∧
      dev.mgr = t.dev.mgr.cdcSendResponse f a) :
    Moves t (.task (.cmd c)) ⟨dev, t.ledger⟩
  | restart (c : CmdChoice) (cmd : t.dev.cmd = .restart) :
    Moves t (.task (.cmd c)) ⟨t.dev.restart, .empty⟩
  | answer {f : ProtoFrame} {a : Answer} (cmd : t.dev.cmd = .respond f a) :
    Moves t (.task (.cmd .go)) ⟨{ t.dev with mgr := t.dev.mgr.cdcSendResponse f a, cmd := .idle },
      { t.ledger with
        notes := t.ledger.notes ++ t.ledger.fresh.toList.map .ok
        fresh := none }⟩
  | free {f : ProtoFrame} {host : Bytes} {port : UInt16} (cmd : t.dev.cmd = .connectBusy f host port)
    (empty : t.dev.mgr.sFd = none) :
    Moves t (.task (.cmd .go)) ⟨{ t.dev with cmd := .connectSocket f host port }, t.ledger⟩
  | noSocket {f : ProtoFrame} {host : Bytes} {port : UInt16}
    (cmd : t.dev.cmd = .connectSocket f host port) :
    Moves t (.task (.cmd .fail)) ⟨{ t.dev with cmd := .respond f error }, t.ledger⟩
  | socket {f : ProtoFrame} {host : Bytes} {port : UInt16} {fd : Fd}
    (cmd : t.dev.cmd = .connectSocket f host port) (unused : t.dev.mgr.net.fds fd = none) :
    Moves t (.task (.cmd (.socket fd)))
      ⟨{ t.dev with
          mgr := { t.dev.mgr with
            net :=
              { fds := Function.update t.dev.mgr.net.fds fd (some t.dev.mgr.net.socks.length)
                socks := t.dev.mgr.net.socks ++ [⟨host, port, [], [], false⟩] } }
          cmd := .connecting f fd },
        { t.ledger with opened := t.ledger.opened ++ [t.dev.mgr.net.socks.length] }⟩
  | connectFail {f : ProtoFrame} {sock : Fd} (cmd : t.dev.cmd = .connecting f sock) :
    Moves t (.task (.cmd .fail)) ⟨{ t.dev with cmd := .connectFailed f sock }, t.ledger⟩
  | connected {f : ProtoFrame} {sock : Fd} (stream : Bytes) (cmd : t.dev.cmd = .connecting f sock) :
    Moves t (.task (.cmd (.connected stream)))
      ⟨{ t.dev with
          mgr := { t.dev.mgr with net := t.dev.mgr.net.connected sock stream }
          cmd := .connectStore f sock }, t.ledger⟩
  | abandon {f : ProtoFrame} {sock : Fd} (cmd : t.dev.cmd = .connectFailed f sock) :
    Moves t (.task (.cmd .go))
      ⟨{ t.dev with
          mgr := { t.dev.mgr with net := t.dev.mgr.net.close sock }
          cmd := .respond f error },
        { t.ledger with
          abandoned := t.ledger.abandoned ++ (t.dev.mgr.net.fds sock).toList }⟩
  | store {f : ProtoFrame} {sock : Fd} (cmd : t.dev.cmd = .connectStore f sock) :
    Moves t (.task (.cmd .go))
      ⟨{ t.dev with mgr := { t.dev.mgr with sFd := some sock }, cmd := .respond f ok },
        { t.ledger with
          stored := t.ledger.stored ++ (t.dev.mgr.net.fds sock).toList
          fresh := t.dev.mgr.net.fds sock }⟩
  | request {data : Bytes} {fd : Fd} (cmd : t.dev.cmd = .sendUp data)
    (up : t.dev.mgr.sFd = some fd) :
    Moves t (.task (.cmd .go)) ⟨{ t.dev with cmd := .sendAlloc data },
      { t.ledger with
        asked := t.dev.mgr.net.fds fd
        requests := t.ledger.requests ++ (t.dev.mgr.net.fds fd).toList.map (·, data) }⟩
  | alloc {data : Bytes} (cmd : t.dev.cmd = .sendAlloc data) :
    Moves t (.task (.cmd .go)) ⟨{ t.dev with cmd := .sendPut data }, t.ledger⟩
  | put {data : Bytes} (cmd : t.dev.cmd = .sendPut data) :
    Moves t (.task (.cmd .go))
      ⟨{ t.dev with
          mgr := { t.dev.mgr with sendQueue := t.dev.mgr.sendQueue ++ [data] }
          cmd := .idle },
        { t.ledger with
          tags := t.ledger.tags ++ [t.ledger.asked]
          accepted := t.ledger.accepted ++ t.ledger.asked.toList.map (·, data) }⟩
  | oom {data : Bytes} (cmd : t.dev.cmd = .sendAlloc data) :
    Moves t (.task (.cmd .oom)) ⟨{ t.dev with cmd := .idle }, t.ledger⟩
  | queueFull {data : Bytes} (cmd : t.dev.cmd = .sendPut data) :
    Moves t (.task (.cmd .queueFull)) ⟨{ t.dev with cmd := .idle }, t.ledger⟩
  | receive {job : Bytes} {jobs : List Bytes} (send : t.dev.send = .receive)
    (queue : t.dev.mgr.sendQueue = job :: jobs) :
    Moves t (.task (.send .go))
      ⟨{ t.dev with mgr := { t.dev.mgr with sendQueue := jobs }, send := .snapshot job },
        match t.ledger.tags with
        | [] => t.ledger
        | tag :: tags => { t.ledger with tag, tags }⟩
  | discard {job : Bytes} (send : t.dev.send = .snapshot job) (empty : t.dev.mgr.sFd = none) :
    Moves t (.task (.send .go)) ⟨{ t.dev with send := .receive }, t.ledger⟩
  | sendSnapshot {job : Bytes} {fd : Fd} (send : t.dev.send = .snapshot job)
    (up : t.dev.mgr.sFd = some fd) :
    Moves t (.task (.send .go)) ⟨{ t.dev with send := .sending fd job },
      { t.ledger with sendConn := t.dev.mgr.net.fds fd }⟩
  | sent {fd : Fd} (send : t.dev.send = .sending fd []) :
    Moves t (.task (.send .go)) ⟨{ t.dev with send := .receive }, t.ledger⟩
  | accept {fd : Fd} {rest : Bytes} {n : Nat} {k : SockId} (send : t.dev.send = .sending fd rest)
    (conn : t.dev.mgr.net.fds fd = some k) :
    Moves t (.task (.send (.accept n)))
      ⟨{ t.dev with
          mgr := { t.dev.mgr with
            net := t.dev.mgr.net.update k fun s => { s with sent := s.sent ++ rest.take n } }
          send := .sending fd (rest.drop n) },
        { t.ledger with sent := t.ledger.sent ++ [(k, t.ledger.tag, rest.take n)] }⟩
  | sendFail {fd : Fd} {rest : Bytes} (send : t.dev.send = .sending fd rest) :
    Moves t (.task (.send .error)) ⟨{ t.dev with send := .closing .take }, t.ledger⟩
  | rxIdle (rx : t.dev.rx = .top) : Moves t (.task (.rx .go)) t
  | rxSnapshot {fd : Fd} (rx : t.dev.rx = .top) (up : t.dev.mgr.sFd = some fd) :
    Moves t (.task (.rx .go)) ⟨{ t.dev with rx := .select fd },
      { t.ledger with rxConn := t.dev.mgr.net.fds fd }⟩
  | rxReady {fd : Fd} (rx : t.dev.rx = .select fd) :
    Moves t (.task (.rx .go)) ⟨{ t.dev with rx := .recv fd }, t.ledger⟩
  | rxAgain {fd : Fd} (rx : t.dev.rx = .select fd ∨ t.dev.rx = .recv fd) :
    Moves t (.task (.rx .again)) ⟨{ t.dev with rx := .top }, t.ledger⟩
  | rxFail {fd : Fd} {c : RxChoice} (failure : c.fails)
    (rx : t.dev.rx = .select fd ∨ t.dev.rx = .recv fd) :
    Moves t (.task (.rx c)) ⟨{ t.dev with rx := .closing .take }, t.ledger⟩
  | rxData {fd : Fd} {len : Nat} {k : SockId} {s : Sock} (rx : t.dev.rx = .recv fd)
    (conn : t.dev.mgr.net.fds fd = some k) (sock : t.dev.mgr.net.socks[k]? = some s) :
    Moves t (.task (.rx (.data len)))
      ⟨{ t.dev with
          mgr := { t.dev.mgr with
            net := t.dev.mgr.net.update k fun s => { s with inbox := s.inbox.drop len } }
          rx := .push (s.inbox.take len) },
        { t.ledger with piece := some k }⟩
  | rxPush {data : Bytes} (rx : t.dev.rx = .push data) :
    Moves t (.task (.rx .go))
      ⟨{ t.dev with
          mgr := t.dev.mgr.cdcSendPush cmdProxyDataPush (some data) true
          rx := .top },
        { t.ledger with
          notes := t.ledger.notes ++ t.ledger.piece.toList.map .data
          piece := none }⟩
  | rxLost {data : Bytes} (rx : t.dev.rx = .push data) :
    Moves t (.task (.rx .oom)) ⟨{ t.dev with rx := .top }, { t.ledger with piece := none }⟩
  | closeNone {who : Who} (malloc : Bool) (inside : t.dev.closing who = some .take)
    (empty : t.dev.mgr.sFd = none) :
    Moves t (.task (closeAction who malloc)) ⟨t.dev.setClosing who none, t.ledger⟩
  | closeTake {who : Who} {fd : Fd} (malloc : Bool) (inside : t.dev.closing who = some .take)
    (up : t.dev.mgr.sFd = some fd) :
    Moves t (.task (closeAction who malloc))
      ⟨(t.dev.setMgr { t.dev.mgr with sFd := none }).setClosing who (some (.shut fd)),
        { t.ledger with
          takes := t.ledger.takes ++
            (t.dev.mgr.net.fds fd).toList.map (Take.mk who (t.ledger.snapshot who))
          holding := Function.update t.ledger.holding who (t.dev.mgr.net.fds fd) }⟩
  | closeShut {who : Who} {fd : Fd} (malloc : Bool) (inside : t.dev.closing who = some (.shut fd)) :
    Moves t (.task (closeAction who malloc))
      ⟨(t.dev.setMgr { t.dev.mgr with net := t.dev.mgr.net.shutdown fd }).setClosing who
          (some (.close fd)),
        { t.ledger with shut := t.ledger.shut ++ (t.dev.mgr.net.fds fd).toList }⟩
  | closeClose {who : Who} {fd : Fd} (malloc : Bool) (inside : t.dev.closing who = some (.close fd)) :
    Moves t (.task (closeAction who malloc))
      ⟨(t.dev.setMgr { t.dev.mgr with net := t.dev.mgr.net.close fd }).setClosing who (some .push),
        { t.ledger with closed := t.ledger.closed ++ (t.dev.mgr.net.fds fd).toList }⟩
  | closePush {who : Who} (malloc : Bool) (inside : t.dev.closing who = some .push) :
    Moves t (.task (closeAction who malloc))
      ⟨(t.dev.setMgr (t.dev.mgr.cdcSendPush cmdProxyClosedPush none malloc)).setClosing who none,
        { t.ledger with
          pushed := t.ledger.pushed ++ (t.ledger.holding who).toList
          notes := if malloc then t.ledger.notes ++ (t.ledger.holding who).toList.map .closed
            else t.ledger.notes
          holding := Function.update t.ledger.holding who none }⟩

/-- What `close_relay` of a task does. -/
theorem moves_of_closeRelay (t : Traced) {who : Who} {pc : ClosePc} (malloc : Bool)
    (inside : t.dev.closing who = some pc) :
    Moves t (.task (closeAction who malloc))
      ⟨(t.dev.setMgr (closeRelay t.dev.mgr malloc pc).1).setClosing who
          (closeRelay t.dev.mgr malloc pc).2,
        t.ledger.close t.dev.mgr who malloc pc⟩ := by
  cases pc with
  | take =>
    cases up : t.dev.mgr.sFd with
    | none => simpa [closeRelay, Ledger.close, up, Device.setMgr] using Moves.closeNone malloc inside up
    | some fd => simpa [closeRelay, Ledger.close, up] using Moves.closeTake malloc inside up
  | shut fd => exact .closeShut malloc inside
  | close fd => exact .closeClose malloc inside
  | push => exact .closePush malloc inside

theorem rx_moves {t t' : Traced} {c : RxChoice} (h : t.step (.task (.rx c)) = some t') :
    Moves t (.task (.rx c)) t' := by
  obtain ⟨dev, moved, rfl⟩ := Option.map_eq_some_iff.mp h
  obtain ⟨⟨mgr, rx'⟩, taken, rfl⟩ := Option.map_eq_some_iff.mp moved
  simp only [Ledger.record]
  cases rx : t.dev.rx with
  | top =>
    rw [rx] at taken
    cases c with
    | go =>
      cases up : t.dev.mgr.sFd with
      | none =>
        obtain ⟨rfl, rfl⟩ : t.dev.mgr = mgr ∧ RxPc.top = rx' := by
          simpa [tcpRxTask, up] using taken
        have same : ({ t.dev with rx := .top } : Device) = t.dev := by rw [← rx]
        simpa [Ledger.rx, up, same] using Moves.rxIdle rx
      | some fd =>
        obtain ⟨rfl, rfl⟩ : t.dev.mgr = mgr ∧ RxPc.select fd = rx' := by
          simpa [tcpRxTask, up] using taken
        simpa [Ledger.rx, up] using Moves.rxSnapshot rx up
    | _ => simp [tcpRxTask] at taken
  | select fd =>
    rw [rx] at taken
    cases c with
    | go =>
      obtain ⟨rfl, rfl⟩ : t.dev.mgr = mgr ∧ RxPc.recv fd = rx' := by simpa [tcpRxTask] using taken
      exact .rxReady rx
    | again =>
      obtain ⟨rfl, rfl⟩ : t.dev.mgr = mgr ∧ RxPc.top = rx' := by simpa [tcpRxTask] using taken
      exact .rxAgain (.inl rx)
    | error =>
      obtain ⟨rfl, rfl⟩ : t.dev.mgr = mgr ∧ RxPc.closing .take = rx' := by
        simpa [tcpRxTask] using taken
      exact .rxFail rfl (.inl rx)
    | _ => simp [tcpRxTask] at taken
  | recv fd =>
    rw [rx] at taken
    cases c with
    | data len =>
      simp only [tcpRxTask] at taken
      split at taken
      · simp only [Net.recv, Option.map_eq_some_iff, Option.bind_eq_bind,
          Option.bind_eq_some_iff] at taken
        obtain ⟨⟨piece, net⟩, ⟨k, conn, s, sock, taken⟩, eq⟩ := taken
        split at taken
        · obtain ⟨rfl, rfl⟩ : _ ∧ _ := by simpa using taken
          obtain ⟨rfl, rfl⟩ : _ ∧ _ := by simpa using eq
          have moves : Moves t (.task (.rx (.data len))) _ := .rxData rx conn sock
          simpa [Ledger.rx, conn] using moves
        · simp at taken
      · simp at taken
    | eof =>
      obtain ⟨-, rfl, rfl⟩ : _ ∧ t.dev.mgr = mgr ∧ RxPc.closing .take = rx' := by
        simpa [tcpRxTask] using taken
      exact .rxFail rfl (.inr rx)
    | again =>
      obtain ⟨rfl, rfl⟩ : t.dev.mgr = mgr ∧ RxPc.top = rx' := by simpa [tcpRxTask] using taken
      exact .rxAgain (.inr rx)
    | error =>
      obtain ⟨rfl, rfl⟩ : t.dev.mgr = mgr ∧ RxPc.closing .take = rx' := by
        simpa [tcpRxTask] using taken
      exact .rxFail rfl (.inr rx)
    | _ => simp [tcpRxTask] at taken
  | push data =>
    rw [rx] at taken
    cases c with
    | go =>
      obtain ⟨rfl, rfl⟩ : _ ∧ RxPc.top = rx' := by simpa [tcpRxTask] using taken
      exact .rxPush rx
    | oom =>
      obtain ⟨rfl, rfl⟩ : _ ∧ RxPc.top = rx' := by simpa [tcpRxTask] using taken
      exact .rxLost rx
    | _ => simp [tcpRxTask] at taken
  | closing pc =>
    rw [rx] at taken
    have inside : t.dev.closing .rx = some pc := by simp [Device.closing, rx]
    have leaves : ∀ r, tcpRxTask.afterClose r = (mgr, rx') →
        { t.dev with mgr, rx := rx' } = (t.dev.setMgr r.1).setClosing .rx r.2 := by
      rintro ⟨m, next⟩ after
      cases next <;> obtain ⟨rfl, rfl⟩ := Prod.mk.inj after <;> rfl
    cases c with
    | go =>
      rw [leaves _ (Option.some.inj taken)]
      exact moves_of_closeRelay t true inside
    | oom =>
      cases pc with
      | push =>
        rw [leaves _ (Option.some.inj taken)]
        exact moves_of_closeRelay t false inside
      | _ => simp [tcpRxTask] at taken
    | _ => simp [tcpRxTask] at taken

theorem send_moves {t t' : Traced} {c : SendChoice} (h : t.step (.task (.send c)) = some t') :
    Moves t (.task (.send c)) t' := by
  obtain ⟨dev, moved, rfl⟩ := Option.map_eq_some_iff.mp h
  obtain ⟨⟨mgr, send'⟩, taken, rfl⟩ := Option.map_eq_some_iff.mp moved
  simp only [Ledger.record]
  cases send : t.dev.send with
  | receive =>
    rw [send] at taken
    cases c with
    | go =>
      cases queue : t.dev.mgr.sendQueue with
      | nil => simp [tcpSendTask, queue] at taken
      | cons job jobs =>
        obtain ⟨rfl, rfl⟩ : _ ∧ SendPc.snapshot job = send' := by
          simpa [tcpSendTask, queue] using taken
        exact .receive send queue
    | _ => simp [tcpSendTask] at taken
  | snapshot job =>
    rw [send] at taken
    cases c with
    | go =>
      cases up : t.dev.mgr.sFd with
      | none =>
        obtain ⟨rfl, rfl⟩ : t.dev.mgr = mgr ∧ SendPc.receive = send' := by
          simpa [tcpSendTask, up] using taken
        simpa [Ledger.send, up] using Moves.discard send up
      | some fd =>
        obtain ⟨rfl, rfl⟩ : t.dev.mgr = mgr ∧ SendPc.sending fd job = send' := by
          simpa [tcpSendTask, up] using taken
        simpa [Ledger.send, up] using Moves.sendSnapshot send up
    | _ => simp [tcpSendTask] at taken
  | sending fd rest =>
    rw [send] at taken
    cases c with
    | go =>
      cases rest with
      | nil =>
        obtain ⟨rfl, rfl⟩ : t.dev.mgr = mgr ∧ SendPc.receive = send' := by
          simpa [tcpSendTask] using taken
        exact .sent send
      | cons b rest => simp [tcpSendTask] at taken
    | accept n =>
      simp only [tcpSendTask, Net.send, Option.map_eq_some_iff, Option.bind_eq_bind,
        Option.bind_eq_some_iff] at taken
      obtain ⟨net, ⟨k, conn, s, sock, taken⟩, eq⟩ := taken
      split at taken
      · obtain rfl := Option.some.inj taken
        obtain ⟨rfl, rfl⟩ := Prod.mk.inj eq
        simpa [Ledger.send, conn] using Moves.accept (n := n) send conn
      · simp at taken
    | error =>
      cases rest with
      | nil => simp [tcpSendTask] at taken
      | cons b rest =>
        obtain ⟨rfl, rfl⟩ : t.dev.mgr = mgr ∧ SendPc.closing .take = send' := by
          simpa [tcpSendTask] using taken
        exact .sendFail send
    | oom => simp [tcpSendTask] at taken
  | closing pc =>
    rw [send] at taken
    have inside : t.dev.closing .send = some pc := by simp [Device.closing, send]
    have leaves : ∀ r, tcpSendTask.afterClose r = (mgr, send') →
        { t.dev with mgr, send := send' } = (t.dev.setMgr r.1).setClosing .send r.2 := by
      rintro ⟨m, next⟩ after
      cases next <;> obtain ⟨rfl, rfl⟩ := Prod.mk.inj after <;> rfl
    cases c with
    | go =>
      rw [leaves _ (Option.some.inj taken)]
      exact moves_of_closeRelay t true inside
    | oom =>
      cases pc with
      | push =>
        rw [leaves _ (Option.some.inj taken)]
        exact moves_of_closeRelay t false inside
      | _ => simp [tcpSendTask] at taken
    | _ => simp [tcpSendTask] at taken

theorem onFrame_light (f : ProtoFrame) :
    (onFrame f).Light ∨ ∃ g a, onFrame f = .respond g a := by
  unfold onFrame handleProxyConnect handleProxySend
  split_ifs <;> try exact .inl trivial
  split
  · exact .inr ⟨_, _, rfl⟩
  · split_ifs
    · exact .inr ⟨_, _, rfl⟩
    · exact .inl trivial

theorem onFrame_proper (f : ProtoFrame) : (onFrame f).Proper := by
  unfold onFrame
  split_ifs with reset connect send disconnect getStatus
  · simp [CmdPc.Proper, reset, cmdReset, cmdProxyConnect]
  · unfold handleProxyConnect
    split
    · simp [CmdPc.Proper, statusInvalid, statusOk]
    · split_ifs
      · simp [CmdPc.Proper, statusInvalid, statusOk]
      · exact connect
  · unfold handleProxySend
    split_ifs <;> trivial
  · simp [CmdPc.Proper, disconnect, cmdProxyDisconnect, cmdProxyConnect]
  · simp [CmdPc.Proper, getStatus, cmdProxyGetStatus, cmdProxyConnect]
  · exact connect

/-- The loop of the command task outside handlers. -/
theorem idle_moves {t : Traced} {dev : Device} {c : CmdChoice} (idle : t.dev.cmd = .idle)
    (taken : cmdTask t.dev c = some dev) : Moves t (.task (.cmd c)) ⟨dev, t.ledger⟩ := by
  have light : t.dev.cmd.Light := by
    rw [idle]
    trivial
  simp only [cmdTask, idle] at taken
  split at taken
  · obtain rfl := Option.some.inj taken
    exact .quiet _ light (onFrame_light _) rfl rfl rfl (fun _ => onFrame_proper _) (.inl rfl)
  · obtain rfl := Option.some.inj taken
    exact .quiet _ light (.inl trivial) rfl rfl rfl (fun _ => trivial) (.inl rfl)
  · split at taken
    · obtain rfl := Option.some.inj taken
      exact .quiet _ light (.inl trivial) rfl rfl rfl (fun _ => trivial) (.inl rfl)
    · simp at taken
  · simp at taken

/-- A step inside a handler that touches nothing of the relay. -/
theorem quiet_of_light {t : Traced} {mgr : Mgr} {cmd : CmdPc} (c : CmdChoice)
    (light : t.dev.cmd.Light) (next : cmd.Light ∨ ∃ f a, cmd = .respond f a)
    (same : mgr = { t.dev.mgr with usb := mgr.usb }) (proper : t.dev.cmd.Proper → cmd.Proper)
    (usb : mgr.usb = t.dev.mgr.usb ∨ ∃ f a, (t.dev.cmd = .other f ∨ t.dev.cmd = .reset f) ∧
      mgr = t.dev.mgr.cdcSendResponse f a) :
    Moves t (.task (.cmd c)) ⟨{ t.dev with mgr, cmd }, t.ledger⟩ :=
  .quiet c light next same rfl rfl proper usb

theorem cmd_moves {t t' : Traced} {c : CmdChoice} (h : t.step (.task (.cmd c)) = some t') :
    Moves t (.task (.cmd c)) t' := by
  obtain ⟨dev, moved, rfl⟩ := Option.map_eq_some_iff.mp h
  replace moved : cmdTask t.dev c = some dev := moved
  simp only [Ledger.record]
  by_cases idle : t.dev.cmd = .idle
  · have same : t.ledger.cmd t.dev.mgr t.dev.cmd c = t.ledger := by
      rw [idle]
      rfl
    rw [same]
    exact idle_moves idle moved
  by_cases restart : t.dev.cmd = .restart
  · obtain rfl : t.dev.restart = dev := by simpa [cmdTask, restart] using moved
    rw [restart]
    exact .restart c restart
  rw [cmdTask_eq_handlerStep idle restart, Option.map_eq_some_iff] at moved
  obtain ⟨⟨mgr, cmd'⟩, taken, rfl⟩ := moved
  dsimp only
  cases cmd : t.dev.cmd with
  | idle => exact absurd cmd idle
  | restart => exact absurd cmd restart
  | other f =>
    rw [cmd] at taken
    cases c with
    | answer a =>
      obtain ⟨rfl, rfl⟩ : _ ∧ CmdPc.idle = cmd' := by simpa [handlerStep] using taken
      exact quiet_of_light _ (by rw [cmd]; trivial) (.inl trivial) rfl (fun _ => trivial)
        (.inr ⟨f, a, .inl cmd, rfl⟩)
    | _ => simp [handlerStep] at taken
  | reset f =>
    rw [cmd] at taken
    cases c with
    | go =>
      obtain ⟨rfl, rfl⟩ : _ ∧ CmdPc.restart = cmd' := by simpa [handlerStep] using taken
      exact quiet_of_light _ (by rw [cmd]; trivial) (.inl trivial) rfl (fun _ => trivial)
        (.inr ⟨f, ok, .inr cmd, rfl⟩)
    | _ => simp [handlerStep] at taken
  | connectBusy f host port =>
    rw [cmd] at taken
    cases c with
    | go =>
      cases up : t.dev.mgr.sFd with
      | none =>
        obtain ⟨rfl, rfl⟩ : t.dev.mgr = mgr ∧ CmdPc.connectSocket f host port = cmd' := by
          simpa [handlerStep, up] using taken
        exact .free cmd up
      | some fd =>
        obtain ⟨rfl, rfl⟩ : t.dev.mgr = mgr ∧ CmdPc.respond f busy = cmd' := by
          simpa [handlerStep, up] using taken
        exact quiet_of_light _ (by rw [cmd]; trivial) (.inr ⟨_, _, rfl⟩) rfl
          (fun _ => by simp [CmdPc.Proper, busy, statusBusy, statusOk]) (.inl rfl)
    | _ => simp [handlerStep] at taken
  | connectSocket f host port =>
    rw [cmd] at taken
    cases c with
    | fail =>
      obtain ⟨rfl, rfl⟩ : t.dev.mgr = mgr ∧ CmdPc.respond f error = cmd' := by
        simpa [handlerStep] using taken
      exact .noSocket cmd
    | socket fd =>
      cases unused : t.dev.mgr.net.fds fd with
      | some k => simp [handlerStep, Net.socket, unused] at taken
      | none =>
        obtain ⟨rfl, rfl⟩ : _ ∧ CmdPc.connecting f fd = cmd' := by
          simpa [handlerStep, Net.socket, unused] using taken
        exact .socket cmd unused
    | _ => simp [handlerStep] at taken
  | connecting f sock =>
    rw [cmd] at taken
    cases c with
    | fail =>
      obtain ⟨rfl, rfl⟩ : t.dev.mgr = mgr ∧ CmdPc.connectFailed f sock = cmd' := by
        simpa [handlerStep] using taken
      exact .connectFail cmd
    | connected stream =>
      obtain ⟨rfl, rfl⟩ : _ ∧ CmdPc.connectStore f sock = cmd' := by
        simpa [handlerStep] using taken
      exact .connected stream cmd
    | _ => simp [handlerStep] at taken
  | connectFailed f sock =>
    rw [cmd] at taken
    cases c with
    | go =>
      obtain ⟨rfl, rfl⟩ : _ ∧ CmdPc.respond f error = cmd' := by simpa [handlerStep] using taken
      exact .abandon cmd
    | _ => simp [handlerStep] at taken
  | connectStore f sock =>
    rw [cmd] at taken
    cases c with
    | go =>
      obtain ⟨rfl, rfl⟩ : _ ∧ CmdPc.respond f ok = cmd' := by simpa [handlerStep] using taken
      exact .store cmd
    | _ => simp [handlerStep] at taken
  | sendUp data =>
    rw [cmd] at taken
    cases c with
    | go =>
      cases up : t.dev.mgr.sFd with
      | none =>
        obtain ⟨rfl, rfl⟩ : t.dev.mgr = mgr ∧ CmdPc.idle = cmd' := by
          simpa [handlerStep, up] using taken
        simp only [Ledger.cmd, up]
        exact quiet_of_light _ (by rw [cmd]; trivial) (.inl trivial) rfl (fun _ => trivial)
          (.inl rfl)
      | some fd =>
        obtain ⟨rfl, rfl⟩ : t.dev.mgr = mgr ∧ CmdPc.sendAlloc data = cmd' := by
          simpa [handlerStep, up] using taken
        simp only [Ledger.cmd, up]
        exact .request cmd up
    | _ => simp [handlerStep] at taken
  | sendAlloc data =>
    rw [cmd] at taken
    cases c with
    | go =>
      obtain ⟨rfl, rfl⟩ : t.dev.mgr = mgr ∧ CmdPc.sendPut data = cmd' := by
        simpa [handlerStep] using taken
      exact .alloc cmd
    | oom =>
      obtain ⟨rfl, rfl⟩ : t.dev.mgr = mgr ∧ CmdPc.idle = cmd' := by
        simpa [handlerStep] using taken
      exact .oom cmd
    | _ => simp [handlerStep] at taken
  | sendPut data =>
    rw [cmd] at taken
    cases c with
    | go =>
      obtain ⟨-, rfl, rfl⟩ : _ ∧ _ ∧ CmdPc.idle = cmd' := by simpa [handlerStep] using taken
      exact .put cmd
    | queueFull =>
      obtain ⟨-, rfl, rfl⟩ : _ ∧ t.dev.mgr = mgr ∧ CmdPc.idle = cmd' := by
        simpa [handlerStep] using taken
      exact .queueFull cmd
    | _ => simp [handlerStep] at taken
  | disconnect f pc =>
    rw [cmd] at taken
    have inside : t.dev.closing .cmd = some pc := by simp [Device.closing, cmd]
    have leaves : ∀ r, handlerStep.afterClose f r = (mgr, cmd') →
        ({ t.dev with mgr, cmd := cmd' } : Device) = (t.dev.setMgr r.1).setClosing .cmd r.2 := by
      rintro ⟨m, next⟩ after
      cases next <;> obtain ⟨rfl, rfl⟩ := Prod.mk.inj after <;>
        simp [Device.setClosing, Device.setMgr, cmd]
    cases c with
    | go =>
      rw [leaves _ (Option.some.inj taken)]
      exact moves_of_closeRelay t true inside
    | oom =>
      cases pc with
      | push =>
        rw [leaves _ (Option.some.inj taken)]
        exact moves_of_closeRelay t false inside
      | _ => simp [handlerStep] at taken
    | _ => simp [handlerStep] at taken
  | getStatus f =>
    rw [cmd] at taken
    cases c with
    | go =>
      obtain ⟨rfl, rfl⟩ : t.dev.mgr = mgr ∧ _ = cmd' := by simpa [handlerStep] using taken
      refine quiet_of_light _ (by rw [cmd]; trivial) (.inr ⟨_, _, rfl⟩) rfl ?_ (.inl rfl)
      rw [cmd]
      exact fun other connect => other connect.1
    | _ => simp [handlerStep] at taken
  | respond f a =>
    rw [cmd] at taken
    cases c with
    | go =>
      obtain ⟨rfl, rfl⟩ : _ ∧ CmdPc.idle = cmd' := by simpa [handlerStep] using taken
      exact .answer cmd
    | _ => simp [handlerStep] at taken

theorem step_moves {t t' : Traced} {e : Event} (h : t.step e = some t') : Moves t e t' := by
  cases e with
  | host bytes =>
    obtain rfl := Option.some.inj h
    exact .host bytes
  | task a =>
    cases a with
    | cmd c => exact cmd_moves h
    | send c => exact send_moves h
    | rx c => exact rx_moves h

/-- The host writes a request and the command task reads it up to the call of its handler. -/
def request (f : ProtoFrame) : List Event :=
  .host f.request :: .task (.cmd (.receive f.request.length)) ::
    List.replicate (f.request.length + 1) (.task (.cmd .go))

/-- The host asks for a relay, which comes up on `fd`, and the command task is about to answer. -/
def connect (fd : Fd) (stream : Bytes) : List Event :=
  request ⟨1, cmdProxyConnect, [1, 104, 0, 80]⟩ ++
    [.task (.cmd .go), .task (.cmd (.socket fd)), .task (.cmd (.connected stream)), .task (.cmd .go)]

/-- The host asks to take it down, and the command task is about to answer. -/
def disconnect : List Event :=
  request ⟨2, cmdProxyDisconnect, []⟩ ++ List.replicate 4 (.task (.cmd .go))

end Traced

end EspNetwork.Firmware
