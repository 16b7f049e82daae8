import Mathlib
import EspNetwork.Base.Schedule
import EspNetwork.Serial.Codec

/-!
# The relay socket of the device

`main/tcp_mgr.c`: one socket, shared by three tasks. `tcp_send_task` drains the send queue,
`tcp_rx_task` turns received pieces into push frames, and the command task connects,
disconnects and fills the queue. Every critical section on `s_mu` and every socket call is
one step. Each task is a program counter and a step function on the shared state; a choice
stands for what the network, the heap or the clock decides.
-/

namespace EspNetwork.Firmware

open Serial

abbrev Fd := Nat
abbrev SockId := Nat

/-! ## Sockets -/

/-- A TCP connection: where it leads, what `send` took for it, and what its peer has sent or
will send and `recv` has not returned yet. -/
structure Sock where
  host : Bytes
  port : UInt16
  sent : Bytes
  inbox : Bytes
  isShut : Bool

/-- The descriptor table and the connections. A closed descriptor may be handed out again. -/
structure Net where
  fds : Fd → Option SockId
  socks : List Sock

namespace Net

def update (n : Net) (k : SockId) (f : Sock → Sock) : Net :=
  { n with socks := n.socks.modify k f }

/-- `socket` hands out a free descriptor for a new connection. -/
def socket (n : Net) (fd : Fd) (host : Bytes) (port : UInt16) : Option Net :=
  match n.fds fd with
  | some _ => none
  | none => some
    { fds := Function.update n.fds fd (some n.socks.length)
      socks := n.socks ++ [⟨host, port, [], [], false⟩] }

/-- `connect` succeeded; `stream` is everything the peer is going to send. -/
def connected (n : Net) (fd : Fd) (stream : Bytes) : Net :=
  match n.fds fd with
  | some k => n.update k fun s => { s with inbox := stream }
  | none => n

/-- `shutdown(fd, SHUT_RDWR)`. -/
def shutdown (n : Net) (fd : Fd) : Net :=
  match n.fds fd with
  | some k => n.update k fun s => { s with isShut := true }
  | none => n

def close (n : Net) (fd : Fd) : Net := { n with fds := Function.update n.fds fd none }

/-- `send` takes the non-empty `piece`. -/
def send (n : Net) (fd : Fd) (piece : Bytes) : Option Net := do
  let k ← n.fds fd
  let s ← n.socks[k]?
  if piece ≠ [] ∧ s.isShut = false then
    some (n.update k fun s => { s with sent := s.sent ++ piece })
  else none

/-- `recv` returns `len` bytes, at least one. -/
def recv (n : Net) (fd : Fd) (len : Nat) : Option (Bytes × Net) := do
  let k ← n.fds fd
  let s ← n.socks[k]?
  if 0 < len ∧ len ≤ s.inbox.length then
    some (s.inbox.take len, n.update k fun s => { s with inbox := s.inbox.drop len })
  else none

/-- `recv` returns 0: the peer has closed and everything it sent has been received, or this
side was shut down. -/
def atEnd (n : Net) (fd : Fd) : Bool :=
  match n.fds fd >>= fun k => n.socks[k]? with
  | some s => s.inbox.isEmpty || s.isShut
  | none => false

end Net

/-! ## Shared state -/

def cmdProxyDataPush : Byte := 0x40
def cmdProxyClosedPush : Byte := 0x41
def pushBufSize : Nat := protoMaxPayload + 32
def rxBufSize : Nat := protoMaxPayload
def sendQueueDepth : Nat := 32

/-- What the tasks share: `s_fd` (`none` is `-1`), the queue of send jobs, the network, and
the frames written to USB, each whole because of `s_cdc_mu`. -/
structure Mgr where
  sFd : Option Fd
  sendQueue : List Bytes
  net : Net
  usb : List DeviceFrame

/-- `cdc_send_push`; its buffer may not be available. -/
def Mgr.cdcSendPush (m : Mgr) (cmd : Byte) (data : Option Bytes) (malloc : Bool) : Mgr :=
  if malloc then { m with usb := m.usb ++ [.push cmd data pushBufSize] } else m

/-! ## `close_relay` -/

inductive ClosePc where
  | take
  | shut (fd : Fd)
  | close (fd : Fd)
  | push
  deriving DecidableEq

/-- One step of `close_relay`; `none` in the second place is its return. -/
def closeRelay (m : Mgr) (malloc : Bool) : ClosePc → Mgr × Option ClosePc
  | .take =>
    match m.sFd with
    | none => (m, none)
    | some fd => ({ m with sFd := none }, some (.shut fd))
  | .shut fd => ({ m with net := m.net.shutdown fd }, some (.close fd))
  | .close fd => ({ m with net := m.net.close fd }, some .push)
  | .push => (m.cdcSendPush cmdProxyClosedPush none malloc, none)

/-! ## `tcp_send_task` -/

inductive SendPc where
  | receive
  | snapshot (job : Bytes)
  /-- `rest` is what of the job has not been sent yet. -/
  | sending (fd : Fd) (rest : Bytes)
  | closing (pc : ClosePc)
  deriving DecidableEq

inductive SendChoice where
  | go
  | accept (n : Nat)
  | error
  | oom
  deriving DecidableEq

def tcpSendTask (m : Mgr) : SendPc → SendChoice → Option (Mgr × SendPc)
  | .receive, .go =>
    match m.sendQueue with
    | [] => none
    | job :: jobs => some ({ m with sendQueue := jobs }, .snapshot job)
  | .snapshot job, .go =>
    match m.sFd with
    -- the relay was closed while this job was queued
    | none => some (m, .receive)
    | some fd => some (m, .sending fd job)
  | .sending _ [], .go => some (m, .receive)
  | .sending fd rest, .accept n =>
    (m.net.send fd (rest.take n)).map fun net => ({ m with net }, .sending fd (rest.drop n))
  | .sending _ (_ :: _), .error => some (m, .closing .take)
  | .closing pc, .go => some (afterClose (closeRelay m true pc))
  | .closing .push, .oom => some (afterClose (closeRelay m false .push))
  | _, _ => none
where
  afterClose : Mgr × Option ClosePc → Mgr × SendPc
    | (m, some pc) => (m, .closing pc)
    | (m, none) => (m, .receive)

/-! ## `tcp_rx_task` -/

inductive RxPc where
  | top
  | select (fd : Fd)
  | recv (fd : Fd)
  | push (data : Bytes)
  | closing (pc : ClosePc)
  deriving DecidableEq

inductive RxChoice where
  | go
  /-- `select` timed out or was interrupted, or `recv` would block. -/
  | again
  | data (len : Nat)
  | eof
  | error
  | oom
  deriving DecidableEq

def tcpRxTask (m : Mgr) : RxPc → RxChoice → Option (Mgr × RxPc)
  | .top, .go =>
    match m.sFd with
    | none => some (m, .top)
    | some fd => some (m, .select fd)
  | .select _, .again => some (m, .top)
  | .select _, .error => some (m, .closing .take)
  | .select fd, .go => some (m, .recv fd)
  | .recv fd, .data len =>
    if len ≤ rxBufSize then
      (m.net.recv fd len).map fun (piece, net) => ({ m with net }, .push piece)
    else none
  | .recv fd, .eof => if m.net.atEnd fd then some (m, .closing .take) else none
  | .recv _, .again => some (m, .top)
  | .recv _, .error => some (m, .closing .take)
  | .push data, .go => some (m.cdcSendPush cmdProxyDataPush (some data) true, .top)
  | .push data, .oom => some (m.cdcSendPush cmdProxyDataPush (some data) false, .top)
  | .closing pc, .go => some (afterClose (closeRelay m true pc))
  | .closing .push, .oom => some (afterClose (closeRelay m false .push))
  | _, _ => none
where
  afterClose : Mgr × Option ClosePc → Mgr × RxPc
    | (m, some pc) => (m, .closing pc)
    | (m, none) => (m, .top)

end EspNetwork.Firmware
