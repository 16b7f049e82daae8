import Mathlib
import EspNetwork.Firmware.TcpMgr

/-!
# The command task and the whole device

`cmd_task` of `main/esp32-network.c` feeds serial chunks to the parser; the parser calls
`on_frame` in the middle of a chunk, and a handler may block there while the other tasks run.
The relay handlers and `tcp_mgr_connect`, `tcp_mgr_send` and `tcp_mgr_disconnect` are steps of
this task. The remaining handlers do not touch the relay: they answer with one response whose
content is a choice of the environment.
-/

namespace EspNetwork.Firmware

open Serial

def cmdReset : Byte := 0x03
def cmdProxyConnect : Byte := 0x20
def cmdProxySend : Byte := 0x21
def cmdProxyDisconnect : Byte := 0x22
def cmdProxyGetStatus : Byte := 0x23

def statusOk : Byte := 0x00
def statusError : Byte := 0x01
def statusBusy : Byte := 0x02
def statusInvalid : Byte := 0x03

def cdcRxBufSize : Nat := 512
def respBufSize : Nat := protoMaxPayload + 32

/-- The answer of a handler outside the relay; their buffers keep the payload of the frame
within its limit. -/
structure Answer where
  status : Byte
  data : Option Bytes
  fits : (data.getD []).length ≤ 1023

theorem noData_fits : ((none : Option Bytes).getD []).length ≤ 1023 := by simp

/-- Where `cmd_task` stands; the first frame of a handler is the request it answers. -/
inductive CmdPc where
  | idle
  | other (f : ProtoFrame)
  | reset (f : ProtoFrame)
  | restart
  | connectBusy (f : ProtoFrame) (host : Bytes) (port : UInt16)
  | connectSocket (f : ProtoFrame) (host : Bytes) (port : UInt16)
  | connecting (f : ProtoFrame) (sock : Fd)
  | connectFailed (f : ProtoFrame) (sock : Fd)
  | connectStore (f : ProtoFrame) (sock : Fd)
  | sendUp (data : Bytes)
  | sendAlloc (data : Bytes)
  | sendPut (data : Bytes)
  | disconnect (f : ProtoFrame) (pc : ClosePc)
  | getStatus (f : ProtoFrame)
  | respond (f : ProtoFrame) (answer : Answer)

inductive CmdChoice where
  | receive (n : Nat)
  | go
  | answer (a : Answer)
  /-- `getaddrinfo`, `socket` or `connect` failed. -/
  | fail
  | socket (fd : Fd)
  | connected (stream : Bytes)
  | oom
  /-- The 200 ms of `xQueueSend` are over. -/
  | queueFull

/-- `tcp_mgr` with its tasks, and the command task with the serial bytes still to come, the
chunk being fed and the callbacks the last byte made. -/
structure Device where
  mgr : Mgr
  send : SendPc
  rx : RxPc
  cmd : CmdPc
  serial : Bytes
  chunk : Bytes
  parser : ProtoParser
  calls : List ProtoFrame

inductive Action where
  | cmd (c : CmdChoice)
  | send (c : SendChoice)
  | rx (c : RxChoice)

/-! ## Handlers -/

/-- `handle_proxy_connect` up to the call of `tcp_mgr_connect`; the port is big-endian and
bytes behind it are ignored. -/
def handleProxyConnect (f : ProtoFrame) : CmdPc :=
  match f.payload with
  | [] => .respond f ⟨statusInvalid, none, by simp⟩
  | hostLen :: rest =>
    if rest.length < hostLen.toNat + 2 then .respond f ⟨statusInvalid, none, by simp⟩
    else
      .connectBusy f (rest.take hostLen.toNat)
        (ofPair (rest.getD hostLen.toNat 0) (rest.getD (hostLen.toNat + 1) 0))

/-- `handle_proxy_send`. -/
def handleProxySend (f : ProtoFrame) : CmdPc :=
  if f.payload.length = 0 then .idle else .sendUp f.payload

/-- The switch of `on_frame`. -/
def onFrame (f : ProtoFrame) : CmdPc :=
  if f.cmd = cmdReset then .reset f
  else if f.cmd = cmdProxyConnect then handleProxyConnect f
  else if f.cmd = cmdProxySend then handleProxySend f
  else if f.cmd = cmdProxyDisconnect then .disconnect f .take
  else if f.cmd = cmdProxyGetStatus then .getStatus f
  else .other f

/-- `cdc_send_response` with the sequence number and command of the request. -/
def Mgr.cdcSendResponse (m : Mgr) (f : ProtoFrame) (a : Answer) : Mgr :=
  { m with usb := m.usb ++ [.response f.seq f.cmd a.status a.data respBufSize] }

def ok : Answer := ⟨statusOk, none, by simp⟩
def error : Answer := ⟨statusError, none, by simp⟩
def busy : Answer := ⟨statusBusy, none, by simp⟩

/-- A step inside a handler. -/
def handlerStep (m : Mgr) : CmdPc → CmdChoice → Option (Mgr × CmdPc)
  | .other f, .answer a => some (m.cdcSendResponse f a, .idle)
  | .reset f, .go => some (m.cdcSendResponse f ok, .restart)
  | .connectBusy f host port, .go =>
    if m.sFd.isSome then some (m, .respond f busy) else some (m, .connectSocket f host port)
  | .connectSocket f _ _, .fail => some (m, .respond f error)
  | .connectSocket f host port, .socket fd =>
    (m.net.socket fd host port).map fun net => ({ m with net }, .connecting f fd)
  | .connecting f sock, .fail => some (m, .connectFailed f sock)
  | .connecting f sock, .connected stream =>
    some ({ m with net := m.net.connected sock stream }, .connectStore f sock)
  | .connectFailed f sock, .go => some ({ m with net := m.net.close sock }, .respond f error)
  | .connectStore f sock, .go => some ({ m with sFd := some sock }, .respond f ok)
  | .sendUp data, .go => some (m, if m.sFd.isSome then .sendAlloc data else .idle)
  | .sendAlloc data, .go => some (m, .sendPut data)
  | .sendAlloc _, .oom => some (m, .idle)
  | .sendPut data, .go =>
    if m.sendQueue.length < sendQueueDepth then
      some ({ m with sendQueue := m.sendQueue ++ [data] }, .idle)
    else none
  | .sendPut _, .queueFull => if m.sendQueue.length < sendQueueDepth then none else some (m, .idle)
  | .disconnect f pc, .go => some (afterClose f (closeRelay m true pc))
  | .disconnect f .push, .oom => some (afterClose f (closeRelay m false .push))
  | .getStatus f, .go =>
    some (m, .respond f ⟨statusOk, some [if m.sFd.isSome then 1 else 0], by simp⟩)
  | .respond f a, .go => some (m.cdcSendResponse f a, .idle)
  | _, _ => none
where
  afterClose (f : ProtoFrame) : Mgr × Option ClosePc → Mgr × CmdPc
    | (m, some pc) => (m, .disconnect f pc)
    | (m, none) => (m, .respond f ok)

/-! ## The device -/

/-- After `tcp_mgr_init` and `proto_parser_create`. -/
def boot : Device where
  mgr := ⟨none, [], ⟨fun _ => none, []⟩, []⟩
  send := .receive
  rx := .top
  cmd := .idle
  serial := []
  chunk := []
  parser := protoParserCreate
  calls := []

/-- `esp_restart`: sockets and queues are gone, what was written before stays written. -/
def Device.restart (d : Device) : Device :=
  { boot with mgr := { boot.mgr with usb := d.mgr.usb, net := ⟨fun _ => none, d.mgr.net.socks⟩ } }

/-- A step of `cmd_task`: inside a handler, the next callback, the next byte of the chunk or
the next chunk. -/
def cmdTask (d : Device) (c : CmdChoice) : Option Device :=
  match d.cmd with
  | .idle =>
    match c, d.calls, d.chunk with
    | .go, f :: calls, _ => some { d with cmd := onFrame f, calls }
    | .go, [], b :: chunk =>
      some { d with
        chunk
        parser := (protoParserByte d.parser b).1
        calls := (protoParserByte d.parser b).2 }
    | .receive n, [], [] =>
      if 0 < n ∧ n ≤ cdcRxBufSize ∧ n ≤ d.serial.length then
        some { d with chunk := d.serial.take n, serial := d.serial.drop n }
      else none
    | _, _, _ => none
  | .restart => some d.restart
  | pc => (handlerStep d.mgr pc c).map fun (mgr, cmd) => { d with mgr, cmd }

/-- Outside its loop the task is where its handler is. -/
theorem cmdTask_eq_handlerStep {d : Device} (notIdle : d.cmd ≠ .idle)
    (notRestart : d.cmd ≠ .restart) (c : CmdChoice) :
    cmdTask d c = (handlerStep d.mgr d.cmd c).map fun (mgr, cmd) => { d with mgr, cmd } := by
  cases hpc : d.cmd with
  | idle => exact absurd hpc notIdle
  | restart => exact absurd hpc notRestart
  | _ => simp only [cmdTask, hpc]

def step (d : Device) : Action → Option Device
  | .cmd c => cmdTask d c
  | .send c => (tcpSendTask d.mgr d.send c).map fun (mgr, send) => { d with mgr, send }
  | .rx c => (tcpRxTask d.mgr d.rx c).map fun (mgr, rx) => { d with mgr, rx }

end EspNetwork.Firmware
