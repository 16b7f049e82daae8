import Mathlib
import EspNetwork.Base.Schedule
import EspNetwork.Relay.Wire

/-!
# The proxy server

`ProxyServer` and `targetConn` of `proxy/main.go`, for one relay connection. `Run` reads and
dispatches frames, every Connect frame starts a `handleConnect`, every dialled target has a
`readLoop` and a `writeLoop`, and one `writeLoop` of the server takes the queued frames to the
relay. Critical sections on `mu`, channel operations, statements inside a `closeOnce` and calls
of the network are one step each. Targets are numbered in the order they were dialled; `conns`
holds those numbers. A step returns the frames it hands to the relay.
-/

namespace EspNetwork.Proxy

open Serial (Byte Bytes)
open Relay (VFrame uint16)
open Schedule (Once)

def cmdProxyConnect : Byte := 0
def cmdProxyData : Byte := 1
def cmdProxyClose : Byte := 2
def cmdProxyPing : Byte := 3

def statusOK : Byte := 0
def statusError : Byte := 1
def statusRejected : Byte := 2

def relayReadBuf : Nat := 32 * 1024
def relayWriteQ : Nat := 512
def targetWriteQ : Nat := 64

/-- Where a goroutine stands inside `closeNotify`. -/
inductive NotifyPc where
  | enter
  | done
  | close
  | remove
  | send
  deriving DecidableEq, Repr

/-- Where `Run` stands inside `closeByRequest`. -/
inductive RequestPc where
  | enter
  | done
  | close
  deriving DecidableEq, Repr

/-- Where `readLoop` stands; with a chunk it keeps whether `Read` also returned an error. -/
inductive ReaderPc where
  | read
  | send (data : Bytes) (fail : Bool)
  | closing (pc : NotifyPc)
  | exited
  deriving DecidableEq, Repr

/-- Where the `writeLoop` of a target stands. -/
inductive WriterPc where
  | select
  | write (data : Bytes)
  | closing (pc : NotifyPc)
  | exited
  deriving DecidableEq, Repr

/-- A dialled target with its two goroutines and, for the record, the chunks `Read` returned
and the chunks `Write` was called with. -/
structure TargetConn where
  id : UInt32
  host : Bytes
  port : UInt16
  writeQ : List Bytes
  ctxDone : Bool
  connClosed : Bool
  closeOnce : Once
  reader : ReaderPc
  writer : WriterPc
  readLog : List Bytes
  wrote : List Bytes
  deriving DecidableEq, Repr

def newTargetConn (id : UInt32) (host : Bytes) (port : UInt16) : TargetConn where
  id := id
  host := host
  port := port
  writeQ := []
  ctxDone := false
  connClosed := false
  closeOnce := .fresh
  reader := .read
  writer := .select
  readLog := []
  wrote := []

/-- The two goroutines that may call `closeNotify`. -/
inductive Side where
  | reader
  | writer
  deriving DecidableEq, Repr

namespace TargetConn

/-- The statement of `closeNotify` a goroutine is at. -/
def notifyPc (tc : TargetConn) : Side → Option NotifyPc
  | .reader => match tc.reader with | .closing pc => some pc | _ => none
  | .writer => match tc.writer with | .closing pc => some pc | _ => none

/-- A goroutine goes on inside `closeNotify` or, its last call, returns from it. -/
def setNotify (tc : TargetConn) : Side → Option NotifyPc → TargetConn
  | .reader, some pc => { tc with reader := .closing pc }
  | .reader, none => { tc with reader := .exited }
  | .writer, some pc => { tc with writer := .closing pc }
  | .writer, none => { tc with writer := .exited }

/-- Everything but the place of one goroutine is kept. -/
@[simp] theorem setNotify_fields (tc : TargetConn) (side : Side) (next : Option NotifyPc) :
    (tc.setNotify side next).id = tc.id ∧ (tc.setNotify side next).host = tc.host ∧
    (tc.setNotify side next).port = tc.port ∧ (tc.setNotify side next).writeQ = tc.writeQ ∧
    (tc.setNotify side next).ctxDone = tc.ctxDone ∧
    (tc.setNotify side next).connClosed = tc.connClosed ∧
    (tc.setNotify side next).closeOnce = tc.closeOnce ∧
    (tc.setNotify side next).readLog = tc.readLog ∧
    (tc.setNotify side next).wrote = tc.wrote := by
  cases side <;> cases next <;> simp [setNotify]

end TargetConn

/-- Where `handleConnect` stands. -/
inductive HandlerPc where
  | start
  | reply (status : Byte)
  | dial (host : Bytes) (port : UInt16)
  | add (j : Nat)
  | ack (j : Nat)
  | returned
  deriving DecidableEq, Repr

/-- A call of `handleConnect`. -/
structure Handler where
  id : UInt32
  payload : Bytes
  pc : HandlerPc
  deriving DecidableEq, Repr

/-- Where `Run` stands. -/
inductive RunPc where
  | top
  | reading
  | dispatch (f : VFrame)
  | enqueue (j : Nat) (data : Bytes)
  | remove (j : Nat) (id : UInt32)
  | closing (j : Nat) (pc : RequestPc)
  | ping
  | cleanup
  | exited
  deriving DecidableEq, Repr

/-- The target `Run` is busy with. -/
def RunPc.target : RunPc → Option Nat
  | .enqueue j _ | .remove j _ | .closing j _ => some j
  | _ => none

/-- The server of one relay connection; `sent` records every frame put into `writeQ`. -/
structure Server where
  ctxDone : Bool
  conns : UInt32 → Option Nat
  tcs : List TargetConn
  writeQ : List VFrame
  sent : List VFrame
  handlers : List Handler
  run : RunPc
  writing : Bool
  crashed : Bool

/-- `New`, with `Run` about to start. -/
def newServer : Server where
  ctxDone := false
  conns _ := none
  tcs := []
  writeQ := []
  sent := []
  handlers := []
  run := .top
  writing := true
  crashed := false

/-- How `proxyDial` ends. -/
inductive Dial where
  | conn
  | failed
  | panicked
  deriving DecidableEq, Repr

inductive Action where
  /-- `handleConnect` goes on. -/
  | handler (i : Nat)
  | dial (i : Nat) (outcome : Dial)
  /-- `writeFrame` of a handler takes the `ctx.Done()` case. -/
  | handlerDone (i : Nat)
  | run
  | frame (f : VFrame)
  | relayLost
  /-- `Run` takes a `ctx.Done()` case. -/
  | runDone
  /-- `conn.Read` of a target returns. -/
  | targetRead (j : Nat) (data : Bytes) (fail : Bool)
  | reader (j : Nat)
  | readerDone (j : Nat)
  /-- The `writeLoop` of a target takes a chunk from its queue. -/
  | take (j : Nat)
  /-- `conn.Write` of a target returns. -/
  | targetWrite (j : Nat) (ok : Bool)
  | writerDone (j : Nat)
  | notify (side : Side) (j : Nat)
  | notifyDone (side : Side) (j : Nat)
  | heartbeat
  /-- The server's `writeLoop` takes a frame to the relay. -/
  | drain
  | flushFailed
  | drainDone
  deriving DecidableEq, Repr

namespace Server

def setConn (s : Server) (j : Nat) (tc : TargetConn) : Server := { s with tcs := s.tcs.set j tc }

def setHandler (s : Server) (i : Nat) (h : Handler) : Server :=
  { s with handlers := s.handlers.set i h }

def addHandler (s : Server) (h : Handler) : Server := { s with handlers := s.handlers ++ [h] }

def addTarget (s : Server) (tc : TargetConn) : Server := { s with tcs := s.tcs ++ [tc] }

def setRun (s : Server) (pc : RunPc) : Server := { s with run := pc }

def put (s : Server) (f : VFrame) : Server :=
  { s with writeQ := s.writeQ ++ [f], sent := s.sent ++ [f] }

/-- The send case of `writeFrame`. -/
def writeFrame (s : Server) (f : VFrame) : Option Server :=
  if s.writeQ.length < relayWriteQ then some (s.put f) else none

def addConn (s : Server) (id : UInt32) (j : Nat) : Server :=
  { s with conns := Function.update s.conns id (some j) }

def removeConn (s : Server) (id : UInt32) : Server :=
  { s with conns := Function.update s.conns id none }

/-- `tc.ctx.Err() != nil`; the context of a target is derived from the server's. -/
def targetCtxDone (s : Server) (tc : TargetConn) : Bool := s.ctxDone || tc.ctxDone

/-! What the updates leave alone. -/

@[simp] theorem setConn_fields (s : Server) (j : Nat) (tc : TargetConn) :
    (s.setConn j tc).tcs = s.tcs.set j tc ∧ (s.setConn j tc).sent = s.sent ∧
    (s.setConn j tc).handlers = s.handlers ∧ (s.setConn j tc).run = s.run ∧
    (s.setConn j tc).conns = s.conns := ⟨rfl, rfl, rfl, rfl, rfl⟩

@[simp] theorem setHandler_fields (s : Server) (i : Nat) (h : Handler) :
    (s.setHandler i h).tcs = s.tcs ∧ (s.setHandler i h).sent = s.sent ∧
    (s.setHandler i h).handlers = s.handlers.set i h ∧ (s.setHandler i h).run = s.run ∧
    (s.setHandler i h).conns = s.conns := ⟨rfl, rfl, rfl, rfl, rfl⟩

@[simp] theorem setRun_fields (s : Server) (pc : RunPc) :
    (s.setRun pc).tcs = s.tcs ∧ (s.setRun pc).sent = s.sent ∧
    (s.setRun pc).handlers = s.handlers ∧ (s.setRun pc).run = pc ∧
    (s.setRun pc).conns = s.conns := ⟨rfl, rfl, rfl, rfl, rfl⟩

@[simp] theorem put_fields (s : Server) (f : VFrame) :
    (s.put f).tcs = s.tcs ∧ (s.put f).sent = s.sent ++ [f] ∧ (s.put f).handlers = s.handlers ∧
    (s.put f).run = s.run ∧ (s.put f).conns = s.conns := ⟨rfl, rfl, rfl, rfl, rfl⟩

/-! ## `handleConnect` -/

/-- Host and port of a connect payload; `none` for a malformed one. -/
def parseConnect (payload : Bytes) : Option (Bytes × UInt16) :=
  match payload with
  | [] => none
  | hostLen :: rest =>
    if payload.length < 3 then none
    else if payload.length ≠ 1 + hostLen.toNat + 2 then none
    else match rest.drop hostLen.toNat with
    | b0 :: b1 :: _ => some (rest.take hostLen.toNat, uint16 b0 b1)
    | _ => none

def handlerStep (s : Server) (i : Nat) : Option Server := do
  let h ← s.handlers[i]?
  match h.pc with
  | .start =>
    match parseConnect h.payload with
    | none => some (s.setHandler i { h with pc := .reply statusError })
    | some (host, port) => some (s.setHandler i { h with pc := .dial host port })
  | .reply status => do
    let s ← s.writeFrame ⟨cmdProxyConnect, h.id, [status]⟩
    return s.setHandler i { h with pc := .returned }
  | .add j => some ((s.addConn h.id j).setHandler i { h with pc := .ack j })
  | .ack _ => do
    let s ← s.writeFrame ⟨cmdProxyConnect, h.id, [statusOK]⟩
    return s.setHandler i { h with pc := .returned }
  | .dial .. | .returned => none

def dialStep (s : Server) (i : Nat) (outcome : Dial) : Option Server := do
  let h ← s.handlers[i]?
  match h.pc with
  | .dial host port =>
    match outcome with
    | .failed => some (s.setHandler i { h with pc := .reply statusRejected })
    | .panicked => some { s with crashed := true }
    | .conn =>
      some ((s.addTarget (newTargetConn h.id host port)).setHandler i
        { h with pc := .add s.tcs.length })
  | _ => none

def handlerDoneStep (s : Server) (i : Nat) : Option Server := do
  let h ← s.handlers[i]?
  if s.ctxDone then
    match h.pc with
    | .reply _ | .ack _ => some (s.setHandler i { h with pc := .returned })
    | _ => none
  else none

/-! ## `closeNotify` and `closeByRequest` -/

def notifyStep (s : Server) (side : Side) (j : Nat) : Option Server := do
  let tc ← s.tcs[j]?
  match ← tc.notifyPc side with
  | .enter =>
    match tc.closeOnce with
    | .fresh => some (s.setConn j ({ tc with closeOnce := .running }.setNotify side (some .done)))
    | .running => none
    | .finished => some (s.setConn j (tc.setNotify side none))
  | .done => some (s.setConn j ({ tc with ctxDone := true }.setNotify side (some .close)))
  | .close => some (s.setConn j ({ tc with connClosed := true }.setNotify side (some .remove)))
  | .remove => some ((s.removeConn tc.id).setConn j (tc.setNotify side (some .send)))
  | .send => do
    let s ← s.writeFrame ⟨cmdProxyClose, tc.id, []⟩
    return s.setConn j ({ tc with closeOnce := .finished }.setNotify side none)

/-- `writeFrame` of `closeNotify` takes the `ctx.Done()` case. -/
def notifyDoneStep (s : Server) (side : Side) (j : Nat) : Option Server := do
  let tc ← s.tcs[j]?
  match ← tc.notifyPc side with
  | .send =>
    if s.ctxDone then
      some (s.setConn j ({ tc with closeOnce := .finished }.setNotify side none))
    else none
  | _ => none

def requestStep (s : Server) (j : Nat) (pc : RequestPc) : Option Server := do
  let tc ← s.tcs[j]?
  match pc with
  | .enter =>
    match tc.closeOnce with
    | .fresh => some ((s.setConn j { tc with closeOnce := .running }).setRun (.closing j .done))
    | .running => none
    | .finished => some (s.setRun .top)
  | .done => some ((s.setConn j { tc with ctxDone := true }).setRun (.closing j .close))
  | .close =>
    some ((s.setConn j { tc with connClosed := true, closeOnce := .finished }).setRun .top)

/-! ## `readLoop` and `writeLoop` of a target -/

/-- Where `readLoop` goes once a chunk is dealt with. -/
def afterRead (fail : Bool) : ReaderPc := if fail then .closing .enter else .read

/-- A target may return data after it was closed: a `prefixConn` replays what it buffered. -/
def targetReadStep (s : Server) (j : Nat) (data : Bytes) (fail : Bool) : Option Server := do
  let tc ← s.tcs[j]?
  if tc.reader = .read ∧ data.length ≤ relayReadBuf then
    if data = [] then some (s.setConn j { tc with reader := afterRead fail })
    else some (s.setConn j { tc with reader := .send data fail, readLog := tc.readLog ++ [data] })
  else none

def readerStep (s : Server) (j : Nat) : Option Server := do
  let tc ← s.tcs[j]?
  match tc.reader with
  | .send data fail => do
    let s ← s.writeFrame ⟨cmdProxyData, tc.id, data⟩
    return s.setConn j { tc with reader := afterRead fail }
  | _ => none

def readerDoneStep (s : Server) (j : Nat) : Option Server := do
  let tc ← s.tcs[j]?
  match tc.reader with
  | .send _ fail => if s.ctxDone then some (s.setConn j { tc with reader := afterRead fail }) else none
  | _ => none

def takeStep (s : Server) (j : Nat) : Option Server := do
  let tc ← s.tcs[j]?
  match tc.writer, tc.writeQ with
  | .select, data :: writeQ => some (s.setConn j { tc with writer := .write data, writeQ })
  | _, _ => none

def targetWriteStep (s : Server) (j : Nat) (ok : Bool) : Option Server := do
  let tc ← s.tcs[j]?
  match tc.writer with
  | .write data =>
    if tc.connClosed ∧ ok then none
    else some (s.setConn j { tc with
      writer := if ok then .select else .closing .enter
      wrote := tc.wrote ++ [data] })
  | _ => none

def writerDoneStep (s : Server) (j : Nat) : Option Server := do
  let tc ← s.tcs[j]?
  if tc.writer = .select ∧ s.targetCtxDone tc then some (s.setConn j { tc with writer := .exited })
  else none

/-! ## `Run` -/

/-- `getConn` and the branch of `dispatch`; a Connect frame only starts its goroutine. -/
def dispatch (s : Server) (f : VFrame) : Server :=
  if f.cmd = cmdProxyConnect then
    (s.addHandler ⟨f.connID, f.data, .start⟩).setRun .top
  else if f.cmd = cmdProxyData then
    match s.conns f.connID with
    | some j => s.setRun (.enqueue j f.data)
    | none => s.setRun .top
  else if f.cmd = cmdProxyClose then
    match s.conns f.connID with
    | some j => s.setRun (.remove j f.connID)
    | none => s.setRun .top
  else if f.cmd = cmdProxyPing then s.setRun .ping
  else s.setRun .top

/-- `cleanup`, one critical section. -/
def cleanup (s : Server) : Server :=
  { s with
    tcs := s.tcs.mapIdx fun j tc =>
      if s.conns tc.id = some j then { tc with ctxDone := true, connClosed := true } else tc
    conns := fun _ => none
    run := .exited }

def runStep (s : Server) : Option Server :=
  match s.run with
  | .top => some (s.setRun (if s.ctxDone then .cleanup else .reading))
  | .dispatch f => some (s.dispatch f)
  | .enqueue j data => do
    let tc ← s.tcs[j]?
    if tc.writeQ.length < targetWriteQ then
      some ((s.setConn j { tc with writeQ := tc.writeQ ++ [data] }).setRun .top)
    else some (s.setRun .top)
  | .remove j id => some ((s.removeConn id).setRun (.closing j .enter))
  | .closing j pc => requestStep s j pc
  | .ping => do
    let s ← s.writeFrame ⟨cmdProxyPing, 0, []⟩
    return s.setRun .top
  | .cleanup => some s.cleanup
  | .reading | .exited => none

def runDoneStep (s : Server) : Option Server :=
  match s.run with
  | .enqueue j _ => do
    let tc ← s.tcs[j]?
    if s.targetCtxDone tc then some (s.setRun .top) else none
  | .ping => if s.ctxDone then some (s.setRun .top) else none
  | _ => none

/-! ## The server -/

/-- One step of a live server, and the frame that went to the relay. -/
def aliveStep (s : Server) : Action → Option (Server × List VFrame)
  | .handler i => (handlerStep s i).map (·, [])
  | .dial i outcome => (dialStep s i outcome).map (·, [])
  | .handlerDone i => (handlerDoneStep s i).map (·, [])
  | .run => (runStep s).map (·, [])
  | .frame f => if s.run = .reading then some (s.setRun (.dispatch f), []) else none
  | .relayLost =>
    if s.run = .reading then some ({ s with ctxDone := true }.setRun .cleanup, []) else none
  | .runDone => (runDoneStep s).map (·, [])
  | .targetRead j data fail => (targetReadStep s j data fail).map (·, [])
  | .reader j => (readerStep s j).map (·, [])
  | .readerDone j => (readerDoneStep s j).map (·, [])
  | .take j => (takeStep s j).map (·, [])
  | .targetWrite j ok => (targetWriteStep s j ok).map (·, [])
  | .writerDone j => (writerDoneStep s j).map (·, [])
  | .notify side j => (notifyStep s side j).map (·, [])
  | .notifyDone side j => (notifyDoneStep s side j).map (·, [])
  | .heartbeat => (s.writeFrame ⟨cmdProxyPing, 0, []⟩).map (·, [])
  | .drain =>
    match s.writeQ with
    | f :: writeQ => if s.writing then some ({ s with writeQ }, [f]) else none
    | [] => none
  | .flushFailed => if s.writing then some ({ s with ctxDone := true, writing := false }, []) else none
  | .drainDone =>
    if s.writing ∧ s.ctxDone then some ({ s with writing := false }, []) else none

/-- Nothing moves after a panic, which ends the process. -/
def step (s : Server) (a : Action) : Option (Server × List VFrame) :=
  if s.crashed then none else aliveStep s a

/-! ## What a step can do -/

/-- `Run` is inside the `closeOnce` of the `j`-th target. -/
def inRequest (s : Server) (j : Nat) : Bool :=
  s.run = .closing j .done ∨ s.run = .closing j .close

/-- Why `Run` goes on without an effect. -/
inductive Idles (s : Server) : Action → Prop where
  | unknown {f : VFrame} (run : s.run = .dispatch f) (none : s.conns f.connID = none) : Idles s .run
  | other {f : VFrame} (run : s.run = .dispatch f) (data : f.cmd ≠ cmdProxyData)
    (close : f.cmd ≠ cmdProxyClose) : Idles s .run
  /-- The queue of the target is full. -/
  | full {j : Nat} {data : Bytes} {tc : TargetConn} (run : s.run = .enqueue j data)
    (target : s.tcs[j]? = some tc) (full : targetWriteQ ≤ tc.writeQ.length) : Idles s .run
  | cancelled {j : Nat} {data : Bytes} {tc : TargetConn} (run : s.run = .enqueue j data)
    (target : s.tcs[j]? = some tc) (done : s.targetCtxDone tc) : Idles s .runDone
  /-- The target was closed by another goroutine. -/
  | late {j : Nat} {tc : TargetConn} (run : s.run = .closing j .enter)
    (target : s.tcs[j]? = some tc) (once : tc.closeOnce = .finished) : Idles s .run
  | pingDone (run : s.run = .ping) : Idles s .runDone

theorem Idles.free {s : Server} {a : Action} (h : Idles s a) (j : Nat) : s.inRequest j = false := by
  cases h with
  | unknown run | other run | full run | cancelled run | late run | pingDone run =>
    simp [inRequest, run]

/-- The transitions of the server one by one. -/
inductive Steps (s : Server) : Action → Server → List VFrame → Prop where
  | malformed {i : Nat} {h : Handler} (handler : s.handlers[i]? = some h) (pc : h.pc = .start) :
    Steps s (.handler i) (s.setHandler i { h with pc := .reply statusError }) []
  | wellFormed {i : Nat} {h : Handler} {host : Bytes} {port : UInt16}
    (handler : s.handlers[i]? = some h) (pc : h.pc = .start)
    (parse : parseConnect h.payload = some (host, port)) :
    Steps s (.handler i) (s.setHandler i { h with pc := .dial host port }) []
  | reply {i : Nat} {h : Handler} {status : Byte} (handler : s.handlers[i]? = some h)
    (pc : h.pc = .reply status) :
    Steps s (.handler i) ((s.put ⟨cmdProxyConnect, h.id, [status]⟩).setHandler i
      { h with pc := .returned }) []
  | add {i j : Nat} {h : Handler} (handler : s.handlers[i]? = some h) (pc : h.pc = .add j) :
    Steps s (.handler i) ((s.addConn h.id j).setHandler i { h with pc := .ack j }) []
  | ack {i j : Nat} {h : Handler} (handler : s.handlers[i]? = some h) (pc : h.pc = .ack j) :
    Steps s (.handler i) ((s.put ⟨cmdProxyConnect, h.id, [statusOK]⟩).setHandler i
      { h with pc := .returned }) []
  | dialConn {i : Nat} {h : Handler} {host : Bytes} {port : UInt16}
    (handler : s.handlers[i]? = some h) (pc : h.pc = .dial host port) :
    Steps s (.dial i .conn) ((s.addTarget (newTargetConn h.id host port)).setHandler i
      { h with pc := .add s.tcs.length }) []
  | dialFailed {i : Nat} {h : Handler} {host : Bytes} {port : UInt16}
    (handler : s.handlers[i]? = some h) (pc : h.pc = .dial host port) :
    Steps s (.dial i .failed) (s.setHandler i { h with pc := .reply statusRejected }) []
  | dialPanicked (i : Nat) : Steps s (.dial i .panicked) { s with crashed := true } []
  | replyDone {i : Nat} {h : Handler} {status : Byte} (handler : s.handlers[i]? = some h)
    (pc : h.pc = .reply status) :
    Steps s (.handlerDone i) (s.setHandler i { h with pc := .returned }) []
  | ackDone {i j : Nat} {h : Handler} (handler : s.handlers[i]? = some h) (pc : h.pc = .ack j) :
    Steps s (.handlerDone i) (s.setHandler i { h with pc := .returned }) []
  | top (run : s.run = .top) :
    Steps s .run (s.setRun (if s.ctxDone then .cleanup else .reading)) []
  | frame (f : VFrame) (run : s.run = .reading) : Steps s (.frame f) (s.setRun (.dispatch f)) []
  | relayLost (run : s.run = .reading) :
    Steps s .relayLost ({ s with ctxDone := true }.setRun .cleanup) []
  | dispatchConnect {f : VFrame} (run : s.run = .dispatch f) (cmd : f.cmd = cmdProxyConnect) :
    Steps s .run ((s.addHandler ⟨f.connID, f.data, .start⟩).setRun .top) []
  | dispatchData {f : VFrame} {j : Nat} (run : s.run = .dispatch f) (cmd : f.cmd = cmdProxyData)
    (known : s.conns f.connID = some j) : Steps s .run (s.setRun (.enqueue j f.data)) []
  | dispatchClose {f : VFrame} {j : Nat} (run : s.run = .dispatch f) (cmd : f.cmd = cmdProxyClose)
    (known : s.conns f.connID = some j) : Steps s .run (s.setRun (.remove j f.connID)) []
  | dispatchPing {f : VFrame} (run : s.run = .dispatch f) (cmd : f.cmd = cmdProxyPing) :
    Steps s .run (s.setRun .ping) []
  | idle {a : Action} (why : Idles s a) : Steps s a (s.setRun .top) []
  | enqueue {j : Nat} {data : Bytes} {tc : TargetConn} (run : s.run = .enqueue j data)
    (target : s.tcs[j]? = some tc) (room : tc.writeQ.length < targetWriteQ) :
    Steps s .run ((s.setConn j { tc with writeQ := tc.writeQ ++ [data] }).setRun .top) []
  | remove {j : Nat} {id : UInt32} (run : s.run = .remove j id) :
    Steps s .run ((s.removeConn id).setRun (.closing j .enter)) []
  | requestEnter {j : Nat} {tc : TargetConn} (run : s.run = .closing j .enter)
    (target : s.tcs[j]? = some tc) (once : tc.closeOnce = .fresh) :
    Steps s .run ((s.setConn j { tc with closeOnce := .running }).setRun (.closing j .done)) []
  | requestCancel {j : Nat} {tc : TargetConn} (run : s.run = .closing j .done)
    (target : s.tcs[j]? = some tc) :
    Steps s .run ((s.setConn j { tc with ctxDone := true }).setRun (.closing j .close)) []
  | requestClose {j : Nat} {tc : TargetConn} (run : s.run = .closing j .close)
    (target : s.tcs[j]? = some tc) :
    Steps s .run
      ((s.setConn j { tc with connClosed := true, closeOnce := .finished }).setRun .top) []
  | ping (run : s.run = .ping) : Steps s .run ((s.put ⟨cmdProxyPing, 0, []⟩).setRun .top) []
  | cleanup (run : s.run = .cleanup) : Steps s .run s.cleanup []
  | readNone {j : Nat} {tc : TargetConn} (fail : Bool) (target : s.tcs[j]? = some tc)
    (reader : tc.reader = .read) :
    Steps s (.targetRead j [] fail) (s.setConn j { tc with reader := afterRead fail }) []
  | readSome {j : Nat} {tc : TargetConn} {data : Bytes} (fail : Bool)
    (target : s.tcs[j]? = some tc) (reader : tc.reader = .read) (some : data ≠ [])
    (fits : data.length ≤ relayReadBuf) :
    Steps s (.targetRead j data fail)
      (s.setConn j { tc with reader := .send data fail, readLog := tc.readLog ++ [data] }) []
  | readSend {j : Nat} {tc : TargetConn} {data : Bytes} {fail : Bool}
    (target : s.tcs[j]? = some tc) (reader : tc.reader = .send data fail) :
    Steps s (.reader j) ((s.put ⟨cmdProxyData, tc.id, data⟩).setConn j
      { tc with reader := afterRead fail }) []
  | readSendDone {j : Nat} {tc : TargetConn} {data : Bytes} {fail : Bool}
    (target : s.tcs[j]? = some tc) (reader : tc.reader = .send data fail) (done : s.ctxDone) :
    Steps s (.readerDone j) (s.setConn j { tc with reader := afterRead fail }) []
  | take {j : Nat} {tc : TargetConn} {data : Bytes} {writeQ : List Bytes}
    (target : s.tcs[j]? = some tc) (writer : tc.writer = .select)
    (queue : tc.writeQ = data :: writeQ) :
    Steps s (.take j) (s.setConn j { tc with writer := .write data, writeQ }) []
  | write {j : Nat} {tc : TargetConn} {data : Bytes} (ok : Bool) (target : s.tcs[j]? = some tc)
    (writer : tc.writer = .write data) (live : ok → tc.connClosed = false) :
    Steps s (.targetWrite j ok) (s.setConn j { tc with
      writer := if ok then .select else .closing .enter
      wrote := tc.wrote ++ [data] }) []
  | writerDone {j : Nat} {tc : TargetConn} (target : s.tcs[j]? = some tc)
    (writer : tc.writer = .select) (done : s.targetCtxDone tc) :
    Steps s (.writerDone j) (s.setConn j { tc with writer := .exited }) []
  | notifyEnter {side : Side} {j : Nat} {tc : TargetConn} (target : s.tcs[j]? = some tc)
    (pc : tc.notifyPc side = some .enter) (once : tc.closeOnce = .fresh) :
    Steps s (.notify side j)
      (s.setConn j ({ tc with closeOnce := .running }.setNotify side (some .done))) []
  | notifyLate {side : Side} {j : Nat} {tc : TargetConn} (target : s.tcs[j]? = some tc)
    (pc : tc.notifyPc side = some .enter) (once : tc.closeOnce = .finished) :
    Steps s (.notify side j) (s.setConn j (tc.setNotify side none)) []
  | notifyCancel {side : Side} {j : Nat} {tc : TargetConn} (target : s.tcs[j]? = some tc)
    (pc : tc.notifyPc side = some .done) :
    Steps s (.notify side j)
      (s.setConn j ({ tc with ctxDone := true }.setNotify side (some .close))) []
  | notifyClose {side : Side} {j : Nat} {tc : TargetConn} (target : s.tcs[j]? = some tc)
    (pc : tc.notifyPc side = some .close) :
    Steps s (.notify side j)
      (s.setConn j ({ tc with connClosed := true }.setNotify side (some .remove))) []
  | notifyRemove {side : Side} {j : Nat} {tc : TargetConn} (target : s.tcs[j]? = some tc)
    (pc : tc.notifyPc side = some .remove) :
    Steps s (.notify side j)
      ((s.removeConn tc.id).setConn j (tc.setNotify side (some .send))) []
  | notifySend {side : Side} {j : Nat} {tc : TargetConn} (target : s.tcs[j]? = some tc)
    (pc : tc.notifyPc side = some .send) :
    Steps s (.notify side j) ((s.put ⟨cmdProxyClose, tc.id, []⟩).setConn j
      ({ tc with closeOnce := .finished }.setNotify side none)) []
  | notifySendDone {side : Side} {j : Nat} {tc : TargetConn} (target : s.tcs[j]? = some tc)
    (pc : tc.notifyPc side = some .send) :
    Steps s (.notifyDone side j)
      (s.setConn j ({ tc with closeOnce := .finished }.setNotify side none)) []
  | heartbeat : Steps s .heartbeat (s.put ⟨cmdProxyPing, 0, []⟩) []
  | drain {f : VFrame} {writeQ : List VFrame} (queue : s.writeQ = f :: writeQ) (live : s.writing) :
    Steps s .drain { s with writeQ } [f]
  | flushFailed : Steps s .flushFailed { s with ctxDone := true, writing := false } []
  | drainDone : Steps s .drainDone { s with writing := false } []

theorem writeFrame_some {s s' : Server} {f : VFrame} (h : s.writeFrame f = some s') :
    s' = s.put f := by
  unfold writeFrame at h
  split at h
  · exact (Option.some.inj h).symm
  · simp at h

theorem handlerStep_steps {s s' : Server} {i : Nat} (h : handlerStep s i = some s') :
    Steps s (.handler i) s' [] := by
  obtain ⟨x, handler, h⟩ := Option.bind_eq_some_iff.mp h
  cases pc : x.pc with
  | start =>
    simp only [pc] at h
    split at h
    · obtain rfl := Option.some.inj h
      exact .malformed handler pc
    · obtain rfl := Option.some.inj h
      exact .wellFormed handler pc ‹_›
  | reply status =>
    simp only [pc] at h
    obtain ⟨s₁, sent, h⟩ := Option.bind_eq_some_iff.mp h
    obtain rfl := writeFrame_some sent
    obtain rfl := Option.some.inj h
    exact .reply handler pc
  | add j =>
    simp only [pc] at h
    obtain rfl := Option.some.inj h
    exact .add handler pc
  | ack j =>
    simp only [pc] at h
    obtain ⟨s₁, sent, h⟩ := Option.bind_eq_some_iff.mp h
    obtain rfl := writeFrame_some sent
    obtain rfl := Option.some.inj h
    exact .ack handler pc
  | dial | returned => simp [pc] at h

theorem dialStep_steps {s s' : Server} {i : Nat} {outcome : Dial}
    (h : dialStep s i outcome = some s') : Steps s (.dial i outcome) s' [] := by
  obtain ⟨x, handler, h⟩ := Option.bind_eq_some_iff.mp h
  split at h
  case h_2 => simp at h
  case h_1 host port pc =>
    cases outcome with
    | failed =>
      obtain rfl := Option.some.inj h
      exact .dialFailed handler pc
    | panicked =>
      obtain rfl := Option.some.inj h
      exact .dialPanicked i
    | conn =>
      obtain rfl := Option.some.inj h
      exact .dialConn handler pc

theorem handlerDoneStep_steps {s s' : Server} {i : Nat} (h : handlerDoneStep s i = some s') :
    Steps s (.handlerDone i) s' [] := by
  obtain ⟨x, handler, h⟩ := Option.bind_eq_some_iff.mp h
  split at h
  case isFalse => simp at h
  case isTrue =>
    split at h
    · obtain rfl := Option.some.inj h
      exact .replyDone handler ‹_›
    · obtain rfl := Option.some.inj h
      exact .ackDone handler ‹_›
    · simp at h

theorem notifyStep_steps {s s' : Server} {side : Side} {j : Nat}
    (h : notifyStep s side j = some s') : Steps s (.notify side j) s' [] := by
  obtain ⟨tc, target, h⟩ := Option.bind_eq_some_iff.mp h
  obtain ⟨npc, pc, h⟩ := Option.bind_eq_some_iff.mp h
  cases npc with
  | enter =>
    simp only at h
    split at h
    · obtain rfl := Option.some.inj h
      exact .notifyEnter target pc ‹_›
    · simp at h
    · obtain rfl := Option.some.inj h
      exact .notifyLate target pc ‹_›
  | done =>
    obtain rfl := Option.some.inj h
    exact .notifyCancel target pc
  | close =>
    obtain rfl := Option.some.inj h
    exact .notifyClose target pc
  | remove =>
    obtain rfl := Option.some.inj h
    exact .notifyRemove target pc
  | send =>
    obtain ⟨s₁, sent, h⟩ := Option.bind_eq_some_iff.mp h
    obtain rfl := writeFrame_some sent
    obtain rfl := Option.some.inj h
    exact .notifySend target pc

theorem notifyDoneStep_steps {s s' : Server} {side : Side} {j : Nat}
    (h : notifyDoneStep s side j = some s') : Steps s (.notifyDone side j) s' [] := by
  obtain ⟨tc, target, h⟩ := Option.bind_eq_some_iff.mp h
  obtain ⟨npc, pc, h⟩ := Option.bind_eq_some_iff.mp h
  cases npc with
  | send =>
    simp only at h
    split at h
    · obtain rfl := Option.some.inj h
      exact .notifySendDone target pc
    · simp at h
  | enter | done | close | remove => simp at h

theorem requestStep_steps {s s' : Server} {j : Nat} {pc : RequestPc} (run : s.run = .closing j pc)
    (h : requestStep s j pc = some s') : Steps s .run s' [] := by
  obtain ⟨tc, target, h⟩ := Option.bind_eq_some_iff.mp h
  cases pc with
  | enter =>
    simp only at h
    split at h
    · obtain rfl := Option.some.inj h
      exact .requestEnter run target ‹_›
    · simp at h
    · obtain rfl := Option.some.inj h
      exact .idle (.late run target ‹_›)
  | done =>
    obtain rfl := Option.some.inj h
    exact .requestCancel run target
  | close =>
    obtain rfl := Option.some.inj h
    exact .requestClose run target

theorem dispatch_steps {s : Server} {f : VFrame} (run : s.run = .dispatch f) :
    Steps s .run (s.dispatch f) [] := by
  unfold dispatch
  split_ifs with connect data close ping
  · exact .dispatchConnect run connect
  · split
    · exact .dispatchData run data ‹_›
    · exact .idle (.unknown run ‹_›)
  · split
    · exact .dispatchClose run close ‹_›
    · exact .idle (.unknown run ‹_›)
  · exact .dispatchPing run ping
  · exact .idle (.other run data close)

theorem runStep_steps {s s' : Server} (h : runStep s = some s') : Steps s .run s' [] := by
  unfold runStep at h
  cases run : s.run with
  | top =>
    obtain rfl := by simpa [run] using h
    exact .top run
  | dispatch f =>
    obtain rfl := by simpa [run] using h
    exact dispatch_steps run
  | enqueue j data =>
    simp only [run] at h
    obtain ⟨tc, target, h⟩ := Option.bind_eq_some_iff.mp h
    split at h
    · obtain rfl := Option.some.inj h
      exact .enqueue run target ‹_›
    · obtain rfl := Option.some.inj h
      exact .idle (.full run target (by omega))
  | remove j id =>
    obtain rfl := by simpa [run] using h
    exact .remove run
  | closing j pc =>
    simp only [run] at h
    exact requestStep_steps run h
  | ping =>
    simp only [run] at h
    obtain ⟨s₁, sent, h⟩ := Option.bind_eq_some_iff.mp h
    obtain rfl := writeFrame_some sent
    obtain rfl := Option.some.inj h
    exact .ping run
  | cleanup =>
    obtain rfl := by simpa [run] using h
    exact .cleanup run
  | reading | exited => simp [run] at h

theorem runDoneStep_steps {s s' : Server} (h : runDoneStep s = some s') :
    Steps s .runDone s' [] := by
  unfold runDoneStep at h
  split at h
  · obtain ⟨tc, target, h⟩ := Option.bind_eq_some_iff.mp h
    split at h
    · obtain rfl := Option.some.inj h
      exact .idle (.cancelled ‹_› target ‹_›)
    · simp at h
  · split at h
    · obtain rfl := Option.some.inj h
      exact .idle (.pingDone ‹_›)
    · simp at h
  · simp at h

theorem targetReadStep_steps {s s' : Server} {j : Nat} {data : Bytes} {fail : Bool}
    (h : targetReadStep s j data fail = some s') : Steps s (.targetRead j data fail) s' [] := by
  obtain ⟨tc, target, h⟩ := Option.bind_eq_some_iff.mp h
  split at h
  case isFalse => simp at h
  case isTrue reads =>
    split at h
    case isTrue none =>
      obtain rfl := Option.some.inj h
      subst none
      exact .readNone fail target reads.1
    case isFalse some =>
      obtain rfl := Option.some.inj h
      exact .readSome fail target reads.1 some reads.2

theorem readerStep_steps {s s' : Server} {j : Nat} (h : readerStep s j = some s') :
    Steps s (.reader j) s' [] := by
  obtain ⟨tc, target, h⟩ := Option.bind_eq_some_iff.mp h
  split at h
  · obtain ⟨s₁, sent, h⟩ := Option.bind_eq_some_iff.mp h
    obtain rfl := writeFrame_some sent
    obtain rfl := Option.some.inj h
    exact .readSend target ‹_›
  · simp at h

theorem readerDoneStep_steps {s s' : Server} {j : Nat} (h : readerDoneStep s j = some s') :
    Steps s (.readerDone j) s' [] := by
  obtain ⟨tc, target, h⟩ := Option.bind_eq_some_iff.mp h
  split at h
  · split at h
    · obtain rfl := Option.some.inj h
      exact .readSendDone target ‹_› ‹_›
    · simp at h
  · simp at h

theorem takeStep_steps {s s' : Server} {j : Nat} (h : takeStep s j = some s') :
    Steps s (.take j) s' [] := by
  obtain ⟨tc, target, h⟩ := Option.bind_eq_some_iff.mp h
  split at h
  · obtain rfl := Option.some.inj h
    exact .take target ‹_› ‹_›
  · simp at h

theorem targetWriteStep_steps {s s' : Server} {j : Nat} {ok : Bool}
    (h : targetWriteStep s j ok = some s') : Steps s (.targetWrite j ok) s' [] := by
  obtain ⟨tc, target, h⟩ := Option.bind_eq_some_iff.mp h
  split at h
  · split at h
    · simp at h
    case isFalse live =>
      obtain rfl := Option.some.inj h
      refine .write ok target ‹_› fun wrote => ?_
      by_contra closed
      exact live ⟨by simpa using closed, wrote⟩
  · simp at h

theorem writerDoneStep_steps {s s' : Server} {j : Nat} (h : writerDoneStep s j = some s') :
    Steps s (.writerDone j) s' [] := by
  obtain ⟨tc, target, h⟩ := Option.bind_eq_some_iff.mp h
  split at h
  case isTrue idle =>
    obtain rfl := Option.some.inj h
    exact .writerDone target idle.1 idle.2
  case isFalse => simp at h

theorem map_silent {o : Option Server} {s' : Server} {out : List VFrame}
    (h : o.map (·, ([] : List VFrame)) = some (s', out)) : o = some s' ∧ out = [] := by
  obtain ⟨s₁, some, heq⟩ := Option.map_eq_some_iff.mp h
  obtain ⟨rfl, rfl⟩ : _ ∧ _ := by simpa using heq
  exact ⟨some, rfl⟩

theorem aliveStep_steps {s s' : Server} {a : Action} {out : List VFrame}
    (h : aliveStep s a = some (s', out)) : Steps s a s' out := by
  cases a with
  | handler i =>
    obtain ⟨taken, rfl⟩ := map_silent h
    exact handlerStep_steps taken
  | dial i outcome =>
    obtain ⟨taken, rfl⟩ := map_silent h
    exact dialStep_steps taken
  | handlerDone i =>
    obtain ⟨taken, rfl⟩ := map_silent h
    exact handlerDoneStep_steps taken
  | run =>
    obtain ⟨taken, rfl⟩ := map_silent h
    exact runStep_steps taken
  | frame f =>
    simp only [aliveStep] at h
    split at h
    · obtain ⟨rfl, rfl⟩ : _ ∧ _ := by simpa using h
      exact .frame f ‹_›
    · simp at h
  | relayLost =>
    simp only [aliveStep] at h
    split at h
    · obtain ⟨rfl, rfl⟩ : _ ∧ _ := by simpa using h
      exact .relayLost ‹_›
    · simp at h
  | runDone =>
    obtain ⟨taken, rfl⟩ := map_silent h
    exact runDoneStep_steps taken
  | targetRead j data fail =>
    obtain ⟨taken, rfl⟩ := map_silent h
    exact targetReadStep_steps taken
  | reader j =>
    obtain ⟨taken, rfl⟩ := map_silent h
    exact readerStep_steps taken
  | readerDone j =>
    obtain ⟨taken, rfl⟩ := map_silent h
    exact readerDoneStep_steps taken
  | take j =>
    obtain ⟨taken, rfl⟩ := map_silent h
    exact takeStep_steps taken
  | targetWrite j ok =>
    obtain ⟨taken, rfl⟩ := map_silent h
    exact targetWriteStep_steps taken
  | writerDone j =>
    obtain ⟨taken, rfl⟩ := map_silent h
    exact writerDoneStep_steps taken
  | notify side j =>
    obtain ⟨taken, rfl⟩ := map_silent h
    exact notifyStep_steps taken
  | notifyDone side j =>
    obtain ⟨taken, rfl⟩ := map_silent h
    exact notifyDoneStep_steps taken
  | heartbeat =>
    obtain ⟨taken, rfl⟩ := map_silent h
    obtain rfl := writeFrame_some taken
    exact .heartbeat
  | drain =>
    simp only [aliveStep] at h
    split at h
    · split at h
      · obtain ⟨rfl, rfl⟩ : _ ∧ _ := by simpa using h
        exact .drain ‹_› ‹_›
      · simp at h
    · simp at h
  | flushFailed =>
    simp only [aliveStep] at h
    split at h
    · obtain ⟨rfl, rfl⟩ : _ ∧ _ := by simpa using h
      exact .flushFailed
    · simp at h
  | drainDone =>
    simp only [aliveStep] at h
    split at h
    · obtain ⟨rfl, rfl⟩ : _ ∧ _ := by simpa using h
      exact .drainDone
    · simp at h

/-- Every step is one of the transitions. -/
theorem step_steps {s s' : Server} {a : Action} {out : List VFrame}
    (h : step s a = some (s', out)) : Steps s a s' out := by
  unfold step at h
  split at h
  · simp at h
  · exact aliveStep_steps h

/-! ## Targets stay -/

/-- The `j`-th target was dialled for this id. -/
def HasId (s : Server) (j : Nat) (id : UInt32) : Prop := ∃ tc, s.tcs[j]? = some tc ∧ tc.id = id

theorem hasId_of_target {s : Server} {j : Nat} {tc : TargetConn} (target : s.tcs[j]? = some tc) :
    s.HasId j tc.id := ⟨tc, target, rfl⟩

theorem setConn_target (s : Server) {j : Nat} {tc : TargetConn} (target : s.tcs[j]? = some tc)
    (tc' : TargetConn) (i : Nat) :
    (s.setConn j tc').tcs[i]? = if i = j then some tc' else s.tcs[i]? := by
  have hj := (List.getElem?_eq_some_iff.mp target).1
  by_cases same : i = j
  · subst same
    simp [hj]
  · simp [same, Ne.symm same]

theorem setHandler_handler (s : Server) {i : Nat} {h : Handler} (handler : s.handlers[i]? = some h)
    (h' : Handler) (k : Nat) :
    (s.setHandler i h').handlers[k]? = if k = i then some h' else s.handlers[k]? := by
  have hi := (List.getElem?_eq_some_iff.mp handler).1
  by_cases same : k = i
  · subst same
    simp [hi]
  · simp [same, Ne.symm same]

theorem HasId.setConn {s : Server} {i j : Nat} {id : UInt32} {tc tc' : TargetConn}
    (h : s.HasId i id) (target : s.tcs[j]? = some tc) (same : tc'.id = tc.id) :
    (s.setConn j tc').HasId i id := by
  obtain ⟨u, hu, rfl⟩ := h
  unfold HasId
  rw [setConn_target s target]
  split
  · subst i
    obtain rfl := Option.some.inj (target.symm.trans hu)
    exact ⟨tc', rfl, same⟩
  · exact ⟨u, hu, rfl⟩

theorem addTarget_target {s : Server} {j : Nat} {tc new : TargetConn}
    (target : (s.addTarget new).tcs[j]? = some tc) :
    s.tcs[j]? = some tc ∨ (j = s.tcs.length ∧ tc = new) := by
  simp only [addTarget, List.getElem?_append] at target
  split at target
  · exact .inl target
  · obtain ⟨hlt, rfl⟩ := List.getElem?_eq_some_iff.mp target
    simp only [List.length_singleton] at hlt
    exact .inr ⟨by omega, by simp⟩

theorem HasId.addTarget {s : Server} {j : Nat} {id : UInt32} (h : s.HasId j id) (tc : TargetConn) :
    (s.addTarget tc).HasId j id := by
  obtain ⟨u, hu, same⟩ := h
  have old := (List.getElem?_eq_some_iff.mp hu).1
  exact ⟨u, by simp [Server.addTarget, List.getElem?_append_left old, hu], same⟩

theorem cleanup_target {s : Server} {j : Nat} {tc' : TargetConn} (h : s.cleanup.tcs[j]? = some tc') :
    ∃ tc, s.tcs[j]? = some tc ∧
      (tc' = tc ∨ tc' = { tc with ctxDone := true, connClosed := true }) := by
  simp only [cleanup, List.getElem?_mapIdx, Option.map_eq_some_iff] at h
  obtain ⟨tc, target, rfl⟩ := h
  refine ⟨tc, target, ?_⟩
  split
  · exact .inr rfl
  · exact .inl rfl

theorem HasId.cleanup {s : Server} {j : Nat} {id : UInt32} (h : s.HasId j id) :
    s.cleanup.HasId j id := by
  obtain ⟨tc, target, rfl⟩ := h
  by_cases entry : s.conns tc.id = some j
  · exact ⟨{ tc with ctxDone := true, connClosed := true },
      by simp [Server.cleanup, target, entry], rfl⟩
  · exact ⟨tc, by simp [Server.cleanup, target, entry], rfl⟩

theorem HasId.step {s s' : Server} {a : Action} {out : List VFrame} {j : Nat} {id : UInt32}
    (h : s.HasId j id) (taken : Steps s a s' out) : s'.HasId j id := by
  cases taken with
  | malformed | wellFormed | reply | add | ack | dialFailed | dialPanicked | replyDone | ackDone
  | top | frame | relayLost | dispatchConnect | dispatchData | dispatchClose | dispatchPing | idle
  | remove | ping | heartbeat | drain | flushFailed | drainDone => exact h
  | dialConn => exact h.addTarget _
  | enqueue _ target | requestEnter _ target | requestCancel _ target | requestClose _ target
  | readNone _ target | readSome _ target | readSend target | readSendDone target | take target
  | write _ target | writerDone target =>
    exact h.setConn target rfl
  | notifyEnter target | notifyLate target | notifyCancel target | notifyClose target
  | notifyRemove target | notifySend target | notifySendDone target =>
    exact h.setConn target (by simp)
  | cleanup => exact h.cleanup

/-- Every number in use is that of a target, in `conns` and in a handler under its own id. -/
structure Indexed (s : Server) : Prop where
  known : ∀ id j, s.conns id = some j → s.HasId j id
  dialled : ∀ h ∈ s.handlers, ∀ j, h.pc = .add j ∨ h.pc = .ack j → s.HasId j h.id
  running : ∀ j, s.run.target = some j → ∃ id, s.HasId j id

theorem indexed_newServer : Indexed newServer :=
  ⟨by simp [newServer], by simp [newServer], by simp [newServer, RunPc.target]⟩

theorem known_of_removeConn {s : Server} {id k : UInt32} {j : Nat}
    (h : (s.removeConn id).conns k = some j) : s.conns k = some j := by
  by_cases same : k = id
  · simp [removeConn, same] at h
  · simpa [removeConn, same] using h

theorem Indexed.known_step {s s' : Server} {a : Action} {out : List VFrame} (x : Indexed s)
    (taken : Steps s a s' out) (id : UInt32) (j : Nat) (h : s'.conns id = some j) :
    s'.HasId j id := by
  have keeps : s.conns id = some j → s'.HasId j id := fun h => (x.known id j h).step taken
  cases taken with
  | add handler pc =>
    rename_i i l hd
    by_cases same : id = hd.id
    · subst same
      obtain rfl : l = j := by simpa [addConn] using h
      exact x.dialled hd (List.mem_of_getElem? handler) l (.inl pc)
    · exact keeps (by simpa [addConn, same] using h)
  | remove | notifyRemove => exact keeps (known_of_removeConn h)
  | cleanup => simp [cleanup] at h
  | _ => exact keeps h

theorem Indexed.dialled_step {s s' : Server} {a : Action} {out : List VFrame} (x : Indexed s)
    (taken : Steps s a s' out) (h : Handler) (mem : h ∈ s'.handlers) (j : Nat)
    (pc : h.pc = .add j ∨ h.pc = .ack j) : s'.HasId j h.id := by
  have keeps : h ∈ s.handlers → s'.HasId j h.id := fun old => (x.dialled h old j pc).step taken
  cases taken with
  | malformed | wellFormed | reply | ack | dialFailed | replyDone | ackDone =>
    rcases List.mem_or_eq_of_mem_set mem with old | rfl
    · exact keeps old
    · simp at pc
  | add handler at_add =>
    rcases List.mem_or_eq_of_mem_set mem with old | rfl
    · exact keeps old
    · obtain rfl := HandlerPc.ack.inj (by simpa using pc)
      exact x.dialled _ (List.mem_of_getElem? handler) _ (.inl at_add)
  | dialConn handler at_dial =>
    rcases List.mem_or_eq_of_mem_set mem with old | rfl
    · exact keeps old
    · obtain rfl := HandlerPc.add.inj (by simpa using pc)
      exact ⟨_, by simp [addTarget]; rfl, rfl⟩
  | dispatchConnect =>
    rcases List.mem_append.mp mem with old | new
    · exact keeps old
    · obtain rfl := List.mem_singleton.mp new
      simp at pc
  | _ => exact keeps mem

theorem Indexed.running_step {s s' : Server} {a : Action} {out : List VFrame} (x : Indexed s)
    (taken : Steps s a s' out) (j : Nat) (run : s'.run.target = some j) :
    ∃ id, s'.HasId j id := by
  have keeps : s.run.target = some j → ∃ id, s'.HasId j id := by
    intro old
    obtain ⟨id, h⟩ := x.running j old
    exact ⟨id, h.step taken⟩
  cases taken with
  | top => split at run <;> simp [RunPc.target] at run
  | frame | relayLost | dispatchConnect | dispatchPing | idle | enqueue | requestClose | ping
  | cleanup => simp [RunPc.target, cleanup] at run
  | dispatchData at_dispatch cmd known | dispatchClose at_dispatch cmd known =>
    obtain rfl := by simpa [RunPc.target] using run
    exact ⟨_, x.known _ _ known⟩
  | remove at_run | requestEnter at_run | requestCancel at_run =>
    exact keeps (by simpa [at_run, RunPc.target] using run)
  | _ => exact keeps run

/-- `Run` is never inside the `closeOnce` of a target that does not exist. -/
theorem Indexed.inRequest_new {s : Server} (x : Indexed s) : s.inRequest s.tcs.length = false := by
  by_contra busy
  have at_target : s.run.target = some s.tcs.length := by
    simp only [inRequest, Bool.not_eq_false, decide_eq_true_eq] at busy
    rcases busy with h | h <;> simp [h, RunPc.target]
  obtain ⟨id, tc, target, -⟩ := x.running _ at_target
  simp at target

theorem Indexed.step {s s' : Server} {a : Action} {out : List VFrame} (x : Indexed s)
    (taken : Steps s a s' out) : Indexed s' :=
  ⟨x.known_step taken, x.dialled_step taken, x.running_step taken⟩

end Server

end EspNetwork.Proxy
