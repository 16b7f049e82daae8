import Mathlib
import EspNetwork.Ctrl.ProxyConn
import EspNetwork.Relay.Wire

/-!
# The multiplexing client

`Client` of `ctrl/proxy/client.go`. Goroutines of its users open, read, write and close
virtual connections; `readLoop` dispatches the frames of the server; a heartbeat writes pings.
Every critical section on `mu`, every channel operation and every `writeFrame` is one step.
`conns` maps an id to a connection by its place in the list of all connections made, so that
an entry can be told from a later one under the same id. A step returns the frames it puts on
the relay.
-/

namespace EspNetwork.Ctrl

open Serial (Byte Bytes)
open Relay (VFrame putUint16)

def cmdConnect : Byte := 0
def cmdData : Byte := 1
def cmdClose : Byte := 2
def cmdPing : Byte := 3

/-- The error `ConnectRemote` returns. -/
inductive CallErr where
  | ack (err : ConnErr)
  | cancelled
  deriving DecidableEq, Repr

/-- Where a call of `ConnectRemote` stands once it has its slot. -/
inductive CallPc where
  | send
  | wait
  | remove (err : CallErr)
  | shutdown (err : CallErr) (pc : ShutPc)
  | ok
  | failed (err : CallErr)
  deriving DecidableEq, Repr

/-- A connection, the call that made it with its arguments, the `Read` in progress, and, for
the record, the chunks its reader took from the channel and the `Write` calls sent for it. -/
structure Slot where
  conn : ProxyConn
  host : Bytes
  port : UInt16
  call : CallPc
  read : Option Nat
  got : List Bytes
  written : List Bytes
  deriving DecidableEq, Repr

/-- `Close` and `Write` calls in progress on the `j`-th connection. -/
inductive Task where
  | closeRemove (j : Nat)
  | closeShutdown (j : Nat) (pc : ShutPc)
  | closeSend (j : Nat)
  | writeCheck (j : Nat) (p : Bytes)
  | writeSend (j : Nat) (p : Bytes)
  | returned
  deriving DecidableEq, Repr

/-- Where `readLoop` stands. -/
inductive LoopPc where
  | top
  | reading
  | dispatch (f : VFrame)
  | ack (j : Nat) (err : Option ConnErr)
  | check (j : Nat) (data : Bytes)
  | send (j : Nat) (data : Bytes)
  | remove (j : Nat) (id : UInt32)
  | shutdown (j : Nat) (pc : ShutPc)
  | cancel
  | shutdownAll
  | shutting (rest : List Nat)
  | shuttingOne (j : Nat) (pc : ShutPc) (rest : List Nat)
  | exited
  deriving DecidableEq, Repr

structure Client where
  ctxDone : Bool
  conns : UInt32 → Option Nat
  slots : List Slot
  nextID : UInt32
  tasks : List Task
  loop : LoopPc

/-- `newClient`, with `readLoop` about to run. -/
def newClient : Client where
  ctxDone := false
  conns _ := none
  slots := []
  nextID := 0
  tasks := []
  loop := .top

inductive Action where
  /-- `ConnectRemote` up to the end of its critical section. -/
  | connect (host : Bytes) (port : UInt16)
  /-- The call goes on: its next statement, or the `connResult` case. -/
  | call (j : Nat)
  /-- The call takes the `ctx.Done()` case of its select. -/
  | callDone (j : Nat)
  /-- `io.ReadFull` completed a frame. -/
  | frame (f : VFrame)
  /-- `io.ReadFull` failed. -/
  | relayLost
  | loop
  /-- The next connection that `shutdownAll` visits. -/
  | visit (j : Nat)
  | close (j : Nat)
  | write (j : Nat) (p : Bytes)
  | task (i : Nat)
  /-- `writeFrame` of a task takes the `ctx.Done()` case. -/
  | taskDone (i : Nat)
  | read (j : Nat) (n : Nat)
  | recv (j : Nat)
  | readDone (j : Nat)
  | copy (j : Nat)
  | heartbeat
  /-- The context ends: the relay is shut down or a write on it failed. -/
  | cancelled
  deriving DecidableEq, Repr

/-- The payload of a connect request. -/
def connectPayload (host : Bytes) (port : UInt16) : Bytes :=
  UInt8.ofNat host.length :: (host ++ putUint16 port)

/-! Where a goroutine goes after a step of `shutdown`. -/

def callNext (err : CallErr) : Option ShutPc → CallPc
  | some pc => .shutdown err pc
  | none => .failed err

def loopNext (j : Nat) : Option ShutPc → LoopPc
  | some pc => .shutdown j pc
  | none => .top

def visitNext (j : Nat) (rest : List Nat) : Option ShutPc → LoopPc
  | some pc => .shuttingOne j pc rest
  | none => .shutting rest

def closeNext (j : Nat) : Option ShutPc → Task
  | some pc => .closeShutdown j pc
  | none => .closeSend j

namespace Client

def setSlot (c : Client) (j : Nat) (s : Slot) : Client := { c with slots := c.slots.set j s }

def setTask (c : Client) (i : Nat) (t : Task) : Client := { c with tasks := c.tasks.set i t }

def setLoop (c : Client) (l : LoopPc) : Client := { c with loop := l }

def removeConn (c : Client) (id : UInt32) : Client :=
  { c with conns := Function.update c.conns id none }

/-- `pc.ctx.Err() != nil`; the context of a connection is derived from the client's. -/
def connCtxDone (c : Client) (s : Slot) : Bool := c.ctxDone || s.conn.ctxDone

/-- The critical section of `ConnectRemote`. -/
def allocate (c : Client) (host : Bytes) (port : UInt16) : Client :=
  { c with
    nextID := c.nextID + 1
    conns := Function.update c.conns c.nextID (some c.slots.length)
    slots := c.slots ++ [⟨ProxyConn.new c.nextID, host, port, .send, none, [], []⟩] }

/-- A step of `shutdown` on the `j`-th connection. -/
def shutdownConn (c : Client) (j : Nat) (pc : ShutPc) : Option (Client × Option ShutPc) := do
  let s ← c.slots[j]?
  let (conn, next) ← s.conn.shutdown pc
  return (c.setSlot j { s with conn }, next)

/-! ## `ConnectRemote` -/

def callStep (c : Client) (j : Nat) : Option (Client × List VFrame) := do
  let s ← c.slots[j]?
  match s.call with
  | .send =>
    some (c.setSlot j { s with call := .wait }, [⟨cmdConnect, s.conn.id, connectPayload s.host s.port⟩])
  | .wait =>
    match s.conn.connResult with
    | none => none
    | some none => some (c.setSlot j { s with conn := { s.conn with connResult := none }, call := .ok }, [])
    | some (some err) =>
      some (c.setSlot j { s with
        conn := { s.conn with connResult := none }
        call := .remove (.ack err) }, [])
  | .remove err =>
    some ((c.removeConn s.conn.id).setSlot j { s with call := .shutdown err .enter }, [])
  | .shutdown err pc =>
    (s.conn.shutdown pc).map fun (conn, next) =>
      (c.setSlot j { s with
        conn
        call := callNext err next }, [])
  | .ok | .failed _ => none

def callDoneStep (c : Client) (j : Nat) : Option (Client × List VFrame) := do
  let s ← c.slots[j]?
  if c.ctxDone then
    match s.call with
    | .send => some (c.setSlot j { s with call := .wait }, [])
    | .wait => some (c.setSlot j { s with call := .remove .cancelled }, [])
    | _ => none
  else none

/-! ## `readLoop` and `dispatch` -/

/-- The error a connect acknowledgement stands for. -/
def ackErr (payload : Bytes) : Option ConnErr :=
  match payload with
  | [status] => if status ≠ 0 then some (.rejected status) else none
  | _ => some .malformed

/-- `getConn` and the branch of `dispatch`. -/
def dispatch (c : Client) (f : VFrame) : LoopPc :=
  match c.conns f.connID with
  | none => .top
  | some j =>
    if f.cmd = cmdConnect then .ack j (ackErr f.data)
    else if f.cmd = cmdData then .check j f.data
    else if f.cmd = cmdClose then .remove j f.connID
    else .top

def loopStep (c : Client) : Option Client :=
  match c.loop with
  | .top => some (c.setLoop (if c.ctxDone then .cancel else .reading))
  | .dispatch f => some (c.setLoop (dispatch c f))
  | .ack j err => do
    let s ← c.slots[j]?
    let result := match s.conn.connResult with | none => some err | some r => some r
    return (c.setSlot j { s with conn := { s.conn with connResult := result } }).setLoop .top
  | .check j data => do
    let s ← c.slots[j]?
    return c.setLoop (if c.connCtxDone s then .top else .send j data)
  | .send j data => do
    let s ← c.slots[j]?
    return (c.setSlot j { s with conn := s.conn.deliver data }).setLoop .top
  | .remove j id => some ((c.removeConn id).setLoop (.shutdown j .enter))
  | .shutdown j pc => do
    let (c, next) ← c.shutdownConn j pc
    return c.setLoop (loopNext j next)
  | .cancel => some { c with ctxDone := true, loop := .shutdownAll }
  | .shutdownAll =>
    some { c with
      conns := fun _ => none
      loop := .shutting ((List.range c.slots.length).filter fun j =>
        match c.slots[j]? with
        | some s => c.conns s.conn.id = some j
        | none => false) }
  | .shuttingOne j pc rest => do
    let (c, next) ← c.shutdownConn j pc
    return c.setLoop (visitNext j rest next)
  | .shutting [] => some (c.setLoop .exited)
  | .shutting (_ :: _) | .reading | .exited => none

/-! ## `Close` and `Write` -/

def taskStep (c : Client) (i : Nat) : Option (Client × List VFrame) := do
  let t ← c.tasks[i]?
  match t with
  | .closeRemove j => do
    let s ← c.slots[j]?
    return ((c.removeConn s.conn.id).setTask i (.closeShutdown j .enter), [])
  | .closeShutdown j pc => do
    let (c, next) ← c.shutdownConn j pc
    return (c.setTask i (closeNext j next), [])
  | .closeSend j => do
    let s ← c.slots[j]?
    return (c.setTask i .returned, [⟨cmdClose, s.conn.id, []⟩])
  | .writeCheck j p => do
    let s ← c.slots[j]?
    return (c.setTask i (if c.connCtxDone s then .returned else .writeSend j p), [])
  | .writeSend j p => do
    let s ← c.slots[j]?
    return ((c.setSlot j { s with written := s.written ++ [p] }).setTask i .returned,
      [⟨cmdData, s.conn.id, p⟩])
  | .returned => none

def taskDoneStep (c : Client) (i : Nat) : Option Client := do
  let t ← c.tasks[i]?
  if c.ctxDone then
    match t with
    | .closeSend _ | .writeSend .. => some (c.setTask i .returned)
    | _ => none
  else none

/-- `ConnectRemote` returned this connection, so its user may use it. -/
def usable (c : Client) (j : Nat) : Bool :=
  match c.slots[j]? with
  | some s => s.call = .ok
  | none => false

/-! ## `Read` -/

def recvStep (c : Client) (j : Nat) : Option Client := do
  let s ← c.slots[j]?
  if s.read.isSome ∧ s.conn.last = [] then
    match s.conn.recvCh with
    | data :: recvCh =>
      some (c.setSlot j { s with conn := { s.conn with recvCh, last := data }, got := s.got ++ [data] })
    | [] => if s.conn.closed then some (c.setSlot j { s with read := none }) else none
  else none

def readDoneStep (c : Client) (j : Nat) : Option Client := do
  let s ← c.slots[j]?
  if s.read.isSome ∧ s.conn.last = [] ∧ c.connCtxDone s then
    some (c.setSlot j { s with read := none })
  else none

def copyStep (c : Client) (j : Nat) : Option Client := do
  let s ← c.slots[j]?
  let n ← s.read
  if s.conn.last = [] then none
  else some (c.setSlot j { s with conn := { s.conn with last := s.conn.last.drop n }, read := none })

/-! ## The client -/

def step (c : Client) : Action → Option (Client × List VFrame)
  | .connect host port => some (c.allocate host port, [])
  | .call j => callStep c j
  | .callDone j => callDoneStep c j
  | .frame f => if c.loop = .reading then some (c.setLoop (.dispatch f), []) else none
  | .relayLost => if c.loop = .reading then some ({ c with ctxDone := true, loop := .cancel }, []) else none
  | .loop => (loopStep c).map fun c => (c, [])
  | .visit j =>
    match c.loop with
    | .shutting rest =>
      if j ∈ rest then some (c.setLoop (.shuttingOne j .enter (rest.erase j)), []) else none
    | _ => none
  | .close j => if c.usable j then some ({ c with tasks := c.tasks ++ [.closeRemove j] }, []) else none
  | .write j p => if c.usable j then some ({ c with tasks := c.tasks ++ [.writeCheck j p] }, []) else none
  | .task i => taskStep c i
  | .taskDone i => (taskDoneStep c i).map fun c => (c, [])
  | .read j n => do
    let s ← c.slots[j]?
    if c.usable j ∧ s.read = none then some (c.setSlot j { s with read := some n }, []) else none
  | .recv j => (recvStep c j).map fun c => (c, [])
  | .readDone j => (readDoneStep c j).map fun c => (c, [])
  | .copy j => (copyStep c j).map fun c => (c, [])
  | .heartbeat => some (c, [⟨cmdPing, 0, []⟩])
  | .cancelled => some ({ c with ctxDone := true }, [])

/-! ## What a step can do -/

/-- The transitions of the client one by one. -/
inductive Steps (c : Client) : Action → Client → List VFrame → Prop where
  | connect (host : Bytes) (port : UInt16) : Steps c (.connect host port) (c.allocate host port) []
  | callSend {j : Nat} {s : Slot} (slot : c.slots[j]? = some s) (call : s.call = .send) :
    Steps c (.call j) (c.setSlot j { s with call := .wait })
      [⟨cmdConnect, s.conn.id, connectPayload s.host s.port⟩]
  | callOk {j : Nat} {s : Slot} (slot : c.slots[j]? = some s) (call : s.call = .wait)
    (result : s.conn.connResult = some none) :
    Steps c (.call j)
      (c.setSlot j { s with conn := { s.conn with connResult := none }, call := .ok }) []
  | callErr {j : Nat} {s : Slot} {err : ConnErr} (slot : c.slots[j]? = some s)
    (call : s.call = .wait) (result : s.conn.connResult = some (some err)) :
    Steps c (.call j)
      (c.setSlot j { s with
        conn := { s.conn with connResult := none }
        call := .remove (.ack err) }) []
  | callRemove {j : Nat} {s : Slot} {err : CallErr} (slot : c.slots[j]? = some s)
    (call : s.call = .remove err) :
    Steps c (.call j)
      ((c.removeConn s.conn.id).setSlot j { s with call := .shutdown err .enter }) []
  | callShutdown {j : Nat} {s : Slot} {err : CallErr} {pc : ShutPc} {conn : ProxyConn}
    {next : Option ShutPc} (slot : c.slots[j]? = some s) (call : s.call = .shutdown err pc)
    (shut : s.conn.shutdown pc = some (conn, next)) :
    Steps c (.call j)
      (c.setSlot j { s with
        conn
        call := callNext err next }) []
  | callSendDone {j : Nat} {s : Slot} (slot : c.slots[j]? = some s) (call : s.call = .send)
    (ctx : c.ctxDone = true) : Steps c (.callDone j) (c.setSlot j { s with call := .wait }) []
  | callWaitDone {j : Nat} {s : Slot} (slot : c.slots[j]? = some s) (call : s.call = .wait)
    (ctx : c.ctxDone = true) :
    Steps c (.callDone j) (c.setSlot j { s with call := .remove .cancelled }) []
  | frame (f : VFrame) (loop : c.loop = .reading) :
    Steps c (.frame f) (c.setLoop (.dispatch f)) []
  | relayLost (loop : c.loop = .reading) :
    Steps c .relayLost { c with ctxDone := true, loop := .cancel } []
  | top (loop : c.loop = .top) :
    Steps c .loop (c.setLoop (if c.ctxDone then .cancel else .reading)) []
  | dispatch {f : VFrame} (loop : c.loop = .dispatch f) :
    Steps c .loop (c.setLoop (c.dispatch f)) []
  | ack {j : Nat} {err : Option ConnErr} {s : Slot} (loop : c.loop = .ack j err)
    (slot : c.slots[j]? = some s) :
    Steps c .loop ((c.setSlot j { s with conn := { s.conn with connResult :=
      match s.conn.connResult with | none => some err | some r => some r } }).setLoop .top) []
  | check {j : Nat} {data : Bytes} {s : Slot} (loop : c.loop = .check j data)
    (slot : c.slots[j]? = some s) :
    Steps c .loop (c.setLoop (if c.connCtxDone s then .top else .send j data)) []
  | send {j : Nat} {data : Bytes} {s : Slot} (loop : c.loop = .send j data)
    (slot : c.slots[j]? = some s) :
    Steps c .loop ((c.setSlot j { s with conn := s.conn.deliver data }).setLoop .top) []
  | remove {j : Nat} {id : UInt32} (loop : c.loop = .remove j id) :
    Steps c .loop ((c.removeConn id).setLoop (.shutdown j .enter)) []
  | shutdown {j : Nat} {pc : ShutPc} {s : Slot} {conn : ProxyConn} {next : Option ShutPc}
    (loop : c.loop = .shutdown j pc) (slot : c.slots[j]? = some s)
    (shut : s.conn.shutdown pc = some (conn, next)) :
    Steps c .loop ((c.setSlot j { s with conn }).setLoop (loopNext j next)) []
  | cancel (loop : c.loop = .cancel) :
    Steps c .loop { c with ctxDone := true, loop := .shutdownAll } []
  | shutdownAll {rest : List Nat} (loop : c.loop = .shutdownAll) :
    Steps c .loop { c with conns := fun _ => none, loop := .shutting rest } []
  | shuttingOne {j : Nat} {pc : ShutPc} {rest : List Nat} {s : Slot} {conn : ProxyConn}
    {next : Option ShutPc} (loop : c.loop = .shuttingOne j pc rest) (slot : c.slots[j]? = some s)
    (shut : s.conn.shutdown pc = some (conn, next)) :
    Steps c .loop ((c.setSlot j { s with conn }).setLoop (visitNext j rest next)) []
  | exit (loop : c.loop = .shutting []) : Steps c .loop (c.setLoop .exited) []
  | visit {j : Nat} {rest : List Nat} (loop : c.loop = .shutting rest) (mem : j ∈ rest) :
    Steps c (.visit j) (c.setLoop (.shuttingOne j .enter (rest.erase j))) []
  | close {j : Nat} {s : Slot} (slot : c.slots[j]? = some s) (call : s.call = .ok) :
    Steps c (.close j) { c with tasks := c.tasks ++ [.closeRemove j] } []
  | write {j : Nat} {s : Slot} (p : Bytes) (slot : c.slots[j]? = some s) (call : s.call = .ok) :
    Steps c (.write j p) { c with tasks := c.tasks ++ [.writeCheck j p] } []
  | taskRemove {i j : Nat} {s : Slot} (task : c.tasks[i]? = some (.closeRemove j))
    (slot : c.slots[j]? = some s) :
    Steps c (.task i) ((c.removeConn s.conn.id).setTask i (.closeShutdown j .enter)) []
  | taskShutdown {i j : Nat} {pc : ShutPc} {s : Slot} {conn : ProxyConn} {next : Option ShutPc}
    (task : c.tasks[i]? = some (.closeShutdown j pc)) (slot : c.slots[j]? = some s)
    (shut : s.conn.shutdown pc = some (conn, next)) :
    Steps c (.task i) ((c.setSlot j { s with conn }).setTask i
      (closeNext j next)) []
  | taskClose {i j : Nat} {s : Slot} (task : c.tasks[i]? = some (.closeSend j))
    (slot : c.slots[j]? = some s) :
    Steps c (.task i) (c.setTask i .returned) [⟨cmdClose, s.conn.id, []⟩]
  | taskCheck {i j : Nat} {p : Bytes} {s : Slot} (task : c.tasks[i]? = some (.writeCheck j p))
    (slot : c.slots[j]? = some s) :
    Steps c (.task i) (c.setTask i (if c.connCtxDone s then .returned else .writeSend j p)) []
  | taskWrite {i j : Nat} {p : Bytes} {s : Slot} (task : c.tasks[i]? = some (.writeSend j p))
    (slot : c.slots[j]? = some s) :
    Steps c (.task i) ((c.setSlot j { s with written := s.written ++ [p] }).setTask i .returned)
      [⟨cmdData, s.conn.id, p⟩]
  | taskDone {i : Nat} (ctx : c.ctxDone = true) : Steps c (.taskDone i) (c.setTask i .returned) []
  | read {j : Nat} {s : Slot} (n : Nat) (slot : c.slots[j]? = some s) :
    Steps c (.read j n) (c.setSlot j { s with read := some n }) []
  | recv {j : Nat} {s : Slot} {data : Bytes} {recvCh : List Bytes} (slot : c.slots[j]? = some s)
    (queue : s.conn.recvCh = data :: recvCh) :
    Steps c (.recv j)
      (c.setSlot j { s with conn := { s.conn with recvCh, last := data }, got := s.got ++ [data] }) []
  | eof {j : Nat} {s : Slot} (a : Action) (slot : c.slots[j]? = some s)
    (ended : a = .recv j ∨ a = .readDone j) :
    Steps c a (c.setSlot j { s with read := none }) []
  | copy {j : Nat} {s : Slot} (rest : Bytes) (slot : c.slots[j]? = some s) :
    Steps c (.copy j) (c.setSlot j { s with conn := { s.conn with last := rest }, read := none }) []
  | heartbeat : Steps c .heartbeat c [⟨cmdPing, 0, []⟩]
  | cancelled : Steps c .cancelled { c with ctxDone := true } []

theorem shutdownConn_some {c c' : Client} {j : Nat} {pc : ShutPc} {next : Option ShutPc}
    (h : c.shutdownConn j pc = some (c', next)) :
    ∃ s conn, c.slots[j]? = some s ∧ s.conn.shutdown pc = some (conn, next) ∧
      c' = c.setSlot j { s with conn } := by
  simp only [shutdownConn, Option.bind_eq_bind, Option.bind_eq_some_iff] at h
  obtain ⟨s, slot, ⟨conn, next'⟩, shut, heq⟩ := h
  obtain ⟨rfl, rfl⟩ : _ ∧ _ := by simpa using heq
  exact ⟨s, conn, slot, shut, rfl⟩

theorem usable_iff {c : Client} {j : Nat} :
    c.usable j = true ↔ ∃ s, c.slots[j]? = some s ∧ s.call = .ok := by
  unfold usable
  cases h : c.slots[j]? <;> simp

theorem callStep_steps {c c' : Client} {j : Nat} {out : List VFrame}
    (h : callStep c j = some (c', out)) : Steps c (.call j) c' out := by
  simp only [callStep, Option.bind_eq_bind, Option.bind_eq_some_iff] at h
  obtain ⟨s, slot, h⟩ := h
  cases call : s.call with
  | send =>
    obtain ⟨rfl, rfl⟩ : _ ∧ _ := by simpa [call] using h
    exact .callSend slot call
  | wait =>
    simp only [call] at h
    split at h
    · simp at h
    · obtain ⟨rfl, rfl⟩ : _ ∧ _ := by simpa using h
      exact .callOk slot call ‹_›
    · obtain ⟨rfl, rfl⟩ : _ ∧ _ := by simpa using h
      exact .callErr slot call ‹_›
  | remove err =>
    obtain ⟨rfl, rfl⟩ : _ ∧ _ := by simpa [call] using h
    exact .callRemove slot call
  | shutdown err pc =>
    simp only [call, Option.map_eq_some_iff] at h
    obtain ⟨⟨conn, next⟩, shut, heq⟩ := h
    obtain ⟨rfl, rfl⟩ : _ ∧ _ := by simpa using heq
    exact .callShutdown slot call shut
  | ok | failed => simp [call] at h

theorem loopStep_steps {c c' : Client} (h : loopStep c = some c') : Steps c .loop c' [] := by
  unfold loopStep at h
  cases loop : c.loop with
  | top =>
    obtain rfl := by simpa [loop] using h
    exact .top loop
  | dispatch f =>
    obtain rfl := by simpa [loop] using h
    exact .dispatch loop
  | ack j err =>
    simp only [loop, Option.bind_eq_bind, Option.bind_eq_some_iff] at h
    obtain ⟨s, slot, h⟩ := h
    obtain rfl := Option.some.inj h
    exact .ack loop slot
  | check j data =>
    simp only [loop, Option.bind_eq_bind, Option.bind_eq_some_iff] at h
    obtain ⟨s, slot, h⟩ := h
    obtain rfl := Option.some.inj h
    exact .check loop slot
  | send j data =>
    simp only [loop, Option.bind_eq_bind, Option.bind_eq_some_iff] at h
    obtain ⟨s, slot, h⟩ := h
    obtain rfl := Option.some.inj h
    exact .send loop slot
  | remove j id =>
    obtain rfl := by simpa [loop] using h
    exact .remove loop
  | shutdown j pc =>
    simp only [loop, Option.bind_eq_bind, Option.bind_eq_some_iff] at h
    obtain ⟨⟨c₁, next⟩, hshut, h⟩ := h
    obtain ⟨s, conn, slot, shut, rfl⟩ := shutdownConn_some hshut
    obtain rfl := Option.some.inj h
    exact .shutdown loop slot shut
  | cancel =>
    obtain rfl := by simpa [loop] using h
    exact .cancel loop
  | shutdownAll =>
    simp only [loop, Option.some.injEq] at h
    subst h
    exact .shutdownAll loop
  | shuttingOne j pc rest =>
    simp only [loop, Option.bind_eq_bind, Option.bind_eq_some_iff] at h
    obtain ⟨⟨c₁, next⟩, hshut, h⟩ := h
    obtain ⟨s, conn, slot, shut, rfl⟩ := shutdownConn_some hshut
    obtain rfl := Option.some.inj h
    exact .shuttingOne loop slot shut
  | shutting rest =>
    cases rest with
    | nil =>
      obtain rfl := by simpa [loop] using h
      exact .exit loop
    | cons j rest => simp [loop] at h
  | reading | exited => simp [loop] at h

theorem taskStep_steps {c c' : Client} {i : Nat} {out : List VFrame}
    (h : taskStep c i = some (c', out)) : Steps c (.task i) c' out := by
  simp only [taskStep, Option.bind_eq_bind, Option.bind_eq_some_iff] at h
  obtain ⟨t, task, h⟩ := h
  cases t with
  | closeRemove j =>
    obtain ⟨s, slot, h⟩ := Option.bind_eq_some_iff.mp h
    obtain ⟨rfl, rfl⟩ : _ ∧ _ := by simpa using h
    exact .taskRemove task slot
  | closeShutdown j pc =>
    obtain ⟨⟨c₁, next⟩, hshut, h⟩ := Option.bind_eq_some_iff.mp h
    obtain ⟨s, conn, slot, shut, rfl⟩ := shutdownConn_some hshut
    obtain ⟨rfl, rfl⟩ : _ ∧ _ := by simpa using h
    exact .taskShutdown task slot shut
  | closeSend j =>
    obtain ⟨s, slot, h⟩ := Option.bind_eq_some_iff.mp h
    obtain ⟨rfl, rfl⟩ : _ ∧ _ := by simpa using h
    exact .taskClose task slot
  | writeCheck j p =>
    obtain ⟨s, slot, h⟩ := Option.bind_eq_some_iff.mp h
    obtain ⟨rfl, rfl⟩ : _ ∧ _ := by simpa using h
    exact .taskCheck task slot
  | writeSend j p =>
    obtain ⟨s, slot, h⟩ := Option.bind_eq_some_iff.mp h
    obtain ⟨rfl, rfl⟩ : _ ∧ _ := by simpa using h
    exact .taskWrite task slot
  | returned => simp at h

/-- Every step is one of the transitions. -/
theorem step_steps {c c' : Client} {a : Action} {out : List VFrame}
    (h : step c a = some (c', out)) : Steps c a c' out := by
  cases a with
  | connect host port =>
    obtain ⟨rfl, rfl⟩ : _ ∧ _ := by simpa [step] using h
    exact .connect host port
  | call j => exact callStep_steps h
  | callDone j =>
    simp only [step, callDoneStep, Option.bind_eq_bind, Option.bind_eq_some_iff] at h
    obtain ⟨s, slot, h⟩ := h
    split at h
    case isFalse => simp at h
    case isTrue ctx =>
      cases call : s.call <;> simp only [call, reduceCtorEq] at h <;>
        obtain ⟨rfl, rfl⟩ : _ ∧ _ := by simpa using h
      · exact .callSendDone slot call ctx
      · exact .callWaitDone slot call ctx
  | frame f =>
    simp only [step] at h
    split at h
    · obtain ⟨rfl, rfl⟩ : _ ∧ _ := by simpa using h
      exact .frame f ‹_›
    · simp at h
  | relayLost =>
    simp only [step] at h
    split at h
    · obtain ⟨rfl, rfl⟩ : _ ∧ _ := by simpa using h
      exact .relayLost ‹_›
    · simp at h
  | loop =>
    obtain ⟨c₁, hloop, heq⟩ := Option.map_eq_some_iff.mp h
    obtain ⟨rfl, rfl⟩ : _ ∧ _ := by simpa using heq
    exact loopStep_steps hloop
  | visit j =>
    simp only [step] at h
    split at h
    case h_1 rest loop =>
      split at h
      · obtain ⟨rfl, rfl⟩ : _ ∧ _ := by simpa using h
        exact .visit loop ‹_›
      · simp at h
    case h_2 => simp at h
  | close j =>
    simp only [step] at h
    split at h
    · obtain ⟨rfl, rfl⟩ : _ ∧ _ := by simpa using h
      obtain ⟨s, slot, call⟩ := usable_iff.mp ‹_›
      exact .close slot call
    · simp at h
  | write j p =>
    simp only [step] at h
    split at h
    · obtain ⟨rfl, rfl⟩ : _ ∧ _ := by simpa using h
      obtain ⟨s, slot, call⟩ := usable_iff.mp ‹_›
      exact .write p slot call
    · simp at h
  | task i => exact taskStep_steps h
  | taskDone i =>
    obtain ⟨c₁, hdone, heq⟩ := Option.map_eq_some_iff.mp h
    obtain ⟨rfl, rfl⟩ : _ ∧ _ := by simpa using heq
    simp only [taskDoneStep, Option.bind_eq_bind, Option.bind_eq_some_iff] at hdone
    obtain ⟨t, task, hdone⟩ := hdone
    split at hdone
    case isFalse => simp at hdone
    case isTrue ctx =>
      cases t <;> simp only [reduceCtorEq] at hdone <;> obtain rfl := Option.some.inj hdone
      all_goals exact .taskDone ctx
  | read j n =>
    simp only [step, Option.bind_eq_bind, Option.bind_eq_some_iff] at h
    obtain ⟨s, slot, h⟩ := h
    split at h
    · obtain ⟨rfl, rfl⟩ : _ ∧ _ := by simpa using h
      exact .read n slot
    · simp at h
  | recv j =>
    obtain ⟨c₁, hrecv, heq⟩ := Option.map_eq_some_iff.mp h
    obtain ⟨rfl, rfl⟩ : _ ∧ _ := by simpa using heq
    simp only [recvStep, Option.bind_eq_bind, Option.bind_eq_some_iff] at hrecv
    obtain ⟨s, slot, hrecv⟩ := hrecv
    split at hrecv
    case isFalse => simp at hrecv
    case isTrue =>
      split at hrecv
      case h_1 data recvCh queue =>
        obtain rfl := Option.some.inj hrecv
        exact .recv slot queue
      case h_2 =>
        split at hrecv
        · obtain rfl := Option.some.inj hrecv
          exact .eof (.recv j) slot (.inl rfl)
        · simp at hrecv
  | readDone j =>
    obtain ⟨c₁, hdone, heq⟩ := Option.map_eq_some_iff.mp h
    obtain ⟨rfl, rfl⟩ : _ ∧ _ := by simpa using heq
    simp only [readDoneStep, Option.bind_eq_bind, Option.bind_eq_some_iff] at hdone
    obtain ⟨s, slot, hdone⟩ := hdone
    split at hdone
    · obtain rfl := Option.some.inj hdone
      exact .eof (.readDone j) slot (.inr rfl)
    · simp at hdone
  | copy j =>
    obtain ⟨c₁, hcopy, heq⟩ := Option.map_eq_some_iff.mp h
    obtain ⟨rfl, rfl⟩ : _ ∧ _ := by simpa using heq
    simp only [copyStep, Option.bind_eq_bind, Option.bind_eq_some_iff] at hcopy
    obtain ⟨s, slot, n, -, hcopy⟩ := hcopy
    split at hcopy
    · simp at hcopy
    · obtain rfl := Option.some.inj hcopy
      exact .copy _ slot
  | heartbeat =>
    obtain ⟨rfl, rfl⟩ : _ ∧ _ := by simpa [step] using h
    exact .heartbeat
  | cancelled =>
    obtain ⟨rfl, rfl⟩ : _ ∧ _ := by simpa [step] using h
    exact .cancelled

end Client

end EspNetwork.Ctrl
