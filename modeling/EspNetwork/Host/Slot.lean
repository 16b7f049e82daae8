import Mathlib
import EspNetwork.Host.RelayConn
import EspNetwork.Host.Send

/-!
# The relay slot of the host

`relayConn` of `ctrl/device/device.go` and the goroutines that meet there: `TCPConnect` installs
a connection in it once `Send` has returned the OK of the device, `dispatchPush` of the serial
reader looks it up for every push, `TCPConn.Close` and `Device.Close` empty it. Responses and
pushes arrive in one order. Every critical section on `relayMu` and every operation on a channel
is one step. For the record the slot keeps the pushes that were dispatched, and what came of
them.
-/

namespace EspNetwork.Host

open Serial (Byte Bytes Frame)
open Schedule

def cmdProxyConnect : Byte := 0x20
def cmdProxyDisconnect : Byte := 0x22
def statusOk : Byte := 0x00
def statusBusy : Byte := 0x02
def maxHostLen : Nat := 253

/-- `TCPConn`. -/
structure TCPConn where
  recvCh : List Bytes
  closed : Bool
  /-- The payloads `dispatchPush` found this connection for, and those `Read` has returned. -/
  pushes : List Bytes
  reads : List Bytes
  /-- `Read` has returned `io.EOF`. -/
  eof : Bool
  /-- The host has closed the connection or replaced it. -/
  released : Bool
  /-- How many pushes had been dispatched when the OK of the device was handed over. -/
  since : Nat
  deriving DecidableEq, Repr

def TCPConn.shutdown (c : TCPConn) : TCPConn := { c with closed := true }

/-- The host gives a connection up. -/
def TCPConn.release (c : TCPConn) : TCPConn := { c with closed := true, released := true }

/-- What the device has sent: the next response, or a push. -/
inductive Incoming where
  | response
  | push (f : Frame)
  deriving DecidableEq, Repr

/-- Where the reader stands in `dispatchPush`. -/
inductive PushPc where
  | idle
  | sending (k : Nat) (data : Bytes)
  | shutting (k : Nat)
  deriving DecidableEq, Repr

/-- Where `TCPConnect` stands; `j` is its current call of `Send`. -/
inductive ConnectPc where
  | connect (j : Nat)
  | disconnect (j : Nat)
  | retry (j : Nat)
  | install (j : Nat)
  | returned (conn : Option Nat)
  deriving DecidableEq, Repr

structure Connect where
  payload : Bytes
  pc : ConnectPc
  deriving DecidableEq, Repr

/-- Where `TCPConn.Close` stands after `shutdown`. -/
inductive CloseConnPc where
  | clear
  | send
  | sent
  deriving DecidableEq, Repr

structure CloseConn where
  conn : Nat
  pc : CloseConnPc
  deriving DecidableEq, Repr

structure Slot where
  dev : Device
  incoming : List Incoming
  reader : PushPc
  relayConn : Option Nat
  conns : List TCPConn
  connects : List Connect
  closes : List CloseConn
  /-- `Device.Close` is past its wait for the reader. -/
  waking : Bool
  /-- A send on a closed channel has ended the process. -/
  crashed : Bool
  /-- The pushes dispatched, and how many of them came before the response to a call. -/
  log : List Frame
  handed : Nat → Nat

inductive SlotAction where
  /-- A call of `Send`, the reader with a response, the device, or `Device.Close`. -/
  | dev (a : SendAction)
  | push (f : Frame)
  /-- `dispatchPush` up to the end of its critical section, and what follows. -/
  | dispatch
  | dispatched
  | tcpConnect (host : Bytes) (port : UInt16)
  | connect (i : Nat)
  | read (k : Nat)
  | close (k : Nat)
  | closing (i : Nat)
  /-- The last critical section of `Device.Close`. -/
  | wake
  deriving DecidableEq, Repr

namespace Slot

def new : Slot where
  dev := .new
  incoming := []
  reader := .idle
  relayConn := none
  conns := []
  connects := []
  closes := []
  waking := false
  crashed := false
  log := []
  handed _ := 0

def update (s : Slot) (k : Nat) (f : TCPConn → TCPConn) : Slot := { s with conns := s.conns.modify k f }

/-! ## `dispatchPush` -/

/-- The lookup of `relayConn`. -/
def dispatchPush (s : Slot) (f : Frame) : Slot :=
  let s := { s with log := s.log ++ [f] }
  if f.cmd = cmdProxyDataPush then
    match s.relayConn with
    | some k =>
      if 0 < f.payload.length then
        { s.update k fun c => { c with pushes := c.pushes ++ [f.payload] } with
          reader := .sending k f.payload }
      else s
    | none => s
  else if f.cmd = cmdProxyClosedPush then
    match s.relayConn with
    | some k => { s with relayConn := none, reader := .shutting k }
    | none => s
  else s

/-- The select on `recvCh`, or the shutdown. -/
def dispatched (s : Slot) : Option Slot :=
  match s.reader with
  | .idle => none
  | .sending k data => do
    let c ← s.conns[k]?
    if c.closed then return { s with crashed := true }
    if c.recvCh.length < recvChCap then
      return { s.update k fun c => { c with recvCh := c.recvCh ++ [data] } with reader := .idle }
    return { s with reader := .idle }
  | .shutting k => some { s.update k TCPConn.shutdown with reader := .idle }

/-! ## `TCPConnect` -/

def tcpConnectPayload (host : Bytes) (port : UInt16) : Bytes :=
  UInt8.ofNat host.length :: host ++ [(port >>> 8).toUInt8, port.toUInt8]

/-- `Send` is called; its number is the second component. -/
def call (s : Slot) (cmd : Byte) (payload : Bytes) : Option (Slot × Nat) :=
  (s.dev.step (.send cmd payload)).map fun dev => ({ s with dev }, s.dev.calls.length)

def setConnect (s : Slot) (i : Nat) (c : Connect) : Slot := { s with connects := s.connects.set i c }

/-- The call of `Send` that `TCPConnect` waits for has returned. -/
def result (s : Slot) (j : Nat) : Option SendResult :=
  match (s.dev.calls[j]?).map SendCall.pc with
  | some (.returned result) => some result
  | _ => none

/-- A previous connection is shut down. -/
def evicted (s : Slot) : List TCPConn :=
  match s.relayConn with
  | some k => s.conns.modify k TCPConn.release
  | none => s.conns

/-- The critical section of `TCPConnect`. -/
def install (s : Slot) (i : Nat) (c : Connect) (j : Nat) : Slot :=
  { s.setConnect i { c with pc := .returned (some s.conns.length) } with
    conns := s.evicted ++ [⟨[], false, [], [], false, false, s.handed j⟩]
    relayConn := some s.conns.length }

def advanceConnect (s : Slot) (i : Nat) : Option Slot := do
  let c ← s.connects[i]?
  match c.pc with
  | .connect j =>
    match ← result s j with
    | .response r =>
      if r.frame.status = statusBusy then
        let (s, j) ← s.call cmdProxyDisconnect []
        return s.setConnect i { c with pc := .disconnect j }
      if r.frame.status = statusOk then return s.setConnect i { c with pc := .install j }
      return s.setConnect i { c with pc := .returned none }
    | _ => return s.setConnect i { c with pc := .returned none }
  | .disconnect j =>
    let _ ← result s j
    let (s, j) ← s.call cmdProxyConnect c.payload
    return s.setConnect i { c with pc := .retry j }
  | .retry j =>
    match ← result s j with
    | .response r =>
      if r.frame.status = statusOk then return s.setConnect i { c with pc := .install j }
      return s.setConnect i { c with pc := .returned none }
    | _ => return s.setConnect i { c with pc := .returned none }
  | .install j => return s.install i c j
  | .returned _ => none

/-! ## Steps -/

/-- A step of `Send`, of the reader or of the device. -/
def devStep (s : Slot) (a : SendAction) : Option Slot := do
  let dev ← s.dev.step a
  match a with
  | .answer .. => return { s with dev, incoming := s.incoming ++ [.response] }
  | .lookup =>
    match s.reader, s.incoming with
    | .idle, .response :: incoming => return { s with dev, incoming }
    | _, _ => none
  | .deliver =>
    match s.dev.reader with
    | .deliver j _ => return { s with dev, handed := Function.update s.handed j s.log.length }
    | _ => none
  | .readerExit => if s.reader = .idle then return { s with dev } else none
  | .drain => return { s with dev, waking := true }
  | _ => return { s with dev }

def read (s : Slot) (k : Nat) : Option Slot := do
  let c ← s.conns[k]?
  match c.recvCh with
  | data :: recvCh => return s.update k fun c => { c with recvCh, reads := c.reads ++ [data] }
  | [] => if c.closed then return s.update k fun c => { c with eof := true } else none

/-- `TCPConn.Close` after its `shutdown`. -/
def advanceClose (s : Slot) (i : Nat) : Option Slot := do
  let c ← s.closes[i]?
  match c.pc with
  | .clear =>
    return { s with
      relayConn := if s.relayConn = some c.conn then none else s.relayConn
      closes := s.closes.set i { c with pc := .send } }
  | .send =>
    let (s, _) ← s.call cmdProxyDisconnect []
    return { s with closes := s.closes.set i { c with pc := .sent } }
  | .sent => none

def step (s : Slot) (a : SlotAction) : Option Slot :=
  if s.crashed then none
  else match a with
  | .dev a => s.devStep a
  | .push f => if f.isResp then none else some { s with incoming := s.incoming ++ [.push f] }
  | .dispatch =>
    match s.reader, s.dev.reader, s.incoming with
    | .idle, .idle, .push f :: incoming => some ({ s with incoming }.dispatchPush f)
    | _, _, _ => none
  | .dispatched => s.dispatched
  | .tcpConnect host port =>
    if maxHostLen < host.length then some { s with connects := s.connects ++ [⟨[], .returned none⟩] }
    else (s.call cmdProxyConnect (tcpConnectPayload host port)).map fun (s, j) =>
      { s with connects := s.connects ++ [⟨tcpConnectPayload host port, .connect j⟩] }
  | .connect i => s.advanceConnect i
  | .read k => s.read k
  | .close k =>
    if k < s.conns.length then
      some { s.update k TCPConn.release with closes := s.closes ++ [⟨k, .clear⟩] }
    else none
  | .closing i => s.advanceClose i
  | .wake =>
    if s.waking then
      match s.relayConn with
      | some k => some { s.update k TCPConn.release with relayConn := none, waking := false }
      | none => some { s with waking := false }
    else none

/-! ## What a step can do -/

/-- The transitions one by one, as far as the slot is concerned. -/
inductive Moves (s : Slot) : SlotAction → Slot → Prop where
  | dev {a : SendAction} {dev : Device} {incoming : List Incoming} (waking : Bool)
    (taken : s.dev.step a = some dev) (other : a ≠ .deliver)
    (pushes : ∀ f, .push f ∈ incoming → .push f ∈ s.incoming) :
    Moves s (.dev a) { s with dev, incoming, waking }
  | deliver {j : Nat} {r : Response} {dev : Device} (reader : s.dev.reader = .deliver j r)
    (taken : s.dev.step .deliver = some dev) :
    Moves s (.dev .deliver) { s with dev, handed := Function.update s.handed j s.log.length }
  | push {f : Frame} (unsolicited : f.isResp = false) :
    Moves s (.push f) { s with incoming := s.incoming ++ [.push f] }
  | dataPush {f : Frame} {incoming : List Incoming} {k : Nat} (reader : s.reader = .idle)
    (next : s.incoming = .push f :: incoming) (data : f.cmd = cmdProxyDataPush)
    (up : s.relayConn = some k) (filled : 0 < f.payload.length) :
    Moves s .dispatch { s.update k fun c => { c with pushes := c.pushes ++ [f.payload] } with
      incoming
      log := s.log ++ [f]
      reader := .sending k f.payload }
  | closedPush {f : Frame} {incoming : List Incoming} {k : Nat} (reader : s.reader = .idle)
    (next : s.incoming = .push f :: incoming) (closes : f.cmd = cmdProxyClosedPush)
    (up : s.relayConn = some k) :
    Moves s .dispatch { s with
      incoming
      log := s.log ++ [f]
      relayConn := none
      reader := .shutting k }
  | ignored {f : Frame} {incoming : List Incoming} (reader : s.reader = .idle)
    (next : s.incoming = .push f :: incoming)
    (data : f.cmd = cmdProxyDataPush → s.relayConn = none ∨ ¬ 0 < f.payload.length)
    (closes : f.cmd = cmdProxyClosedPush → s.relayConn = none) :
    Moves s .dispatch { s with incoming, log := s.log ++ [f] }
  | crash {k : Nat} {data : Bytes} {c : TCPConn} (reader : s.reader = .sending k data)
    (conn : s.conns[k]? = some c) (closed : c.closed = true) :
    Moves s .dispatched { s with crashed := true }
  | sent {k : Nat} {data : Bytes} (reader : s.reader = .sending k data) :
    Moves s .dispatched
      { s.update k fun c => { c with recvCh := c.recvCh ++ [data] } with reader := .idle }
  | dropped {k : Nat} {data : Bytes} {c : TCPConn} (reader : s.reader = .sending k data)
    (conn : s.conns[k]? = some c) (full : ¬ c.recvCh.length < recvChCap) :
    Moves s .dispatched { s with reader := .idle }
  | shut {k : Nat} (reader : s.reader = .shutting k) :
    Moves s .dispatched { s.update k TCPConn.shutdown with reader := .idle }
  | begin (a : SlotAction) {dev : Device} (c : Connect)
    (calls : dev = s.dev ∨ ∃ cmd payload, s.dev.step (.send cmd payload) = some dev)
    (waits : c.pc = .returned none ∨ c.pc = .connect s.dev.calls.length) :
    Moves s a { s with dev, connects := s.connects ++ [c] }
  | goOn {i : Nat} {c c' : Connect} {dev : Device} (connect : s.connects[i]? = some c)
    (calls : dev = s.dev ∨ ∃ cmd payload, s.dev.step (.send cmd payload) = some dev)
    (waits : c'.pc = .returned none ∨ c'.pc = .disconnect s.dev.calls.length ∨
      c'.pc = .retry s.dev.calls.length) :
    Moves s (.connect i) { s with dev, connects := s.connects.set i c' }
  | accepted {i j : Nat} {c : Connect} {r : Response} (connect : s.connects[i]? = some c)
    (pc : c.pc = .connect j ∨ c.pc = .retry j) (returned : s.result j = some (.response r))
    (ok : r.frame.status = statusOk) :
    Moves s (.connect i) (s.setConnect i { c with pc := .install j })
  | install {i j : Nat} {c : Connect} (connect : s.connects[i]? = some c) (pc : c.pc = .install j) :
    Moves s (.connect i) (s.install i c j)
  | read {k : Nat} {c : TCPConn} {data : Bytes} {recvCh : List Bytes} (conn : s.conns[k]? = some c)
    (queue : c.recvCh = data :: recvCh) :
    Moves s (.read k) (s.update k fun c => { c with recvCh, reads := c.reads ++ [data] })
  | eof {k : Nat} : Moves s (.read k) (s.update k fun c => { c with eof := true })
  | close {k : Nat} (known : k < s.conns.length) :
    Moves s (.close k) { s.update k TCPConn.release with closes := s.closes ++ [⟨k, .clear⟩] }
  | clear {i : Nat} {c : CloseConn} (close : s.closes[i]? = some c) :
    Moves s (.closing i) { s with
      relayConn := if s.relayConn = some c.conn then none else s.relayConn
      closes := s.closes.set i { c with pc := .send } }
  | closeSend {i : Nat} {c : CloseConn} {dev : Device} {cmd : Byte} {payload : Bytes}
    (close : s.closes[i]? = some c) (taken : s.dev.step (.send cmd payload) = some dev) :
    Moves s (.closing i) { s with dev, closes := s.closes.set i { c with pc := .sent } }
  | wake {k : Nat} (up : s.relayConn = some k) :
    Moves s .wake { s.update k TCPConn.release with relayConn := none, waking := false }
  | sleep : Moves s .wake { s with waking := false }

theorem devStep_moves {s s' : Slot} {a : SendAction} (h : s.devStep a = some s') :
    Moves s (.dev a) s' := by
  obtain ⟨dev, taken, h⟩ := Option.bind_eq_some_iff.mp h
  cases a with
  | answer =>
    obtain rfl := Option.some.inj h
    exact .dev _ taken (by simp) (by simp)
  | lookup =>
    simp only at h
    split at h
    case h_1 incoming reader next =>
      obtain rfl := Option.some.inj h
      exact .dev _ taken (by simp) (by simp [next])
    case h_2 => simp at h
  | deliver =>
    simp only at h
    split at h
    · obtain rfl := Option.some.inj h
      exact .deliver ‹_› taken
    · simp at h
  | readerExit =>
    simp only at h
    split at h
    · obtain rfl := Option.some.inj h
      exact .dev _ taken (by simp) (fun _ => id)
    · simp at h
  | _ =>
    obtain rfl := Option.some.inj h
    exact .dev _ taken (by simp) (fun _ => id)

theorem dispatchPush_moves {s : Slot} {f : Frame} {incoming : List Incoming}
    (reader : s.reader = .idle) (next : s.incoming = .push f :: incoming) :
    Moves s .dispatch ({ s with incoming }.dispatchPush f) := by
  simp only [dispatchPush]
  by_cases data : f.cmd = cmdProxyDataPush
  · have other : f.cmd ≠ cmdProxyClosedPush := by
      rw [data]
      decide
    cases up : s.relayConn with
    | none =>
      have := Moves.ignored reader next (fun _ => .inl up) (fun _ => up)
      simpa only [up, if_pos data] using this
    | some k =>
      by_cases filled : 0 < f.payload.length
      · have := Moves.dataPush reader next data up filled
        simpa only [up, if_pos data, if_pos filled, update] using this
      · have := Moves.ignored reader next (fun _ => .inr filled) (fun closes => absurd closes other)
        simpa only [up, if_pos data, if_neg filled] using this
  · by_cases closes : f.cmd = cmdProxyClosedPush
    · cases up : s.relayConn with
      | none =>
        have := Moves.ignored reader next (fun _ => .inl up) (fun _ => up)
        simpa only [up, if_neg data, if_pos closes] using this
      | some k =>
        have := Moves.closedPush reader next closes up
        simpa only [up, if_neg data, if_pos closes] using this
    · have := Moves.ignored reader next (fun h => absurd h data) (fun h => absurd h closes)
      simpa only [if_neg data, if_neg closes] using this

theorem dispatched_moves {s s' : Slot} (h : s.dispatched = some s') : Moves s .dispatched s' := by
  unfold dispatched at h
  split at h
  · simp at h
  case h_2 k data reader =>
    obtain ⟨c, conn, h⟩ := Option.bind_eq_some_iff.mp h
    simp only at h
    split_ifs at h with closed room
    · obtain rfl := Option.some.inj h
      exact .crash reader conn closed
    · obtain rfl := Option.some.inj h
      exact .sent reader
    · obtain rfl := Option.some.inj h
      exact .dropped reader conn room
  case h_3 k reader =>
    obtain rfl := Option.some.inj h
    exact .shut reader

theorem call_eq {s s' : Slot} {cmd : Byte} {payload : Bytes} {j : Nat}
    (h : s.call cmd payload = some (s', j)) :
    ∃ dev, s.dev.step (.send cmd payload) = some dev ∧ s' = { s with dev } ∧
      j = s.dev.calls.length := by
  obtain ⟨dev, taken, eq⟩ := Option.map_eq_some_iff.mp h
  obtain ⟨rfl, rfl⟩ := Prod.mk.inj eq
  exact ⟨dev, taken, rfl, rfl⟩

theorem advanceConnect_moves {s s' : Slot} {i : Nat} (h : s.advanceConnect i = some s') :
    Moves s (.connect i) s' := by
  obtain ⟨c, connect, h⟩ := Option.bind_eq_some_iff.mp h
  have fails : ∀ {s' : Slot}, some (s.setConnect i { c with pc := .returned none }) = some s' →
      Moves s (.connect i) s' := by
    intro s' h
    obtain rfl := Option.some.inj h
    exact .goOn connect (.inl rfl) (.inl rfl)
  cases pc : c.pc with
  | connect j =>
    simp only [pc] at h
    obtain ⟨result, returned, h⟩ := Option.bind_eq_some_iff.mp h
    cases result with
    | response r =>
      simp only at h
      split_ifs at h with busy ok
      · obtain ⟨⟨u, j'⟩, called, h⟩ := Option.bind_eq_some_iff.mp h
        obtain ⟨dev, taken, rfl, rfl⟩ := call_eq called
        obtain rfl := Option.some.inj h
        exact .goOn connect (.inr ⟨_, _, taken⟩) (.inr (.inl rfl))
      · obtain rfl := Option.some.inj h
        exact .accepted connect (.inl pc) returned ok
      · exact fails h
    | _ => exact fails h
  | disconnect j =>
    simp only [pc] at h
    obtain ⟨result, -, h⟩ := Option.bind_eq_some_iff.mp h
    obtain ⟨⟨u, j'⟩, called, h⟩ := Option.bind_eq_some_iff.mp h
    obtain ⟨dev, taken, rfl, rfl⟩ := call_eq called
    obtain rfl := Option.some.inj h
    exact .goOn connect (.inr ⟨_, _, taken⟩) (.inr (.inr rfl))
  | retry j =>
    simp only [pc] at h
    obtain ⟨result, returned, h⟩ := Option.bind_eq_some_iff.mp h
    cases result with
    | response r =>
      simp only at h
      split_ifs at h with ok
      · obtain rfl := Option.some.inj h
        exact .accepted connect (.inr pc) returned ok
      · exact fails h
    | _ => exact fails h
  | install j =>
    simp only [pc] at h
    obtain rfl := Option.some.inj h
    exact .install connect pc
  | returned => simp [pc] at h

theorem advanceClose_moves {s s' : Slot} {i : Nat} (h : s.advanceClose i = some s') :
    Moves s (.closing i) s' := by
  obtain ⟨c, close, h⟩ := Option.bind_eq_some_iff.mp h
  cases pc : c.pc with
  | clear =>
    simp only [pc] at h
    obtain rfl := Option.some.inj h
    exact .clear close
  | send =>
    simp only [pc] at h
    obtain ⟨⟨u, j⟩, called, h⟩ := Option.bind_eq_some_iff.mp h
    obtain ⟨dev, taken, rfl, -⟩ := call_eq called
    obtain rfl := Option.some.inj h
    exact .closeSend close taken
  | sent => simp [pc] at h

/-- Every step is one of the transitions. -/
theorem step_moves {s s' : Slot} {a : SlotAction} (h : s.step a = some s') : Moves s a s' := by
  unfold step at h
  split at h
  · simp at h
  cases a with
  | dev a => exact devStep_moves h
  | push f =>
    simp only at h
    split at h
    case isTrue => simp at h
    case isFalse unsolicited =>
      obtain rfl := Option.some.inj h
      exact .push (by simpa using unsolicited)
  | dispatch =>
    simp only at h
    split at h
    · obtain rfl := Option.some.inj h
      exact dispatchPush_moves ‹_› ‹_›
    · simp at h
  | dispatched => exact dispatched_moves h
  | tcpConnect host port =>
    simp only at h
    split at h
    · obtain rfl := Option.some.inj h
      exact .begin _ ⟨[], .returned none⟩ (.inl rfl) (.inl rfl)
    · obtain ⟨⟨u, j⟩, called, h⟩ := Option.map_eq_some_iff.mp h
      obtain ⟨dev, taken, rfl, rfl⟩ := call_eq called
      subst h
      exact .begin _ ⟨_, .connect _⟩ (.inr ⟨_, _, taken⟩) (.inr rfl)
  | connect i => exact advanceConnect_moves h
  | read k =>
    obtain ⟨c, conn, h⟩ := Option.bind_eq_some_iff.mp h
    split at h
    · obtain rfl := Option.some.inj h
      exact .read conn ‹_›
    · split at h
      · obtain rfl := Option.some.inj h
        exact .eof
      · simp at h
  | close k =>
    simp only at h
    split at h
    · obtain rfl := Option.some.inj h
      exact .close ‹_›
    · simp at h
  | closing i => exact advanceClose_moves h
  | wake =>
    simp only at h
    split at h
    · split at h
      · obtain rfl := Option.some.inj h
        exact .wake ‹_›
      · obtain rfl := Option.some.inj h
        exact .sleep
    · simp at h

/-! ## What `Read` returns -/

/-- The payload `dispatchPush` has in its hands for a connection. -/
def inHand (s : Slot) (k : Nat) : List Bytes :=
  match s.reader with
  | .sending i data => if i = k then [data] else []
  | .idle | .shutting _ => []

/-- `dispatchPush` finds room in the channel. -/
def hasRoom (s : Slot) : Bool :=
  match s.reader with
  | .sending k _ => (s.conns[k]?).all fun c => c.recvCh.length < recvChCap
  | .idle | .shutting _ => true

/-- The condition on a step: no push is dropped. -/
def Room (s : Slot) (a : SlotAction) : Prop := a = .dispatched → s.hasRoom = true

instance (s : Slot) (a : SlotAction) : Decidable (Room s a) := inferInstanceAs (Decidable (_ → _))

/-- What `Read` has returned, the channel and the reader's hands make up what was pushed. -/
def Balanced (s : Slot) : Prop :=
  ∀ (k : Nat) (c : TCPConn), s.conns[k]? = some c → c.reads ++ c.recvCh ++ s.inHand k = c.pushes

theorem update_conn (s : Slot) (k : Nat) (f : TCPConn → TCPConn) (i : Nat) :
    (s.update k f).conns[i]? = if i = k then (s.conns[i]?).map f else s.conns[i]? := by
  simp only [update, List.getElem?_modify]
  by_cases same : i = k
  · cases s.conns[i]? <;> simp [same]
  · have other : k ≠ i := Ne.symm same
    cases s.conns[i]? <;> simp [same, other]

theorem of_update_conn {s : Slot} {k i : Nat} {f : TCPConn → TCPConn} {c' : TCPConn}
    (conn' : (s.update k f).conns[i]? = some c') :
    ∃ c, s.conns[i]? = some c ∧ c' = if i = k then f c else c := by
  rw [update_conn] at conn'
  split at conn'
  case isTrue same =>
    obtain ⟨c, conn, rfl⟩ := Option.map_eq_some_iff.mp conn'
    exact ⟨c, conn, by rw [if_pos same]⟩
  case isFalse other => exact ⟨c', conn', by rw [if_neg other]⟩

/-- A step that changes nothing of what the connections carry. -/
theorem Balanced.congr {s s' : Slot} (b : Balanced s) (reader : s'.reader = s.reader)
    (conns : ∀ (k : Nat) (c' : TCPConn), s'.conns[k]? = some c' → ∃ c : TCPConn,
      s.conns[k]? = some c ∧ c'.reads = c.reads ∧ c'.recvCh = c.recvCh ∧ c'.pushes = c.pushes) :
    Balanced s' := by
  intro k c' conn'
  obtain ⟨c, conn, reads, recvCh, pushes⟩ := conns k c' conn'
  rw [reads, recvCh, pushes, inHand, reader]
  exact b k c conn

/-- So does one that only marks a connection. -/
theorem Balanced.mark {s s' : Slot} (b : Balanced s) (reader : s'.reader = s.reader) {k : Nat}
    {f : TCPConn → TCPConn} (conns : s'.conns = (s.update k f).conns)
    (marks : ∀ c, (f c).reads = c.reads ∧ (f c).recvCh = c.recvCh ∧ (f c).pushes = c.pushes) :
    Balanced s' := by
  refine b.congr reader fun i c' conn' => ?_
  rw [conns] at conn'
  obtain ⟨c, conn, rfl⟩ := of_update_conn conn'
  refine ⟨c, conn, ?_⟩
  split
  · exact marks c
  · exact ⟨rfl, rfl, rfl⟩

theorem evicted_conn (s : Slot) (i : Nat) : s.evicted[i]? =
    if s.relayConn = some i then (s.conns[i]?).map TCPConn.release else s.conns[i]? := by
  unfold evicted
  split
  case h_1 k up =>
    have := update_conn s k TCPConn.release i
    simpa [update, up, eq_comm] using this
  case h_2 up => simp [up]

theorem length_evicted (s : Slot) : s.evicted.length = s.conns.length := by
  unfold evicted
  split <;> simp

/-- The new connection, or one of the old ones. -/
theorem install_conn {s : Slot} {i j k : Nat} {c : Connect} {conn : TCPConn}
    (at_k : (s.install i c j).conns[k]? = some conn) :
    (k < s.conns.length ∧ s.evicted[k]? = some conn) ∨
      (k = s.conns.length ∧ conn = ⟨[], false, [], [], false, false, s.handed j⟩) := by
  simp only [install] at at_k
  rcases Nat.lt_trichotomy k s.conns.length with old | rfl | beyond
  · rw [List.getElem?_append_left (by rwa [length_evicted])] at at_k
    exact .inl ⟨old, at_k⟩
  · rw [← length_evicted, List.getElem?_concat_length] at at_k
    exact .inr ⟨rfl, (Option.some.inj at_k).symm⟩
  · rw [List.getElem?_eq_none (by simp [length_evicted]; omega)] at at_k
    cases at_k

/-- The connections the slot and the reader have are there. -/
structure Known (s : Slot) : Prop where
  relayConn : ∀ k, s.relayConn = some k → k < s.conns.length
  sending : ∀ k data, s.reader = .sending k data → k < s.conns.length
  shutting : ∀ k, s.reader = .shutting k → k < s.conns.length

theorem Known.step {s s' : Slot} {a : SlotAction} (known : Known s) (m : Moves s a s') : Known s' := by
  obtain ⟨relayConn, sending, shutting⟩ := known
  cases m with
  | dev | deliver | push | ignored | crash | begin | goOn | accepted | closeSend | sleep =>
    exact ⟨relayConn, sending, shutting⟩
  | dataPush reader next data up =>
    refine ⟨by simpa [update] using relayConn, fun k data sends => ?_, by simp⟩
    obtain ⟨rfl, -⟩ := PushPc.sending.inj sends
    simpa [update] using relayConn _ up
  | closedPush reader next closes up =>
    refine ⟨by simp, by simp, fun k shuts => ?_⟩
    obtain rfl := PushPc.shutting.inj shuts
    exact relayConn _ up
  | sent | dropped | shut => exact ⟨by simpa [update] using relayConn, by simp, by simp⟩
  | install =>
    refine ⟨?_, fun k data sends => ?_, fun k shuts => ?_⟩
    · simp [install, length_evicted]
    · have := sending k data sends
      simp only [install, List.length_append, length_evicted, List.length_singleton]
      omega
    · have := shutting k shuts
      simp only [install, List.length_append, length_evicted, List.length_singleton]
      omega
  | read | eof | close => exact ⟨by simpa [update] using relayConn, by simpa [update] using sending,
      by simpa [update] using shutting⟩
  | clear =>
    refine ⟨fun k up => ?_, sending, shutting⟩
    simp only at up
    split at up
    · cases up
    · exact relayConn k up
  | wake => exact ⟨by simp, by simpa [update] using sending, by simpa [update] using shutting⟩

theorem Balanced.step {s s' : Slot} {a : SlotAction} (b : Balanced s) (known : Known s)
    (room : Room s a) (m : Moves s a s') : Balanced s' := by
  cases m with
  | dev | deliver | push | ignored | crash | begin | goOn | accepted | clear | closeSend | sleep =>
    exact b
  | dataPush reader next data up filled =>
    rename_i f incoming k
    intro i c' conn'
    obtain ⟨c, conn, rfl⟩ := of_update_conn conn'
    have old := b i c conn
    simp only [inHand, reader, List.append_nil] at old
    by_cases same : i = k
    · simp [inHand, same, old]
    · simp [inHand, same, Ne.symm same, old]
  | closedPush reader =>
    intro i c conn
    have old := b i c conn
    simpa [inHand, reader] using old
  | sent reader =>
    rename_i k data
    intro i c' conn'
    obtain ⟨c, conn, rfl⟩ := of_update_conn conn'
    have old := b i c conn
    by_cases same : i = k
    · simpa [inHand, reader, same] using old
    · simpa [inHand, reader, same, Ne.symm same] using old
  | dropped reader conn full =>
    have free := room rfl
    simp only [hasRoom, reader, conn, Option.all_some, decide_eq_true_eq] at free
    exact absurd free full
  | shut reader =>
    intro i c' conn'
    obtain ⟨c, conn, rfl⟩ := of_update_conn conn'
    have old := b i c conn
    split
    · simpa [inHand, reader, TCPConn.shutdown] using old
    · simpa [inHand, reader] using old
  | install =>
    rename_i i j c
    intro k c' conn'
    rcases install_conn conn' with ⟨-, old⟩ | ⟨rfl, rfl⟩
    · rw [evicted_conn] at old
      split at old
      · obtain ⟨c, conn, rfl⟩ := Option.map_eq_some_iff.mp old
        exact b k c conn
      · exact b k c' old
    · have free : s.inHand s.conns.length = [] := by
        cases reader : s.reader with
        | sending k data => simp [inHand, reader, Nat.ne_of_lt (known.sending k data reader)]
        | _ => simp [inHand, reader]
      exact free
  | read conn queue =>
    rename_i k c data recvCh
    intro i c' conn'
    obtain ⟨c₀, conn₀, rfl⟩ := of_update_conn conn'
    have old := b i c₀ conn₀
    by_cases same : i = k
    · subst same
      obtain rfl := Option.some.inj (conn.symm.trans conn₀)
      rw [queue] at old
      simpa [inHand, update] using old
    · simpa [inHand, update, same] using old
  | eof => exact b.mark rfl rfl fun _ => ⟨rfl, rfl, rfl⟩
  | close => exact b.mark rfl rfl fun _ => ⟨rfl, rfl, rfl⟩
  | wake up => exact b.mark rfl rfl fun _ => ⟨rfl, rfl, rfl⟩

/-- If no push finds the channel full, what `Read` has returned begins what was pushed. -/
theorem reads_prefix_pushes {as : List SlotAction} {s : Slot} (room : Obeys step Room new as)
    (run : exec step new as = some s) (k : Nat) (c : TCPConn) (conn : s.conns[k]? = some c) :
    c.reads.flatten <+: c.pushes.flatten := by
  have inv := exec_invariant_of_obeys (fun s => Known s ∧ Balanced s) ?_
    ⟨⟨by simp [new], by simp [new], by simp [new]⟩, by simp [Balanced, new]⟩ room run
  · rw [← inv.2 k c conn, List.append_assoc, List.flatten_append]
    exact List.prefix_append _ _
  · rintro s a t ⟨known, b⟩ room taken
    have m := step_moves taken
    exact ⟨known.step m, b.step known room m⟩

/-- `TCPConnect` is called, and the device answers its request. -/
def accepted : List SlotAction :=
  [.tcpConnect [104] 80, .dev (.advance 0), .dev (.advance 0), .dev (.advance 0),
    .dev (.answer statusOk []), .dev .lookup, .dev .deliver]

/-- It goes on to install the connection. -/
def installed : List SlotAction :=
  [.dev (.advance 0), .dev (.advance 0), .connect 0, .connect 0]

/-- A data push arrives and is dispatched. -/
def pushed (data : Bytes) : List SlotAction :=
  [.push ⟨0, cmdProxyDataPush, false, 0, data⟩, .dispatch, .dispatched]

end Slot

end EspNetwork.Host
