import Mathlib
import EspNetwork.Base.Schedule
import EspNetwork.Serial.HostParser

/-!
# Requests and responses

`Device.Send` of `ctrl/device/device.go` and the response branch of the reader's callback. A
call takes a sequence number, registers its channel under it, writes its request and waits;
its deferred function deletes the entry under that number. The callback looks the number of a
response up, deletes the entry and sends the response to the channel it found. The device
answers what it receives in order, at any time. Requests and responses carry, for the record,
the number of the call they belong to.
-/

namespace EspNetwork.Host

open Serial (Byte Bytes Frame)
open Schedule

/-- A request on its way to the device. -/
structure Request where
  call : Nat
  seq : Byte
  cmd : Byte
  payload : Bytes
  deriving DecidableEq, Repr

/-- A response frame. -/
structure Response where
  call : Nat
  frame : Frame
  deriving DecidableEq, Repr

inductive SendResult where
  | response (r : Response)
  | notConnected
  | writeFailed
  | timeout
  | cancelled
  deriving DecidableEq, Repr

/-- Where a call of `Send` stands. -/
inductive SendPc where
  | start
  | insert
  | write
  | select
  | deferred (result : SendResult)
  | returned (result : SendResult)
  deriving DecidableEq, Repr

/-- A call of `Send` with its channel. -/
structure SendCall where
  cmd : Byte
  payload : Bytes
  seq : Byte
  pc : SendPc
  ch : Option Response
  closed : Bool
  deriving DecidableEq, Repr

/-- Where the reader stands in its callback. -/
inductive ReaderPc where
  | idle
  | deliver (j : Nat) (r : Response)
  | exited
  deriving DecidableEq, Repr

structure Device where
  port : Bool
  ctxDone : Bool
  seqCounter : UInt32
  pending : Byte → Option Nat
  calls : List SendCall
  reader : ReaderPc
  /-- Requests the device has not taken yet, and responses the reader has not. -/
  requests : List Request
  responses : List Response

/-- An opened device. -/
def Device.new : Device where
  port := true
  ctxDone := false
  seqCounter := 0
  pending _ := none
  calls := []
  reader := .idle
  requests := []
  responses := []

inductive SendAction where
  /-- `Send` is called and reads the port. -/
  | send (cmd : Byte) (payload : Bytes)
  /-- The call goes on; in its select it receives from its channel. -/
  | advance (j : Nat)
  /-- `port.Write` fails, with or without the request having gone out. -/
  | writeFail (j : Nat) (out : Bool)
  | timeout (j : Nat)
  | cancelled (j : Nat)
  | disconnected (j : Nat)
  /-- The device takes a request and answers it. -/
  | answer (status : Byte) (payload : Bytes)
  /-- The device takes a request and its answer is lost. -/
  | skip
  /-- The callback matches a response. -/
  | lookup
  | deliver
  /-- `Close` up to its wait for the reader. -/
  | close
  | readerExit
  /-- `Close` ends the calls that are still registered. -/
  | drain
  deriving DecidableEq, Repr

namespace Device

def setCall (d : Device) (j : Nat) (c : SendCall) : Device := { d with calls := d.calls.set j c }

def setPending (d : Device) (seq : Byte) (entry : Option Nat) : Device :=
  { d with pending := Function.update d.pending seq entry }

def putRequest (d : Device) (q : Request) : Device := { d with requests := d.requests ++ [q] }

/-- The number the next call takes. -/
def nextSeq (d : Device) : Byte := (d.seqCounter + 1).toUInt8

def advance (d : Device) (j : Nat) : Option Device := do
  let c ← d.calls[j]?
  match c.pc with
  | .start =>
    some ({ d with seqCounter := d.seqCounter + 1 }.setCall j
      { c with seq := d.nextSeq, pc := .insert })
  | .insert => some ((d.setPending c.seq (some j)).setCall j { c with pc := .write })
  | .write =>
    some ((d.putRequest ⟨j, c.seq, c.cmd, c.payload⟩).setCall j { c with pc := .select })
  | .select =>
    match c.ch with
    | some r => some (d.setCall j { c with ch := none, pc := .deferred (.response r) })
    | none => if c.closed then some (d.setCall j { c with pc := .deferred .notConnected }) else none
  | .deferred result => some ((d.setPending c.seq none).setCall j { c with pc := .returned result })
  | .returned _ => none

def writeFail (d : Device) (j : Nat) (out : Bool) : Option Device := do
  let c ← d.calls[j]?
  if c.pc = .write then
    let d := if out then d.putRequest ⟨j, c.seq, c.cmd, c.payload⟩ else d
    some (d.setCall j { c with pc := .deferred .writeFailed })
  else none

/-- The call leaves its select without a response. -/
def giveUp (d : Device) (j : Nat) (result : SendResult) : Option Device := do
  let c ← d.calls[j]?
  if c.pc = .select then some (d.setCall j { c with pc := .deferred result }) else none

/-- The callback up to the end of its critical section. -/
def lookup (d : Device) : Option Device :=
  match d.reader, d.responses with
  | .idle, r :: responses =>
    match d.pending r.frame.seq with
    | some j => some { d.setPending r.frame.seq none with responses, reader := .deliver j r }
    | none => some { d with responses }
  | _, _ => none

/-- The send of the callback, dropped if the channel is full. -/
def deliver (d : Device) : Option Device :=
  match d.reader with
  | .deliver j r => do
    let c ← d.calls[j]?
    let ch := match c.ch with | none => some r | some old => some old
    return { d.setCall j { c with ch } with reader := .idle }
  | _ => none

def step (d : Device) : SendAction → Option Device
  | .send cmd payload =>
    let pc := if d.port then .start else .returned .notConnected
    some { d with calls := d.calls ++ [⟨cmd, payload, 0, pc, none, false⟩] }
  | .advance j => advance d j
  | .writeFail j out => writeFail d j out
  | .timeout j => giveUp d j .timeout
  | .cancelled j => giveUp d j .cancelled
  | .disconnected j => if d.ctxDone then giveUp d j .notConnected else none
  | .answer status payload =>
    match d.requests with
    | [] => none
    | q :: requests =>
      some { d with
        requests
        responses := d.responses ++ [⟨q.call, ⟨q.seq, q.cmd, true, status, payload⟩⟩] }
  | .skip =>
    match d.requests with
    | [] => none
    | _ :: requests => some { d with requests }
  | .lookup => lookup d
  | .deliver => deliver d
  | .close => some { d with ctxDone := true, port := false }
  | .readerExit => if d.reader = .idle then some { d with reader := .exited, port := false } else none
  | .drain =>
    if d.reader = .exited ∧ d.ctxDone then
      some { d with
        calls := d.calls.mapIdx fun j c =>
          if d.pending c.seq = some j then { c with closed := true } else c
        pending := fun _ => none }
    else none

/-! ## What a step can do -/

/-- The transitions one by one. -/
inductive Steps (d : Device) : SendAction → Device → Prop where
  | send (cmd : Byte) (payload : Bytes) {pc : SendPc}
    (begins : pc = .start ∨ pc = .returned .notConnected) :
    Steps d (.send cmd payload) { d with calls := d.calls ++ [⟨cmd, payload, 0, pc, none, false⟩] }
  | start {j : Nat} {c : SendCall} (call : d.calls[j]? = some c) (pc : c.pc = .start) :
    Steps d (.advance j) ({ d with seqCounter := d.seqCounter + 1 }.setCall j
      { c with seq := d.nextSeq, pc := .insert })
  | insert {j : Nat} {c : SendCall} (call : d.calls[j]? = some c) (pc : c.pc = .insert) :
    Steps d (.advance j) ((d.setPending c.seq (some j)).setCall j { c with pc := .write })
  | write {j : Nat} {c : SendCall} (a : SendAction) {pc' : SendPc} (call : d.calls[j]? = some c)
    (pc : c.pc = .write) (next : pc' = .select ∨ pc' = .deferred .writeFailed) :
    Steps d a ((d.putRequest ⟨j, c.seq, c.cmd, c.payload⟩).setCall j { c with pc := pc' })
  | receive {j : Nat} {c : SendCall} {r : Response} (call : d.calls[j]? = some c)
    (pc : c.pc = .select) (ch : c.ch = some r) :
    Steps d (.advance j) (d.setCall j { c with ch := none, pc := .deferred (.response r) })
  | giveUp {j : Nat} {c : SendCall} (a : SendAction) {result : SendResult}
    (call : d.calls[j]? = some c) (pc : c.pc = .select ∨ c.pc = .write)
    (empty : ∀ r, result ≠ .response r) :
    Steps d a (d.setCall j { c with pc := .deferred result })
  | deferred {j : Nat} {c : SendCall} {result : SendResult} (call : d.calls[j]? = some c)
    (pc : c.pc = .deferred result) :
    Steps d (.advance j) ((d.setPending c.seq none).setCall j { c with pc := .returned result })
  | answer {q : Request} {requests : List Request} (status : Byte) (payload : Bytes)
    (queue : d.requests = q :: requests) :
    Steps d (.answer status payload) { d with
      requests
      responses := d.responses ++ [⟨q.call, ⟨q.seq, q.cmd, true, status, payload⟩⟩] }
  | skip {q : Request} {requests : List Request} (queue : d.requests = q :: requests) :
    Steps d .skip { d with requests }
  | found {r : Response} {responses : List Response} {j : Nat} (reader : d.reader = .idle)
    (queue : d.responses = r :: responses) (entry : d.pending r.frame.seq = some j) :
    Steps d .lookup { d.setPending r.frame.seq none with responses, reader := .deliver j r }
  | unknown {r : Response} {responses : List Response} (reader : d.reader = .idle)
    (queue : d.responses = r :: responses) (entry : d.pending r.frame.seq = none) :
    Steps d .lookup { d with responses }
  | deliver {j : Nat} {r : Response} {c : SendCall} (reader : d.reader = .deliver j r)
    (call : d.calls[j]? = some c) :
    Steps d .deliver { d.setCall j { c with ch :=
      match c.ch with | none => some r | some old => some old } with reader := .idle }
  | close : Steps d .close { d with ctxDone := true, port := false }
  | readerExit (reader : d.reader = .idle) :
    Steps d .readerExit { d with reader := .exited, port := false }
  | drain (reader : d.reader = .exited) :
    Steps d .drain { d with
      calls := d.calls.mapIdx fun j c =>
        if d.pending c.seq = some j then { c with closed := true } else c
      pending := fun _ => none }

theorem advance_steps {d d' : Device} {j : Nat} (h : advance d j = some d') :
    Steps d (.advance j) d' := by
  obtain ⟨c, call, h⟩ := Option.bind_eq_some_iff.mp h
  cases pc : c.pc with
  | start =>
    obtain rfl := Option.some.inj (by simpa only [pc] using h)
    exact .start call pc
  | insert =>
    obtain rfl := Option.some.inj (by simpa only [pc] using h)
    exact .insert call pc
  | write =>
    obtain rfl := Option.some.inj (by simpa only [pc] using h)
    exact .write _ call pc (.inl rfl)
  | select =>
    simp only [pc] at h
    split at h
    · obtain rfl := Option.some.inj h
      exact .receive call pc ‹_›
    · split at h
      · obtain rfl := Option.some.inj h
        exact .giveUp _ call (.inl pc) (by simp)
      · simp at h
  | deferred result =>
    obtain rfl := Option.some.inj (by simpa only [pc] using h)
    exact .deferred call pc
  | returned => simp [pc] at h

theorem giveUp_steps {d d' : Device} {j : Nat} {result : SendResult} (a : SendAction)
    (empty : ∀ r, result ≠ .response r) (h : giveUp d j result = some d') : Steps d a d' := by
  obtain ⟨c, call, h⟩ := Option.bind_eq_some_iff.mp h
  split at h
  · obtain rfl := Option.some.inj h
    exact .giveUp a call (.inl ‹_›) empty
  · simp at h

theorem lookup_steps {d d' : Device} (h : lookup d = some d') : Steps d .lookup d' := by
  unfold lookup at h
  split at h
  case h_1 r responses reader queue =>
    split at h
    · obtain rfl := Option.some.inj h
      exact .found reader queue ‹_›
    · obtain rfl := Option.some.inj h
      exact .unknown reader queue ‹_›
  case h_2 => simp at h

/-- Every step is one of the transitions. -/
theorem step_steps {d d' : Device} {a : SendAction} (h : step d a = some d') : Steps d a d' := by
  cases a with
  | send cmd payload =>
    obtain rfl := Option.some.inj h
    refine .send cmd payload ?_
    split
    · exact .inl rfl
    · exact .inr rfl
  | advance j => exact advance_steps h
  | writeFail j out =>
    obtain ⟨c, call, h⟩ := Option.bind_eq_some_iff.mp h
    split at h
    case isTrue pc =>
      obtain rfl := Option.some.inj h
      cases out with
      | true => exact .write _ call pc (.inr rfl)
      | false => exact .giveUp _ call (.inr pc) (by simp)
    case isFalse => simp at h
  | timeout j => exact giveUp_steps _ (by simp) h
  | cancelled j => exact giveUp_steps _ (by simp) h
  | disconnected j =>
    simp only [step] at h
    split at h
    · exact giveUp_steps _ (by simp) h
    · simp at h
  | answer status payload =>
    simp only [step] at h
    split at h
    · simp at h
    · obtain rfl := Option.some.inj h
      exact .answer status payload ‹_›
  | skip =>
    simp only [step] at h
    split at h
    · simp at h
    · obtain rfl := Option.some.inj h
      exact .skip ‹_›
  | lookup => exact lookup_steps h
  | deliver =>
    simp only [step, deliver] at h
    split at h
    · obtain ⟨c, call, h⟩ := Option.bind_eq_some_iff.mp h
      obtain rfl := Option.some.inj h
      exact .deliver ‹_› call
    · simp at h
  | close =>
    obtain rfl := Option.some.inj h
    exact .close
  | readerExit =>
    simp only [step] at h
    split at h
    · obtain rfl := Option.some.inj h
      exact .readerExit ‹_›
    · simp at h
  | drain =>
    simp only [step] at h
    split at h
    case isTrue exited =>
      obtain rfl := Option.some.inj h
      exact .drain exited.1
    case isFalse => simp at h

end Device

end EspNetwork.Host
