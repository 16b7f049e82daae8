import Mathlib
import EspNetwork.Base.Schedule
import EspNetwork.Serial.Frame

/-!
# One virtual connection of the client

`ProxyConn` of `ctrl/proxy/client.go`: the receive channel that `deliver` fills and `Read`
empties, the context and the channel that `shutdown` ends, in this order. The frames of one
connection are dispatched by the client's read loop while another goroutine reads; `Read`
selects between the channel and the context, and a `select` with two ready cases takes either.
-/

namespace EspNetwork.Ctrl

open Serial (Byte Bytes)
open Schedule (Once)

/-- What `connResult` carries; `none` is a nil error. -/
inductive ConnErr where
  | malformed
  | rejected (status : Byte)
  deriving DecidableEq, Repr

structure ProxyConn where
  id : UInt32
  recvCh : List Bytes
  closed : Bool
  last : Bytes
  ctxDone : Bool
  closeOnce : Once
  connResult : Option (Option ConnErr)
  deriving DecidableEq, Repr

def recvChCap : Nat := 64

/-- As `ConnectRemote` makes it. -/
def ProxyConn.new (id : UInt32) : ProxyConn where
  id := id
  recvCh := []
  closed := false
  last := []
  ctxDone := false
  closeOnce := .fresh
  connResult := none

/-- Where a goroutine stands inside `shutdown`. -/
inductive ShutPc where
  | enter
  | cancel
  | close
  deriving DecidableEq, Repr

/-- A step of `shutdown`; `none` in the second place is its return. Whoever comes second waits
until the first is through. -/
def ProxyConn.shutdown (pc : ProxyConn) : ShutPc → Option (ProxyConn × Option ShutPc)
  | .enter =>
    match pc.closeOnce with
    | .fresh => some ({ pc with closeOnce := .running }, some .cancel)
    | .running => none
    | .finished => some (pc, none)
  | .cancel => some ({ pc with ctxDone := true }, some .close)
  | .close => some ({ pc with closed := true, closeOnce := .finished }, none)

/-- A send on the channel succeeds at once: on a closed channel it panics and is recovered, on
a full one `deliver` drops the data. -/
def ProxyConn.accepts (pc : ProxyConn) : Bool := !pc.closed && decide (pc.recvCh.length < recvChCap)

/-- The send of `deliver`. -/
def ProxyConn.deliver (pc : ProxyConn) (data : Bytes) : ProxyConn :=
  if pc.accepts then { pc with recvCh := pc.recvCh ++ [data] } else pc

/-! ## One connection between the dispatcher and a reader -/

/-- A frame of this connection, as far as it concerns the reader. -/
inductive ConnFrame where
  | data (payload : Bytes)
  | close
  deriving DecidableEq, Repr

/-- Where `dispatch` stands. -/
inductive DispatchPc where
  | idle
  | check (data : Bytes)
  | send (data : Bytes)
  | remove
  | shutdown (pc : ShutPc)
  deriving DecidableEq, Repr

/-- The connection, whether the client still knows it, the frames to come, the two goroutines,
and the bytes delivered and returned so far. `eof` says whether some `Read` returned `io.EOF`. -/
structure Session where
  conn : ProxyConn
  known : Bool
  frames : List ConnFrame
  dispatch : DispatchPc
  /-- The buffer size of the `Read` in progress. -/
  read : Option Nat
  delivered : Bytes
  returned : Bytes
  eof : Bool
  deriving DecidableEq, Repr

inductive SessionAction where
  | dispatch
  | read (n : Nat)
  /-- The channel case of the select. -/
  | recv
  /-- The context case of the select. -/
  | done
  | copy
  deriving DecidableEq, Repr

/-- A step of the client's read loop in `dispatch`. -/
def dispatchStep (s : Session) : Option Session :=
  match s.dispatch with
  | .idle =>
    match s.frames with
    | [] => none
    | .data payload :: frames =>
      some { s with frames, dispatch := if s.known then .check payload else .idle }
    | .close :: frames => some { s with frames, dispatch := if s.known then .remove else .idle }
  | .check data => some { s with dispatch := if s.conn.ctxDone then .idle else .send data }
  | .send data =>
    some { s with
      conn := s.conn.deliver data
      dispatch := .idle
      delivered := s.delivered ++ if s.conn.accepts then data else [] }
  | .remove => some { s with known := false, dispatch := .shutdown .enter }
  | .shutdown pc =>
    (s.conn.shutdown pc).map fun (conn, next) =>
      { s with conn, dispatch := match next with | some pc => .shutdown pc | none => .idle }

def sessionStep (s : Session) : SessionAction → Option Session
  | .dispatch => dispatchStep s
  | .read n => if s.read = none then some { s with read := some n } else none
  | .recv =>
    if s.read.isSome ∧ s.conn.last = [] then
      match s.conn.recvCh with
      | data :: recvCh => some { s with conn := { s.conn with recvCh, last := data } }
      | [] => if s.conn.closed then some { s with read := none, eof := true } else none
    else none
  | .done =>
    if s.read.isSome ∧ s.conn.last = [] ∧ s.conn.ctxDone then
      some { s with read := none, eof := true }
    else none
  | .copy =>
    match s.read with
    | some n =>
      if s.conn.last = [] then none
      else some { s with
        conn := { s.conn with last := s.conn.last.drop n }
        read := none
        returned := s.returned ++ s.conn.last.take n }
    | none => none

/-- A connection that has just been opened and the frames the server sends for it. -/
def Session.start (id : UInt32) (frames : List ConnFrame) : Session where
  conn := ProxyConn.new id
  known := true
  frames := frames
  dispatch := .idle
  read := none
  delivered := []
  returned := []
  eof := false

/-- An end of file was returned only after everything delivered. -/
def NoTailLoss (s : Session) : Prop := s.eof = true → s.returned = s.delivered

/-- The context case is not taken while the channel holds data. -/
def DrainsFirst (s : Session) (a : SessionAction) : Prop :=
  a = .done → s.conn.recvCh.flatten = []

/-! ## What every step keeps -/

/-- The dispatcher is not going to deliver anything. -/
def Quiet (s : Session) : Prop :=
  s.known = false ∧ ∀ data, s.dispatch ≠ .check data ∧ s.dispatch ≠ .send data

/-- Bytes returned, held and queued are those delivered, in order; once the connection is
being shut down nothing is delivered any more. -/
structure SessionInv (s : Session) : Prop where
  bytes : s.returned ++ s.conn.last ++ s.conn.recvCh.flatten = s.delivered
  removing : ∀ pc, s.dispatch = .shutdown pc → s.known = false
  quiet : s.conn.ctxDone = true ∨ s.conn.closed = true → Quiet s
  ended : s.eof = true → s.conn.ctxDone = true ∨ s.conn.closed = true

theorem deliver_flatten (pc : ProxyConn) (data : Bytes) :
    (pc.deliver data).recvCh.flatten = pc.recvCh.flatten ++ if pc.accepts then data else [] := by
  by_cases h : pc.accepts <;> simp [ProxyConn.deliver, h]

theorem deliver_keeps (pc : ProxyConn) (data : Bytes) :
    (pc.deliver data).last = pc.last ∧ (pc.deliver data).ctxDone = pc.ctxDone ∧
      (pc.deliver data).closed = pc.closed := by
  by_cases h : pc.accepts <;> simp [ProxyConn.deliver, h]

theorem shutdown_keeps {pc pc' : ProxyConn} {at_ : ShutPc} {next : Option ShutPc}
    (h : pc.shutdown at_ = some (pc', next)) :
    pc'.last = pc.last ∧ pc'.recvCh = pc.recvCh ∧ pc'.id = pc.id ∧ pc'.connResult = pc.connResult ∧
      (pc.ctxDone = true → pc'.ctxDone = true) ∧ (pc.closed = true → pc'.closed = true) := by
  cases at_ with
  | enter =>
    cases once : pc.closeOnce <;> simp [ProxyConn.shutdown, once] at h <;>
      obtain ⟨rfl, -⟩ := h <;> simp
  | cancel | close =>
    simp only [ProxyConn.shutdown, Option.some.injEq, Prod.mk.injEq] at h
    obtain ⟨rfl, -⟩ := h
    simp

theorem SessionInv.dispatch_step {s s' : Session} (inv : SessionInv s)
    (h : dispatchStep s = some s') :
    SessionInv s' ∧ s'.eof = s.eof ∧ s'.returned = s.returned ∧
      (s.eof = true → s'.delivered = s.delivered) := by
  unfold dispatchStep at h
  cases hd : s.dispatch with
  | idle =>
    simp only [hd] at h
    split at h
    · simp at h
    · obtain rfl := Option.some.inj h
      refine ⟨⟨inv.bytes, ?_, fun stopped => ?_, inv.ended⟩, rfl, rfl, fun _ => rfl⟩
      · intro pc hpc
        cases known : s.known <;> simp [known] at hpc
      · obtain ⟨known, -⟩ := inv.quiet stopped
        simp [Quiet, known]
    · obtain rfl := Option.some.inj h
      refine ⟨⟨inv.bytes, ?_, fun stopped => ?_, inv.ended⟩, rfl, rfl, fun _ => rfl⟩
      · intro pc hpc
        cases known : s.known <;> simp [known] at hpc
      · obtain ⟨known, -⟩ := inv.quiet stopped
        simp [Quiet, known]
  | check data =>
    simp only [hd, Option.some.injEq] at h
    subst h
    have alive : ¬ (s.conn.ctxDone = true ∨ s.conn.closed = true) := fun stopped =>
      ((inv.quiet stopped).2 data).1 hd
    refine ⟨⟨inv.bytes, ?_, fun stopped => absurd stopped alive, inv.ended⟩, rfl, rfl, fun _ => rfl⟩
    intro pc hpc
    cases done : s.conn.ctxDone <;> simp [done] at hpc
  | send data =>
    simp only [hd, Option.some.injEq] at h
    subst h
    have alive : ¬ (s.conn.ctxDone = true ∨ s.conn.closed = true) := fun stopped =>
      ((inv.quiet stopped).2 data).2 hd
    obtain ⟨last, ctxDone, closed⟩ := deliver_keeps s.conn data
    refine ⟨⟨?_, by simp, fun stopped => ?_, fun eof => ?_⟩, rfl, rfl, fun eof => ?_⟩
    · simp only [last, deliver_flatten, ← inv.bytes, List.append_assoc]
    · exact absurd (ctxDone ▸ closed ▸ stopped) alive
    · exact absurd (inv.ended eof) alive
    · exact absurd (inv.ended eof) alive
  | remove =>
    simp only [hd, Option.some.injEq] at h
    subst h
    refine ⟨⟨inv.bytes, fun _ _ => rfl, fun _ => ?_, inv.ended⟩, rfl, rfl, fun _ => rfl⟩
    simp [Quiet]
  | shutdown pc =>
    have known := inv.removing pc hd
    simp only [hd, Option.map_eq_some_iff] at h
    obtain ⟨⟨conn, next⟩, hshut, rfl⟩ := h
    obtain ⟨last, recvCh, -, -, ctxDone, closed⟩ := shutdown_keeps hshut
    refine ⟨⟨?_, fun _ _ => known, fun _ => ?_, fun eof => ?_⟩, rfl, rfl, fun _ => rfl⟩
    · simp only [last, recvCh]
      exact inv.bytes
    · cases next <;> simp [Quiet, known]
    · exact (inv.ended eof).imp ctxDone closed

theorem SessionInv.step {s s' : Session} {a : SessionAction} (inv : SessionInv s)
    (h : sessionStep s a = some s') : SessionInv s' := by
  cases a with
  | dispatch => exact (inv.dispatch_step h).1
  | read n =>
    simp only [sessionStep] at h
    split at h
    · obtain rfl := Option.some.inj h
      exact ⟨inv.bytes, inv.removing, inv.quiet, inv.ended⟩
    · simp at h
  | recv =>
    simp only [sessionStep] at h
    split at h
    case isFalse => simp at h
    case isTrue ready =>
      split at h
      case h_1 data recvCh queue =>
        obtain rfl := Option.some.inj h
        refine ⟨?_, inv.removing, inv.quiet, inv.ended⟩
        have bytes := inv.bytes
        simpa [ready.2, queue] using bytes
      case h_2 =>
        split at h
        case isTrue closed =>
          obtain rfl := Option.some.inj h
          exact ⟨inv.bytes, inv.removing, inv.quiet, fun _ => .inr closed⟩
        case isFalse => simp at h
  | done =>
    simp only [sessionStep] at h
    split at h
    case isTrue ready =>
      obtain rfl := Option.some.inj h
      exact ⟨inv.bytes, inv.removing, inv.quiet, fun _ => .inl ready.2.2⟩
    case isFalse => simp at h
  | copy =>
    simp only [sessionStep] at h
    split at h
    case h_1 n _ =>
      split at h
      · simp at h
      · obtain rfl := Option.some.inj h
        refine ⟨?_, inv.removing, inv.quiet, inv.ended⟩
        rw [← inv.bytes]
        simp
    case h_2 => simp at h

/-- The steps that lose the tail are the context cases taken before the channel is empty. -/
theorem noTailLoss_step_iff {s s' : Session} {a : SessionAction} (inv : SessionInv s)
    (before : NoTailLoss s) (h : sessionStep s a = some s') : NoTailLoss s' ↔ DrainsFirst s a := by
  have bytes := inv.bytes
  cases a with
  | dispatch =>
    obtain ⟨-, eof, returned, delivered⟩ := inv.dispatch_step h
    refine ⟨fun _ => by simp [DrainsFirst], fun _ heof => ?_⟩
    rw [eof] at heof
    rw [returned, delivered heof, before heof]
  | read n =>
    simp only [sessionStep] at h
    split at h
    · obtain rfl := Option.some.inj h
      exact ⟨fun _ => by simp [DrainsFirst], fun _ => before⟩
    · simp at h
  | recv =>
    simp only [sessionStep] at h
    split at h
    case isFalse => simp at h
    case isTrue ready =>
      refine ⟨fun _ => by simp [DrainsFirst], fun _ => ?_⟩
      split at h
      case h_1 =>
        obtain rfl := Option.some.inj h
        exact before
      case h_2 queue =>
        split at h
        case isTrue =>
          obtain rfl := Option.some.inj h
          intro _
          simpa [ready.2, queue] using bytes
        case isFalse => simp at h
  | done =>
    simp only [sessionStep] at h
    split at h
    case isTrue ready =>
      obtain rfl := Option.some.inj h
      rw [ready.2.1, List.append_nil] at bytes
      simp only [NoTailLoss, DrainsFirst, ← bytes, forall_const]
      simp
    case isFalse => simp at h
  | copy =>
    refine ⟨fun _ => by simp [DrainsFirst], fun _ heof => ?_⟩
    simp only [sessionStep] at h
    split at h
    case h_1 n _ =>
      split at h
      case isTrue => simp at h
      case isFalse some_left =>
        obtain rfl := Option.some.inj h
        -- after an end of file without loss nothing is left to copy
        have all : s.returned = s.delivered := before heof
        rw [← bytes, List.append_assoc] at all
        exact absurd (List.append_eq_nil_iff.mp (List.self_eq_append_right.mp all)).1 some_left
    case h_2 => simp at h

theorem sessionInv_start (id : UInt32) (frames : List ConnFrame) :
    SessionInv (Session.start id frames) :=
  ⟨rfl, by simp [Session.start], by simp [Session.start, ProxyConn.new], by simp [Session.start]⟩

/-- **When a remote close loses no data.** A run of dispatches and reads returns `io.EOF` only
after every delivered byte exactly if `Read` never takes the context case of its select while
the channel still holds data; and in every run the bytes come in order. -/
theorem read_eof_iff (id : UInt32) (frames : List ConnFrame) {as : List SessionAction} {s : Session}
    (run : Schedule.exec sessionStep (Session.start id frames) as = some s) :
    ((∀ bs t, bs <+: as → Schedule.exec sessionStep (Session.start id frames) bs = some t →
        NoTailLoss t) ↔ Schedule.Obeys sessionStep DrainsFirst (Session.start id frames) as) ∧
      s.returned <+: s.delivered := by
  refine ⟨Schedule.obeys_iff_forall_prefix SessionInv NoTailLoss (fun _ _ _ inv h => inv.step h)
    (fun _ _ _ inv before h => noTailLoss_step_iff inv before h) (sessionInv_start id frames)
    (by simp [NoTailLoss, Session.start]) run, ?_⟩
  have inv := Schedule.exec_invariant SessionInv (fun _ _ _ inv h => inv.step h)
    (sessionInv_start id frames) run
  exact ⟨s.conn.last ++ s.conn.recvCh.flatten, by rw [← inv.bytes, List.append_assoc]⟩

instance (s : Session) (a : SessionAction) : Decidable (DrainsFirst s a) :=
  inferInstanceAs (Decidable (_ → _))

/-- A `Read` returns the byte that was delivered. The close frame cancels the context, and the next
`Read` takes the context case, with nothing left in the channel. -/
def drainedRun : List SessionAction :=
  [.dispatch, .dispatch, .dispatch, .read 4, .recv, .copy, .dispatch, .dispatch, .dispatch,
    .dispatch, .read 4, .done]

theorem read_eof_iff_drained :
    ∃ s, Schedule.exec sessionStep (Session.start 1 [.data [7], .close]) drainedRun = some s ∧
      s.eof = true ∧ s.returned = [7] ∧
      (∀ bs t, bs <+: drainedRun →
        Schedule.exec sessionStep (Session.start 1 [.data [7], .close]) bs = some t →
        NoTailLoss t) ∧
      s.returned <+: s.delivered := by
  obtain ⟨s, run, eof, returned⟩ : ∃ s,
      Schedule.exec sessionStep (Session.start 1 [.data [7], .close]) drainedRun = some s ∧
        s.eof = true ∧ s.returned = [7] := ⟨_, rfl, rfl, rfl⟩
  have obeys : Schedule.Obeys sessionStep DrainsFirst (Session.start 1 [.data [7], .close])
      drainedRun := by
    decide +kernel
  obtain ⟨lossless, inOrder⟩ := read_eof_iff 1 [.data [7], .close] run
  exact ⟨s, run, eof, returned, lossless.mpr obeys, inOrder⟩

/-- One byte is delivered, the close frame cancels the context, and the select of a `Read`
takes the context case although the byte is in the channel. -/
theorem read_eof_loses_tail :
    ∃ s, Schedule.exec sessionStep (Session.start 1 [.data [7], .close])
        [.dispatch, .dispatch, .dispatch, .dispatch, .dispatch, .dispatch, .dispatch,
          .read 4, .done] = some s ∧
      s.eof = true ∧ s.delivered = [7] ∧ s.returned = [] ∧ s.conn.recvCh = [[7]] ∧ ¬ NoTailLoss s := by
  refine ⟨_, rfl, rfl, rfl, rfl, rfl, ?_⟩
  intro kept
  exact absurd (kept rfl) (by decide)

/-! ## What is still due -/

def ConnFrame.payload : ConnFrame → Bytes
  | .data payload => payload
  | .close => []

/-- The data that `dispatch` is about to deliver. -/
def DispatchPc.pending : DispatchPc → Bytes
  | .check data | .send data => data
  | _ => []

/-- The bytes that were returned, and behind them those that may still be. -/
def Session.due (s : Session) : Bytes :=
  s.returned ++ s.conn.last ++ s.conn.recvCh.flatten ++ s.dispatch.pending ++
    (s.frames.map ConnFrame.payload).flatten

theorem due_dispatch_step {s s' : Session} (h : dispatchStep s = some s') :
    s'.due.Sublist s.due ∧ s'.returned = s.returned := by
  unfold dispatchStep at h
  cases hd : s.dispatch with
  | idle =>
    cases hf : s.frames with
    | nil => simp [hd, hf] at h
    | cons frame frames =>
      cases frame <;> simp only [hd, hf, Option.some.injEq] at h <;> subst h <;>
        cases s.known <;> simp [Session.due, hd, hf, DispatchPc.pending, ConnFrame.payload]
  | check data =>
    simp only [hd, Option.some.injEq] at h
    subst h
    cases s.conn.ctxDone <;> simp [Session.due, hd, DispatchPc.pending]
  | send data =>
    simp only [hd, Option.some.injEq] at h
    subst h
    obtain ⟨last, -⟩ := deliver_keeps s.conn data
    refine ⟨?_, rfl⟩
    simp only [Session.due, hd, DispatchPc.pending, last, deliver_flatten]
    split <;> simp
  | remove =>
    simp only [hd, Option.some.injEq] at h
    subst h
    simp [Session.due, hd, DispatchPc.pending]
  | shutdown pc =>
    simp only [hd, Option.map_eq_some_iff] at h
    obtain ⟨⟨conn, next⟩, hshut, rfl⟩ := h
    obtain ⟨last, recvCh, -⟩ := shutdown_keeps hshut
    cases next <;> simp [Session.due, hd, DispatchPc.pending, last, recvCh]

/-- Bytes are lost on the way, but none is added and none overtakes another. -/
theorem due_step {s s' : Session} {a : SessionAction} (h : sessionStep s a = some s') :
    s'.due.Sublist s.due ∧
      ∃ data, s'.returned = s.returned ++ data ∧ (data ≠ [] → a = .copy) := by
  cases a with
  | dispatch =>
    obtain ⟨due, returned⟩ := due_dispatch_step h
    exact ⟨due, [], by simp [returned], by simp⟩
  | read n =>
    simp only [sessionStep] at h
    split at h
    · obtain rfl := Option.some.inj h
      exact ⟨.refl _, [], by simp, by simp⟩
    · simp at h
  | recv =>
    simp only [sessionStep] at h
    split at h
    case isFalse => simp at h
    case isTrue ready =>
      split at h
      case h_1 data recvCh queue =>
        obtain rfl := Option.some.inj h
        refine ⟨?_, [], by simp, by simp⟩
        simp [Session.due, ready.2, queue]
      case h_2 =>
        split at h
        · obtain rfl := Option.some.inj h
          exact ⟨.refl _, [], by simp, by simp⟩
        · simp at h
  | done =>
    simp only [sessionStep] at h
    split at h
    · obtain rfl := Option.some.inj h
      exact ⟨.refl _, [], by simp, by simp⟩
    · simp at h
  | copy =>
    simp only [sessionStep] at h
    split at h
    case h_1 n _ =>
      split at h
      · simp at h
      · obtain rfl := Option.some.inj h
        refine ⟨?_, s.conn.last.take n, rfl, fun _ => rfl⟩
        simp [Session.due]
    case h_2 => simp at h

end EspNetwork.Ctrl
