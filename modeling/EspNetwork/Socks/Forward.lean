import EspNetwork.Ctrl.ProxyConn
import EspNetwork.Proxy.Dial

/-!
# The response of a forwarded request

One turn of the loop in `handleHTTPForward` of `ctrl/socks5/socks5.go`, from `http.ReadResponse` to
the end of `resp.Write`, on the `ProxyConn` of `ctrl/proxy/client.go` and beside the client's read
loop. `http.ReadResponse` consumes the head through a `bufio.Reader` and leaves the body to be read
through the same one; the handler closes the connection in between.
-/

namespace EspNetwork.Socks

open Serial (Byte Bytes)
open Ctrl (Session SessionAction ConnFrame ShutPc sessionStep)
open Schedule (exec Obeys)
open Proxy (ascii)

/-! ## The handler -/

/-- A response and the Data frames it arrives in. A delimited body, by its length or in chunks,
shows where it ends; another one ends with the connection. -/
structure Upstream where
  head : Bytes
  body : Bytes
  delimited : Bool
  chunks : List Bytes
  split : chunks.flatten = head ++ body

def Upstream.frames (u : Upstream) : List ConnFrame := u.chunks.map .data ++ [.close]

/-- Where `target.Close` stands. -/
inductive ClosePc where
  | remove
  | shutdown (pc : ShutPc)
  | send
  deriving DecidableEq, Repr

/-- Where the handler stands: in `ReadResponse`, in `target.Close`, in `resp.Write`, or behind. -/
inductive ForwardPc where
  | head
  | closing (failed : Bool) (pc : ClosePc)
  | body
  | returned
  deriving DecidableEq, Repr

/-- `buf` is what the `bufio.Reader` holds, `toClient` the part of the body that `resp.Write` has
written, and `late` what a `Read` returned after the `Close`. -/
structure Forward where
  session : Session
  pc : ForwardPc
  buf : Bytes
  toClient : Option Bytes
  late : Bytes
  deriving DecidableEq, Repr

inductive ForwardAction where
  /-- A step of the client's read loop, or of the handler inside `Read`. -/
  | session (a : SessionAction)
  /-- `http.ReadResponse` returns. -/
  | parsed
  | close
  | write (n : ℕ)
  | finish
  deriving DecidableEq, Repr

def Forward.start (u : Upstream) (connID : UInt32) : Forward where
  session := Session.start connID u.frames
  pc := .head
  buf := []
  toClient := none
  late := []

/-- The default buffer of `bufio.NewReader`. -/
def bufioSize : ℕ := 4096

/-- All that `resp.Write` is going to write has been written. -/
def Upstream.written (u : Upstream) (w : Bytes) : Bool :=
  u.delimited && decide (u.body.length ≤ w.length)

/-- `Read` is called for a missing part of the head, and for the body when the buffer is empty. -/
def wants (u : Upstream) (s : Forward) : SessionAction → Bool
  | .dispatch => true
  | .read n =>
    match s.pc with
    | .head => decide (0 < n ∧ n ≤ bufioSize ∧ s.buf.length < u.head.length)
    | .body => decide (0 < n ∧ s.buf = []) && !u.written (s.toClient.getD [])
    | _ => false
  | .recv | .done | .copy => s.pc = .head ∨ s.pc = .body

/-- `data` has come out of the connection. -/
def Forward.took (s : Forward) (t : Session) (data : Bytes) : Forward :=
  { s with
    session := t
    buf := s.buf ++ data
    late := if s.pc = .body then s.late ++ data else s.late }

def forwardStep (u : Upstream) (s : Forward) : ForwardAction → Option Forward
  | .session a =>
    if wants u s a then
      (sessionStep s.session a).map fun t =>
        s.took t (t.returned.drop s.session.returned.length)
    else none
  | .parsed =>
    if s.pc = .head ∧ s.session.read = none then
      if u.head.length ≤ s.buf.length then
        some { s with pc := .closing false .remove, buf := s.buf.drop u.head.length }
      else if s.session.eof then some { s with pc := .closing true .remove }
      else none
    else none
  | .close =>
    match s.pc with
    | .closing failed .remove =>
      some { s with
        session := { s.session with known := false }
        pc := .closing failed (.shutdown .enter) }
    | .closing failed (.shutdown pc) =>
      (s.session.conn.shutdown pc).map fun (conn, next) =>
        { s with
          session := { s.session with conn }
          pc := .closing failed (match next with | some pc => .shutdown pc | none => .send) }
    | .closing true .send => some { s with pc := .returned }
    | .closing false .send => some { s with pc := .body, toClient := some [] }
    | _ => none
  | .write n =>
    match s.pc, s.toClient with
    | .body, some w =>
      if 0 < n ∧ n ≤ s.buf.length ∧ (u.delimited = true → w.length + n ≤ u.body.length) then
        some { s with toClient := some (w ++ s.buf.take n), buf := s.buf.drop n }
      else none
    | _, _ => none
  | .finish =>
    match s.pc, s.toClient with
    | .body, some w =>
      if s.session.read = none ∧ (u.written w = true ∨ s.buf = [] ∧ s.session.eof = true) then
        some { s with pc := .returned }
      else none
    | _, _ => none

/-! ## What a step can do -/

inductive Forward.Steps (u : Upstream) (s : Forward) : ForwardAction → Forward → Prop
  | session {a : SessionAction} {t : Session} {data : Bytes}
      (due : t.due.Sublist s.session.due) (returned : t.returned = s.session.returned ++ data)
      (reading : data ≠ [] → s.pc = .head ∨ s.pc = .body) :
      Steps u s (.session a) (s.took t data)
  | parsed (pc : s.pc = .head) (whole : u.head.length ≤ s.buf.length) :
      Steps u s .parsed { s with pc := .closing false .remove, buf := s.buf.drop u.head.length }
  | failed (pc : s.pc = .head) (short : s.buf.length < u.head.length) :
      Steps u s .parsed { s with pc := .closing true .remove }
  | remove {failed : Bool} (pc : s.pc = .closing failed .remove) :
      Steps u s .close { s with
        session := { s.session with known := false }
        pc := .closing failed (.shutdown .enter) }
  | shutdown {failed : Bool} {pc : ShutPc} {conn : Ctrl.ProxyConn} {next : ClosePc}
      (pc : s.pc = .closing failed (.shutdown pc)) (last : conn.last = s.session.conn.last)
      (recvCh : conn.recvCh = s.session.conn.recvCh) (on : next ≠ .remove) :
      Steps u s .close { s with
        session := { s.session with conn }
        pc := .closing failed next }
  | abandon (pc : s.pc = .closing true .send) : Steps u s .close { s with pc := .returned }
  | respond (pc : s.pc = .closing false .send) :
      Steps u s .close { s with pc := .body, toClient := some [] }
  | write {n : ℕ} {w : Bytes} (pc : s.pc = .body) (client : s.toClient = some w)
      (held : n ≤ s.buf.length) :
      Steps u s (.write n) { s with toClient := some (w ++ s.buf.take n), buf := s.buf.drop n }
  | finish {w : Bytes} (pc : s.pc = .body) (client : s.toClient = some w)
      (ended : u.written w = true ∨ s.buf = []) : Steps u s .finish { s with pc := .returned }

variable {u : Upstream} {s s' : Forward} {a : ForwardAction}

theorem forwardStep_steps (h : forwardStep u s a = some s') : s.Steps u a s' := by
  cases a with
  | session a =>
    simp only [forwardStep] at h
    split at h
    case isFalse => cases h
    case isTrue wanted =>
      obtain ⟨t, moved, rfl⟩ := Option.map_eq_some_iff.mp h
      obtain ⟨due, data, returned, copied⟩ := Ctrl.due_step moved
      have reading : data ≠ [] → s.pc = .head ∨ s.pc = .body := by
        intro some_data
        obtain rfl := copied some_data
        simpa [wants] using wanted
      have gained : t.returned.drop s.session.returned.length = data := by simp [returned]
      rw [gained]
      exact .session due returned reading
  | parsed =>
    simp only [forwardStep] at h
    split_ifs at h with at_head whole eof
    · exact Option.some.inj h ▸ .parsed at_head.1 whole
    · exact Option.some.inj h ▸ .failed at_head.1 (not_le.mp whole)
  | close =>
    cases pc : s.pc with
    | head | body | returned => simp [forwardStep, pc] at h
    | closing failed stage =>
      cases stage with
      | remove =>
        simp only [forwardStep, pc, Option.some.injEq] at h
        exact h ▸ .remove pc
      | shutdown at_ =>
        simp only [forwardStep, pc, Option.map_eq_some_iff] at h
        obtain ⟨⟨conn, next⟩, moved, rfl⟩ := h
        obtain ⟨last, recvCh, -⟩ := Ctrl.shutdown_keeps moved
        refine .shutdown pc last recvCh ?_
        cases next <;> simp
      | send =>
        cases failed <;> simp only [forwardStep, pc, Option.some.injEq] at h
        · exact h ▸ .respond pc
        · exact h ▸ .abandon pc
  | write n =>
    simp only [forwardStep] at h
    split at h
    case h_1 w pc client =>
      split_ifs at h with fits
      exact Option.some.inj h ▸ .write pc client fits.2.1
    case h_2 => cases h
  | finish =>
    simp only [forwardStep] at h
    split at h
    case h_1 w pc client =>
      split_ifs at h with ended
      exact Option.some.inj h ▸ .finish pc client (ended.2.imp id And.left)
    case h_2 => cases h

/-! ## What every step keeps -/

/-- Every byte that was returned is in the head, in the body written, or in the buffer. -/
def Ledger (u : Upstream) (s : Forward) : Prop :=
  match s.pc with
  | .head => s.toClient = none ∧ s.late = [] ∧ s.buf.length = s.session.returned.length
  | .closing false _ =>
    s.toClient = none ∧ s.late = [] ∧ u.head.length + s.buf.length = s.session.returned.length
  | .closing true _ => s.toClient = none ∧ s.late = []
  | .body => ∃ w, s.toClient = some w ∧
    u.head.length + w.length + s.buf.length = s.session.returned.length
  | .returned => ∀ w, s.toClient = some w →
    u.head.length + w.length + s.buf.length = s.session.returned.length ∧
      (u.written w = true ∨ s.buf = [])

structure ForwardInv (u : Upstream) (s : Forward) : Prop where
  due : s.session.due.Sublist (u.head ++ u.body)
  ledger : Ledger u s

theorem forwardInv_start (u : Upstream) (connID : UInt32) :
    ForwardInv u (Forward.start u connID) := by
  refine ⟨?_, rfl, rfl, rfl⟩
  have payload : ConnFrame.payload ∘ ConnFrame.data = id := rfl
  rw [← u.split]
  simp [Forward.start, Session.start, Session.due, Ctrl.ProxyConn.new, Ctrl.DispatchPc.pending,
    Upstream.frames, payload, ConnFrame.payload]

theorem ForwardInv.returned_length (inv : ForwardInv u s) :
    s.session.returned.length ≤ u.head.length + u.body.length := by
  have le := inv.due.length_le
  simp only [Session.due, List.length_append] at le
  omega

theorem Ledger.session {t : Session} {data : Bytes} (ledger : Ledger u s)
    (returned : t.returned = s.session.returned ++ data)
    (reading : data ≠ [] → s.pc = .head ∨ s.pc = .body) :
    Ledger u (s.took t data) := by
  unfold Ledger Forward.took at *
  have size := congrArg List.length returned
  rw [List.length_append] at size
  cases pc : s.pc with
  | head =>
    simp only [pc] at ledger ⊢
    refine ⟨ledger.1, by simpa using ledger.2.1, ?_⟩
    rw [List.length_append]
    omega
  | closing failed stage =>
    obtain rfl : data = [] := by
      by_contra some_data
      simpa [pc] using reading some_data
    cases failed <;> simpa [pc, returned] using ledger
  | body =>
    simp only [pc] at ledger ⊢
    obtain ⟨w, client, count⟩ := ledger
    refine ⟨w, client, ?_⟩
    rw [List.length_append]
    omega
  | returned =>
    obtain rfl : data = [] := by
      by_contra some_data
      simpa [pc] using reading some_data
    simpa [pc, returned] using ledger

theorem ForwardInv.step (inv : ForwardInv u s) (h : forwardStep u s a = some s') :
    ForwardInv u s' := by
  have ledger := inv.ledger
  cases forwardStep_steps h with
  | session due returned reading =>
    exact ⟨due.trans inv.due, ledger.session returned reading⟩
  | parsed pc whole =>
    rw [Ledger, pc] at ledger
    refine ⟨inv.due, ledger.1, ledger.2.1, ?_⟩
    rw [List.length_drop, ← ledger.2.2]
    omega
  | failed pc short =>
    rw [Ledger, pc] at ledger
    exact ⟨inv.due, ledger.1, ledger.2.1⟩
  | @remove failed pc =>
    rw [Ledger, pc] at ledger
    refine ⟨inv.due, ?_⟩
    cases failed <;> exact ledger
  | @shutdown failed _ conn next pc last recvCh on =>
    rw [Ledger, pc] at ledger
    refine ⟨?_, ?_⟩
    · simp only [Session.due, last, recvCh]
      exact inv.due
    · cases failed <;> exact ledger
  | abandon pc =>
    rw [Ledger, pc] at ledger
    refine ⟨inv.due, fun w client => ?_⟩
    simp [ledger.1] at client
  | respond pc =>
    rw [Ledger, pc] at ledger
    exact ⟨inv.due, [], rfl, ledger.2.2⟩
  | @write n w pc client held =>
    rw [Ledger, pc] at ledger
    obtain ⟨w', client', count⟩ := ledger
    obtain rfl : w = w' := Option.some.inj (client.symm.trans client')
    refine ⟨inv.due, ?_⟩
    simp only [Ledger, pc]
    refine ⟨_, rfl, ?_⟩
    rw [List.length_append, List.length_drop, List.length_take_of_le held]
    omega
  | @finish w pc client ended =>
    rw [Ledger, pc] at ledger
    obtain ⟨w', client', count⟩ := ledger
    obtain rfl : w = w' := Option.some.inj (client.symm.trans client')
    refine ⟨inv.due, fun w' client' => ?_⟩
    obtain rfl : w = w' := Option.some.inj (client.symm.trans client')
    exact ⟨count, ended⟩

/-- From the moment the connection is removed, the body is in the client's hands and in the buffer,
and nothing was read late. -/
def Kept (u : Upstream) (s : Forward) : Prop :=
  match s.pc with
  | .head | .closing _ .remove => True
  | .closing failed _ => failed = false ∧ s.buf = u.body
  | .body | .returned => ∃ w, s.toClient = some w ∧ w ++ s.buf = u.body ∧ s.late = []

/-- `target.Close` begins when the whole body is in the buffer. -/
def ClosesBuffered (u : Upstream) (s : Forward) (a : ForwardAction) : Prop :=
  ∀ failed, a = .close → s.pc = .closing failed .remove → failed = false ∧ s.buf = u.body

theorem closesBuffered_of_ne (h : ∀ failed, a = .close → s.pc ≠ .closing failed .remove) :
    ClosesBuffered u s a := fun failed close pc => absurd pc (h failed close)

/-- In `resp.Write`, a byte that is read is a late one. -/
theorem kept_session_iff {t : Session} {data : Bytes}
    (inv : ForwardInv u (s.took t data)) (reading : data ≠ [] → s.pc = .head ∨ s.pc = .body) :
    Kept u (s.took t data) ↔ Kept u s := by
  cases pc : s.pc with
  | head => simp [Kept, Forward.took, pc]
  | closing failed stage =>
    obtain rfl : data = [] := by
      by_contra some_data
      simpa [pc] using reading some_data
    simp [Kept, Forward.took, pc]
  | body =>
    have count := inv.ledger
    have most := inv.returned_length
    simp only [Ledger, Kept, Forward.took, pc, if_true] at count most ⊢
    obtain ⟨w, client, count⟩ := count
    rw [List.length_append] at count
    constructor
    · rintro ⟨w', client', whole, early⟩
      obtain ⟨early, rfl⟩ := List.append_eq_nil_iff.mp early
      exact ⟨w', client', by simpa using whole, by simpa using early⟩
    · rintro ⟨w', client', whole, early⟩
      obtain rfl : w = w' := Option.some.inj (client.symm.trans client')
      have size := congrArg List.length whole
      rw [List.length_append] at size
      obtain rfl : data = [] := List.eq_nil_of_length_eq_zero (by omega)
      exact ⟨w, client, by simpa using whole, by simpa using early⟩
  | returned =>
    obtain rfl : data = [] := by
      by_contra some_data
      simpa [pc] using reading some_data
    simp [Kept, Forward.took, pc]

theorem kept_step_iff (inv : ForwardInv u s) (h : forwardStep u s a = some s') :
    Kept u s' ↔ Kept u s ∧ ClosesBuffered u s a := by
  have ledger := inv.ledger
  have inv' := inv.step h
  cases forwardStep_steps h with
  | session due returned reading =>
    rw [kept_session_iff inv' reading]
    exact (and_iff_left (closesBuffered_of_ne (by simp))).symm
  | parsed pc whole =>
    rw [and_iff_left (closesBuffered_of_ne (by simp))]
    simp [Kept, pc]
  | failed pc short =>
    rw [and_iff_left (closesBuffered_of_ne (by simp))]
    simp [Kept, pc]
  | remove pc =>
    simp [Kept, ClosesBuffered, pc]
  | @shutdown _ _ _ next pc last recvCh on =>
    rw [and_iff_left (closesBuffered_of_ne (by simp [pc]))]
    cases next with
    | remove => exact absurd rfl on
    | shutdown | send => simp [Kept, pc]
  | abandon pc =>
    rw [Ledger, pc] at ledger
    simp [Kept, pc, ledger.1]
  | respond pc =>
    rw [Ledger, pc] at ledger
    rw [and_iff_left (closesBuffered_of_ne (by simp [pc]))]
    simp [Kept, pc, ledger.2.1]
  | write pc client held =>
    rw [and_iff_left (closesBuffered_of_ne (by simp))]
    simp [Kept, pc, client]
  | finish pc client ended =>
    rw [and_iff_left (closesBuffered_of_ne (by simp))]
    simp [Kept, pc]

/-! ## Complete responses -/

/-- The client has got the whole body, and none of it was read after the `Close`. -/
def Complete (u : Upstream) (s : Forward) : Prop := s.toClient = some u.body ∧ s.late = []

theorem complete_iff_kept (inv : ForwardInv u s) (returned : s.pc = .returned) :
    Complete u s ↔ Kept u s := by
  have ledger := inv.ledger
  have most := inv.returned_length
  simp only [Ledger, Kept, returned] at ledger ⊢
  constructor
  · rintro ⟨client, early⟩
    obtain ⟨count, -⟩ := ledger _ client
    have empty : s.buf = [] := List.eq_nil_of_length_eq_zero (by omega)
    exact ⟨u.body, client, by simp [empty], early⟩
  · rintro ⟨w, client, whole, early⟩
    obtain ⟨count, ended⟩ := ledger w client
    have size := congrArg List.length whole
    rw [List.length_append] at size
    have empty : s.buf = [] := by
      rcases ended with written | empty
      · have enough : u.body.length ≤ w.length := by
          simp only [Upstream.written, Bool.and_eq_true, decide_eq_true_eq] at written
          exact written.2
        exact List.eq_nil_of_length_eq_zero (by omega)
      · exact empty
    exact ⟨by simpa [empty, ← whole] using client, early⟩

/-- **A forwarded response is complete exactly if `target.Close` begins with the whole body in the
buffer.** -/
theorem complete_iff {connID : UInt32} {as : List ForwardAction}
    (run : exec (forwardStep u) (Forward.start u connID) as = some s) (returned : s.pc = .returned) :
    Complete u s ↔ Obeys (forwardStep u) (ClosesBuffered u) (Forward.start u connID) as := by
  have start := forwardInv_start u connID
  have inv : ForwardInv u s :=
    Schedule.exec_invariant (ForwardInv u) (fun _ _ _ inv h => inv.step h) start run
  rw [complete_iff_kept inv returned,
    Schedule.iff_obeys (ForwardInv u) (Kept u) (fun _ _ _ inv h => inv.step h)
      (fun _ _ _ inv h => kept_step_iff inv h) start run]
  exact and_iff_right trivial

/-- A response with a body of two bytes. -/
def okResponse (chunks : List Bytes)
    (split : chunks.flatten = ascii "HTTP/1.1 200 OK\r\nContent-Length: 2\r\n\r\n" ++ ascii "hi") :
    Upstream where
  head := ascii "HTTP/1.1 200 OK\r\nContent-Length: 2\r\n\r\n"
  body := ascii "hi"
  delimited := true
  chunks := chunks
  split := split

/-- A Data frame is dispatched, and the handler reads it, parses the head and closes. -/
def readAndClose : List ForwardAction :=
  [.session .dispatch, .session .dispatch, .session .dispatch, .session (.read 4096),
    .session .recv, .session .copy, .parsed, .close, .close, .close, .close, .close]

/-- Head and body come in one frame. -/
def oneFrame : Upstream :=
  okResponse [ascii "HTTP/1.1 200 OK\r\nContent-Length: 2\r\n\r\nhi"] (by decide +kernel)

theorem complete_iff_oneFrame :
    ∃ s, exec (forwardStep oneFrame) (Forward.start oneFrame 0)
        (readAndClose ++ [.write 2, .finish]) = some s ∧
      (Complete oneFrame s ↔ Obeys (forwardStep oneFrame) (ClosesBuffered oneFrame)
        (Forward.start oneFrame 0) (readAndClose ++ [.write 2, .finish])) := by
  obtain ⟨s, run, returned⟩ := Option.map_eq_some_iff.mp
    (show (exec (forwardStep oneFrame) (Forward.start oneFrame 0)
      (readAndClose ++ [.write 2, .finish])).map Forward.pc = some .returned by decide +kernel)
  exact ⟨s, run, complete_iff run returned⟩

/-- The body comes in a frame of its own. -/
def twoFrames : Upstream :=
  okResponse [ascii "HTTP/1.1 200 OK\r\nContent-Length: 2\r\n\r\n", ascii "hi"] (by decide +kernel)

/-- The second frame meets a connection that the client has forgotten, and the read for the body
meets the end. -/
theorem body_lost :
    ∃ as s, exec (forwardStep twoFrames) (Forward.start twoFrames 0) as = some s ∧
      s.pc = .returned ∧ ¬ Complete twoFrames s := by
  obtain ⟨s, run, ends⟩ := Option.map_eq_some_iff.mp
    (show (exec (forwardStep twoFrames) (Forward.start twoFrames 0)
      (readAndClose ++ [.session .dispatch, .session (.read 2), .session .recv, .finish])).map
        (fun s => (s.pc, s.toClient)) = some (.returned, some []) by decide +kernel)
  obtain ⟨returned, client⟩ := Prod.mk.inj ends
  refine ⟨_, s, run, returned, fun complete => ?_⟩
  have := Option.some.inj (client.symm.trans complete.1)
  exact absurd this (by decide +kernel)

end EspNetwork.Socks
