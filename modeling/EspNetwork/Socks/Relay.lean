import EspNetwork.Base.Copy
import EspNetwork.Base.Schedule
import EspNetwork.Relay.Wire
import EspNetwork.Socks.Server

/-!
# One client of the proxy port

`relayBidi` of `ctrl/socks5/socks5.go`, two copies of which the first to end ends the connection,
and the whole of `handle`: the dialogue and, where it comes to that, the relay behind it. A reset
by the client counts as the end of its stream.
-/

namespace EspNetwork.Socks

open Serial (Byte Bytes)
open Schedule (exec)
open Proxy (ascii)

/-! ## The relay -/

/-- From client to target, and back. -/
inductive Direction where
  | up
  | down
  deriving DecidableEq, Repr

/-- The two goroutines; `ended` lists the copies that are through, in this order, and `sent` counts
what was sent on `done`. -/
structure Relay (ρ τ : Type) where
  up : Copy ρ Byte
  down : Copy τ Byte
  ended : List Direction
  sent : ℕ
  returned : Bool

inductive RelayAction where
  | up (a : CopyAction)
  | down (a : CopyAction)
  /-- The deferred send of a copy that has ended. -/
  | send
  /-- `<-done`; the caller closes target and client. -/
  | receive
  deriving DecidableEq, Repr

variable {ρ τ : Type}

def Relay.start (r : ρ) (d : τ) : Relay ρ τ := ⟨.start r, .start d, [], 0, false⟩

/-- This direction is added to those that have ended, if its copy has. -/
def endedBy (dir : Direction) : CopyPc Byte → List Direction
  | .ended _ => [dir]
  | _ => []

/-- The client can be read until its connection is closed. -/
def relayStep (R : Reader ρ Byte) (T : Reader τ Byte) (s : Relay ρ τ) :
    RelayAction → Option (Relay ρ τ)
  | .up a =>
    if a = .readFails ∧ s.returned = false then none
    else (s.up.step R a).map fun c => { s with up := c, ended := s.ended ++ endedBy .up c.pc }
  | .down a =>
    (s.down.step T a).map fun c => { s with down := c, ended := s.ended ++ endedBy .down c.pc }
  | .send => if s.sent < s.ended.length then some { s with sent := s.sent + 1 } else none
  | .receive =>
    if 0 < s.sent ∧ s.returned = false then some { s with returned := true } else none

structure RelayInv (R : Reader ρ Byte) (T : Reader τ Byte) (rest answers : Bytes)
    (s : Relay ρ τ) : Prop where
  up : s.up.Inv R rest
  down : s.down.Inv T answers
  sent : s.sent ≤ s.ended.length
  returned : s.returned = true → 0 < s.sent
  running : (∀ cause, s.up.pc ≠ .ended cause) → .up ∉ s.ended
  closed : s.up.pc = .ended .readFailed → s.ended.head? = some .down

variable {R : Reader ρ Byte} {T : Reader τ Byte} {rest answers : Bytes} {s s' : Relay ρ τ}

theorem head?_append_of_eq_some {α : Type} {as bs : List α} {a : α} (h : as.head? = some a) :
    (as ++ bs).head? = some a := by
  rw [List.head?_append, h]
  rfl

/-- A read from the client that fails is one after the return, which the other copy has caused. -/
theorem RelayInv.head_of_returned (inv : RelayInv R T rest answers s) (returned : s.returned = true)
    (running : ∀ cause, s.up.pc ≠ .ended cause) : s.ended.head? = some .down := by
  have some_ended : 0 < s.ended.length := (inv.returned returned).trans_le inv.sent
  have fresh := inv.running running
  cases ended : s.ended with
  | nil => simp [ended] at some_ended
  | cons dir dirs =>
    cases dir with
    | up => simp [ended] at fresh
    | down => rfl

theorem RelayInv.step {a : RelayAction} (inv : RelayInv R T rest answers s)
    (h : relayStep R T s a = some s') : RelayInv R T rest answers s' := by
  cases a with
  | up a =>
    simp only [relayStep] at h
    split at h
    · cases h
    case isFalse open_ =>
      obtain ⟨c, moved, rfl⟩ := Option.map_eq_some_iff.mp h
      refine ⟨inv.up.step moved, inv.down, ?_, inv.returned, fun running => ?_, fun failed => ?_⟩
      · exact inv.sent.trans (by simp)
      · have before : ∀ cause, s.up.pc ≠ .ended cause := by
          intro cause pc
          cases a <;> simp [Copy.step, pc] at moved
        have nothing : endedBy .up c.pc = [] := by
          unfold endedBy
          split
          · exact absurd (by assumption) (running _)
          · rfl
        simpa [nothing] using inv.running before
      · obtain ⟨n, piece, r, pc, pos, read, rfl⟩ | ⟨n, pc, pos, read, rfl⟩ | ⟨rfl, pc, rfl⟩ |
          ⟨buf, pc, rfl⟩ | ⟨n, buf, pc, rfl⟩ := Copy.step_cases moved
        case inr.inr.inl =>
          have returned : s.returned = true := by simpa using open_
          refine head?_append_of_eq_some (inv.head_of_returned returned fun cause => ?_)
          simp [pc]
        all_goals simp at failed
  | down a =>
    obtain ⟨c, moved, rfl⟩ := Option.map_eq_some_iff.mp h
    refine ⟨inv.up, inv.down.step moved, inv.sent.trans (by simp), inv.returned, fun running => ?_,
      fun failed => head?_append_of_eq_some (inv.closed failed)⟩
    have nothing : Direction.up ∉ endedBy .down c.pc := by
      unfold endedBy
      split <;> simp
    simp [inv.running running, nothing]
  | send =>
    simp only [relayStep] at h
    split at h
    case isTrue more =>
      obtain rfl := Option.some.inj h
      exact ⟨inv.up, inv.down, more, fun _ => Nat.succ_pos _, inv.running, inv.closed⟩
    case isFalse => cases h
  | receive =>
    simp only [relayStep] at h
    split at h
    case isTrue ready =>
      obtain rfl := Option.some.inj h
      exact ⟨inv.up, inv.down, inv.sent, fun _ => ready.1, inv.running, inv.closed⟩
    case isFalse => cases h

theorem relayInv_start (r : ρ) (d : τ) :
    RelayInv R T (R.content r) (T.content d) (Relay.start r d) :=
  ⟨Copy.inv_start r, Copy.inv_start d, le_rfl, by simp [Relay.start], by simp [Relay.start],
    by simp [Relay.start, Copy.start]⟩

/-- The target gets the front of the stream, and all of it if the client is the first to end and no
write fails. -/
structure Delivers (rest : Bytes) (s : Relay ρ τ) : Prop where
  front : s.up.written <+: rest
  whole : s.ended.head? = some .up → s.up.pc ≠ .ended .writeFailed → s.up.written = rest

theorem RelayInv.delivers (inv : RelayInv R T rest answers s) : Delivers rest s := by
  refine ⟨inv.up.written_front, fun first writes => ?_⟩
  cases pc : s.up.pc with
  | reading | writing =>
    refine absurd (List.mem_of_mem_head? first) (inv.running fun cause => ?_)
    simp [pc]
  | ended cause =>
    cases cause with
    | eof => exact inv.up.written_eq pc
    | readFailed => simp [inv.closed pc] at first
    | writeFailed => exact absurd pc writes

theorem relay_delivers {r : ρ} {d : τ} {as : List RelayAction}
    (run : exec (relayStep R T) (Relay.start r d) as = some s) : Delivers (R.content r) s :=
  (Schedule.exec_invariant (RelayInv R T (R.content r) (T.content d)) (fun _ _ _ inv h => inv.step h)
    (relayInv_start r d) run).delivers

/-! ## The connection -/

section Connection

variable (R H) (accepts : List Call → Bool) (r : ρ)

/-- How `handle` ends on a new connection. -/
def serve : Except Unit Unit × Line (Bytes × ρ) Byte (List Call) :=
  (handle R H accepts).outcome ⟨([], r), [], []⟩

/-- The stream that is left for `relayBidi`, where it is called. -/
def relayed : Option Bytes :=
  match serve R H accepts r with
  | (.ok (), t) => some (R.multi.content t.unread)
  | (.error (), _) => none

/-- `Connect` is called for the complete requests of the grammar, the replies are those of the
protocol, and the relay begins with the byte behind the request. -/
structure AcceptsExactly : Prop where
  calls : ∀ call, call ∈ (serve R H accepts r).2.state ↔
    ∃ (g : Greeting) (q : ConnectRequest) (rest : Bytes), 0 ∈ g.methods.toList ∧
      R.content r = g.bytes ++ (q.bytes ++ rest) ∧ q.call = call
  replies : Dialogue accepts (R.content r)
    ⟨(serve R H accepts r).2.written, (serve R H accepts r).2.state, relayed R H accepts r⟩
  relay : ∀ t, serve R H accepts r = (.ok (), t) →
    ∃ (g : Greeting) (q : ConnectRequest) (rest : Bytes),
      R.content r = g.bytes ++ (q.bytes ++ rest) ∧ q.call ∈ t.state ∧
      ∀ {τ : Type} (T : Reader τ Byte) (d : τ) (as : List RelayAction) (s : Relay (Bytes × ρ) τ),
        exec (relayStep R.multi T) (Relay.start t.unread d) as = some s → Delivers rest s

variable {R H accepts r}

open Fallible

/-- The byte is read and put back. -/
theorem handle_of {b : Byte} {bs : Bytes} (content : R.content r = b :: bs)
    {done failed : Unit → Line (Bytes × ρ) Byte (List Call) → Prop}
    (next : ∀ r', R.multi.content r' = b :: bs →
      Settles (if b = 5 then handleSOCKS5 R.multi accepts else handleHTTP R.multi H accepts)
        ⟨r', [], []⟩ done failed) :
    Settles (handle R H accepts) ⟨([], r), [], []⟩ done failed := by
  have first : R.multi.content ([], r) = [b] ++ bs := content
  rw [handle, settles_bind]
  refine Line.settles_readFull_of first rfl fun r' behind => ?_
  rw [settles_bind, settles_modify]
  refine next ([b] ++ r'.1, r'.2) ?_
  rw [← behind]
  rfl

theorem handle_yields {o : Outcome} (dialogue : Dialogue accepts (R.content r) o) :
    Yields R.multi (handle R H accepts) ⟨([], r), [], []⟩ o := by
  have version := dialogue.version
  cases content : R.content r with
  | nil =>
    obtain rfl := Dialogue.of_nil (content ▸ dialogue)
    unfold Yields
    rw [handle, settles_bind]
    refine Line.settles_readFull_short ?_ ⟨rfl, rfl, rfl⟩
    change (R.content r).length < 1
    simp [content]
  | cons b bs =>
    obtain rfl : b = 5 := version b (by simp [content])
    refine handle_of content fun r' replayed => ?_
    rw [if_pos rfl]
    refine handleSOCKS5_yields (s := ⟨r', [], []⟩) ?_ rfl
    rw [replayed, ← content]
    exact dialogue

/-- The outcome of a connection is the one that the protocol prescribes. -/
theorem outcome_eq {o : Outcome} (dialogue : Dialogue accepts (R.content r) o) :
    o = ⟨(serve R H accepts r).2.written, (serve R H accepts r).2.state, relayed R H accepts r⟩ := by
  have yields := @handle_yields _ R H accepts r o dialogue
  unfold Yields Settles at yields
  unfold relayed serve
  split at yields
  all_goals
    rename_i ending
    obtain ⟨written, calls, rest⟩ := yields
    obtain ⟨replies, calls', rest'⟩ := o
    simp_all

/-- What a complete request brings about. -/
theorem served_of_request {g : Greeting} {q : ConnectRequest} {rest : Bytes}
    (fits : 0 ∈ g.methods.toList) (content : R.content r = g.bytes ++ (q.bytes ++ rest)) :
    (serve R H accepts r).2.state = [q.call] ∧
      relayed R H accepts r = if accepts [q.call] then some rest else none := by
  have dialogue : ∃ replies, Dialogue accepts (R.content r)
      ⟨replies, [q.call], if accepts [q.call] then some rest else none⟩ := by
    rw [content]
    cases result : accepts [q.call] with
    | false => exact ⟨_, .request fits (.refused result)⟩
    | true => exact ⟨_, .request fits (.connected result)⟩
  obtain ⟨replies, dialogue⟩ := dialogue
  have same := @outcome_eq _ R H accepts r _ dialogue
  simp only [Outcome.mk.injEq] at same
  exact ⟨same.2.1.symm, same.2.2.symm⟩

theorem acceptsExactly_of_version (version : ∀ v ∈ (R.content r).head?, v = 5) :
    AcceptsExactly R H accepts r := by
  obtain ⟨o, dialogue⟩ := @exists_dialogue accepts _ version
  obtain rfl := @outcome_eq _ R H accepts r o dialogue
  refine ⟨fun call => ⟨fun made => dialogue.request_of_call made, ?_⟩, dialogue, fun t ends => ?_⟩
  · rintro ⟨g, q, rest, fits, content, rfl⟩
    rw [(served_of_request fits content).1]
    exact List.mem_singleton_self _
  · have begins : relayed R H accepts r = some (R.multi.content t.unread) := by
      rw [relayed, ends]
    obtain ⟨call, made⟩ := dialogue.call_of_relayed begins
    obtain ⟨g, q, rest, fits, content, rfl⟩ := dialogue.request_of_call made
    obtain ⟨calls, behind⟩ := @served_of_request _ R H accepts r g q rest fits content
    have left : R.multi.content t.unread = rest := by
      rw [begins] at behind
      split_ifs at behind
      exact Option.some.inj behind
    refine ⟨g, q, rest, content, ?_, fun T d as s run => left ▸ relay_delivers run⟩
    rw [ends] at made
    exact made

/-- **The SOCKS5 front end accepts exactly its grammar and loses no byte.** A stream that begins
with another byte is not SOCKS5; all of it goes to `handleHTTP`. -/
theorem handle_acceptsExactly :
    ((∀ v ∈ (R.content r).head?, v = 5) → AcceptsExactly R H accepts r) ∧
      ∀ v ∈ (R.content r).head?, v ≠ 5 → ∃ r', R.multi.content r' = R.content r ∧
        serve R H accepts r = (handleHTTP R.multi H accepts).outcome ⟨r', [], []⟩ := by
  refine ⟨acceptsExactly_of_version, fun v first other => ?_⟩
  obtain ⟨bs, content⟩ : ∃ bs, R.content r = v :: bs := by
    cases content : R.content r with
    | nil => simp [content] at first
    | cons b bs => exact ⟨bs, by simpa [content] using first⟩
  refine (@settles_outcome _ _ _ _ _ fun ends => ∃ r', R.multi.content r' = R.content r ∧
    ends = (handleHTTP R.multi H accepts).outcome ⟨r', [], []⟩).mp ?_
  refine handle_of content fun r' replayed => ?_
  rw [if_neg other]
  have whole : R.multi.content r' = R.content r := replayed.trans content.symm
  exact (@settles_outcome _ _ _ _ _ fun ends => ∃ r', R.multi.content r' = R.content r ∧
    ends = (handleHTTP R.multi H accepts).outcome ⟨r', [], []⟩).mpr ⟨r', whole, rfl⟩

/-- A client that connects to 1.2.3.4:80 and sends a byte behind its request at once. -/
theorem handle_acceptsExactly_hello (H : Http) :
    AcceptsExactly Relay.tcpReader H (fun _ => true) [[5, 1, 0, 5, 1, 0, 1, 1, 2, 3, 4, 0, 80, 7]] :=
  handle_acceptsExactly.1 (by simp [Relay.tcpReader])

/-- A parser that knows one request without a body. -/
def oneRequest (head : Bytes) (some_bytes : 0 < head.length) (req : HttpRequest) : Http where
  readRequest bs := if head <+: bs then some (req, head.length) else none
  consumes h := by
    split at h
    case isTrue front =>
      obtain ⟨-, rfl⟩ : req = _ ∧ head.length = _ := by simpa using h
      exact ⟨some_bytes, front.length_le⟩
    case isFalse => cases h
  exchange _ _ := (0, none)

def httpConnect : Bytes := ascii "CONNECT a:80 HTTP/1.1\r\nHost: a:80\r\n\r\n"

def httpConnectRequest : HttpRequest where
  method := ascii "CONNECT"
  host := ascii "a:80"
  url := some ⟨ascii "a:80", ascii "a", ascii "80"⟩

/-- `Connect` is called for a client of the HTTP proxy, which sends no greeting. -/
theorem connect_without_greeting :
    ¬ AcceptsExactly Relay.tcpReader
      (oneRequest httpConnect (by decide +kernel) httpConnectRequest) (fun _ => true)
      [httpConnect] := by
  intro h
  have made : (ascii "a", 80) ∈ (serve Relay.tcpReader
      (oneRequest httpConnect (by decide +kernel) httpConnectRequest) (fun _ => true)
      [httpConnect]).2.state := by decide +kernel
  obtain ⟨g, q, rest, -, content, -⟩ := (h.calls _).mp made
  have first : some 0x43 = some (5 : Byte) := congrArg List.head? content
  exact absurd first (by decide)

end Connection

end EspNetwork.Socks
