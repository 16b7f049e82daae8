import Mathlib
import EspNetwork.Host.Matching
import EspNetwork.Host.Slot
import EspNetwork.Tunnel.Downlink

/-!
# The first pushes of a relay

The device sends the OK of a relay and goes on with its pushes. The OK reaches `TCPConnect`
through the channel of `Send`; the pushes are dispatched against `relayConn`, where `TCPConnect`
puts the connection a little later. A push that is dispatched in between goes to the connection
before or to nobody, and if it was the closed push, nobody will ever close the new connection. If
no push is dispatched in that window, `Read` returns all of them.
-/

namespace EspNetwork.Host

open Serial (Byte Bytes Frame)
open Schedule
open Tunnel (isClosedPush relayChunks_append_of_closed relayChunks_append_of_open
  relayChunks_append_empty)

/-- The response a call of `Send` has in its channel or returns. -/
def SendCall.answer (c : SendCall) : Option Response :=
  match c.pc with
  | .deferred (.response r) | .returned (.response r) => some r
  | .deferred _ | .returned _ => none
  | .start | .insert | .write | .select => c.ch

namespace Device

def answered (d : Device) (j : Nat) : Option Response := (d.calls[j]?).bind SendCall.answer

theorem answered_setCall {d : Device} {i j : Nat} {c c' : SendCall} {r : Response}
    (call : d.calls[i]? = some c) (less : ∀ r, c'.answer = some r → c.answer = some r)
    (after : (d.setCall i c').answered j = some r) : d.answered j = some r := by
  rw [answered, setCall_call d call] at after
  split at after
  case isTrue same =>
    subst same
    rw [answered, call]
    exact less r after
  case isFalse => exact after

/-- Only the reader hands a response over. -/
theorem answered_step {d d' : Device} {a : SendAction} {j : Nat} {r : Response}
    (taken : d.step a = some d') (after : d'.answered j = some r) :
    d.answered j = some r ∨ (a = .deliver ∧ ∃ r, d.reader = .deliver j r) := by
  cases step_steps taken with
  | send cmd payload begins =>
    refine .inl ?_
    rw [answered, List.getElem?_append] at after
    split at after
    · exact after
    · rcases begins with rfl | rfl <;>
        cases index : j - d.calls.length <;> simp [index, SendCall.answer] at after
  | start call pc =>
    exact .inl (answered_setCall call (by simp [SendCall.answer, pc]) after)
  | insert call pc =>
    exact .inl (answered_setCall call (by simp [SendCall.answer, pc]) after)
  | write _ call pc next =>
    refine .inl (answered_setCall call ?_ after)
    rcases next with rfl | rfl <;> simp [SendCall.answer, pc]
  | receive call pc ch => exact .inl (answered_setCall call (by simp [SendCall.answer, pc, ch]) after)
  | giveUp _ call pc empty =>
    refine .inl (answered_setCall call (fun r => ?_) after)
    simp only [SendCall.answer]
    split <;> simp_all
  | deferred call pc =>
    rename_i result
    refine .inl (answered_setCall call ?_ after)
    cases result <;> simp [SendCall.answer, pc]
  | answer | skip | found | unknown | close | readerExit => exact .inl after
  | deliver reader call =>
    rename_i i r' c
    by_cases same : j = i
    · subst same
      exact .inr ⟨rfl, _, reader⟩
    · refine .inl ?_
      rw [answered] at after ⊢
      rw [show _ = _ from setCall_call d call _ j] at after
      simpa [same] using after
  | drain reader =>
    refine .inl ?_
    simp only [answered, List.getElem?_mapIdx] at after ⊢
    cases call : d.calls[j]? with
    | none => simp [call] at after
    | some c =>
      simp only [call, Option.map_some, Option.bind_some] at after ⊢
      split at after <;> exact after

end Device

namespace Slot

/-- `TCPConnect` has been handed an OK and has not installed its connection yet. -/
def handedOk (s : Slot) (c : Connect) : Bool :=
  match c.pc with
  | .install _ => true
  | .connect j | .retry j => (s.dev.answered j).any fun r => r.frame.status = statusOk
  | .disconnect _ | .returned _ => false

/-- The condition on a step: no push is dispatched while `TCPConnect` has an OK in its hands. -/
def InTime (s : Slot) (a : SlotAction) : Prop := a = .dispatch → ∀ c ∈ s.connects, ¬ s.handedOk c

instance (s : Slot) (a : SlotAction) : Decidable (InTime s a) := inferInstanceAs (Decidable (_ → _))

/-! ## The window -/

/-- Since an OK was handed over no push has been dispatched. -/
def Marked (s : Slot) : Prop :=
  ∀ c ∈ s.connects, s.handedOk c → ∀ j, c.pc = .install j ∨ c.pc = .connect j ∨ c.pc = .retry j →
    s.handed j = s.log.length

theorem handedOk_mono {s s' : Slot} {c : Connect}
    (answered : ∀ j r, s'.dev.answered j = some r → s.dev.answered j = some r)
    (after : s'.handedOk c) : s.handedOk c := by
  unfold handedOk at after ⊢
  have kept : ∀ j, ((s'.dev.answered j).any fun r => r.frame.status = statusOk) →
      (s.dev.answered j).any fun r => r.frame.status = statusOk := by
    intro j found
    obtain ⟨r, answer, ok⟩ := (Option.any_eq_true _ _).mp found
    exact (Option.any_eq_true _ _).mpr ⟨r, answered j r answer, ok⟩
  cases pc : c.pc with
  | install => rfl
  | connect j | retry j =>
    simp only [pc] at after ⊢
    exact kept j after
  | disconnect | returned => simp [pc] at after

/-- A call of `Send` that has just begun has no response. -/
theorem answered_call {s : Slot} {dev : Device}
    (calls : dev = s.dev ∨ ∃ cmd payload, s.dev.step (.send cmd payload) = some dev) (j : Nat)
    (r : Response) (after : dev.answered j = some r) :
    s.dev.answered j = some r ∧ j ≠ s.dev.calls.length := by
  have before : s.dev.answered j = some r := by
    rcases calls with rfl | ⟨cmd, payload, taken⟩
    · exact after
    · rcases Device.answered_step taken after with before | ⟨h, -⟩
      · exact before
      · cases h
  refine ⟨before, ?_⟩
  rintro rfl
  simp [Device.answered] at before

theorem Marked.grow {s s' : Slot} (marked : Marked s) (c' : Connect) (log : s'.log = s.log)
    (handed : s'.handed = s.handed)
    (calls : s'.dev = s.dev ∨ ∃ cmd payload, s.dev.step (.send cmd payload) = some s'.dev)
    (connects : ∀ c ∈ s'.connects, c ∈ s.connects ∨ c = c')
    (waits : c'.pc = .returned none ∨ c'.pc = .connect s.dev.calls.length ∨
      c'.pc = .disconnect s.dev.calls.length ∨ c'.pc = .retry s.dev.calls.length) : Marked s' := by
  intro c mem ok j pc
  rw [log, handed]
  rcases connects c mem with old | rfl
  · exact marked c old (handedOk_mono (fun j r h => (answered_call calls j r h).1) ok) j pc
  · have empty : s'.dev.answered s.dev.calls.length = none := by
      cases answer : s'.dev.answered s.dev.calls.length with
      | none => rfl
      | some r => exact absurd rfl (answered_call calls _ r answer).2
    rcases waits with waits | waits | waits | waits <;> simp [handedOk, waits, empty] at ok

theorem Marked.step {s s' : Slot} {a : SlotAction} (marked : Marked s) (inTime : InTime s a)
    (m : Moves s a s') : Marked s' := by
  have late : ∀ {s' : Slot}, a = .dispatch → s'.connects = s.connects → s'.dev = s.dev →
      Marked s' := by
    intro s' dispatch connects dev c mem ok
    rw [connects] at mem
    refine absurd ?_ (inTime dispatch c mem)
    exact handedOk_mono (fun j r h => by rwa [← dev]) ok
  cases m with
  | dev waking taken other =>
    intro c mem ok j pc
    refine marked c mem (handedOk_mono (fun j r after => ?_) ok) j pc
    rcases Device.answered_step taken after with before | ⟨h, -⟩
    · exact before
    · exact absurd h other
  | deliver reader taken =>
    rename_i i r dev
    intro c mem ok j pc
    by_cases same : j = i
    · simp [same]
    · simp only [Function.update_of_ne same]
      refine marked c mem ?_ j pc
      have before : ∀ r', dev.answered j = some r' → s.dev.answered j = some r' := by
        intro r' after
        rcases Device.answered_step taken after with before | ⟨-, r'', hands⟩
        · exact before
        · rw [reader] at hands
          exact absurd (ReaderPc.deliver.inj hands).1.symm same
      rcases pc with pc | pc | pc
      · simp [handedOk, pc]
      · simp only [handedOk, pc, Option.any_eq_true] at ok ⊢
        obtain ⟨r', answer, ok⟩ := ok
        exact ⟨r', before r' answer, ok⟩
      · simp only [handedOk, pc, Option.any_eq_true] at ok ⊢
        obtain ⟨r', answer, ok⟩ := ok
        exact ⟨r', before r' answer, ok⟩
  | dataPush | closedPush | ignored => exact late rfl rfl rfl
  | begin _ c calls waits =>
    refine marked.grow c rfl rfl calls (fun c mem => by simpa using mem) ?_
    rcases waits with waits | waits
    · exact .inl waits
    · exact .inr (.inl waits)
  | goOn connect calls waits =>
    refine marked.grow _ rfl rfl calls (fun c mem => List.mem_or_eq_of_mem_set mem) ?_
    rcases waits with waits | waits | waits
    · exact .inl waits
    · exact .inr (.inr (.inl waits))
    · exact .inr (.inr (.inr waits))
  | accepted connect pc returned status =>
    rename_i i j c r
    have answer : s.dev.answered j = some r := by
      simp only [result] at returned
      split at returned
      case h_1 found =>
        obtain ⟨call, at_j, called⟩ := Option.map_eq_some_iff.mp found
        obtain rfl := Option.some.inj returned
        simp [Device.answered, at_j, SendCall.answer, called]
      case h_2 => simp at returned
    have ok : s.handedOk c := by
      rcases pc with pc | pc <;> simp [handedOk, pc, answer, status]
    have before := marked c (List.mem_of_getElem? connect) ok j (.inr pc)
    intro c' mem ok' j' pc'
    rcases List.mem_or_eq_of_mem_set mem with old | rfl
    · exact marked c' old ok' j' pc'
    · obtain rfl : j = j' := by simpa using pc'
      exact before
  | install connect pc =>
    intro c' mem ok' j' pc'
    rcases List.mem_or_eq_of_mem_set mem with old | rfl
    · exact marked c' old ok' j' pc'
    · simp at pc'
  | closeSend close taken =>
    exact marked.grow ⟨[], .returned none⟩ rfl rfl (.inr ⟨_, _, taken⟩) (fun c mem => .inl mem)
      (.inl rfl)
  | push | crash | sent | dropped | shut | read | eof | close | clear | wake | sleep => exact marked

/-! ## The connections -/

/-- The pushes dispatched since the OK of a connection was handed over. -/
def since (s : Slot) (c : TCPConn) : List Frame := s.log.drop c.since

/-- A connection that the host has not given up has been passed every push since its OK, and is
the current one until the closed push. -/
structure Fed (s : Slot) (k : Nat) (c : TCPConn) : Prop where
  mark : c.since ≤ s.log.length
  pushes : c.pushes = relayChunks (s.since c)
  current : s.relayConn = some k ↔ ∀ f ∈ s.since c, ¬ isClosedPush f
  closed : s.relayConn ≠ some k → c.closed = true ∨ s.reader = .shutting k

structure Handover (s : Slot) : Prop where
  frames : ∀ f, .push f ∈ s.incoming → f.isResp = false
  marked : Marked s
  released : ∀ close ∈ s.closes, ∃ c, s.conns[close.conn]? = some c ∧ c.released = true
  fed : ∀ (k : Nat) (c : TCPConn), s.conns[k]? = some c → c.released = false → Fed s k c

/-- What the host gave up stays given up. -/
theorem released_step {s s' : Slot} {a : SlotAction} (m : Moves s a s') {k : Nat} {c : TCPConn}
    (conn : s.conns[k]? = some c) (released : c.released = true) :
    ∃ c', s'.conns[k]? = some c' ∧ c'.released = true := by
  have updated : ∀ (i : Nat) (f : TCPConn → TCPConn),
      (∀ c, c.released = true → (f c).released = true) →
      ∃ c', (s.update i f).conns[k]? = some c' ∧ c'.released = true := by
    intro i f keeps
    rw [update_conn]
    split
    · exact ⟨f c, by rw [conn]; rfl, keeps c released⟩
    · exact ⟨c, conn, released⟩
  cases m with
  | dataPush | sent | read | eof => exact updated _ _ fun _ => id
  | shut => exact updated _ _ fun _ => id
  | close | wake => exact updated _ _ fun _ _ => rfl
  | install =>
    have old := (List.getElem?_eq_some_iff.mp conn).1
    rw [install, List.getElem?_append_left (by rwa [length_evicted]), evicted_conn]
    split
    · exact ⟨c.release, by rw [conn]; rfl, rfl⟩
    · exact ⟨c, conn, released⟩
  | _ => exact ⟨c, conn, released⟩

theorem released_close {s s' : Slot} {a : SlotAction} (h : Handover s) (m : Moves s a s') :
    ∀ close ∈ s'.closes, ∃ c, s'.conns[close.conn]? = some c ∧ c.released = true := by
  have old : ∀ close ∈ s.closes, ∃ c, s'.conns[close.conn]? = some c ∧ c.released = true := by
    intro close mem
    obtain ⟨c, conn, released⟩ := h.released close mem
    exact released_step m conn released
  cases m with
  | close known =>
    rename_i k
    intro close mem
    rcases List.mem_append.mp mem with before | now
    · exact old close before
    · obtain rfl := List.mem_singleton.mp now
      refine ⟨(s.conns.get ⟨k, known⟩).release, ?_, rfl⟩
      rw [update_conn]
      simp [known]
  | clear at_i | closeSend at_i _ =>
    intro close mem
    rcases List.mem_or_eq_of_mem_set mem with before | rfl
    · exact old close before
    · obtain ⟨c, conn, released⟩ := h.released _ (List.mem_of_getElem? at_i)
      exact ⟨c, conn, released⟩
  | _ => exact old

/-- Nothing was dispatched and the connection is as current as before. -/
theorem Fed.congr {s s' : Slot} {k : Nat} {c c' : TCPConn} (fed : Fed s k c) (log : s'.log = s.log)
    (since : c'.since = c.since) (pushes : c'.pushes = c.pushes)
    (relayConn : s'.relayConn = some k ↔ s.relayConn = some k)
    (closed : c.closed = true ∨ s.reader = .shutting k → c'.closed = true ∨ s'.reader = .shutting k) :
    Fed s' k c' := by
  have same : s'.since c' = s.since c := by rw [Slot.since, Slot.since, log, since]
  refine ⟨by rw [log, since]; exact fed.mark, by rw [pushes, same]; exact fed.pushes, ?_, ?_⟩
  · rw [same, relayConn]
    exact fed.current
  · rw [ne_eq, relayConn]
    exact fun other => closed (fed.closed other)

theorem Fed.since_append {s s' : Slot} {k : Nat} {c c' : TCPConn} {f : Frame} (fed : Fed s k c)
    (log : s'.log = s.log ++ [f]) (since : c'.since = c.since) : s'.since c' = s.since c ++ [f] := by
  rw [Slot.since, log, since, List.drop_append_of_le_length fed.mark]
  rfl

/-- A push that does not reach the connection: its closed push came before. -/
theorem Fed.missed {s s' : Slot} {k : Nat} {c : TCPConn} {f : Frame} (fed : Fed s k c)
    (log : s'.log = s.log ++ [f]) (reader : s.reader = .idle) (before : s.relayConn ≠ some k)
    (after : s'.relayConn ≠ some k) : Fed s' k c := by
  have more : s'.since c = s.since c ++ [f] := fed.since_append log rfl
  have ended : ∃ f ∈ s.since c, isClosedPush f := by
    have := fed.current.not.mp before
    push Not at this
    exact this
  refine ⟨?_, ?_, ?_, fun _ => ?_⟩
  · rw [log, List.length_append]
    exact Nat.le_add_right_of_le fed.mark
  · rw [more, relayChunks_append_of_closed ended]
    exact fed.pushes
  · obtain ⟨g, mem, closes⟩ := ended
    refine ⟨fun up => absurd up after, fun all => ?_⟩
    exact absurd closes (all g (by rw [more]; exact List.mem_append_left _ mem))
  · rcases fed.closed before with closed | shuts
    · exact .inl closed
    · rw [reader] at shuts
      cases shuts

/-- A push that reaches the connection. -/
theorem Fed.passed {s s' : Slot} {k : Nat} {c c' : TCPConn} {f : Frame} (fed : Fed s k c)
    (log : s'.log = s.log ++ [f]) (since : c'.since = c.since) (up : s.relayConn = some k)
    (pushes : c'.pushes = c.pushes ++ relayChunks [f])
    (current : s'.relayConn = some k ↔ ¬ isClosedPush f)
    (closed : s'.relayConn ≠ some k → s'.reader = .shutting k) : Fed s' k c' := by
  have more := fed.since_append log since
  have running := fed.current.mp up
  refine ⟨?_, ?_, ?_, fun other => .inr (closed other)⟩
  · rw [log, since, List.length_append]
    exact Nat.le_add_right_of_le fed.mark
  · rw [more, relayChunks_append_of_open running, pushes, fed.pushes]
  · rw [current, more]
    simp only [List.forall_mem_append, List.mem_singleton, forall_eq]
    exact ⟨fun open' => ⟨running, open'⟩, fun all => all.2⟩

theorem Fed.dispatch_step {s s' : Slot} {k : Nat} {c' : TCPConn} (h : Handover s)
    (m : Moves s .dispatch s') (conn' : s'.conns[k]? = some c') (kept : c'.released = false) :
    Fed s' k c' := by
  cases m with
  | dataPush reader next data up filled =>
    rename_i f incoming i
    have push := h.frames f (by rw [next]; exact List.mem_cons_self)
    obtain ⟨c, conn, rfl⟩ := of_update_conn conn'
    by_cases same : k = i
    · subst same
      rw [if_pos rfl] at kept ⊢
      refine (h.fed k c conn kept).passed rfl rfl up ?_ ?_ (fun other => absurd up other)
      · simp [relayChunks, push, data, filled]
      · simp [isClosedPush, data, cmdProxyDataPush, cmdProxyClosedPush, update, up]
    · rw [if_neg same] at kept ⊢
      have other : s.relayConn ≠ some k := by simpa [up] using Ne.symm same
      exact (h.fed k c conn kept).missed rfl reader other other
  | closedPush reader next closes up =>
    rename_i f incoming i
    have push := h.frames f (by rw [next]; exact List.mem_cons_self)
    by_cases same : k = i
    · subst same
      refine (h.fed k c' conn' kept).passed rfl rfl up ?_ ?_ (fun _ => rfl)
      · simp [relayChunks, push, closes, cmdProxyDataPush, cmdProxyClosedPush]
      · simp [isClosedPush, closes, push]
    · have other : s.relayConn ≠ some k := by simpa [up] using Ne.symm same
      exact (h.fed k c' conn' kept).missed rfl reader other (by simp)
  | ignored reader next data closes =>
    rename_i f incoming
    have push := h.frames f (by rw [next]; exact List.mem_cons_self)
    have fed := h.fed k c' conn' kept
    by_cases up : s.relayConn = some k
    · have open' : f.cmd ≠ cmdProxyClosedPush := fun h => by simp [closes h] at up
      refine fed.passed rfl rfl up ?_ ?_ (fun other => absurd up other)
      · have none : relayChunks [f] = [] := by
          simp only [relayChunks, push, Bool.false_eq_true, if_false]
          split_ifs with h filled <;> try rfl
          rcases data h with gone | empty
          · rw [gone] at up
            cases up
          · exact absurd filled empty
        rw [none, List.append_nil]
      · simp [isClosedPush, open', up]
    · exact fed.missed rfl reader up up
  | begin => exact (h.fed k c' conn' kept).congr rfl rfl rfl Iff.rfl id

theorem Fed.step {s s' : Slot} {a : SlotAction} {k : Nat} {c' : TCPConn} (h : Handover s)
    (m : Moves s a s') (conn' : s'.conns[k]? = some c') (kept : c'.released = false) :
    Fed s' k c' := by
  have same : ∀ {s' : Slot}, s'.conns = s.conns → s'.log = s.log → s'.relayConn = s.relayConn →
      s'.reader = s.reader → s'.conns[k]? = some c' → Fed s' k c' := by
    intro s' conns log relayConn reader conn'
    refine (h.fed k c' (conns ▸ conn') kept).congr log rfl rfl (by rw [relayConn]) ?_
    rw [reader]
    exact id
  -- a step that only moves the data of a connection
  have moved : ∀ {s' : Slot} (i : Nat) (f : TCPConn → TCPConn), s'.conns = (s.update i f).conns →
      s'.log = s.log → s'.relayConn = s.relayConn →
      (s.reader = .shutting k → s'.reader = .shutting k) →
      (∀ c, (f c).since = c.since ∧ (f c).pushes = c.pushes ∧ (f c).closed = c.closed ∧
        (f c).released = c.released) → s'.conns[k]? = some c' → Fed s' k c' := by
    intro s' i f conns log relayConn reader marks conn'
    rw [conns] at conn'
    obtain ⟨c, conn, rfl⟩ := of_update_conn conn'
    split at kept
    · rename_i here
      obtain ⟨since, pushes, closed, released⟩ := marks c
      rw [if_pos here]
      refine (h.fed k c conn (released ▸ kept)).congr log since pushes (by rw [relayConn]) ?_
      rw [closed]
      exact Or.imp_right reader
    · rename_i other
      rw [if_neg other]
      exact (h.fed k c conn kept).congr log rfl rfl (by rw [relayConn]) (Or.imp_right reader)
  cases m with
  | dataPush reader next data up filled =>
    exact dispatch_step h (.dataPush reader next data up filled) conn' kept
  | closedPush reader next closes up =>
    exact dispatch_step h (.closedPush reader next closes up) conn' kept
  | ignored reader next data closes =>
    exact dispatch_step h (.ignored reader next data closes) conn' kept
  | sent reader =>
    exact moved _ _ rfl rfl rfl (by simp [reader]) (fun _ => ⟨rfl, rfl, rfl, rfl⟩) conn'
  | dropped reader =>
    exact (h.fed k c' conn' kept).congr rfl rfl rfl Iff.rfl (by simp [reader])
  | shut reader =>
    rename_i i
    obtain ⟨c, conn, rfl⟩ := of_update_conn conn'
    by_cases here : k = i
    · rw [if_pos here] at kept ⊢
      exact (h.fed k c conn kept).congr rfl rfl rfl Iff.rfl (fun _ => .inl rfl)
    · rw [if_neg here] at kept ⊢
      refine (h.fed k c conn kept).congr rfl rfl rfl Iff.rfl ?_
      rintro (closed | shuts)
      · exact .inl closed
      · rw [reader] at shuts
        exact absurd (PushPc.shutting.inj shuts).symm here
  | install connect pc =>
    rename_i i j c
    rcases install_conn conn' with ⟨old, at_k⟩ | ⟨rfl, rfl⟩
    · rw [evicted_conn] at at_k
      split at at_k
      · obtain ⟨c, -, rfl⟩ := Option.map_eq_some_iff.mp at_k
        cases kept
      · rename_i other
        refine (h.fed k c' at_k kept).congr rfl rfl rfl ?_ id
        simp only [install, Option.some.injEq, other, iff_false]
        omega
    · have mark : s.handed j = s.log.length := by
        refine h.marked c (List.mem_of_getElem? connect) ?_ j (.inl pc)
        simp [handedOk, pc]
      have none : (s.install i c j).since ⟨[], false, [], [], false, false, s.handed j⟩ = [] := by
        simp [since, install, setConnect, mark]
      refine ⟨by simp [install, setConnect, mark], by rw [none]; rfl, ?_, fun other => ?_⟩
      · rw [none]
        simp [install]
      · simp [install] at other
  | read | eof =>
    exact moved _ _ rfl rfl rfl id (fun _ => ⟨rfl, rfl, rfl, rfl⟩) conn'
  | close =>
    obtain ⟨c, conn, rfl⟩ := of_update_conn conn'
    split at kept
    · cases kept
    · rename_i here
      simp only [here, if_false]
      exact (h.fed k c conn kept).congr rfl rfl rfl Iff.rfl id
  | clear at_i =>
    refine (h.fed k c' conn' kept).congr rfl rfl rfl ?_ id
    obtain ⟨c, conn, released⟩ := h.released _ (List.mem_of_getElem? at_i)
    simp only
    split
    · rename_i up
      rw [up]
      simp only [reduceCtorEq, Option.some.injEq, false_iff]
      rintro rfl
      rw [conn] at conn'
      obtain rfl := Option.some.inj conn'
      rw [released] at kept
      cases kept
    · rfl
  | wake up =>
    obtain ⟨c, conn, rfl⟩ := of_update_conn conn'
    split at kept
    · cases kept
    · rename_i here
      simp only [here, if_false]
      refine (h.fed k c conn kept).congr rfl rfl rfl ?_ id
      simpa [up] using Ne.symm here
  | dev | deliver | push | crash | begin | goOn | accepted | closeSend | sleep =>
    exact same rfl rfl rfl rfl conn'

theorem Handover.step {s s' : Slot} {a : SlotAction} (h : Handover s) (inTime : InTime s a)
    (m : Moves s a s') : Handover s' where
  frames := by
    cases m with
    | dev waking taken other pushes => exact fun f mem => h.frames f (pushes f mem)
    | push unsolicited =>
      intro f mem
      rcases List.mem_append.mp mem with old | new
      · exact h.frames f old
      · obtain rfl : f = _ := by simpa using new
        exact unsolicited
    | dataPush _ next | closedPush _ next | ignored _ next =>
      intro f mem
      exact h.frames f (by rw [next]; exact List.mem_cons_of_mem _ mem)
    | _ => exact h.frames
  marked := h.marked.step inTime m
  released := released_close h m
  fed _ _ conn' kept := Fed.step h m conn' kept

/-! ## Reading -/

/-- `Read` empties the channel. -/
theorem read_all {s : Slot} {k : Nat} {c : TCPConn} (alive : s.crashed = false)
    (conn : s.conns[k]? = some c) :
    ∃ s', exec step s (List.replicate c.recvCh.length (.read k)) = some s' ∧ s'.crashed = false ∧
      s'.conns[k]? = some { c with recvCh := [], reads := c.reads ++ c.recvCh } := by
  induction queue : c.recvCh generalizing s c with
  | nil =>
    refine ⟨s, rfl, alive, ?_⟩
    rw [conn, List.append_nil, ← queue]
  | cons data recvCh ih =>
    have taken : step s (.read k) =
        some (s.update k fun c => { c with recvCh, reads := c.reads ++ [data] }) := by
      simp [step, alive, read, conn, queue]
    have conn' : (s.update k fun c => { c with recvCh, reads := c.reads ++ [data] }).conns[k]? =
        some { c with recvCh, reads := c.reads ++ [data] } := by
      rw [update_conn, if_pos rfl, conn]
      rfl
    obtain ⟨s', run, alive', read⟩ := ih (s := s.update k _) alive conn' rfl
    refine ⟨s', exec_cons.mpr ⟨_, taken, run⟩, alive', ?_⟩
    simpa using read

/-- Reading from now on returns these bytes in all, and then the end if the relay was closed. -/
def Yields (s : Slot) (k : Nat) (c : TCPConn) (bytes : Bytes) (ended : Prop) : Prop :=
  ∃ s' c', exec step s (List.replicate c.recvCh.length (.read k)) = some s' ∧
    s'.conns[k]? = some c' ∧ c'.reads.flatten = bytes ∧
    (ended → ∃ s'' c'', step s' (.read k) = some s'' ∧ s''.conns[k]? = some c'' ∧ c''.eof = true)

theorem crashed_step {s s' : Slot} {a : SlotAction} (taken : step s a = some s')
    (crashed : s'.crashed = true) : s'.reader ≠ .idle := by
  have alive : s.crashed ≠ true := by
    intro dead
    simp [step, dead] at taken
  cases step_moves taken with
  | crash reader => simp [reader]
  | install => exact absurd crashed alive
  | _ => exact absurd crashed alive

/-- If no push is dispatched while an OK is on its way from `Send` into `relayConn`, and none finds
the channel full, `Read` returns all that was pushed since the OK, in order, and `io.EOF` behind it
if the relay was closed. -/
theorem tcp_connect_misses_nothing {as : List SlotAction} {s : Slot} {k : Nat} {c : TCPConn}
    (obeys : Obeys step (fun s a => Room s a ∧ InTime s a) new as)
    (run : exec step new as = some s) (conn : s.conns[k]? = some c) (kept : c.released = false)
    (idle : s.reader = .idle) :
    s.Yields k c (relayChunks (s.since c)).flatten (∃ f ∈ s.since c, isClosedPush f) := by
  have inv := exec_invariant_of_obeys (fun s => Known s ∧ Balanced s ∧ Handover s ∧
    (s.crashed = true → s.reader ≠ .idle)) ?_
    ⟨⟨by simp [new], by simp [new], by simp [new]⟩, by simp [Balanced, new],
      ⟨by simp [new], by simp [Marked, new], by simp [new], by simp [new]⟩, by simp [new]⟩ obeys run
  · obtain ⟨-, balanced, handover, crashed⟩ := inv
    have alive : s.crashed = false := by
      by_contra dead
      exact crashed (by simpa using dead) idle
    have fed := handover.fed k c conn kept
    obtain ⟨s', reads, alive', conn'⟩ := read_all alive conn
    refine ⟨s', _, reads, conn', ?_, fun ended => ?_⟩
    · have all := balanced k c conn
      simp only [inHand, idle, List.append_nil] at all
      simp only [all, fed.pushes]
    · have gone : s.relayConn ≠ some k := by
        intro up
        obtain ⟨f, mem, closes⟩ := ended
        exact fed.current.mp up f mem closes
      have closed : c.closed = true := by
        rcases fed.closed gone with closed | shuts
        · exact closed
        · rw [idle] at shuts
          cases shuts
      refine ⟨s'.update k fun c => { c with eof := true },
        { c with recvCh := [], reads := c.reads ++ c.recvCh, eof := true }, ?_, ?_, rfl⟩
      · simp [step, alive', read, conn', closed]
      · rw [update_conn, if_pos rfl, conn']
        rfl
  · rintro s a t ⟨known, balanced, handover, -⟩ ⟨room, inTime⟩ taken
    have m := step_moves taken
    exact ⟨known.step m, balanced.step known room m, handover.step inTime m, crashed_step taken⟩

/-- The closed push arrives and is dispatched. -/
def hungUp : List SlotAction :=
  [.push ⟨0, cmdProxyClosedPush, false, 0, []⟩, .dispatch, .dispatched]

theorem tcp_connect_misses_nothing_one : ∃ s c,
    exec step new (accepted ++ installed ++ pushed [5] ++ hungUp) = some s ∧
    s.conns = [c] ∧ s.log.map Frame.payload = [[5], []] ∧
    s.Yields 0 c (relayChunks (s.since c)).flatten (∃ f ∈ s.since c, isClosedPush f) := by
  have ends : (exec step new (accepted ++ installed ++ pushed [5] ++ hungUp)).map
      (fun s => (s.conns, s.reader, s.log.map Frame.payload)) =
      some ([⟨[[5]], true, [[5]], [], false, false, 0⟩], .idle, [[5], []]) := by
    decide +kernel
  have obeys : Obeys step (fun s a => Room s a ∧ InTime s a) new
      (accepted ++ installed ++ pushed [5] ++ hungUp) := by
    decide +kernel
  obtain ⟨s, run, seen⟩ := Option.map_eq_some_iff.mp ends
  simp only [Prod.mk.injEq] at seen
  obtain ⟨conns, idle, log⟩ := seen
  have conn : s.conns[0]? = some ⟨[[5]], true, [[5]], [], false, false, 0⟩ := by rw [conns]; rfl
  exact ⟨s, _, run, conns, log, tcp_connect_misses_nothing obeys run conn rfl idle⟩

/-- A push and the end of the relay are dispatched before the connection is installed. -/
def missedRun : List SlotAction :=
  accepted ++ [.push ⟨0, cmdProxyDataPush, false, 0, [5]⟩, .dispatch,
    .push ⟨0, cmdProxyClosedPush, false, 0, []⟩, .dispatch] ++ installed

theorem tcp_connect_misses_pushes : ∃ s c, Obeys step Room new missedRun ∧
    exec step new missedRun = some s ∧ s.conns[0]? = some c ∧ c.released = false ∧
    s.reader = .idle ∧ s.since c ≠ [] ∧
    ¬ s.Yields 0 c (relayChunks (s.since c)).flatten (∃ f ∈ s.since c, isClosedPush f) := by
  have ends : (exec step new missedRun).map (fun s => (s.conns, s.reader, s.log)) =
      some ([⟨[], false, [], [], false, false, 0⟩], .idle,
        [⟨0, cmdProxyDataPush, false, 0, [5]⟩, ⟨0, cmdProxyClosedPush, false, 0, []⟩]) := by
    decide +kernel
  have room : Obeys step Room new missedRun := by decide +kernel
  obtain ⟨s, run, seen⟩ := Option.map_eq_some_iff.mp ends
  simp only [Prod.mk.injEq] at seen
  obtain ⟨conns, idle, log⟩ := seen
  have conn : s.conns[0]? = some ⟨[], false, [], [], false, false, 0⟩ := by rw [conns]; rfl
  refine ⟨s, _, room, run, conn, rfl, idle, by simp [since, log], ?_⟩
  rintro ⟨s', c', reads, conn', bytes, -⟩
  obtain rfl : s = s' := by simpa using reads
  obtain rfl := Option.some.inj (conn.symm.trans conn')
  simp [since, log, relayChunks] at bytes

end Slot

end EspNetwork.Host
