import Mathlib
import EspNetwork.Proxy.Server

/-!
# Announcing a connection

`handleConnect` starts the goroutines of a target before it acknowledges the request, so the
acknowledgement is the first frame of its connection only if the target is quiet until then.
This is proved for every run in which targets are, together with the counts: one reply for a
request, and a Close from whoever won the target's `closeOnce`.
-/

namespace EspNetwork.Proxy

open Serial (Byte Bytes)
open Relay (VFrame)
open Schedule

/-! ## The frames of a connection -/

/-- The acknowledgement of a connection. -/
def okAck (id : UInt32) : VFrame := ⟨cmdProxyConnect, id, [statusOK]⟩

/-- Any answer to a connect request. -/
def isReply (id : UInt32) (f : VFrame) : Bool := f.cmd = cmdProxyConnect ∧ f.connID = id

def isClose (id : UInt32) (f : VFrame) : Bool := f.cmd = cmdProxyClose ∧ f.connID = id

/-- A frame that uses its connection. -/
def isUse (f : VFrame) : Bool := f.cmd = cmdProxyData ∨ f.cmd = cmdProxyClose

/-- Connections are acknowledged before they are used. -/
def AckFirst (sent : List VFrame) : Prop :=
  ∀ pre f post, sent = pre ++ f :: post → isUse f → okAck f.connID ∈ pre

theorem ackFirst_concat {sent : List VFrame} {f : VFrame} (first : AckFirst sent)
    (use : isUse f → okAck f.connID ∈ sent) : AckFirst (sent ++ [f]) := by
  intro pre g post split used
  rcases List.eq_nil_or_concat post with rfl | ⟨post, x, rfl⟩
  · obtain ⟨rfl, rfl⟩ : sent = pre ∧ f = g := by simpa using List.append_inj' split rfl
    exact use used
  · refine first pre g post ?_ used
    have : sent ++ [f] = (pre ++ g :: post) ++ [x] := by simpa using split
    exact (List.append_inj' this rfl).1

theorem AckFirst.acked_of_mem {sent : List VFrame} (first : AckFirst sent) {f : VFrame}
    (mem : f ∈ sent) (use : isUse f) : okAck f.connID ∈ sent := by
  obtain ⟨pre, post, rfl⟩ := List.append_of_mem mem
  exact List.mem_append_left _ (first pre f post rfl use)

/-- What the server owes the frames of one connection: an acknowledgement before any use, one
answer at most, and at most one Close. -/
structure Announced (sent : List VFrame) (id : UInt32) : Prop where
  first : ∀ pre f post, sent = pre ++ f :: post → isUse f → f.connID = id → okAck id ∈ pre
  replies : sent.countP (isReply id) ≤ 1
  closes : sent.countP (isClose id) ≤ 1

namespace Server

/-- Every connection is announced, and a request whose handler has returned was answered
exactly once, with an acknowledgement if its target was dialled. -/
def Announces (s : Server) : Prop :=
  (∀ id, Announced s.sent id) ∧ ∀ h ∈ s.handlers, h.pc = .returned →
    s.sent.countP (isReply h.id) = 1 ∧ ((∃ tc ∈ s.tcs, tc.id = h.id) → okAck h.id ∈ s.sent)

/-- The condition on a step. Until its connection is acknowledged a target sends nothing, does
not fail a write and does not end, unless it was closed by request; answers are written before
the relay is lost; and every connect request has an id of its own. -/
def QuietUntilAck (s : Server) : Action → Prop
  | .targetRead j data fail => ∀ tc, s.tcs[j]? = some tc → okAck tc.id ∉ s.sent →
    data = [] ∧ (fail = true → tc.closeOnce ≠ .fresh)
  | .targetWrite j ok => ∀ tc, s.tcs[j]? = some tc → okAck tc.id ∉ s.sent →
    ok = false → tc.closeOnce ≠ .fresh
  | .handlerDone _ => False
  | .run => ∀ f, s.run = .dispatch f → f.cmd = cmdProxyConnect → ∀ h ∈ s.handlers, h.id ≠ f.connID
  | _ => True

/-! ## Targets -/

/-- Whether a goroutine stands behind the guard of `closeNotify`. -/
def inBody : Option NotifyPc → Nat
  | none | some .enter => 0
  | some _ => 1

def holders (tc : TargetConn) : Nat := inBody (tc.notifyPc .reader) + inBody (tc.notifyPc .writer)

def held : Once → Nat
  | .running => 1
  | .fresh | .finished => 0

theorem held_le (once : Once) : held once ≤ 1 := by
  cases once <;> simp [held]

theorem notifyPc_setNotify (tc : TargetConn) (side : Side) (next : Option NotifyPc) (side' : Side) :
    (tc.setNotify side next).notifyPc side' = if side' = side then next else tc.notifyPc side' := by
  cases side <;> cases side' <;> cases next <;> rfl

theorem holders_setNotify (tc : TargetConn) (side : Side) (next : Option NotifyPc) :
    holders (tc.setNotify side next) + inBody (tc.notifyPc side) = holders tc + inBody next := by
  cases side <;> simp [holders, notifyPc_setNotify] <;> omega

/-- Nothing of the target is on its way to the relay. -/
structure Quiet (tc : TargetConn) : Prop where
  reader : ∀ data fail, tc.reader ≠ .send data fail
  outside : holders tc = 0
  shut : ∀ side, tc.notifyPc side = some .enter → tc.closeOnce ≠ .fresh

/-- One goroutine at most is inside the `closeOnce` of a target, and only one that was sends the
Close frame. -/
structure OnceInv (tc : TargetConn) (request : Bool) (closes : Nat) : Prop where
  holds : holders tc + request.toNat = held tc.closeOnce
  few : closes ≤ 1
  none : tc.closeOnce ≠ .finished → closes = 0

structure Targets (s : Server) : Prop where
  distinct : ∀ (i j : Nat) (tc tc' : TargetConn), s.tcs[i]? = some tc → s.tcs[j]? = some tc' →
    tc.id = tc'.id → i = j
  quiet : ∀ (j : Nat) (tc : TargetConn), s.tcs[j]? = some tc → okAck tc.id ∉ s.sent → Quiet tc
  once : ∀ (j : Nat) (tc : TargetConn), s.tcs[j]? = some tc →
    OnceInv tc (s.inRequest j) (s.sent.countP (isClose tc.id))
  first : AckFirst s.sent
  closers : ∀ f ∈ s.sent, f.cmd = cmdProxyClose → ∃ j, s.HasId j f.connID

/-- One target and the place of `Run` change. -/
theorem Targets.update {s : Server} (t : Targets s) {j : Nat} {tc tc' : TargetConn}
    (target : s.tcs[j]? = some tc) (id : tc'.id = tc.id) (pc : RunPc)
    (requests : ∀ i, i ≠ j → ((s.setConn j tc').setRun pc).inRequest i = s.inRequest i)
    (quiet : okAck tc.id ∉ s.sent → Quiet tc → Quiet tc')
    (once : ∀ n, OnceInv tc (s.inRequest j) n →
      OnceInv tc' (((s.setConn j tc').setRun pc).inRequest j) n) :
    Targets ((s.setConn j tc').setRun pc) where
  distinct i k u v hu hv same := by
    simp only [setRun_fields, setConn_target s target] at hu hv
    split at hu <;> split at hv
    · omega
    · obtain rfl := Option.some.inj hu
      rw [id] at same
      have := t.distinct j k tc v target hv same
      omega
    · obtain rfl := Option.some.inj hv
      rw [id] at same
      have := t.distinct i j u tc hu target same
      omega
    · exact t.distinct i k u v hu hv same
  quiet i u hu unacked := by
    simp only [setRun_fields, setConn_target s target] at hu
    split at hu
    · obtain rfl := Option.some.inj hu
      have unacked : okAck tc.id ∉ s.sent := by simpa [id] using unacked
      exact quiet unacked (t.quiet j tc target unacked)
    · exact t.quiet i u hu unacked
  once i u hu := by
    simp only [setRun_fields, setConn_target s target] at hu
    split at hu
    · subst i
      obtain rfl := Option.some.inj hu
      rw [id]
      exact once _ (t.once j tc target)
    · rename_i other
      rw [requests i other]
      exact t.once i u hu
  first := t.first
  closers f hf close := by
    obtain ⟨k, h⟩ := t.closers f hf close
    exact ⟨k, h.setConn target id⟩

theorem Targets.setConn {s : Server} (t : Targets s) {j : Nat} {tc tc' : TargetConn}
    (target : s.tcs[j]? = some tc) (id : tc'.id = tc.id)
    (quiet : okAck tc.id ∉ s.sent → Quiet tc → Quiet tc')
    (once : ∀ n, OnceInv tc (s.inRequest j) n → OnceInv tc' (s.inRequest j) n) :
    Targets (s.setConn j tc') :=
  t.update target id s.run (fun _ _ => rfl) quiet once

/-- Only targets, frames and the requests of `Run` matter. -/
theorem Targets.congr {s s' : Server} (t : Targets s) (tcs : s'.tcs = s.tcs)
    (sent : s'.sent = s.sent) (requests : ∀ j, s'.inRequest j = s.inRequest j) : Targets s' := by
  refine ⟨?_, ?_, ?_, ?_, ?_⟩
  · rw [tcs]
    exact t.distinct
  · rw [tcs, sent]
    exact t.quiet
  · intro j tc target
    rw [requests j, sent]
    exact t.once j tc (tcs ▸ target)
  · rw [sent]
    exact t.first
  · intro f hf close
    obtain ⟨j, tc, target, id⟩ := t.closers f (sent ▸ hf) close
    exact ⟨j, tc, tcs ▸ target, id⟩

/-- A frame that is no Close is queued. -/
theorem Targets.put {s : Server} (t : Targets s) {f : VFrame} (close : f.cmd ≠ cmdProxyClose)
    (use : isUse f → okAck f.connID ∈ s.sent) : Targets (s.put f) where
  distinct := t.distinct
  quiet j tc target unacked := t.quiet j tc target fun acked => unacked (by simp [acked])
  once j tc target := by
    have inv := t.once j tc target
    have none : isClose tc.id f = false := by simp [isClose, close]
    rw [(put_fields s f).2.1, List.countP_append, List.countP_singleton, none]
    exact inv
  first := ackFirst_concat t.first use
  closers g hg hc := by
    rcases List.mem_append.mp hg with old | new
    · exact t.closers g old hc
    · obtain rfl := List.mem_singleton.mp new
      exact absurd hc close

/-- A target whose `closeOnce` is through queues its Close. -/
theorem Targets.putClose {s : Server} (t : Targets s) {j : Nat} {tc : TargetConn}
    (target : s.tcs[j]? = some tc) (acked : okAck tc.id ∈ s.sent) (once : tc.closeOnce = .finished)
    (none : s.sent.countP (isClose tc.id) = 0) : Targets (s.put ⟨cmdProxyClose, tc.id, []⟩) where
  distinct := t.distinct
  quiet i u hu unacked := t.quiet i u hu fun acked => unacked (by simp [acked])
  once i u hu := by
    have inv := t.once i u hu
    by_cases same : u.id = tc.id
    · obtain rfl := t.distinct i j u tc hu target same
      obtain rfl := Option.some.inj (target.symm.trans hu)
      refine ⟨inv.holds, ?_, fun h => absurd once h⟩
      simp [none, isClose]
    · have other : isClose u.id ⟨cmdProxyClose, tc.id, []⟩ = false := by
        simp [isClose, Ne.symm same]
      rw [(put_fields s _).2.1, List.countP_append, List.countP_singleton, other]
      exact inv
  first := ackFirst_concat t.first fun _ => acked
  closers g hg hc := by
    rcases List.mem_append.mp hg with old | new
    · exact t.closers g old hc
    · obtain rfl := List.mem_singleton.mp new
      exact ⟨j, tc, target, rfl⟩

/-- A new target has an id of its own. -/
theorem Targets.addTarget {s : Server} (t : Targets s) (x : Indexed s) {id : UInt32} (host : Bytes)
    (port : UInt16) (new : ∀ (j : Nat) (tc : TargetConn), s.tcs[j]? = some tc → tc.id ≠ id)
    (unused : okAck id ∉ s.sent) : Targets (s.addTarget (newTargetConn id host port)) := by
  refine ⟨fun i j tc tc' hi hj same => ?_, fun j tc target unacked => ?_, fun j tc target => ?_,
    t.first, fun f hf close => ?_⟩
  · rcases addTarget_target hi with old | ⟨rfl, rfl⟩ <;>
      rcases addTarget_target hj with old' | ⟨rfl, rfl⟩
    · exact t.distinct i j tc tc' old old' same
    · exact absurd same (new i tc old)
    · exact absurd same.symm (new j tc' old')
    · rfl
  · rcases addTarget_target target with old | ⟨rfl, rfl⟩
    · exact t.quiet j tc old unacked
    · refine ⟨by simp [newTargetConn], rfl, ?_⟩
      rintro ⟨⟩ <;> simp [newTargetConn, TargetConn.notifyPc]
  · rcases addTarget_target target with old | ⟨rfl, rfl⟩
    · exact t.once j tc old
    · have free : (s.addTarget (newTargetConn id host port)).inRequest s.tcs.length = false :=
        x.inRequest_new
      have none : s.sent.countP (isClose id) = 0 := by
        rw [List.countP_eq_zero]
        intro f hf close
        obtain ⟨cmd, rfl⟩ : f.cmd = cmdProxyClose ∧ f.connID = id := by simpa [isClose] using close
        exact unused (t.first.acked_of_mem hf (by simp [isUse, cmd]))
      rw [free]
      exact ⟨rfl, by simp [Server.addTarget, newTargetConn, none],
        fun _ => by simp [Server.addTarget, newTargetConn, none]⟩
  · obtain ⟨j, h⟩ := t.closers f hf close
    exact ⟨j, h.addTarget _⟩

theorem Targets.cleanup {s : Server} (t : Targets s) (free : ∀ j, s.inRequest j = false) :
    Targets s.cleanup := by
  refine ⟨fun i j u v hu hv same => ?_, fun j u hu unacked => ?_, fun j u hu => ?_, t.first,
    fun f hf close => ?_⟩
  · obtain ⟨u', hu', rfl | rfl⟩ := cleanup_target hu <;>
      obtain ⟨v', hv', rfl | rfl⟩ := cleanup_target hv <;>
      exact t.distinct i j _ _ hu' hv' same
  · obtain ⟨u', hu', rfl | rfl⟩ := cleanup_target hu <;> have q := t.quiet j _ hu' unacked
    · exact q
    · exact ⟨q.reader, q.outside, q.shut⟩
  · have still : s.cleanup.inRequest j = s.inRequest j := by
      rw [free j]
      simp [inRequest, Server.cleanup]
    rw [still]
    obtain ⟨u', hu', rfl | rfl⟩ := cleanup_target hu <;> have o := t.once j _ hu'
    · exact o
    · exact ⟨o.holds, o.few, o.none⟩
  · obtain ⟨j, h⟩ := t.closers f hf close
    exact ⟨j, h.cleanup⟩

/-! ## Handlers -/

/-- Whether the call may have dialled its target. -/
def mayHaveDialled : HandlerPc → Bool
  | .start | .reply _ | .dial .. => false
  | .add _ | .ack _ | .returned => true

structure Replies (s : Server) : Prop where
  distinct : ∀ (i j : Nat) (h h' : Handler), s.handlers[i]? = some h → s.handlers[j]? = some h' →
    h.id = h'.id → i = j
  counted : ∀ (i : Nat) (h : Handler), s.handlers[i]? = some h →
    s.sent.countP (isReply h.id) = if h.pc = .returned then 1 else 0
  known : ∀ f ∈ s.sent, f.cmd = cmdProxyConnect → ∃ h ∈ s.handlers, h.id = f.connID
  undialled : ∀ (i : Nat) (h : Handler), s.handlers[i]? = some h → mayHaveDialled h.pc = false →
    ∀ j, ¬ s.HasId j h.id
  dialler : ∀ j id, s.HasId j id → ∃ h ∈ s.handlers, h.id = id
  acked : ∀ (i : Nat) (h : Handler), s.handlers[i]? = some h → h.pc = .returned →
    ∀ j, s.HasId j h.id → okAck h.id ∈ s.sent

/-- Requests are answered by their handlers only, so nothing else matters. -/
theorem Replies.congr {s s' : Server} (r : Replies s) (handlers : s'.handlers = s.handlers)
    (sent : s'.sent = s.sent ∨ ∃ f, f.cmd ≠ cmdProxyConnect ∧ s'.sent = s.sent ++ [f])
    (ids : ∀ j id, s'.HasId j id → s.HasId j id) : Replies s' := by
  have same : ∀ id, s'.sent.countP (isReply id) = s.sent.countP (isReply id) := by
    intro id
    rcases sent with eq | ⟨f, other, eq⟩
    · rw [eq]
    · simp [eq, List.countP_append, isReply, other]
  have more : ∀ f ∈ s.sent, f ∈ s'.sent := by
    intro f hf
    rcases sent with eq | ⟨g, -, eq⟩ <;> simp [eq, hf]
  refine ⟨handlers ▸ r.distinct, fun i h hh => ?_, fun f hf connect => ?_,
    fun i h hh early j id => ?_, fun j id hid => ?_, fun i h hh returned j hid => ?_⟩
  · rw [same]
    exact r.counted i h (handlers ▸ hh)
  · rw [handlers]
    rcases sent with eq | ⟨g, other, eq⟩
    · exact r.known f (eq ▸ hf) connect
    · rcases List.mem_append.mp (eq ▸ hf) with old | new
      · exact r.known f old connect
      · obtain rfl := List.mem_singleton.mp new
        exact absurd connect other
  · exact r.undialled i h (handlers ▸ hh) early j (ids j _ id)
  · rw [handlers]
    exact r.dialler j id (ids j id hid)
  · exact more _ (r.acked i h (handlers ▸ hh) returned j (ids j _ hid))

/-! The ids of the handlers do not change with their places. -/

theorem distinct_set {s : Server} {i : Nat} {h : Handler}
    (distinct : ∀ (i j : Nat) (h h' : Handler), s.handlers[i]? = some h →
      s.handlers[j]? = some h' → h.id = h'.id → i = j)
    (handler : s.handlers[i]? = some h) (pc : HandlerPc) (k l : Nat) (u v : Handler)
    (hu : (s.handlers.set i { h with pc })[k]? = some u)
    (hv : (s.handlers.set i { h with pc })[l]? = some v) (same : u.id = v.id) : k = l := by
  have at_index := setHandler_handler s handler { h with pc }
  simp only [setHandler_fields] at at_index
  rw [at_index] at hu hv
  split at hu <;> split at hv
  · omega
  · obtain rfl := Option.some.inj hu
    have := distinct i l h v handler hv same
    omega
  · obtain rfl := Option.some.inj hv
    have := distinct k i u h hu handler same
    omega
  · exact distinct k l u v hu hv same

theorem exists_handler_set {s : Server} {i : Nat} {h : Handler}
    (handler : s.handlers[i]? = some h) (pc : HandlerPc) {id : UInt32}
    (some : ∃ x ∈ s.handlers, x.id = id) : ∃ x ∈ s.handlers.set i { h with pc }, x.id = id := by
  obtain ⟨x, hx, rfl⟩ := some
  obtain ⟨k, hk⟩ := List.getElem?_of_mem hx
  have set := setHandler_handler s handler { h with pc } k
  split at set
  · subst k
    obtain rfl := Option.some.inj (handler.symm.trans hk)
    exact ⟨_, List.mem_of_getElem? set, rfl⟩
  · exact ⟨x, List.mem_of_getElem? (set.trans hk), rfl⟩

/-- A handler goes on without answering. -/
theorem Replies.setHandler {s : Server} (r : Replies s) {i : Nat} {h : Handler} {pc : HandlerPc}
    (handler : s.handlers[i]? = some h) (before : h.pc ≠ .returned) (after : pc ≠ .returned)
    (dials : mayHaveDialled pc = false → mayHaveDialled h.pc = false) :
    Replies (s.setHandler i { h with pc }) := by
  have at_index := setHandler_handler s handler { h with pc }
  refine ⟨distinct_set r.distinct handler _, fun k u hu => ?_, fun f hf connect => ?_,
    fun k u hu early j => ?_, fun j id hid => ?_, fun k u hu returned j hid => ?_⟩
  · rw [at_index] at hu
    split at hu
    · obtain rfl := Option.some.inj hu
      simpa [before, after] using r.counted i h handler
    · exact r.counted k u hu
  · exact exists_handler_set handler _ (r.known f hf connect)
  · rw [at_index] at hu
    split at hu
    · obtain rfl := Option.some.inj hu
      exact r.undialled i h handler (dials early) j
    · exact r.undialled k u hu early j
  · exact exists_handler_set handler _ (r.dialler j id hid)
  · rw [at_index] at hu
    split at hu
    · obtain rfl := Option.some.inj hu
      exact absurd returned after
    · exact r.acked k u hu returned j hid

/-- A handler answers and returns. -/
theorem Replies.answer {s : Server} (r : Replies s) {i : Nat} {h : Handler} {status : Byte}
    (handler : s.handlers[i]? = some h) (before : h.pc ≠ .returned)
    (ok : ∀ j, s.HasId j h.id → status = statusOK) :
    Replies ((s.put ⟨cmdProxyConnect, h.id, [status]⟩).setHandler i { h with pc := .returned }) := by
  have at_index := setHandler_handler (s.put ⟨cmdProxyConnect, h.id, [status]⟩) handler
    { h with pc := .returned }
  have count : ∀ id, (s.put ⟨cmdProxyConnect, h.id, [status]⟩).sent.countP (isReply id) =
      s.sent.countP (isReply id) + if h.id = id then 1 else 0 := by
    intro id
    simp [List.countP_append, List.countP_singleton, isReply]
  refine ⟨distinct_set r.distinct handler _, fun k u hu => ?_, fun f hf connect => ?_,
    fun k u hu early j => ?_, fun j id hid => ?_, fun k u hu returned j hid => ?_⟩
  · rw [at_index] at hu
    split at hu
    · obtain rfl := Option.some.inj hu
      refine (count h.id).trans ?_
      simp [r.counted i h handler, before]
    · rename_i other
      have : h.id ≠ u.id := fun same => other (r.distinct i k h u handler hu same).symm
      refine (count u.id).trans ?_
      simp [r.counted k u hu, this]
  · rcases List.mem_append.mp hf with old | new
    · exact exists_handler_set handler _ (r.known f old connect)
    · obtain rfl := List.mem_singleton.mp new
      exact exists_handler_set handler _ ⟨h, List.mem_of_getElem? handler, rfl⟩
  · rw [at_index] at hu
    split at hu
    · obtain rfl := Option.some.inj hu
      simp [mayHaveDialled] at early
    · exact r.undialled k u hu early j
  · exact exists_handler_set handler _ (r.dialler j id hid)
  · rw [at_index] at hu
    split at hu
    · obtain rfl := Option.some.inj hu
      obtain rfl := ok j hid
      exact List.mem_append_right _ (List.mem_singleton.mpr rfl)
    · exact List.mem_append_left _ (r.acked k u hu returned j hid)

/-- A handler dials its target. -/
theorem Replies.dial {s : Server} (r : Replies s) {i : Nat} {h : Handler} {host : Bytes}
    {port : UInt16} (handler : s.handlers[i]? = some h) (pc : h.pc = .dial host port) :
    Replies ((s.addTarget (newTargetConn h.id host port)).setHandler i
      { h with pc := .add s.tcs.length }) := by
  have at_index := setHandler_handler (s.addTarget (newTargetConn h.id host port)) handler
    { h with pc := .add s.tcs.length }
  have ids : ∀ j id, (s.addTarget (newTargetConn h.id host port)).HasId j id →
      s.HasId j id ∨ id = h.id := by
    rintro j id ⟨tc, target, rfl⟩
    rcases addTarget_target target with old | ⟨-, rfl⟩
    · exact .inl ⟨tc, old, rfl⟩
    · exact .inr rfl
  refine ⟨distinct_set r.distinct handler _, fun k u hu => ?_, fun f hf connect => ?_,
    fun k u hu early j hid => ?_, fun j id hid => ?_, fun k u hu returned j hid => ?_⟩
  · rw [at_index] at hu
    split at hu
    · obtain rfl := Option.some.inj hu
      simpa [pc, Server.addTarget] using r.counted i h handler
    · exact r.counted k u hu
  · exact exists_handler_set handler _ (r.known f hf connect)
  · rw [at_index] at hu
    split at hu
    · obtain rfl := Option.some.inj hu
      simp [mayHaveDialled] at early
    · rename_i other
      rcases ids j u.id hid with old | same
      · exact r.undialled k u hu early j old
      · exact other (r.distinct k i u h hu handler same)
  · rcases ids j id hid with old | rfl
    · exact exists_handler_set handler _ (r.dialler j id old)
    · exact exists_handler_set handler _ ⟨h, List.mem_of_getElem? handler, rfl⟩
  · rw [at_index] at hu
    split at hu
    · obtain rfl := Option.some.inj hu
      simp at returned
    · rename_i other
      rcases ids j u.id hid with old | same
      · exact r.acked k u hu returned j old
      · exact absurd (r.distinct k i u h hu handler same) other

/-- A request with a new id arrives. -/
theorem Replies.request {s : Server} (r : Replies s) {id : UInt32} (payload : Bytes)
    (new : ∀ h ∈ s.handlers, h.id ≠ id) : Replies (s.addHandler ⟨id, payload, .start⟩) := by
  have at_index : ∀ (k : Nat) (u : Handler), (s.handlers ++ [⟨id, payload, .start⟩])[k]? = some u →
      s.handlers[k]? = some u ∨ (k = s.handlers.length ∧ u = ⟨id, payload, .start⟩) := by
    intro k u hu
    rw [List.getElem?_append] at hu
    split at hu
    · exact .inl hu
    · obtain ⟨hlt, rfl⟩ := List.getElem?_eq_some_iff.mp hu
      simp only [List.length_singleton] at hlt
      exact .inr ⟨by omega, by simp⟩
  have fresh : ∀ (k : Nat) (u : Handler), s.handlers[k]? = some u → u.id ≠ id :=
    fun k u hu => new u (List.mem_of_getElem? hu)
  refine ⟨fun k l u v hu hv same => ?_, fun k u hu => ?_, fun f hf connect => ?_,
    fun k u hu early j hid => ?_, fun j k hid => ?_, fun k u hu returned j hid => ?_⟩
  · rcases at_index k u hu with old | ⟨rfl, rfl⟩ <;> rcases at_index l v hv with old' | ⟨rfl, rfl⟩
    · exact r.distinct k l u v old old' same
    · exact absurd same (fresh k u old)
    · exact absurd same.symm (fresh l v old')
    · rfl
  · rcases at_index k u hu with old | ⟨rfl, rfl⟩
    · exact r.counted k u old
    · simp only [reduceCtorEq, ↓reduceIte, List.countP_eq_zero]
      intro f hf reply
      obtain ⟨connect, rfl⟩ : f.cmd = cmdProxyConnect ∧ f.connID = id := by
        simpa [isReply] using reply
      obtain ⟨h, mem, same⟩ := r.known f hf connect
      exact new h mem same
  · obtain ⟨h, mem, same⟩ := r.known f hf connect
    exact ⟨h, List.mem_append_left _ mem, same⟩
  · rcases at_index k u hu with old | ⟨rfl, rfl⟩
    · exact r.undialled k u old early j hid
    · obtain ⟨h, mem, same⟩ := r.dialler j id hid
      exact new h mem same
  · obtain ⟨h, mem, same⟩ := r.dialler j k hid
    exact ⟨h, List.mem_append_left _ mem, same⟩
  · rcases at_index k u hu with old | ⟨rfl, rfl⟩
    · exact r.acked k u old returned j hid
    · simp at returned

theorem hasId_of_setConn {s : Server} {j : Nat} {tc tc' : TargetConn}
    (target : s.tcs[j]? = some tc) (same : tc'.id = tc.id) (i : Nat) (id : UInt32)
    (h : (s.setConn j tc').HasId i id) : s.HasId i id := by
  obtain ⟨u, hu, rfl⟩ := h
  rw [setConn_target s target] at hu
  split at hu
  · subst i
    obtain rfl := Option.some.inj hu
    exact ⟨tc, target, same.symm⟩
  · exact ⟨u, hu, rfl⟩

theorem hasId_of_cleanup {s : Server} (j : Nat) (id : UInt32) (h : s.cleanup.HasId j id) :
    s.HasId j id := by
  obtain ⟨u, hu, rfl⟩ := h
  obtain ⟨tc, target, rfl | rfl⟩ := cleanup_target hu
  · exact ⟨u, target, rfl⟩
  · exact ⟨tc, target, rfl⟩

theorem Replies.step {s s' : Server} {a : Action} {out : List VFrame} (r : Replies s)
    (quiet : QuietUntilAck s a) (taken : Steps s a s' out) : Replies s' := by
  cases taken with
  | malformed handler pc | wellFormed handler pc | dialFailed handler pc =>
    exact r.setHandler handler (by simp [pc]) (by simp) (by simp [pc, mayHaveDialled])
  | add handler pc =>
    refine Replies.congr (s := s.setHandler _ _) ?_ rfl (.inl rfl) (fun _ _ h => h)
    exact r.setHandler handler (by simp [pc]) (by simp) (by simp [mayHaveDialled])
  | reply handler pc =>
    refine r.answer handler (by simp [pc]) fun j hid => ?_
    exact absurd hid (r.undialled _ _ handler (by simp [pc, mayHaveDialled]) j)
  | ack handler pc => exact r.answer handler (by simp [pc]) fun _ _ => rfl
  | dialConn handler pc => exact r.dial handler pc
  | replyDone | ackDone => exact absurd quiet id
  | dispatchConnect run cmd =>
    refine Replies.congr (s := s.addHandler _) ?_ rfl (.inl rfl) (fun _ _ h => h)
    exact r.request _ (quiet _ run cmd)
  | dialPanicked | top | frame | relayLost | dispatchData | dispatchClose | dispatchPing | idle
  | remove | drain | flushFailed | drainDone =>
    exact r.congr rfl (.inl rfl) (fun _ _ h => h)
  | enqueue _ target | requestEnter _ target | requestCancel _ target | requestClose _ target
  | readNone _ target | readSome _ target | readSendDone target | take target | write _ target
  | writerDone target =>
    exact r.congr rfl (.inl rfl) (hasId_of_setConn target rfl)
  | notifyEnter target | notifyLate target | notifyCancel target | notifyClose target
  | notifyRemove target | notifySendDone target =>
    exact r.congr rfl (.inl rfl) (hasId_of_setConn target (by simp))
  | readSend target =>
    exact r.congr rfl (.inr ⟨_, by simp [cmdProxyData, cmdProxyConnect], rfl⟩)
      (hasId_of_setConn target rfl)
  | notifySend target =>
    exact r.congr rfl (.inr ⟨_, by simp [cmdProxyClose, cmdProxyConnect], rfl⟩)
      (hasId_of_setConn target (by simp))
  | ping | heartbeat =>
    exact r.congr rfl (.inr ⟨_, by simp [cmdProxyPing, cmdProxyConnect], rfl⟩) (fun _ _ h => h)
  | cleanup => exact r.congr rfl (.inl rfl) hasId_of_cleanup

/-! ## Steps of a target -/

theorem OnceInv.congr {tc tc' : TargetConn} {request request' : Bool} {n : Nat}
    (o : OnceInv tc request n) (holds : holders tc' = holders tc)
    (once : tc'.closeOnce = tc.closeOnce) (same : request' = request) : OnceInv tc' request' n :=
  ⟨by rw [holds, once, same, o.holds], o.few, by rw [once]; exact o.none⟩

/-- The goroutine that enters an unused `closeOnce` is alone in it. -/
theorem OnceInv.enter {tc tc' : TargetConn} {request request' : Bool} {n : Nat}
    (o : OnceInv tc request n) (fresh : tc.closeOnce = .fresh) (running : tc'.closeOnce = .running)
    (holds : holders tc' + request'.toNat = holders tc + request.toNat + 1) :
    OnceInv tc' request' n := by
  refine ⟨?_, o.few, fun _ => o.none (by simp [fresh])⟩
  rw [holds, o.holds, fresh, running]
  rfl

theorem OnceInv.leave {tc tc' : TargetConn} {request request' : Bool} {n : Nat}
    (o : OnceInv tc request n) (finished : tc'.closeOnce = .finished)
    (holds : holders tc' + request'.toNat + 1 = holders tc + request.toNat) :
    OnceInv tc' request' n := by
  refine ⟨?_, o.few, fun h => absurd finished h⟩
  have := o.holds
  have := held_le tc.closeOnce
  rw [finished]
  simp only [held]
  omega

/-- Inside the body of `closeNotify` a target is not quiet. -/
theorem Quiet.outside_body {tc : TargetConn} (q : Quiet tc) {side : Side} {pc : NotifyPc}
    (at_pc : tc.notifyPc side = some pc) : pc = .enter := by
  have outside := q.outside
  unfold holders at outside
  cases side <;> cases pc <;> simp_all [inBody]

theorem Targets.acked_of_send {s : Server} (t : Targets s) {j : Nat} {tc : TargetConn}
    {data : Bytes} {fail : Bool} (target : s.tcs[j]? = some tc)
    (reader : tc.reader = .send data fail) : okAck tc.id ∈ s.sent := by
  by_contra unacked
  exact (t.quiet j tc target unacked).reader data fail reader

theorem Targets.acked_of_body {s : Server} (t : Targets s) {j : Nat} {tc : TargetConn}
    (target : s.tcs[j]? = some tc) {side : Side} {pc : NotifyPc}
    (at_pc : tc.notifyPc side = some pc) (body : pc ≠ .enter) : okAck tc.id ∈ s.sent := by
  by_contra unacked
  exact body ((t.quiet j tc target unacked).outside_body at_pc)

/-- Whoever is inside the body of `closeNotify` has its `closeOnce`. -/
theorem OnceInv.running_of_body {tc : TargetConn} {request : Bool} {n : Nat}
    (o : OnceInv tc request n) {side : Side} {pc : NotifyPc} (at_pc : tc.notifyPc side = some pc)
    (body : pc ≠ .enter) : tc.closeOnce = .running := by
  have inside : 1 ≤ holders tc := by
    unfold holders
    cases side <;> cases pc <;> simp_all [inBody]
  have holds := o.holds
  cases once : tc.closeOnce with
  | running => rfl
  | fresh | finished =>
    simp only [once, held] at holds
    omega

theorem holders_afterRead {tc : TargetConn} {fail : Bool}
    (reader : tc.reader = .read ∨ ∃ data fail, tc.reader = .send data fail) :
    holders { tc with reader := afterRead fail } = holders tc := by
  obtain reader | ⟨data, fail', reader⟩ := reader <;> cases fail <;>
    simp [afterRead, holders, TargetConn.notifyPc, reader, inBody]

/-- A `writeLoop` that goes on or returns stays quiet. -/
theorem Quiet.setWriter {tc : TargetConn} (q : Quiet tc) (before : tc.writer = .select)
    {writer : WriterPc} (after : ∀ pc, writer ≠ .closing pc) (writeQ : List Bytes) :
    Quiet { tc with writer, writeQ } := by
  have out : ({ tc with writer, writeQ } : TargetConn).notifyPc .writer = none := by
    cases writer with
    | closing pc => exact absurd rfl (after pc)
    | select | write | exited => rfl
  refine ⟨q.reader, ?_, ?_⟩
  · have := q.outside
    simpa [holders, TargetConn.notifyPc, before, inBody] using this
  · rintro ⟨⟩ h
    · exact q.shut .reader h
    · rw [out] at h
      cases h

/-- A goroutine that comes late to `closeNotify` returns from it. -/
theorem Quiet.leave {tc : TargetConn} (q : Quiet tc) {side : Side}
    (at_pc : tc.notifyPc side = some .enter) (once : tc.closeOnce = .finished) :
    Quiet (tc.setNotify side none) := by
  refine ⟨?_, ?_, fun _ _ => by simp [once]⟩
  · cases side
    · simp [TargetConn.setNotify]
    · exact q.reader
  · have count := holders_setNotify tc side none
    rw [at_pc, q.outside] at count
    simpa [inBody] using count

/-- A goroutine moves on inside `closeNotify`. -/
theorem Targets.notify {s : Server} (t : Targets s) {j : Nat} {tc tc₁ : TargetConn} {side : Side}
    {pc : NotifyPc} {next : Option NotifyPc} (target : s.tcs[j]? = some tc)
    (at_pc : tc.notifyPc side = some pc) (id : tc₁.id = tc.id)
    (same : ∀ side, tc₁.notifyPc side = tc.notifyPc side)
    (quiet : okAck tc.id ∉ s.sent → Quiet tc → Quiet (tc₁.setNotify side next))
    (once : ∀ n, OnceInv tc (s.inRequest j) n →
      holders (tc₁.setNotify side next) + inBody (some pc) = holders tc + inBody next →
      OnceInv (tc₁.setNotify side next) (s.inRequest j) n) :
    Targets (s.setConn j (tc₁.setNotify side next)) := by
  refine t.setConn target (by simp [id]) quiet fun n o => once n o ?_
  have count := holders_setNotify tc₁ side next
  rw [same, at_pc] at count
  simpa [holders, same] using count

/-- The goroutine inside `closeNotify` returns from it. -/
theorem Targets.notifySent {s : Server} (t : Targets s) {j : Nat} {tc : TargetConn} {side : Side}
    (target : s.tcs[j]? = some tc) (at_pc : tc.notifyPc side = some .send) :
    Targets (s.setConn j ({ tc with closeOnce := .finished }.setNotify side none)) := by
  have acked := t.acked_of_body target at_pc (by simp)
  refine t.notify target at_pc ?_ ?_ (fun h => absurd acked h) fun n o count => ?_
  · rfl
  · rintro ⟨⟩ <;> rfl
  · refine o.leave (by simp) ?_
    simp only [inBody] at count
    omega

theorem Targets.notifySend {s : Server} (t : Targets s) {j : Nat} {tc : TargetConn} {side : Side}
    (target : s.tcs[j]? = some tc) (at_pc : tc.notifyPc side = some .send) :
    Targets ((s.put ⟨cmdProxyClose, tc.id, []⟩).setConn j
      ({ tc with closeOnce := .finished }.setNotify side none)) := by
  have acked := t.acked_of_body target at_pc (by simp)
  have once := t.once j tc target
  have unsent := once.none (by simp [once.running_of_body at_pc (by simp)])
  set tc' := TargetConn.setNotify { tc with closeOnce := .finished } side none with def_tc'
  have left : (s.setConn j tc').tcs[j]? = some tc' := by rw [setConn_target s target, if_pos rfl]
  have id : tc'.id = tc.id := by simp [def_tc']
  have closed := (t.notifySent target at_pc).putClose left (by rwa [id]) (by simp [def_tc'])
    (by rwa [id])
  rw [id] at closed
  exact closed

theorem Targets.step {s s' : Server} {a : Action} {out : List VFrame} (t : Targets s)
    (x : Indexed s) (r : Replies s) (quiet : QuietUntilAck s a) (taken : Steps s a s' out) :
    Targets s' := by
  cases taken with
  | malformed | wellFormed | add | dialFailed | replyDone | ackDone | dialPanicked | drain
  | flushFailed | drainDone => exact t.congr rfl rfl fun _ => rfl
  | reply | ack =>
    refine Targets.congr (s := s.put _) (t.put ?_ ?_) rfl rfl fun _ => rfl
    · simp [cmdProxyConnect, cmdProxyClose]
    · simp [isUse, cmdProxyConnect, cmdProxyData, cmdProxyClose]
  | dialConn handler pc =>
    have none := r.undialled _ _ handler (by simp [pc, mayHaveDialled])
    refine Targets.congr (s := s.addTarget _) (t.addTarget x _ _ ?_ ?_) rfl rfl fun _ => rfl
    · exact fun j tc target same => none j ⟨tc, target, same⟩
    · intro acked
      have count := r.counted _ _ handler
      rw [if_neg (by simp [pc]), List.countP_eq_zero] at count
      exact count _ acked (by simp [okAck, isReply])
  | top run =>
    refine t.congr rfl rfl fun j => ?_
    simp only [inRequest, run, setRun_fields]
    split <;> simp
  | frame _ run | relayLost run | dispatchPing run | dispatchConnect run | dispatchData run
  | dispatchClose run | remove run =>
    exact t.congr rfl rfl fun j => by simp [inRequest, run]
  | idle why => exact t.congr rfl rfl fun j => by rw [why.free j]; simp [inRequest]
  | ping run =>
    refine Targets.congr (s := s.put _) (t.put ?_ ?_) rfl rfl fun j => by simp [inRequest, run]
    · simp [cmdProxyPing, cmdProxyClose]
    · simp [isUse, cmdProxyPing, cmdProxyData, cmdProxyClose]
  | heartbeat =>
    refine t.put ?_ ?_
    · simp [cmdProxyPing, cmdProxyClose]
    · simp [isUse, cmdProxyPing, cmdProxyData, cmdProxyClose]
  | cleanup run => exact t.cleanup fun j => by simp [inRequest, run]
  | enqueue run target =>
    refine t.update target ?_ _ ?_ ?_ ?_
    · rfl
    · simp [inRequest, run]
    · exact fun _ q => ⟨q.reader, q.outside, q.shut⟩
    · exact fun n o => o.congr rfl rfl (by simp [inRequest, run])
  | requestEnter run target once =>
    refine t.update target ?_ _ ?_ ?_ ?_
    · rfl
    · intro i other
      simp [inRequest, run, Ne.symm other]
    · exact fun _ q => ⟨q.reader, q.outside, by simp⟩
    · exact fun n o => o.enter once rfl (by simp [inRequest, run, holders, TargetConn.notifyPc])
  | requestCancel run target =>
    refine t.update target ?_ _ ?_ ?_ ?_
    · rfl
    · simp [inRequest, run]
    · exact fun _ q => ⟨q.reader, q.outside, q.shut⟩
    · exact fun n o => o.congr rfl rfl (by simp [inRequest, run])
  | requestClose run target =>
    refine t.update target ?_ _ ?_ ?_ ?_
    · rfl
    · intro i other
      simp [inRequest, run, Ne.symm other]
    · exact fun _ q => ⟨q.reader, q.outside, by simp⟩
    · exact fun n o => o.leave rfl (by simp [inRequest, run, holders, TargetConn.notifyPc])
  | readNone fail target reader =>
    refine t.setConn target ?_ (fun unacked q => ?_) fun n o => ?_
    · rfl
    · obtain ⟨-, shut⟩ := quiet _ target unacked
      refine ⟨?_, ?_, ?_⟩
      · cases fail <;> simp [afterRead]
      · have := q.outside
        cases fail <;> simpa [afterRead, holders, TargetConn.notifyPc, reader, inBody] using this
      · rintro ⟨⟩ h
        · cases fail
          · simp [afterRead, TargetConn.notifyPc] at h
          · exact shut rfl
        · exact q.shut .writer h
    · exact o.congr (holders_afterRead (.inl reader)) rfl rfl
  | readSome fail target reader some =>
    refine t.setConn target ?_ (fun unacked q => ?_) fun n o => ?_
    · rfl
    · exact absurd (quiet _ target unacked).1 some
    · exact o.congr (by simp [holders, TargetConn.notifyPc, reader]) rfl rfl
  | readSend target reader =>
    have acked := t.acked_of_send target reader
    refine Targets.setConn (s := s.put _) (t.put ?_ fun _ => acked) target ?_ (fun unacked _ => ?_)
      fun n o => ?_
    · simp [cmdProxyData, cmdProxyClose]
    · rfl
    · exact absurd (List.mem_append_left _ acked) unacked
    · exact o.congr (holders_afterRead (.inr ⟨_, _, reader⟩)) rfl rfl
  | readSendDone target reader =>
    have acked := t.acked_of_send target reader
    refine t.setConn target ?_ (fun unacked _ => absurd acked unacked) fun n o => ?_
    · rfl
    · exact o.congr (holders_afterRead (.inr ⟨_, _, reader⟩)) rfl rfl
  | take target writer =>
    refine t.setConn target ?_ (fun _ q => q.setWriter writer (by simp) _) fun n o => ?_
    · rfl
    · exact o.congr (by simp [holders, TargetConn.notifyPc, writer]) rfl rfl
  | write ok target writer =>
    refine t.setConn target ?_ (fun unacked q => ?_) fun n o => ?_
    · rfl
    · have shut := quiet _ target unacked
      refine ⟨q.reader, ?_, ?_⟩
      · have := q.outside
        cases ok <;> simpa [holders, TargetConn.notifyPc, writer, inBody] using this
      · rintro ⟨⟩ h
        · exact q.shut .reader h
        · cases ok
          · exact shut rfl
          · simp [TargetConn.notifyPc] at h
    · refine o.congr ?_ rfl rfl
      cases ok <;> simp [holders, TargetConn.notifyPc, writer, inBody]
  | writerDone target writer =>
    refine t.setConn target ?_ (fun _ q => q.setWriter writer (by simp) _) fun n o => ?_
    · rfl
    · exact o.congr (by simp [holders, TargetConn.notifyPc, writer]) rfl rfl
  | notifyEnter target at_pc once =>
    refine t.notify target at_pc ?_ ?_ (fun _ q => ?_) fun n o count => ?_
    · rfl
    · rintro ⟨⟩ <;> rfl
    · exact absurd once (q.shut _ at_pc)
    · refine o.enter once (by simp) ?_
      simp only [inBody] at count
      omega
  | notifyLate target at_pc once =>
    refine t.notify target at_pc rfl (fun _ => rfl) (fun _ q => ?_) fun n o count => ?_
    · exact q.leave at_pc once
    · refine o.congr ?_ (by simp) rfl
      simpa [inBody] using count
  | notifyCancel target at_pc | notifyClose target at_pc =>
    have acked := t.acked_of_body target at_pc (by simp)
    refine t.notify target at_pc ?_ ?_ (fun h => absurd acked h) fun n o count => ?_
    · rfl
    · rintro ⟨⟩ <;> rfl
    · refine o.congr ?_ (by simp) rfl
      simpa [inBody] using count
  | notifyRemove target at_pc =>
    have acked := t.acked_of_body target at_pc (by simp)
    refine Targets.notify (s := s.removeConn _) (t.congr rfl rfl fun _ => rfl) target at_pc rfl
      (fun _ => rfl) (fun h => absurd acked h) fun n o count => ?_
    refine o.congr ?_ (by simp) rfl
    simpa [inBody] using count
  | notifySendDone target at_pc => exact t.notifySent target at_pc
  | notifySend target at_pc => exact t.notifySend target at_pc

/-! ## Runs -/

/-- A step of the server, its output aside. -/
def serverStep (s : Server) (a : Action) : Option Server := (step s a).map Prod.fst

theorem serverStep_steps {s s' : Server} {a : Action} (h : serverStep s a = some s') :
    ∃ out, Steps s a s' out := by
  obtain ⟨⟨s₁, out⟩, taken, rfl⟩ := Option.map_eq_some_iff.mp h
  exact ⟨out, step_steps taken⟩

theorem replies_newServer : Replies newServer := by
  constructor <;> simp [newServer, HasId]

theorem targets_newServer : Targets newServer := by
  refine ⟨?_, ?_, ?_, ?_, ?_⟩ <;> simp [newServer, AckFirst]

theorem invariants_of_exec {as : List Action} {s : Server}
    (obeys : Obeys serverStep QuietUntilAck newServer as)
    (run : exec serverStep newServer as = some s) : Indexed s ∧ Replies s ∧ Targets s := by
  refine exec_invariant_of_obeys (fun s => Indexed s ∧ Replies s ∧ Targets s) ?_
    ⟨indexed_newServer, replies_newServer, targets_newServer⟩ obeys run
  rintro s a s' ⟨x, r, t⟩ quiet taken
  obtain ⟨out, h⟩ := serverStep_steps taken
  exact ⟨x.step h, r.step quiet h, t.step x r quiet h⟩

theorem Replies.countP_le {s : Server} (r : Replies s) (id : UInt32) :
    s.sent.countP (isReply id) ≤ 1 := by
  by_cases asked : ∃ h ∈ s.handlers, h.id = id
  · obtain ⟨h, mem, rfl⟩ := asked
    obtain ⟨i, hi⟩ := List.getElem?_of_mem mem
    rw [r.counted i h hi]
    split <;> simp
  · have none : s.sent.countP (isReply id) = 0 := by
      rw [List.countP_eq_zero]
      intro f hf reply
      obtain ⟨connect, rfl⟩ : f.cmd = cmdProxyConnect ∧ f.connID = id := by
        simpa [isReply] using reply
      exact asked (r.known f hf connect)
    omega

theorem Targets.countP_le {s : Server} (t : Targets s) (id : UInt32) :
    s.sent.countP (isClose id) ≤ 1 := by
  by_cases dialled : ∃ j, s.HasId j id
  · obtain ⟨j, tc, target, rfl⟩ := dialled
    exact (t.once j tc target).few
  · have none : s.sent.countP (isClose id) = 0 := by
      rw [List.countP_eq_zero]
      intro f hf close
      obtain ⟨cmd, rfl⟩ : f.cmd = cmdProxyClose ∧ f.connID = id := by simpa [isClose] using close
      exact dialled (t.closers f hf cmd)
    omega

/-- If targets are quiet until their connections are acknowledged, the acknowledgement comes
before any use of a connection, exactly once, and there is one Close at most. -/
theorem server_announces_first {as : List Action} {s : Server}
    (obeys : Obeys serverStep QuietUntilAck newServer as)
    (run : exec serverStep newServer as = some s) : Announces s := by
  obtain ⟨-, r, t⟩ := invariants_of_exec obeys run
  refine ⟨fun id => ⟨?_, r.countP_le id, t.countP_le id⟩, fun h mem returned => ?_⟩
  · rintro pre f post split use rfl
    exact t.first pre f post split use
  · obtain ⟨i, hi⟩ := List.getElem?_of_mem mem
    refine ⟨by simpa [returned] using r.counted i h hi, ?_⟩
    rintro ⟨tc, dialled, id⟩
    obtain ⟨j, target⟩ := List.getElem?_of_mem dialled
    exact r.acked i h hi returned j ⟨tc, target, id⟩

/-- A request for port 80 of the host `h` is dialled and acknowledged, and then its target
sends a byte and closes. -/
def greetingRun : List Action :=
  [.run, .frame ⟨cmdProxyConnect, 7, [1, 104, 80, 0]⟩, .run, .handler 0, .dial 0 .conn, .handler 0,
    .handler 0, .targetRead 0 [5] true, .reader 0, .notify .reader 0, .notify .reader 0,
    .notify .reader 0, .notify .reader 0, .notify .reader 0]

theorem server_announces_first_greeting : ∃ s, exec serverStep newServer greetingRun = some s ∧
    s.sent = [okAck 7, ⟨cmdProxyData, 7, [5]⟩, ⟨cmdProxyClose, 7, []⟩] ∧ Announces s := by
  have obeys : Obeys serverStep QuietUntilAck newServer greetingRun := by
    refine obeys_cons (fun f run => by cases run) rfl (obeys_cons trivial rfl ?_)
    refine obeys_cons (fun f run cmd h mem => by cases mem) rfl (obeys_cons trivial rfl ?_)
    refine obeys_cons trivial rfl (obeys_cons trivial rfl (obeys_cons trivial rfl ?_))
    refine obeys_cons ?_ rfl ?_
    · -- the acknowledgement is queued by now
      intro tc target unacked
      cases target
      exact absurd (List.mem_singleton.mpr rfl) unacked
    · refine obeys_cons trivial rfl (obeys_cons trivial rfl (obeys_cons trivial rfl ?_))
      exact obeys_cons trivial rfl (obeys_cons trivial rfl (obeys_cons trivial rfl trivial))
  exact ⟨_, rfl, rfl, server_announces_first obeys rfl⟩

/-- The same target speaks before the acknowledgement is queued. -/
def earlyRun : List Action :=
  [.run, .frame ⟨cmdProxyConnect, 7, [1, 104, 80, 0]⟩, .run, .handler 0, .dial 0 .conn,
    .targetRead 0 [5] false, .reader 0, .handler 0, .handler 0]

theorem server_speaks_early : ∃ s, exec serverStep newServer earlyRun = some s ∧
    s.sent = [⟨cmdProxyData, 7, [5]⟩, okAck 7] ∧ ¬ Announces s := by
  refine ⟨_, rfl, rfl, fun announces => ?_⟩
  have early := (announces.1 7).first [] ⟨cmdProxyData, 7, [5]⟩ [okAck 7] rfl rfl rfl
  simp at early

end Server

end EspNetwork.Proxy
