import Mathlib
import EspNetwork.Proxy.Drain
import EspNetwork.Virtual.Holes

/-!
# What was written before Close

A run is followed up to the Close frame of one connection, with all its chunks on their way or at
the target, and from there on until `Run` has closed the target.
-/

namespace EspNetwork.Virtual

open Serial (Byte Bytes)
open Relay
open Schedule
open Ctrl (Client Slot cmdData cmdConnect cmdClose connectPayload)
open Ctrl.Client (Numbered Counts Grants slotOf)
open Proxy (Server TargetConn newServer cmdProxyData cmdProxyClose cmdProxyConnect)
open Proxy.Server (Indexed Lines Before Closing Listed accepted inWriter)

/-- What the target of this id can count on. -/
def Serves (id : UInt32) (s : System) : Action → Prop
  | .client _ => True
  | .server a => s.server.Serves id a

/-- The condition on a step: the Close of this id reaches its target only with the queue of the target
empty and its `writeLoop` idle. -/
def Drained (id : UInt32) (s : System) : Action → Prop
  | .client _ => True
  | .server a => s.server.Drained id a

/-- The connection whose Close frame a step puts on the relay. -/
def closer (s : System) : Action → Option Slot
  | .client a => s.client.closer a
  | .server _ => none

/-- The Close frame of this id is still to come. -/
def Unsent (id : UInt32) (s : System) (a : Action) : Prop :=
  ∀ slot ∈ closer s a, slot.conn.id ≠ id

instance (id : UInt32) (s : System) : (a : Action) → Decidable (Serves id s a)
  | .client _ => .isTrue trivial
  | .server a => inferInstanceAs (Decidable (s.server.Serves id a))

instance (id : UInt32) (s : System) : (a : Action) → Decidable (Drained id s a)
  | .client _ => .isTrue trivial
  | .server a => inferInstanceAs (Decidable (s.server.Drained id a))

instance (id : UInt32) (s : System) (a : Action) : Decidable (Unsent id s a) :=
  inferInstanceAs (Decidable (∀ slot ∈ closer s a, slot.conn.id ≠ id))

/-! ## Up to the Close frame -/

/-- All chunks of one connection are on their way or at its target. -/
structure Open (s : System) (us ds : List VFrame) (id : UInt32) : Prop extends Inv s us ds where
  granting : Granting s.client s.server ds
  lines : Lines s.server us (written s.client id) id
  before : Before s.server id
  unsent : chunksOf cmdClose id us = []

theorem Open.step {s s' : System} {a : Action} {us ds : List VFrame} {id : UInt32}
    (o : Open s us ds id) (promised : Promised s a) (serves : Serves id s a)
    (unsent : Unsent id s a) (h : step s a = some s') : ∃ us' ds', Open s' us' ds' id := by
  cases a with
  | client a =>
    obtain ⟨ds', out, rfl, same, taken, inv⟩ := o.client_step promised h
    refine ⟨us ++ out, ds', inv, ?_, ?_, ?_, ?_⟩
    · rw [same]
      exact o.granting.client o.numbered taken
    · rw [same]
      exact lines_client o.lines o.numbered taken
    · rw [same]
      exact o.before
    · rw [chunksOf_append, o.unsent, List.nil_append]
      rcases Ctrl.Client.closes_step taken with ⟨slot, closes, -, rfl⟩ | ⟨-, none⟩
      · have other := unsent slot closes
        simp [chunksOf_singleton, other]
      · exact none id
  | server a =>
    obtain ⟨us', out, rfl, same, taken, inv⟩ := o.server_step h
    have sent := o.unsent
    rw [chunksOf_append, List.append_eq_nil_iff] at sent
    refine ⟨us', ds ++ out, inv, ?_, ?_, ?_, sent.2⟩
    · rw [same]
      exact o.granting.server o.indexed taken
    · rw [same]
      have noHole := o.before.noHole serves taken
      exact lines_server o.lines o.granting (o.pipes id) o.indexed noHole taken
    · exact o.before.step o.indexed (o.pipes id).single serves sent.1 taken

/-! ## From the Close frame on -/

/-- Where the Close frame is: on the relay behind the chunks `sent` before it, or with `Run`. -/
inductive Stage (s : Server) (us : List VFrame) (sent : List Bytes) (id : UInt32) : Prop where
  | flight {us₁ us₂ : List VFrame} {close : VFrame} (us_eq : us = us₁ ++ close :: us₂)
    (cmd : close.cmd = cmdClose) (own : close.connID = id)
    (unsent : chunksOf cmdClose id us₁ = []) (before : Before s id) (lines : Lines s us₁ sent id)
  | closing {j : Nat} {tc : TargetConn} (target : s.tcs[j]? = some tc) (own : tc.id = id)
    (closing : Closing s sent j tc)

/-- `Run` reads the Close frame: the target has accepted everything before it. -/
theorem stage_received {s : Server} {sent : List Bytes} {id : UInt32} {close : VFrame}
    (cmd : close.cmd = cmdClose) (own : close.connID = id) (before : Before s id)
    (lines : Lines s [] sent id) (opened : s.Opened id) (run : s.run = .reading) :
    ∃ (j : Nat) (tc : TargetConn), s.tcs[j]? = some tc ∧ tc.id = id ∧
      Closing (s.setRun (.dispatch close)) sent j tc := by
  obtain ⟨j, ⟨tc, target, rfl⟩, added⟩ := opened
  obtain ⟨untouched, stands⟩ := before.targets j tc target rfl
  have entry := stands.resolve_left added
  have all := (lines j tc target rfl).listed untouched.live ⟨_, entry⟩
  rw [run] at all
  simp only [Proxy.Server.inRun, chunksOf_nil, List.append_nil] at all
  exact ⟨j, tc, target, rfl, .received rfl cmd own entry untouched.toCalm untouched.once all⟩

theorem Stage.step {s s' : Server} {a : Proxy.Action} {out us : List VFrame} {sent : List Bytes}
    {id : UInt32} (stage : Stage s (a.input ++ us) sent id) (x : Indexed s) (single : s.Single id)
    (single' : s'.Single id) (opened : s.Opened id) (serves : s.Serves id a)
    (drained : s.Drained id a) (h : Proxy.Server.Steps s a s' out) : Stage s' us sent id := by
  cases stage with
  | closing target own closing =>
    subst own
    obtain ⟨tc', target', same, after⟩ := closing.step x single opened serves drained target h
    exact .closing target' same after
  | @flight us₁ us₂ close us_eq cmd own unsent before lines =>
    have goes : ∀ us₁', us₁ = a.input ++ us₁' → us = us₁' ++ close :: us₂ → Stage s' us sent id := by
      rintro us₁' rfl rest
      rw [chunksOf_append, List.append_eq_nil_iff] at unsent
      have noHole := before.noHole serves h
      exact .flight rest cmd own unsent.2 (before.step x single serves unsent.1 h)
        (Proxy.Server.lines_step h x single single' noHole opened lines)
    by_cases reads : a.input = []
    · rw [reads, List.nil_append] at us_eq
      exact goes us₁ (by rw [reads]; rfl) us_eq
    · obtain ⟨f, rfl⟩ : ∃ f, a = .frame f := by
        cases a with
        | frame f => exact ⟨f, rfl⟩
        | _ => exact absurd rfl reads
      cases us₁ with
      | cons g us₁' =>
        obtain ⟨rfl, rest⟩ := List.cons_eq_cons.mp us_eq
        exact goes us₁' rfl rest
      | nil =>
        obtain ⟨rfl, rest⟩ := List.cons_eq_cons.mp us_eq
        cases h with
        | frame f run =>
          obtain ⟨j, tc, target, same, received⟩ := stage_received cmd own before lines opened run
          exact .closing target same received
        | idle why => cases why

/-- After the Close frame of one connection was put on the relay. -/
structure Closed (s : System) (us ds : List VFrame) (sent : List Bytes) (id : UInt32) : Prop
    extends Inv s us ds where
  opened : s.server.Opened id
  stage : Stage s.server us sent id

theorem Closed.step {s s' : System} {a : Action} {us ds : List VFrame} {sent : List Bytes}
    {id : UInt32} (c : Closed s us ds sent id) (promised : Promised s a) (serves : Serves id s a)
    (drained : Drained id s a) (h : step s a = some s') : ∃ us' ds', Closed s' us' ds' sent id := by
  cases a with
  | client a =>
    obtain ⟨ds', out, rfl, same, taken, inv⟩ := c.client_step promised h
    refine ⟨us ++ out, ds', inv, ?_, ?_⟩
    · rw [same]
      exact c.opened
    · rw [same]
      cases c.stage with
      | flight us_eq cmd own unsent before lines =>
        exact .flight (by rw [us_eq, List.append_assoc]; rfl) cmd own unsent before lines
      | closing target own closing => exact .closing target own closing
  | server a =>
    obtain ⟨us', out, rfl, same, taken, inv⟩ := c.server_step h
    refine ⟨us', ds ++ out, inv, c.opened.step taken, ?_⟩
    exact c.stage.step c.indexed (c.pipes id).single (inv.pipes id).single c.opened serves drained
      taken

/-- The target of a connection on which Close was called after these writes: it is closed with all
of them written, and it is closed once the server has read everything and `Run` is back. -/
structure Flushed (s : System) (id : UInt32) (sent : List Bytes) : Prop where
  target : ∃ tc ∈ s.server.tcs, tc.id = id
  whole : ∀ tc ∈ s.server.tcs, tc.id = id → tc.connClosed = true → tc.wrote = sent
  done : s.up = [] → s.server.run = .top ∨ s.server.run = .reading →
    ∀ tc ∈ s.server.tcs, tc.id = id → tc.connClosed = true

theorem framesBytes_eq_nil {fs : List VFrame} (h : framesBytes fs = []) : fs = [] := by
  cases fs with
  | nil => rfl
  | cons f fs => simp [framesBytes, frameBytes] at h

theorem Closed.flushed {s : System} {us ds : List VFrame} {sent : List Bytes} {id : UInt32}
    (c : Closed s us ds sent id) : Flushed s id sent := by
  obtain ⟨j, ⟨tc, target, own⟩, added⟩ := c.opened
  have only : ∀ {i : Nat} {u : TargetConn}, s.server.tcs[i]? = some u → u.id = id →
      ∀ v ∈ s.server.tcs, v.id = id → v = u := by
    intro i u at_i own_u v mem own_v
    obtain ⟨k, at_k⟩ := List.mem_iff_getElem?.mp mem
    obtain rfl := (c.pipes id).single k i v u at_k at_i own_v own_u
    exact Option.some.inj (at_k.symm.trans at_i)
  refine ⟨⟨tc, List.mem_of_getElem? target, own⟩, fun u mem own_u closed => ?_,
    fun read back u mem own_u => ?_⟩
  · cases c.stage with
    | flight us_eq cmd own_f unsent before lines =>
      obtain ⟨k, at_k⟩ := List.mem_iff_getElem?.mp mem
      rw [(before.targets k u at_k own_u).1.unclosed] at closed
      cases closed
    | closing at_i own_v closing =>
      obtain rfl := only at_i own_v u mem own_u
      exact closing.whole closed
  · cases c.stage with
    | flight us_eq =>
      have none := framesBytes_eq_nil (c.up.symm.trans read)
      rw [us_eq] at none
      simp at none
    | closing at_i own_v closing =>
      obtain rfl := only at_i own_v u mem own_u
      exact closing.done back

/-- After `ConnectRemote` was called, one chunk is written and has come to the queue of the target,
and `Close` is about to send its frame. -/
def writing : List Action :=
  opening ++ writes 0 ++ [.client (.close 0), .client (.task 1), .client (.task 1),
    .client (.task 1), .client (.task 1)]

/-- `Run` reads the Close frame and closes the target. -/
def closing : List Action :=
  [.server .run, .server (.frame ⟨cmdClose, 0, []⟩), .server .run, .server .run, .server .run,
    .server .run, .server .run]

end EspNetwork.Virtual
