import Mathlib
import EspNetwork.Ctrl.Lossless
import EspNetwork.Proxy.Lossless
import EspNetwork.Virtual.System

/-!
# Streams without holes

A virtual connection that loses a chunk goes on, so its two streams are prefixes of what was sent
only if no chunk is dropped while later ones can still pass. On each side the place where this can
happen is a full queue; on the server also a context that is done. The two directions are followed
separately, each as an equation that holds while everything gets through and a prefix that stays
when it no longer does.
-/

namespace EspNetwork.Virtual

open Serial (Byte Bytes)
open Relay
open Schedule
open Ctrl (Client Slot cmdData cmdConnect connectPayload)
open Ctrl.Client (Numbered Counts Grants slotOf)
open Proxy (Server TargetConn newServer cmdProxyData cmdProxyConnect statusOK)
open Proxy.Server (Indexed Acks Lines view)

/-! ## Granted connections -/

/-- What is acknowledged, on the way or at its destination, has been opened. -/
structure Granting (c : Client) (s : Server) (ds : List VFrame) : Prop where
  acks : Acks s
  grants : Grants c s.Opened
  flight : ∀ id, [statusOK] ∈ chunksOf cmdConnect id ds → s.Opened id

theorem Granting.client {c c' : Client} {s : Server} {a : Ctrl.Action} {ds out : List VFrame}
    (g : Granting c s (a.input ++ ds)) (n : Numbered c) (h : Ctrl.Client.Steps c a c' out) :
    Granting c' s ds := by
  refine ⟨g.acks, g.grants.step n h fun f mem cmd data => g.flight _ ?_, fun id mem => g.flight id ?_⟩
  · rw [chunksOf_append]
    refine List.mem_append_left _ (List.mem_map.mpr ⟨f, List.mem_filter.mpr ⟨mem, ?_⟩, data⟩)
    simp [cmd]
  · rw [chunksOf_append]
    exact List.mem_append_right _ mem

theorem Granting.server {c : Client} {s s' : Server} {a : Proxy.Action} {ds out : List VFrame}
    (g : Granting c s ds) (x : Indexed s) (h : Proxy.Server.Steps s a s' out) :
    Granting c s' (ds ++ out) := by
  refine ⟨g.acks.step x h, g.grants.mono fun _ opened => opened.step h, fun id mem => ?_⟩
  rw [chunksOf_append] at mem
  rcases List.mem_append.mp mem with old | new
  · exact (g.flight id old).step h
  · exact (g.acks.out h new).step h

/-- Nothing was written on a connection that is not open yet. -/
theorem Granting.quiet {c : Client} {s : Server} {ds : List VFrame} (g : Granting c s ds)
    {id : UInt32} (unopened : ¬ s.Opened id) : written c id = [] := by
  cases slot : c.slotOf id with
  | none => simp [written, slot]
  | some u =>
    by_contra some
    simp only [written, slot, Option.map_some, Option.getD_some] at some
    have ok := g.grants.written u (List.mem_of_getElem? slot) some
    exact unopened (g.grants.calls id u slot (.inl ok))

/-! ## Upwards -/

/-- The frames a step of the client puts on the relay carry what it writes. -/
theorem written_step {c c' : Client} {a : Ctrl.Action} {out : List VFrame} (n : Numbered c)
    (h : Ctrl.Client.Steps c a c' out) (id : UInt32) :
    written c' id = written c id ++ chunksOf cmdData id out := by
  cases slot : c.slotOf id with
  | some u =>
    obtain ⟨u', slot', sends⟩ := Ctrl.Client.sends_of_step n h slot
    simp [written, slot, slot', sends.written]
  | none =>
    obtain ⟨⟨noData, -⟩, absent | ⟨host, port, -, fresh⟩⟩ := Ctrl.Client.silent_of_step n h slot
    · simp [written, slot, absent, noData]
    · simp [written, slot, fresh, noData]

theorem lines_client {c c' : Client} {s : Server} {a : Ctrl.Action} {us out : List VFrame}
    {id : UInt32} (lines : Lines s us (written c id) id) (n : Numbered c)
    (h : Ctrl.Client.Steps c a c' out) : Lines s (us ++ out) (written c' id) id := by
  intro j tc target own
  obtain ⟨live, listed, wrote⟩ := lines j tc target own
  rw [written_step n h]
  refine ⟨fun h => (live h).trans (List.prefix_append _ _), fun h entry => ?_,
    wrote.trans (List.prefix_append _ _)⟩
  rw [chunksOf_append, ← listed h entry, own]
  simp only [List.append_assoc]
  rfl

theorem lines_server {c : Client} {s s' : Server} {a : Proxy.Action} {us ds out : List VFrame}
    {id : UInt32} (lines : Lines s (a.input ++ us) (written c id) id) (g : Granting c s ds)
    (p : Pipe c s (a.input ++ us) ds id) (x : Indexed s) (noHole : s.NoHole id a)
    (h : Proxy.Server.Steps s a s' out) : Lines s' us (written c id) id := by
  have after := p.server x h
  by_cases opened : s.Opened id
  · exact Proxy.Server.lines_step h x p.single after.single noHole opened lines
  · intro j tc target own
    have up := after.up
    rw [g.quiet opened, List.sublist_nil] at up
    rw [g.quiet opened]
    exact Proxy.Server.line_of_nothing after.single up target own

/-! ## Downwards -/

/-- The chunks the target of this id has returned. -/
def returned (s : Server) (id : UInt32) : List Bytes := view TargetConn.readLog s id

/-- What has reached the channel of a connection is a prefix of what its target returned; as long
as it takes chunks that goes for what is in flight, and while frames go out all is accounted for. -/
structure Downward (c : Client) (s : Server) (ds : List VFrame) (id : UInt32) : Prop where
  taken : c.receivedOf id ++ c.handed id <+: returned s id
  flight : c.Open id → c.downOf id ++ chunksOf cmdData id ds <+: returned s id
  whole : c.Open id → s.writing = true →
    c.downOf id ++ (chunksOf cmdData id ds ++ s.downOf id) = returned s id

/-- Nothing was returned, so nothing is on its way. -/
theorem downward_of_nothing {c : Client} {s : Server} {us ds : List VFrame} {id : UInt32}
    (p : Pipe c s us ds id) (nothing : returned s id = []) : Downward c s ds id := by
  have down := p.down
  change List.Sublist _ (returned s id) at down
  rw [nothing, List.sublist_nil] at down
  obtain ⟨client, rest⟩ := List.append_eq_nil_iff.mp down
  obtain ⟨flight, server⟩ := List.append_eq_nil_iff.mp rest
  obtain ⟨received, loop⟩ := List.append_eq_nil_iff.mp client
  have handed : c.handed id = [] := by
    unfold Ctrl.Client.handed
    split
    · rfl
    · split <;> simp_all [Ctrl.Client.inLoop]
  refine ⟨?_, fun _ => ?_, fun _ _ => ?_⟩
  · have none : c.receivedOf id = [] := received
    rw [handed, none]
    exact List.nil_prefix
  · rw [client, flight, nothing]
    exact List.prefix_rfl
  · rw [client, flight, server, nothing]
    rfl

/-- An id without a connection has no target. -/
theorem returned_of_absent {c : Client} {s : Server} {us ds : List VFrame} {id : UInt32}
    (p : Pipe c s us ds id) (absent : c.slotOf id = none) : returned s id = [] := by
  have once := p.once
  simp only [asks, absent] at once
  have count : (s.tcs.countP fun tc => tc.id = id) = 0 := by
    unfold Proxy.Server.tokens at once
    omega
  have nobody : s.targetOf id = none := by
    rw [List.countP_eq_zero] at count
    simpa [Proxy.Server.targetOf] using count
  simp [returned, view, nobody]

theorem Downward.client {c c' : Client} {s : Server} {a : Ctrl.Action} {us ds out : List VFrame}
    {id : UInt32} (d : Downward c s (a.input ++ ds) id) (p : Pipe c s us (a.input ++ ds) id)
    (n : Numbered c) (fits : Ctrl.Client.Fits c) (counts : Counts c a) (noHole : c.NoHole id a)
    (h : Ctrl.Client.Steps c a c' out) : Downward c' s ds id := by
  cases slot : c.slotOf id with
  | none => exact downward_of_nothing (p.client n fits h) (returned_of_absent p slot)
  | some u =>
    have all : c'.Open id → c.Open id ∧
        c'.downOf id ++ chunksOf cmdData id ds = c.downOf id ++ chunksOf cmdData id (a.input ++ ds) := by
      intro after
      have before := Ctrl.Client.open_step n counts h slot after
      refine ⟨before, ?_⟩
      rw [Ctrl.Client.down_all n h noHole before after, chunksOf_append, List.append_assoc]
    refine ⟨?_, fun after => ?_, fun after live => ?_⟩
    · rcases Ctrl.Client.handed_step n h slot with kept | ⟨before, more⟩
      · exact kept.trans d.taken
      · exact (more.trans (List.prefix_append _ _)).trans (d.flight before)
    · obtain ⟨before, same⟩ := all after
      rw [same]
      exact d.flight before
    · obtain ⟨before, same⟩ := all after
      rw [← List.append_assoc, same, List.append_assoc]
      exact d.whole before live

theorem Downward.server {c : Client} {s s' : Server} {a : Proxy.Action} {us ds out : List VFrame}
    {id : UInt32} (d : Downward c s ds id) (p : Pipe c s (a.input ++ us) ds id) (x : Indexed s)
    (noHole : s.NoHole id a) (h : Proxy.Server.Steps s a s' out) :
    Downward c s' (ds ++ out) id := by
  obtain ⟨new, log, all, silent⟩ :=
    Proxy.Server.returns_all h p.single (p.server x h).single noHole
  have more : returned s id <+: returned s' id := by
    rw [returned, returned, log]
    exact List.prefix_append _ _
  have whole : c.Open id → s'.writing = true →
      c.downOf id ++ (chunksOf cmdData id (ds ++ out) ++ s'.downOf id) = returned s' id := by
    intro open_ live
    obtain ⟨before, same⟩ := all live
    have sum := d.whole open_ before
    rw [chunksOf_append, List.append_assoc (chunksOf cmdData id ds)]
    change c.downOf id ++ (_ ++ (chunksOf cmdProxyData id out ++ s'.downOf id)) = _
    rw [same, returned, log]
    change _ = returned s id ++ new
    rw [← sum]
    simp only [List.append_assoc]
  refine ⟨d.taken.trans more, fun open_ => ?_, whole⟩
  cases live : s'.writing with
  | true =>
    rw [← whole open_ live, ← List.append_assoc]
    exact List.prefix_append _ _
  | false =>
    have none : chunksOf cmdData id out = [] := silent live
    rw [chunksOf_append, none, List.append_nil]
    exact (d.flight open_).trans more

/-! ## The system -/

/-- The condition on a step: no chunk is dropped while later ones can still pass. -/
def NoHole (s : System) : Action → Prop
  | .client a => s.client.drops a = none
  | .server a => s.server.drops a = none

instance (s : System) : (a : Action) → Decidable (NoHole s a)
  | .client a => inferInstanceAs (Decidable (s.client.drops a = none))
  | .server a => inferInstanceAs (Decidable (s.server.drops a = none))

/-- Both directions of every connection, with the frames in flight. -/
structure Streams (s : System) (us ds : List VFrame) : Prop extends Inv s us ds where
  granting : Granting s.client s.server ds
  lines : ∀ id, Lines s.server us (written s.client id) id
  downward : ∀ id, Downward s.client s.server ds id

theorem Streams.step {s s' : System} {a : Action} {us ds : List VFrame} (t : Streams s us ds)
    (promised : Promised s a) (noHole : NoHole s a) (h : step s a = some s') :
    ∃ us' ds', Streams s' us' ds' := by
  cases a with
  | client a =>
    obtain ⟨ds', out, rfl, same, taken, inv⟩ := t.client_step promised h
    have keeps : ∀ id, s.client.NoHole id a := by
      intro id u drop
      rw [noHole] at drop
      cases drop
    refine ⟨us ++ out, ds', inv, ?_, fun id => ?_, fun id => ?_⟩
    · rw [same]
      exact t.granting.client t.numbered taken
    · rw [same]
      exact lines_client (t.lines id) t.numbered taken
    · rw [same]
      exact (t.downward id).client (t.pipes id) t.numbered t.client promised.1 (keeps id) taken
  | server a =>
    obtain ⟨us', out, rfl, same, taken, inv⟩ := t.server_step h
    have keeps : ∀ id, s.server.NoHole id a := by
      intro id tc drop
      rw [noHole] at drop
      cases drop
    refine ⟨us', ds ++ out, inv, ?_, fun id => ?_, fun id => ?_⟩
    · rw [same]
      exact t.granting.server t.indexed taken
    · rw [same]
      exact lines_server (t.lines id) t.granting (t.pipes id) t.indexed (keeps id) taken
    · rw [same]
      exact (t.downward id).server (t.pipes id) t.indexed (keeps id) taken

/-- One connection is opened. -/
def opening : List Action :=
  [.client (.call 0), .client .loop, .server .run,
    .server (.frame ⟨cmdProxyConnect, 0, connectPayload [104] 80⟩), .server .run,
    .server (.handler 0), .server (.dial 0 .conn), .server (.handler 0), .server (.handler 0),
    .server .drain, .client (.frame ⟨cmdConnect, 0, [0]⟩), .client .loop, .client .loop,
    .client (.call 0)]

/-- The `k`-th `Write` on it goes through to the queue of its target. -/
def writes (k : Nat) : List Action :=
  [.client (.write 0 [UInt8.ofNat k]), .client (.task k), .client (.task k), .server .run,
    .server (.frame ⟨cmdProxyData, 0, [UInt8.ofNat k]⟩), .server .run, .server .run]

/-- The target is written one chunk. -/
def takes : List Action := [.server (.take 0), .server (.targetWrite 0 true)]

end EspNetwork.Virtual
