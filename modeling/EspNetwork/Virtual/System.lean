import Mathlib
import EspNetwork.Ctrl.Flow
import EspNetwork.Proxy.Dial
import EspNetwork.Proxy.Flow

/-!
# Virtual connections end to end

One client and one server over a relay that carries bytes faithfully and in order. Both sides
write whole frames to their stream and take the next frame from the other once all of it is
there; how long that takes is up to the schedule.

From one id the system is a pipe in each direction: target, `readLoop`, queue of the server,
relay, `readLoop` of the client and channel on the way down; `Write`, relay, `Run`, queue and
`writeLoop` of the target on the way up.
-/

namespace EspNetwork.Virtual

open Serial (Byte Bytes)
open Relay
open Schedule
open Ctrl (Client Slot cmdData cmdConnect connectPayload)
open Ctrl.Client (Numbered Counts Sized Sends Silent slotOf tok)
open Proxy (Server TargetConn newServer cmdProxyData cmdProxyConnect parseConnect_connectPayload)
open Proxy.Server (Indexed Single Addressed parseConnect view)

/-- The two sides and the bytes on their way from one to the other. -/
structure System where
  client : Client
  server : Server
  up : Bytes
  down : Bytes

def System.new : System where
  client := Ctrl.newClient
  server := newServer
  up := []
  down := []

inductive Action where
  | client (a : Ctrl.Action)
  | server (a : Proxy.Action)
  deriving DecidableEq, Repr

/-- The rest of a stream after these frames were read from it. -/
def readFrames (stream : Bytes) : List VFrame → Option Bytes
  | [] => some stream
  | f :: fs =>
    match takeFrame stream with
    | some (g, rest) => if g = f then readFrames rest fs else none
    | none => none

/-- The bytes of frames written one after the other. -/
def framesBytes (fs : List VFrame) : Bytes := fs.flatMap frameBytes

def step (s : System) : Action → Option System
  | .client a => do
    let down ← readFrames s.down a.input
    let (client, out) ← s.client.step a
    return { s with client, down, up := s.up ++ framesBytes out }
  | .server a => do
    let up ← readFrames s.up a.input
    let (server, out) ← s.server.step a
    return { s with server, up, down := s.down ++ framesBytes out }

/-- What the users of the client promise: fewer than 2³² calls of `ConnectRemote`, hosts of at
most 255 bytes and writes of at most 65535. -/
def Promised (s : System) : Action → Prop
  | .client a => Counts s.client a ∧ Sized a
  | .server _ => True

theorem step_client {s s' : System} {a : Ctrl.Action} (h : step s (.client a) = some s') :
    ∃ down client out, readFrames s.down a.input = some down ∧
      Ctrl.Client.Steps s.client a client out ∧
      s' = { s with client, down, up := s.up ++ framesBytes out } := by
  simp only [step, Option.bind_eq_bind, Option.bind_eq_some_iff] at h
  obtain ⟨down, read, ⟨client, out⟩, taken, eq⟩ := h
  exact ⟨down, client, out, read, Ctrl.Client.step_steps taken, (Option.some.inj eq).symm⟩

theorem step_server {s s' : System} {a : Proxy.Action} (h : step s (.server a) = some s') :
    ∃ up server out, readFrames s.up a.input = some up ∧
      Proxy.Server.Steps s.server a server out ∧
      s' = { s with server, up, down := s.down ++ framesBytes out } := by
  simp only [step, Option.bind_eq_bind, Option.bind_eq_some_iff] at h
  obtain ⟨up, read, ⟨server, out⟩, taken, eq⟩ := h
  exact ⟨up, server, out, read, Proxy.Server.step_steps taken, (Option.some.inj eq).symm⟩

/-! ## Frames on the relay -/

def AllFit (fs : List VFrame) : Prop := ∀ f ∈ fs, f.data.length ≤ 65535

theorem AllFit.append {fs gs : List VFrame} (hf : AllFit fs) (hg : AllFit gs) : AllFit (fs ++ gs) := by
  intro f mem
  rcases List.mem_append.mp mem with h | h
  · exact hf f h
  · exact hg f h

/-- What is read from a stream of whole frames is the first of them. -/
theorem readFrames_framesBytes {fs input : List VFrame} {rest : Bytes} (fits : AllFit fs)
    (h : readFrames (framesBytes fs) input = some rest) :
    ∃ gs, fs = input ++ gs ∧ rest = framesBytes gs := by
  induction input generalizing fs with
  | nil => exact ⟨fs, rfl, (Option.some.inj h).symm⟩
  | cons f input ih =>
    cases fs with
    | nil => simp [framesBytes, readFrames, takeFrame] at h
    | cons g fs =>
      have small : g.data.length ≤ 65535 := fits g List.mem_cons_self
      have stream : framesBytes (g :: fs) = frameBytes g ++ framesBytes fs := rfl
      rw [readFrames, stream, takeFrame_frameBytes small] at h
      simp only at h
      split at h
      · obtain ⟨gs, rfl, rfl⟩ := ih (fun f mem => fits f (List.mem_cons_of_mem _ mem)) h
        subst f
        exact ⟨gs, rfl, rfl⟩
      · cases h

/-! ## Addresses -/

/-- Nothing asks for a target of this id, so any address will do. -/
theorem addressed_of_tokens {s : Server} {id : UInt32} (none : s.tokens id = 0)
    (address : Bytes × UInt16) : Addressed s id address := by
  obtain ⟨⟨run, handlers⟩, tcs⟩ : ((Proxy.Server.runAsks id s.run).length = 0 ∧
      s.handlers.countP (Proxy.Server.asking id) = 0) ∧ (s.tcs.countP fun tc => tc.id = id) = 0 := by
    unfold Proxy.Server.tokens at none
    omega
  rw [List.countP_eq_zero] at handlers tcs
  refine ⟨?_, fun h mem own pc => ?_, fun h mem own host port pc => ?_, fun tc mem own => ?_⟩
  · simp [List.length_eq_zero_iff.mp run]
  · exact absurd (handlers h mem) (by simp [Proxy.Server.asking, own, pc])
  · exact absurd (handlers h mem) (by simp [Proxy.Server.asking, own, pc])
  · exact absurd (tcs tc mem) (by simp [own])

/-! ## The pipes of one id -/

/-- Connect requests this id has still to send. An id that is not yet in use may get one. -/
def asks (c : Client) (id : UInt32) : Nat :=
  match c.slotOf id with
  | some s => tok s.call
  | none => 1

def written (c : Client) (id : UInt32) : List Bytes := ((c.slotOf id).map Slot.written).getD []

/-- What ties the frames `us` and `ds` in flight and everything in a queue to one connection:
it asks once, for its own address, and what is on the way down or up is an in-order selection
of what went in. -/
structure Pipe (c : Client) (s : Server) (us ds : List VFrame) (id : UInt32) : Prop where
  once : asks c id + (chunksOf cmdConnect id us).length + s.tokens id ≤ 1
  down : (c.downOf id ++ (chunksOf cmdData id ds ++ s.downOf id)).Sublist
    (view TargetConn.readLog s id)
  up : (s.upOf id ++ chunksOf cmdData id us).Sublist (written c id)
  address : ∀ slot, c.slotOf id = some slot →
    (∀ p ∈ chunksOf cmdConnect id us, parseConnect p = some (slot.host, slot.port)) ∧
    Addressed s id (slot.host, slot.port)

theorem Pipe.single {c : Client} {s : Server} {us ds : List VFrame} {id : UInt32}
    (p : Pipe c s us ds id) : s.Single id :=
  Proxy.Server.single_of_tokens ((Nat.le_add_left _ _).trans p.once)

/-- A step of the client that takes `input` from the relay and puts `out` on it. -/
theorem Pipe.client {c c' : Client} {s : Server} {us ds out : List VFrame} {a : Ctrl.Action}
    {id : UInt32} (p : Pipe c s us (a.input ++ ds) id) (n : Numbered c) (fits : Ctrl.Client.Fits c)
    (h : Ctrl.Client.Steps c a c' out) : Pipe c' s (us ++ out) ds id := by
  have down : (c'.downOf id ++ (chunksOf cmdData id ds ++ s.downOf id)).Sublist
      (view TargetConn.readLog s id) := by
    refine List.Sublist.trans ((Ctrl.Client.down_step n h id).append_right _) ?_
    simpa using p.down
  cases slot : c.slotOf id with
  | some u =>
    obtain ⟨u', slot', sends⟩ := Ctrl.Client.sends_of_step n h slot
    obtain ⟨known, addressed⟩ := p.address u slot
    have once := p.once
    have up := p.up
    have asked := sends.asks
    simp only [asks, written, slot, Option.map_some, Option.getD_some] at once up
    refine ⟨?_, down, ?_, ?_⟩
    · simp only [asks, slot', chunksOf_append, List.length_append]
      omega
    · simp only [written, slot', Option.map_some, Option.getD_some, chunksOf_append, sends.written,
        ← List.append_assoc]
      exact up.append_right _
    · intro v hv
      obtain rfl := Option.some.inj (slot'.symm.trans hv)
      rw [sends.host, sends.port]
      refine ⟨fun q mem => ?_, addressed⟩
      rw [chunksOf_append] at mem
      rcases List.mem_append.mp mem with old | new
      · exact known q old
      · rw [sends.address q new]
        exact parseConnect_connectPayload (fits.hosts u (List.mem_of_getElem? slot)) u.port
  | none =>
    obtain ⟨⟨noData, noConnect⟩, next⟩ := Ctrl.Client.silent_of_step n h slot
    have once := p.once
    have up := p.up
    simp only [asks, written, slot, Option.map_none, Option.getD_none] at once up
    have unused : chunksOf cmdConnect id us = [] ∧ s.tokens id = 0 := by
      rw [← List.length_eq_zero_iff]
      omega
    rcases next with absent | ⟨host, port, -, fresh⟩
    · refine ⟨?_, down, ?_, ?_⟩
      · simp only [asks, absent, chunksOf_append, noConnect, List.append_nil]
        exact once
      · simpa [written, absent, noData] using up
      · simp [absent]
    · refine ⟨?_, down, ?_, ?_⟩
      · simp [asks, fresh, unused.1, unused.2, noConnect, tok]
      · simpa [written, fresh, noData] using up
      · intro v hv
        refine ⟨by simp [unused.1, noConnect], addressed_of_tokens unused.2 _⟩

/-- A step of the server. -/
theorem Pipe.server {c : Client} {s s' : Server} {us ds out : List VFrame} {a : Proxy.Action}
    {id : UInt32} (p : Pipe c s (a.input ++ us) ds id) (x : Indexed s)
    (h : Proxy.Server.Steps s a s' out) : Pipe c s' us (ds ++ out) id := by
  have once : asks c id + (chunksOf cmdConnect id us).length + s'.tokens id ≤ 1 := by
    have before := p.once
    have more := Proxy.Server.tokens_step h id
    simp only [chunksOf_append, List.length_append] at before
    change asks c id + ((chunksOf cmdProxyConnect id a.input).length + _) + _ ≤ 1 at before
    omega
  have single := p.single
  have single' : s'.Single id :=
    Proxy.Server.single_of_tokens ((Nat.le_add_left _ _).trans once)
  refine ⟨once, ?_, ?_, fun slot hslot => ?_⟩
  · obtain ⟨new, log, less⟩ := Proxy.Server.down_step h single single'
    rw [log, chunksOf_append, List.append_assoc, ← List.append_assoc]
    refine List.Sublist.trans (less.append_left _) ?_
    rw [← List.append_assoc]
    refine List.Sublist.append_right ?_ new
    simpa using p.down
  · refine List.Sublist.trans ((Proxy.Server.up_step x h single single').append_right _) ?_
    have up := p.up
    rw [chunksOf_append, ← List.append_assoc] at up
    exact up
  · obtain ⟨known, addressed⟩ := p.address slot hslot
    rw [chunksOf_append] at known
    refine ⟨fun q mem => known q (List.mem_append_right _ mem), addressed.step h fun q mem => ?_⟩
    exact known q (List.mem_append_left _ mem)

/-! ## The system -/

/-- The streams are whole frames, and every id has its own pipes. -/
structure Inv (s : System) (us ds : List VFrame) : Prop where
  up : s.up = framesBytes us
  down : s.down = framesBytes ds
  ups : AllFit us
  downs : AllFit ds
  numbered : Numbered s.client
  indexed : Indexed s.server
  client : Ctrl.Client.Fits s.client
  server : Proxy.Server.Fits s.server
  pipes : ∀ id, Pipe s.client s.server us ds id

theorem inv_new : Inv System.new [] [] where
  up := rfl
  down := rfl
  ups := by simp [AllFit]
  downs := by simp [AllFit]
  numbered := Ctrl.Client.numbered_newClient
  indexed := Proxy.Server.indexed_newServer
  client := ⟨by simp [System.new, Ctrl.newClient], by simp [System.new, Ctrl.newClient]⟩
  server := ⟨by simp [System.new, newServer], by simp [System.new, newServer]⟩
  pipes id := by
    refine ⟨?_, ?_, ?_, ?_⟩
    · simp [asks, System.new, Ctrl.newClient, slotOf, newServer, Proxy.Server.tokens,
        Proxy.Server.runAsks]
    · simp [System.new, Ctrl.newClient, Ctrl.Client.downOf, slotOf, Ctrl.Client.inLoop, newServer,
        Proxy.Server.downOf, view, Proxy.Server.targetOf]
    · simp [System.new, newServer, Proxy.Server.upOf, view, Proxy.Server.targetOf,
        Proxy.Server.inRun]
    · simp [System.new, Ctrl.newClient, slotOf]

theorem framesBytes_append (fs gs : List VFrame) :
    framesBytes (fs ++ gs) = framesBytes fs ++ framesBytes gs := by
  simp [framesBytes]

theorem Inv.client_step {s s' : System} {a : Ctrl.Action} {us ds : List VFrame} (inv : Inv s us ds)
    (promised : Promised s (.client a)) (h : step s (.client a) = some s') :
    ∃ ds' out, ds = a.input ++ ds' ∧ s'.server = s.server ∧
      Ctrl.Client.Steps s.client a s'.client out ∧ Inv s' (us ++ out) ds' := by
  obtain ⟨counts, sized⟩ := promised
  obtain ⟨down, client, out, read, taken, rfl⟩ := step_client h
  rw [inv.down] at read
  obtain ⟨ds', rfl, rfl⟩ := readFrames_framesBytes inv.downs read
  obtain ⟨fits, small⟩ := inv.client.step sized taken
  exact ⟨ds', out, rfl, rfl, taken,
    { up := by rw [framesBytes_append, ← inv.up]
      down := rfl
      ups := inv.ups.append small
      downs := fun f mem => inv.downs f (List.mem_append_right _ mem)
      numbered := inv.numbered.step counts taken
      indexed := inv.indexed
      client := fits
      server := inv.server
      pipes := fun id => (inv.pipes id).client inv.numbered inv.client taken }⟩

theorem Inv.server_step {s s' : System} {a : Proxy.Action} {us ds : List VFrame} (inv : Inv s us ds)
    (h : step s (.server a) = some s') :
    ∃ us' out, us = a.input ++ us' ∧ s'.client = s.client ∧
      Proxy.Server.Steps s.server a s'.server out ∧ Inv s' us' (ds ++ out) := by
  obtain ⟨up, server, out, read, taken, rfl⟩ := step_server h
  rw [inv.up] at read
  obtain ⟨us', rfl, rfl⟩ := readFrames_framesBytes inv.ups read
  obtain ⟨fits, small⟩ := inv.server.step taken
  exact ⟨us', out, rfl, rfl, taken,
    { up := rfl
      down := by rw [framesBytes_append, ← inv.down]
      ups := fun f mem => inv.ups f (List.mem_append_right _ mem)
      downs := inv.downs.append small
      numbered := inv.numbered
      indexed := inv.indexed.step taken
      client := inv.client
      server := fits
      pipes := fun id => (inv.pipes id).server inv.indexed taken }⟩

theorem Inv.step {s s' : System} {a : Action} {us ds : List VFrame} (inv : Inv s us ds)
    (promised : Promised s a) (h : step s a = some s') : ∃ us' ds', Inv s' us' ds' := by
  cases a with
  | client a =>
    obtain ⟨ds', out, -, -, -, after⟩ := inv.client_step promised h
    exact ⟨_, _, after⟩
  | server a =>
    obtain ⟨us', out, -, -, -, after⟩ := inv.server_step h
    exact ⟨_, _, after⟩

theorem inv_of_exec {as : List Action} {s : System} (obeys : Obeys step Promised System.new as)
    (run : exec step System.new as = some s) : ∃ us ds, Inv s us ds := by
  refine exec_invariant_of_obeys (fun s => ∃ us ds, Inv s us ds) ?_ ⟨[], [], inv_new⟩ obeys run
  rintro s a t ⟨us, ds, inv⟩ promised taken
  exact inv.step promised taken

/-- The `k`-th connection and the target dialled for it: there is one at most, it has the address
of the connect request, its chunks reach the reader of the connection in order and once, and the
chunks written to it are `Write` calls of the connection, in order and once. -/
structure Separate (s : System) (slot : Slot) : Prop where
  one : s.server.Single slot.conn.id
  address : ∀ tc ∈ s.server.tcs, tc.id = slot.conn.id → tc.host = slot.host ∧ tc.port = slot.port
  down : ∀ tc ∈ s.server.tcs, tc.id = slot.conn.id → slot.got.Sublist tc.readLog
  up : ∀ tc ∈ s.server.tcs, tc.id = slot.conn.id → tc.wrote.Sublist slot.written
  none : (∀ tc ∈ s.server.tcs, tc.id ≠ slot.conn.id) → slot.got = []

/-- Virtual connections do not mix, whatever the schedule. -/
theorem virtual_connections_separate {as : List Action} {s : System}
    (obeys : Obeys step Promised System.new as) (run : exec step System.new as = some s) :
    ∀ slot ∈ s.client.slots, Separate s slot := by
  obtain ⟨us, ds, inv⟩ := inv_of_exec obeys run
  intro slot mem
  obtain ⟨j, at_j⟩ := List.mem_iff_getElem?.mp mem
  have own : s.client.slotOf slot.conn.id = some slot := by
    rw [slotOf, Ctrl.Client.toNat_id inv.numbered at_j, at_j]
  have pipe := inv.pipes slot.conn.id
  have received : slot.got.Sublist (view TargetConn.readLog s.server slot.conn.id) := by
    refine List.Sublist.trans ?_ pipe.down
    simp [Ctrl.Client.downOf, own, Ctrl.Client.received]
  refine ⟨pipe.single, ?_, ?_, ?_, ?_⟩
  · intro tc target same
    have := (pipe.address slot own).2.target tc target same
    simpa using this
  · intro tc target same
    obtain ⟨i, at_i⟩ := List.mem_iff_getElem?.mp target
    rw [← same] at received
    rwa [Proxy.Server.view_of_target _ (same ▸ pipe.single) at_i] at received
  · intro tc target same
    obtain ⟨i, at_i⟩ := List.mem_iff_getElem?.mp target
    have sent : (view Proxy.Server.accepted s.server slot.conn.id).Sublist slot.written := by
      have up := pipe.up
      simp only [written, own, Option.map_some, Option.getD_some, Proxy.Server.upOf,
        List.append_assoc] at up
      exact (List.sublist_append_left _ _).trans up
    rw [← same, Proxy.Server.view_of_target _ (same ▸ pipe.single) at_i] at sent
    refine List.Sublist.trans ?_ sent
    simp [Proxy.Server.accepted]
  · intro absent
    have nobody : s.server.targetOf slot.conn.id = none := by
      simpa [Proxy.Server.targetOf] using absent
    simpa [view, nobody] using received

/-- After `ConnectRemote` was called, one connection is opened and carries a chunk each way. -/
def exchange : List Action :=
  [.client (.call 0), .client .loop, .server .run,
    .server (.frame ⟨cmdProxyConnect, 0, connectPayload [104] 80⟩), .server .run,
    .server (.handler 0), .server (.dial 0 .conn), .server (.handler 0), .server (.handler 0),
    .server .drain, .client (.frame ⟨cmdConnect, 0, [0]⟩), .client .loop, .client .loop,
    .client (.call 0), .server (.targetRead 0 [1] false), .server (.reader 0), .server .drain,
    .client .loop, .client (.frame ⟨cmdData, 0, [1]⟩), .client .loop, .client .loop, .client .loop,
    .client (.read 0 10), .client (.recv 0), .client (.write 0 [2]), .client (.task 0),
    .client (.task 0), .server .run, .server (.frame ⟨cmdProxyData, 0, [2]⟩), .server .run,
    .server .run, .server (.take 0), .server (.targetWrite 0 true)]

/-- A single call of `ConnectRemote` keeps the promises, whatever the schedule. -/
theorem promised_of_connect {as : List Action} (few : ∀ s, ∀ a ∈ as, Promised s a) :
    Obeys step Promised System.new (.client (.connect [104] 80) :: as) := by
  refine ⟨⟨?_, ?_⟩, fun _ _ => obeys_of_forall few⟩
  · simp [Counts, System.new, Ctrl.newClient]
  · simp [Sized]

theorem exchange_promised :
    Obeys step Promised System.new (.client (.connect [104] 80) :: exchange) := by
  refine promised_of_connect fun s a mem => ?_
  revert a
  simp [exchange, Promised, Counts, Sized]

/-- The promises as a test. -/
def promises (s : System) : Action → Bool
  | .client (.connect host _) => s.client.slots.length < 2 ^ 32 ∧ host.length ≤ 255
  | .client (.write _ p) => p.length ≤ 65535
  | _ => true

theorem promises_iff {s : System} {a : Action} : promises s a = true ↔ Promised s a := by
  cases a with
  | client a => cases a <;> simp [promises, Promised, Counts, Sized]
  | server a => simp [promises, Promised]

instance (s : System) (a : Action) : Decidable (Promised s a) := decidable_of_iff _ promises_iff

/-- The connection with this id is opened. -/
def opens (id : UInt32) (host : Bytes) : List Action :=
  let j := id.toNat
  [.client (.connect host 80), .client (.call j), .client .loop, .server .run,
    .server (.frame ⟨cmdProxyConnect, id, connectPayload host 80⟩), .server .run,
    .server (.handler j), .server (.dial j .conn), .server (.handler j), .server (.handler j),
    .server .drain, .client (.frame ⟨cmdConnect, id, [0]⟩), .client .loop, .client .loop,
    .client (.call j)]

/-- The client delivers a byte of a target, and the server one for a target. -/
def delivers (id : UInt32) (b : Byte) : List Action :=
  [.client .loop, .client (.frame ⟨cmdData, id, [b]⟩), .client .loop, .client .loop, .client .loop]

def dispatches (id : UInt32) (b : Byte) : List Action :=
  [.server .run, .server (.frame ⟨cmdProxyData, id, [b]⟩), .server .run, .server .run]

/-- Two connections are open, and their chunks cross on the relay in both directions. -/
def crossing : List Action := List.flatten [
  opens 0 [104], opens 1 [105],
  [.server (.targetRead 0 [1] false), .server (.targetRead 1 [3] false), .server (.reader 1),
    .server (.reader 0), .server .drain, .server .drain],
  delivers 1 3, delivers 0 1,
  [.client (.read 0 10), .client (.recv 0), .client (.read 1 10), .client (.recv 1),
    .client (.write 0 [2]), .client (.write 1 [4]), .client (.task 1), .client (.task 0),
    .client (.task 1), .client (.task 0)],
  dispatches 1 4, dispatches 0 2,
  [.server (.take 0), .server (.targetWrite 0 true), .server (.take 1),
    .server (.targetWrite 1 true)]]

theorem virtual_connections_separate_exchange : ∃ s, exec step System.new crossing = some s ∧
    s.client.slots.map Slot.got = [[[1]], [[3]]] ∧
    s.server.tcs.map TargetConn.wrote = [[[2]], [[4]]] ∧
    ∀ slot ∈ s.client.slots, Separate s slot := by
  have ends : (exec step System.new crossing).map
      (fun s => (s.client.slots.map Slot.got, s.server.tcs.map TargetConn.wrote)) =
        some ([[[1]], [[3]]], [[[2]], [[4]]]) := by decide +kernel
  have promised : Obeys step Promised System.new crossing := by decide +kernel
  obtain ⟨s, run, shape⟩ := Option.map_eq_some_iff.mp ends
  obtain ⟨got, wrote⟩ := Prod.mk.inj shape
  exact ⟨s, run, got, wrote, virtual_connections_separate promised run⟩

end EspNetwork.Virtual
