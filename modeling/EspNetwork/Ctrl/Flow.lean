import Mathlib
import EspNetwork.Ctrl.Connect

/-!
# What a connection of the client receives and sends

Seen from one id: the chunks on their way to the reader of its connection, those its `Write`
calls have put on the relay, and the connect request it still has to send. A step of the client
adds to them what it takes from the relay and what it puts there, may lose chunks, and mixes
nothing with another id.
-/

namespace EspNetwork.Ctrl

open Serial (Byte Bytes)
open Relay

/-- The frame an action takes from the relay. -/
def Action.input : Action → List VFrame
  | .frame f => [f]
  | _ => []

namespace Client

/-- The connection of an id. Ids are given out in order, so its place is the id. -/
def slotOf (c : Client) (id : UInt32) : Option Slot := c.slots[id.toNat]?

/-- The chunks the reader has taken or will find in its channel. -/
def received (s : Slot) : List Bytes := s.got ++ s.conn.recvCh

/-- The chunk for this id in the hands of `readLoop`. -/
def inLoop (id : UInt32) : LoopPc → List Bytes
  | .dispatch f => chunksOf cmdData id [f]
  | .check j data | .send j data => if id.toNat = j then [data] else []
  | _ => []

def downOf (c : Client) (id : UInt32) : List Bytes :=
  ((c.slotOf id).map received).getD [] ++ inLoop id c.loop

theorem slotOf_setSlot (c : Client) {j : Nat} {s : Slot} (slot : c.slots[j]? = some s) (s' : Slot)
    (id : UInt32) : (c.setSlot j s').slotOf id = if id.toNat = j then some s' else c.slotOf id :=
  setSlot_slot c slot s' id.toNat

theorem slotOf_allocate (c : Client) (host : Bytes) (port : UInt16) (id : UInt32) :
    (c.allocate host port).slotOf id = if id.toNat = c.slots.length then
      some ⟨ProxyConn.new c.nextID, host, port, .send, none, [], []⟩ else c.slotOf id := by
  unfold slotOf allocate
  rcases Nat.lt_trichotomy id.toNat c.slots.length with old | new | far
  · rw [if_neg (by omega), List.getElem?_append_left old]
  · simp [new]
  · rw [if_neg (by omega), List.getElem?_eq_none (by simp; omega), List.getElem?_eq_none (by omega)]

theorem slotOf_eq_none {c : Client} {id : UInt32} (h : id.toNat = c.slots.length) :
    c.slotOf id = none := by
  simp [slotOf, h]

theorem toNat_id {c : Client} (n : Numbered c) {j : Nat} {s : Slot} (slot : c.slots[j]? = some s) :
    s.conn.id.toNat = j := by
  have hj := (List.getElem?_eq_some_iff.mp slot).1
  have few := n.few
  rw [n.ids j s slot, UInt32.toNat_ofNat']
  omega

/-- The loop of a slot's own id. -/
theorem id_eq_iff {c : Client} (n : Numbered c) {j : Nat} {s : Slot} (slot : c.slots[j]? = some s)
    (id : UInt32) : s.conn.id = id ↔ id.toNat = j := by
  rw [← toNat_id n slot, eq_comm, UInt32.toNat_inj]

/-! ## Towards the reader -/

/-- A slot that keeps its chunks. -/
theorem downOf_setSlot (c : Client) {j : Nat} {s s' : Slot} (slot : c.slots[j]? = some s)
    (same : received s' = received s) (id : UInt32) : (c.setSlot j s').downOf id = c.downOf id := by
  have here : id.toNat = j → c.slotOf id = some s := fun h => by rw [slotOf, h, slot]
  unfold downOf
  rw [slotOf_setSlot c slot]
  split
  · rw [here ‹_›]
    simp only [Option.map_some, Option.getD_some, same]
    rfl
  · rfl

theorem downOf_setLoop (c : Client) (l : LoopPc) (id : UInt32) :
    (c.setLoop l).downOf id = ((c.slotOf id).map received).getD [] ++ inLoop id l := rfl

theorem received_setSlot (c : Client) {j : Nat} {s s' : Slot} (slot : c.slots[j]? = some s)
    (same : received s' = received s) (l : LoopPc) (id : UInt32) :
    ((c.setSlot j s').setLoop l).downOf id =
      ((c.slotOf id).map received).getD [] ++ inLoop id l := by
  have kept := downOf_setSlot c slot same id
  unfold downOf at kept
  rw [downOf_setLoop, List.append_cancel_right kept]

theorem inLoop_loopNext (id : UInt32) (j : Nat) (next : Option ShutPc) :
    inLoop id (loopNext j next) = [] := by
  cases next <;> rfl

theorem inLoop_visitNext (id : UInt32) (j : Nat) (rest : List Nat) (next : Option ShutPc) :
    inLoop id (visitNext j rest next) = [] := by
  cases next <;> rfl

theorem received_deliver (s : Slot) (data : Bytes) :
    (received { s with conn := s.conn.deliver data }).Sublist (received s ++ [data]) := by
  by_cases room : s.conn.accepts <;> simp [received, ProxyConn.deliver, room]

/-- The branch of `dispatch` keeps a chunk with its id. -/
theorem inLoop_dispatch {c : Client} (n : Numbered c) (f : VFrame) (id : UInt32) :
    (inLoop id (c.dispatch f)).Sublist (chunksOf cmdData id [f]) := by
  unfold dispatch
  split
  · simp [inLoop]
  case h_2 j known =>
    obtain ⟨s, slot, same⟩ := n.known f.connID j known
    have own := id_eq_iff n slot id
    rw [same] at own
    split_ifs with connect data close
    · simp [inLoop]
    · simp [inLoop, chunksOf_singleton, data, own]
    · simp [inLoop]
    · simp [inLoop]

/-- `deliver` moves the chunk of the loop into the channel, or drops it. -/
theorem send_down (c : Client) {j : Nat} {s : Slot} {data : Bytes} (slot : c.slots[j]? = some s)
    (loop : c.loop = .send j data) (id : UInt32) :
    (((c.setSlot j { s with conn := s.conn.deliver data }).setLoop .top).downOf id).Sublist
      (c.downOf id) := by
  rw [downOf_setLoop, slotOf_setSlot c slot, downOf, loop]
  by_cases here : id.toNat = j
  · have own : c.slotOf id = some s := by rw [slotOf, here, slot]
    simpa [here, own, inLoop] using received_deliver s data
  · simp [here, inLoop]

theorem down_step {c c' : Client} {a : Action} {out : List VFrame} (n : Numbered c)
    (h : Steps c a c' out) (id : UInt32) :
    (c'.downOf id).Sublist (c.downOf id ++ chunksOf cmdData id a.input) := by
  have keeps : c'.downOf id = c.downOf id →
      (c'.downOf id).Sublist (c.downOf id ++ chunksOf cmdData id a.input) := by
    intro same
    rw [same]
    exact List.sublist_append_left _ _
  have moves : ∀ l, c'.downOf id = ((c.slotOf id).map received).getD [] ++ inLoop id l →
      (inLoop id l).Sublist (inLoop id c.loop) →
      (c'.downOf id).Sublist (c.downOf id ++ chunksOf cmdData id a.input) := by
    intro l same less
    rw [same]
    exact (less.append_left _).trans (List.sublist_append_left _ _)
  cases h with
  | connect host port =>
    refine keeps ?_
    unfold downOf
    rw [slotOf_allocate]
    split
    · rw [slotOf_eq_none ‹_›]
      rfl
    · rfl
  | callSend slot | callOk slot | callErr slot | callRemove slot | callSendDone slot
  | callWaitDone slot | read _ slot | eof _ slot | copy _ slot | taskWrite _ slot =>
    refine keeps (downOf_setSlot _ slot ?_ id)
    rfl
  | callShutdown slot _ shut | taskShutdown _ slot shut =>
    refine keeps (downOf_setSlot c slot ?_ id)
    simp [received, (shutdown_keeps shut).2.1]
  | recv slot queue =>
    refine keeps (downOf_setSlot c slot ?_ id)
    simp [received, queue]
  | frame f loop =>
    rw [downOf_setLoop]
    simp [downOf, loop, inLoop, Action.input]
  | relayLost | cancel | shutdownAll | exit | visit => exact moves .cancel rfl (by simp [inLoop])
  | top =>
    refine moves (if c.ctxDone then .cancel else .reading) rfl ?_
    split <;> simp [inLoop]
  | dispatch loop =>
    refine moves (c.dispatch _) rfl ?_
    rw [loop]
    exact inLoop_dispatch n _ id
  | ack loop slot =>
    refine moves .top (received_setSlot c slot ?_ .top id) (by simp [inLoop])
    rfl
  | check loop slot =>
    refine moves (if c.connCtxDone _ then .top else .send _ _) rfl ?_
    rw [loop]
    split <;> simp [inLoop]
  | send loop slot => exact (send_down c slot loop id).trans (List.sublist_append_left _ _)
  | remove loop => exact moves .top rfl (by simp [inLoop])
  | shutdown loop slot shut =>
    refine moves _ (received_setSlot c slot ?_ _ id) (by simp [inLoop_loopNext])
    simp [received, (shutdown_keeps shut).2.1]
  | shuttingOne loop slot shut =>
    refine moves _ (received_setSlot c slot ?_ _ id) (by simp [inLoop_visitNext])
    simp [received, (shutdown_keeps shut).2.1]
  | close | write | taskRemove | taskClose | taskCheck | taskDone | heartbeat | cancelled =>
    exact keeps rfl

/-! ## Towards the server -/

def tok (pc : CallPc) : Nat := if pc = .send then 1 else 0

/-- What one connection does in a step that puts `out` on the relay: its address stays, its Data
frames are its `Write` calls, and it sends its request at most once. -/
structure Sends (id : UInt32) (s s' : Slot) (out : List VFrame) : Prop where
  host : s'.host = s.host
  port : s'.port = s.port
  written : s'.written = s.written ++ chunksOf cmdData id out
  asks : tok s'.call + (chunksOf cmdConnect id out).length ≤ tok s.call
  address : ∀ p ∈ chunksOf cmdConnect id out, p = connectPayload s.host s.port

/-- Nothing of this id is in the output. -/
def Silent (id : UInt32) (out : List VFrame) : Prop :=
  chunksOf cmdData id out = [] ∧ chunksOf cmdConnect id out = []

theorem silent_nil (id : UInt32) : Silent id [] := ⟨rfl, rfl⟩

theorem silent_other {id : UInt32} {f : VFrame} (other : f.connID ≠ id) : Silent id [f] := by
  simp [Silent, chunksOf_singleton, other]

theorem silent_cmd {id : UInt32} {f : VFrame} (data : f.cmd ≠ cmdData) (connect : f.cmd ≠ cmdConnect) :
    Silent id [f] := by
  simp [Silent, chunksOf_singleton, data, connect]

theorem Sends.quiet {id : UInt32} {s s' : Slot} {out : List VFrame} (silent : Silent id out)
    (host : s'.host = s.host) (port : s'.port = s.port) (written : s'.written = s.written)
    (call : s'.call = .send → s.call = .send) : Sends id s s' out := by
  refine ⟨host, port, by simp [silent.1, written], ?_, by simp [silent.2]⟩
  simp only [silent.2, List.length_nil, Nat.add_zero, tok]
  split
  · simp [call ‹_›]
  · exact Nat.zero_le _

/-- One slot changes, and the frames that go out are its own. -/
theorem sends_setSlot {c c' : Client} {j : Nat} {s s' : Slot} {out : List VFrame}
    (slot : c.slots[j]? = some s) (slots : c'.slots = c.slots.set j s')
    (mine : ∀ id : UInt32, id.toNat = j → Sends id s s' out)
    (others : ∀ id : UInt32, id.toNat ≠ j → Silent id out) {id : UInt32} {u : Slot}
    (hu : c.slotOf id = some u) : ∃ u', c'.slotOf id = some u' ∧ Sends id u u' out := by
  have at_id : c'.slotOf id = if id.toNat = j then some s' else c.slotOf id := by
    rw [← slotOf_setSlot c slot, slotOf, slots]
    rfl
  rw [at_id]
  split
  · rename_i here
    obtain rfl : s = u := by
      rw [slotOf, here, slot] at hu
      exact Option.some.inj hu
    exact ⟨s', rfl, mine id here⟩
  · exact ⟨u, hu, .quiet (others id ‹_›) rfl rfl rfl fun h => h⟩

/-- A slot changes without a frame. -/
theorem sends_quietly {c c' : Client} {j : Nat} {s s' : Slot} (slot : c.slots[j]? = some s)
    (slots : c'.slots = c.slots.set j s') (host : s'.host = s.host) (port : s'.port = s.port)
    (written : s'.written = s.written) (call : s'.call = .send → s.call = .send) {id : UInt32}
    {u : Slot} (hu : c.slotOf id = some u) : ∃ u', c'.slotOf id = some u' ∧ Sends id u u' [] :=
  sends_setSlot slot slots (fun id _ => .quiet (silent_nil id) host port written call)
    (fun id _ => silent_nil id) hu

theorem sends_of_step {c c' : Client} {a : Action} {out : List VFrame} (n : Numbered c)
    (h : Steps c a c' out) {id : UInt32} {s : Slot} (hs : c.slotOf id = some s) :
    ∃ s', c'.slotOf id = some s' ∧ Sends id s s' out := by
  have keeps : ∀ {fs}, Silent id fs → Sends id s s fs :=
    fun silent => .quiet silent rfl rfl rfl fun h => h
  cases h with
  | connect host port =>
    rw [slotOf_allocate, if_neg]
    · exact ⟨s, hs, keeps (silent_nil id)⟩
    · intro same
      rw [slotOf_eq_none same] at hs
      cases hs
  | callSend slot call =>
    refine sends_setSlot slot rfl (fun k here => ?_) (fun k other => silent_other ?_) hs
    · have own := (id_eq_iff n slot k).mpr here
      refine ⟨rfl, rfl, ?_, ?_, ?_⟩
      · simp [chunksOf_singleton, cmdConnect, cmdData]
      · simp [chunksOf_singleton, own, tok, call]
      · simp [chunksOf_singleton, own]
    · exact fun own => other ((id_eq_iff n slot k).mp own)
  | callOk slot | callErr slot | callRemove slot | callSendDone slot | callWaitDone slot =>
    refine sends_quietly slot rfl ?_ ?_ ?_ ?_ hs
    iterate 3 rfl
    simp
  | callShutdown slot =>
    refine sends_quietly slot rfl ?_ ?_ ?_ ?_ hs
    iterate 3 rfl
    exact fun h => absurd (.inl h) (callNext_returns _ _)
  | ack _ slot | send _ slot | shutdown _ slot | shuttingOne _ slot | taskShutdown _ slot
  | read _ slot | recv slot | eof _ slot | copy _ slot =>
    refine sends_quietly slot rfl ?_ ?_ ?_ ?_ hs
    iterate 3 rfl
    exact fun h => h
  | frame | relayLost | top | dispatch | check | remove | cancel | shutdownAll | exit | visit
  | close | write | taskRemove | taskCheck | taskDone | cancelled =>
    exact ⟨s, hs, keeps (silent_nil id)⟩
  | taskClose | heartbeat =>
    refine ⟨s, hs, keeps (silent_cmd ?_ ?_)⟩ <;>
      simp [cmdClose, cmdPing, cmdData, cmdConnect]
  | taskWrite _ slot =>
    refine sends_setSlot slot rfl (fun k here => ?_) (fun k other => silent_other ?_) hs
    · have own := (id_eq_iff n slot k).mpr here
      refine ⟨rfl, rfl, ?_, ?_, ?_⟩
      · simp [chunksOf_singleton, own]
      · simp [chunksOf_singleton, cmdConnect, cmdData]
      · simp [chunksOf_singleton, cmdConnect, cmdData]
    · exact fun own => other ((id_eq_iff n slot k).mp own)

/-- An id without a connection sends nothing, and gets one by `ConnectRemote` only. -/
theorem silent_of_step {c c' : Client} {a : Action} {out : List VFrame} (n : Numbered c)
    (h : Steps c a c' out) {id : UInt32} (hs : c.slotOf id = none) :
    Silent id out ∧ (c'.slotOf id = none ∨ ∃ host port, a = .connect host port ∧
      c'.slotOf id = some ⟨ProxyConn.new c.nextID, host, port, .send, none, [], []⟩) := by
  have absent : ∀ {j : Nat} {s : Slot}, c.slots[j]? = some s → id.toNat ≠ j := by
    rintro j s slot rfl
    rw [slotOf, slot] at hs
    cases hs
  have stays : ∀ {j : Nat} {s s' : Slot}, c.slots[j]? = some s →
      (c.setSlot j s').slotOf id = none := by
    intro j s s' slot
    rw [slotOf_setSlot c slot, if_neg (absent slot)]
    exact hs
  have other : ∀ {j : Nat} {s : Slot}, c.slots[j]? = some s → s.conn.id ≠ id :=
    fun slot own => absent slot ((id_eq_iff n slot id).mp own)
  cases h with
  | connect host port =>
    refine ⟨silent_nil id, ?_⟩
    rw [slotOf_allocate]
    split
    · exact .inr ⟨host, port, rfl, rfl⟩
    · exact .inl hs
  | callSend slot | taskWrite _ slot => exact ⟨silent_other (other slot), .inl (stays slot)⟩
  | callOk slot | callErr slot | callRemove slot | callSendDone slot | callWaitDone slot
  | callShutdown slot | ack _ slot | send _ slot | shutdown _ slot | shuttingOne _ slot
  | taskShutdown _ slot | read _ slot | recv slot | eof _ slot | copy _ slot =>
    exact ⟨silent_nil id, .inl (stays slot)⟩
  | frame | relayLost | top | dispatch | check | remove | cancel | shutdownAll | exit | visit
  | close | write | taskRemove | taskCheck | taskDone | cancelled => exact ⟨silent_nil id, .inl hs⟩
  | taskClose | heartbeat =>
    refine ⟨silent_cmd ?_ ?_, .inl hs⟩ <;> simp [cmdClose, cmdPing, cmdData, cmdConnect]

/-! ## Sizes -/

/-- What callers promise: hosts of at most 255 bytes and writes of at most 65535. -/
def Sized : Action → Prop
  | .connect host _ => host.length ≤ 255
  | .write _ p => p.length ≤ 65535
  | _ => True

structure Fits (c : Client) : Prop where
  hosts : ∀ s ∈ c.slots, s.host.length ≤ 255
  writes : ∀ t ∈ c.tasks, ∀ j p, t = .writeCheck j p ∨ t = .writeSend j p → p.length ≤ 65535

theorem Fits.setSlot {c c' : Client} (fits : Fits c) {j : Nat} {s s' : Slot}
    (slot : c.slots[j]? = some s) (slots : c'.slots = c.slots.set j s') (tasks : c'.tasks = c.tasks)
    (host : s'.host = s.host) : Fits c' := by
  refine ⟨fun u hu => ?_, tasks ▸ fits.writes⟩
  rcases List.mem_or_eq_of_mem_set (slots ▸ hu) with old | rfl
  · exact fits.hosts u old
  · rw [host]
    exact fits.hosts s (List.mem_of_getElem? slot)

theorem Fits.setTask {c : Client} (fits : Fits c) (i : Nat) {t : Task}
    (small : ∀ j p, t = .writeCheck j p ∨ t = .writeSend j p → p.length ≤ 65535) :
    Fits (c.setTask i t) := by
  refine ⟨fits.hosts, fun u hu => ?_⟩
  rcases List.mem_or_eq_of_mem_set hu with old | rfl
  · exact fits.writes u old
  · exact small

theorem length_connectPayload (host : Bytes) (port : UInt16) :
    (connectPayload host port).length = host.length + 3 := by
  simp [connectPayload, putUint16]

theorem closeNext_small (j : Nat) (next : Option ShutPc) (i : Nat) (p : Bytes) :
    ¬ (closeNext j next = .writeCheck i p ∨ closeNext j next = .writeSend i p) := by
  cases next <;> simp [closeNext]

theorem Fits.step {c c' : Client} {a : Action} {out : List VFrame} (fits : Fits c) (sized : Sized a)
    (h : Steps c a c' out) : Fits c' ∧ ∀ f ∈ out, f.data.length ≤ 65535 := by
  cases h with
  | connect host port =>
    refine ⟨⟨fun s hs => ?_, fits.writes⟩, by simp⟩
    rcases List.mem_append.mp hs with old | new
    · exact fits.hosts s old
    · obtain rfl := List.mem_singleton.mp new
      exact sized
  | callSend slot =>
    refine ⟨fits.setSlot slot rfl rfl ?_, ?_⟩
    · rfl
    · have := fits.hosts _ (List.mem_of_getElem? slot)
      simp [length_connectPayload]
      omega
  | callOk slot | callErr slot | callRemove slot | callSendDone slot | callWaitDone slot
  | callShutdown slot | ack _ slot | send _ slot | shutdown _ slot | shuttingOne _ slot
  | read _ slot | recv slot | eof _ slot | copy _ slot =>
    refine ⟨fits.setSlot slot rfl rfl ?_, by simp⟩
    rfl
  | frame | relayLost | top | dispatch | check | remove | cancel | shutdownAll | exit | visit
  | cancelled => exact ⟨⟨fits.hosts, fits.writes⟩, by simp⟩
  | heartbeat => exact ⟨fits, by simp⟩
  | close =>
    refine ⟨⟨fits.hosts, fun t ht => ?_⟩, by simp⟩
    rcases List.mem_append.mp ht with old | new
    · exact fits.writes t old
    · obtain rfl := List.mem_singleton.mp new
      simp
  | write p =>
    refine ⟨⟨fits.hosts, fun t ht i q hq => ?_⟩, by simp⟩
    rcases List.mem_append.mp ht with old | new
    · exact fits.writes t old i q hq
    · obtain rfl := List.mem_singleton.mp new
      obtain ⟨-, rfl⟩ : _ ∧ p = q := by simpa using hq
      exact sized
  | taskRemove =>
    exact ⟨Fits.setTask (c := c.removeConn _) ⟨fits.hosts, fits.writes⟩ _ (by simp), by simp⟩
  | taskDone | taskClose => exact ⟨fits.setTask _ (by simp), by simp⟩
  | taskShutdown _ slot =>
    refine ⟨Fits.setTask (c := c.setSlot _ _) (fits.setSlot slot rfl rfl ?_) _ ?_, by simp⟩
    · rfl
    · exact fun i p h => absurd h (closeNext_small _ _ i p)
  | taskCheck task =>
    refine ⟨fits.setTask _ fun j p h => ?_, by simp⟩
    refine fits.writes _ (List.mem_of_getElem? task) j p (.inl ?_)
    split at h
    · simp at h
    · simpa using h
  | taskWrite task slot =>
    refine ⟨Fits.setTask (c := c.setSlot _ _) (fits.setSlot slot rfl rfl ?_) _ (by simp), ?_⟩
    · rfl
    · simpa using fits.writes _ (List.mem_of_getElem? task) _ _ (.inr rfl)

end Client

end EspNetwork.Ctrl
