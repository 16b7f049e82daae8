import Mathlib
import EspNetwork.Ctrl.Flow

/-!
# Losing no chunk on the way through the client

`deliver` drops a chunk when the channel of its connection is full. Other chunks are lost as
well: those of a connection that is no longer in `conns`, and those that come after its context
has ended or its channel was closed. But these conditions last, so no later chunk gets through.
The bytes of one connection are also tied to its acknowledgement: nothing is written on a
connection that was not granted.
-/

namespace EspNetwork.Ctrl

open Serial (Byte Bytes)
open Relay

/-- The connection a call of `Close` or `Write` is about. -/
def Task.conn : Task → Option Nat
  | .closeRemove j | .closeShutdown j _ | .closeSend j | .writeCheck j _ | .writeSend j _ => some j
  | .returned => none

theorem closeNext_conn (j : Nat) (next : Option ShutPc) : (closeNext j next).conn = some j := by
  cases next <;> rfl

namespace Client

/-- Chunks for this id reach the channel of its connection. -/
def Open (c : Client) (id : UInt32) : Prop :=
  c.ctxDone = false ∧ (∃ j, c.conns id = some j) ∧
    ∃ s, c.slotOf id = some s ∧ s.conn.ctxDone = false ∧ s.conn.closed = false

/-- The connection `readLoop` has a chunk for. -/
def holding (c : Client) : Option Slot :=
  match c.loop with
  | .send j _ => c.slots[j]?
  | _ => none

/-- The connection of a chunk that a step drops while later chunks can still pass: `deliver` finds
the channel full and the context goes on. -/
def drops (c : Client) : Action → Option Slot
  | .loop => c.holding.filter fun s => recvChCap ≤ s.conn.recvCh.length ∧ !c.connCtxDone s
  | _ => none

/-- The condition on a step, for one id. -/
def NoHole (c : Client) (id : UInt32) (a : Action) : Prop :=
  ∀ s, c.drops a = some s → s.conn.id ≠ id

theorem NoHole.full {c : Client} {id : UInt32} (noHole : NoHole c id .loop) {j : Nat} {data : Bytes}
    {s : Slot} (loop : c.loop = .send j data) (slot : c.slots[j]? = some s)
    (full : recvChCap ≤ s.conn.recvCh.length) (own : s.conn.id = id) : c.connCtxDone s = true := by
  by_contra live
  refine noHole s ?_ own
  simpa [drops, holding, loop, slot, full] using live

def receivedOf (c : Client) (id : UInt32) : List Bytes := ((c.slotOf id).map received).getD []

/-- The chunk `readLoop` is about to put into the channel of this id. -/
def handed (c : Client) (id : UInt32) : List Bytes :=
  match c.slotOf id with
  | none => []
  | some s =>
    match c.loop with
    | .check j data =>
      if id.toNat = j ∧ c.connCtxDone s = false ∧ s.conn.closed = false then [data] else []
    | .send j data => if id.toNat = j ∧ s.conn.closed = false then [data] else []
    | _ => []

/-! ## What has ended stays so -/

/-- Flags that are set stay set. -/
structure Ends (s s' : Slot) : Prop where
  ctxDone : s.conn.ctxDone = true → s'.conn.ctxDone = true
  closed : s.conn.closed = true → s'.conn.closed = true

theorem ends_refl (s : Slot) : Ends s s := ⟨fun h => h, fun h => h⟩

theorem slotOf_set {c c' : Client} {j : Nat} {s s' : Slot} (slot : c.slots[j]? = some s)
    (slots : c'.slots = c.slots.set j s') (id : UInt32) :
    c'.slotOf id = if id.toNat = j then some s' else c.slotOf id := by
  rw [← slotOf_setSlot c slot, slotOf, slots]
  rfl

theorem ends_setSlot {c c' : Client} {j : Nat} {s s' : Slot} (slot : c.slots[j]? = some s)
    (slots : c'.slots = c.slots.set j s') (ends : Ends s s') {id : UInt32} {u : Slot}
    (hu : c.slotOf id = some u) : ∃ u', c'.slotOf id = some u' ∧ Ends u u' := by
  rw [slotOf_set slot slots]
  split
  · rename_i here
    obtain rfl : s = u := by
      rw [slotOf, here, slot] at hu
      exact Option.some.inj hu
    exact ⟨s', rfl, ends⟩
  · exact ⟨u, hu, ends_refl u⟩

theorem ends_step {c c' : Client} {a : Action} {out : List VFrame} (h : Steps c a c' out)
    {id : UInt32} {u : Slot} (hu : c.slotOf id = some u) : ∃ u', c'.slotOf id = some u' ∧ Ends u u' := by
  have shuts : ∀ {s s' : Slot} {pc : ShutPc} {next : Option ShutPc},
      s.conn.shutdown pc = some (s'.conn, next) → Ends s s' := by
    intro s s' pc next shut
    obtain ⟨-, -, -, -, ctxDone, closed⟩ := shutdown_keeps shut
    exact ⟨ctxDone, closed⟩
  cases h with
  | connect host port =>
    rw [slotOf_allocate, if_neg]
    · exact ⟨u, hu, ends_refl u⟩
    · intro same
      rw [slotOf_eq_none same] at hu
      cases hu
  | callSend slot | callOk slot | callErr slot | callRemove slot | callSendDone slot
  | callWaitDone slot | ack _ slot | read _ slot | recv slot | eof _ slot | copy _ slot
  | taskWrite _ slot =>
    refine ends_setSlot slot rfl ?_ hu
    exact ⟨fun h => h, fun h => h⟩
  | send _ slot =>
    refine ends_setSlot slot rfl ?_ hu
    constructor <;> simp [deliver_keeps]
  | callShutdown slot _ shut | shutdown _ slot shut | shuttingOne _ slot shut
  | taskShutdown _ slot shut =>
    refine ends_setSlot slot rfl ?_ hu
    exact shuts shut
  | frame | relayLost | top | dispatch | check | remove | cancel | shutdownAll | exit | visit
  | close | write | taskRemove | taskClose | taskCheck | taskDone | heartbeat | cancelled =>
    exact ⟨u, hu, ends_refl u⟩

theorem ctxDone_step {c c' : Client} {a : Action} {out : List VFrame} (h : Steps c a c' out)
    (done : c.ctxDone = true) : c'.ctxDone = true := by
  cases h with
  | relayLost | cancel | cancelled => rfl
  | _ => exact done

/-- An id that is not in the table does not come back. -/
theorem conns_step {c c' : Client} {a : Action} {out : List VFrame} (n : Numbered c)
    (counts : Counts c a) (h : Steps c a c' out) {id : UInt32} {u : Slot} (hu : c.slotOf id = some u)
    {j : Nat}
    (entry : c'.conns id = some j) : ∃ i, c.conns id = some i := by
  have removed : ∀ {k : UInt32} {j : Nat}, (c.removeConn k).conns id = some j →
      ∃ i, c.conns id = some i := by
    intro k j entry
    by_cases same : id = k
    · simp [removeConn, same] at entry
    · exact ⟨j, by simpa [removeConn, same] using entry⟩
  cases h with
  | connect host port =>
    refine ⟨j, ?_⟩
    have other : id ≠ c.nextID := by
      rintro rfl
      have room := counts host port rfl
      have old := (List.getElem?_eq_some_iff.mp hu).1
      rw [n.next, UInt32.toNat_ofNat'] at old
      omega
    simpa [allocate, other] using entry
  | callRemove | remove | taskRemove => exact removed entry
  | shutdownAll => cases entry
  | _ => exact ⟨j, entry⟩

theorem open_step {c c' : Client} {a : Action} {out : List VFrame} (n : Numbered c)
    (counts : Counts c a) (h : Steps c a c' out) {id : UInt32} {u : Slot}
    (hu : c.slotOf id = some u) (after : c'.Open id) : c.Open id := by
  obtain ⟨ctx, ⟨j, entry⟩, s, hs, done, closed⟩ := after
  obtain ⟨u', hu', ends⟩ := ends_step h hu
  obtain rfl := Option.some.inj (hs.symm.trans hu')
  refine ⟨?_, conns_step n counts h hu entry, u, hu, ?_, ?_⟩
  · by_contra ended
    rw [ctxDone_step h (by simpa using ended)] at ctx
    cases ctx
  · by_contra ended
    rw [ends.ctxDone (by simpa using ended)] at done
    cases done
  · by_contra ended
    rw [ends.closed (by simpa using ended)] at closed
    cases closed

/-! ## Towards the reader -/

/-- The branch of `dispatch` when the connection is there. -/
theorem inLoop_dispatch_open {c : Client} (n : Numbered c) {id : UInt32} (open_ : c.Open id)
    (f : VFrame) : inLoop id (c.dispatch f) = chunksOf cmdData id [f] := by
  obtain ⟨-, ⟨i, entry⟩, -⟩ := open_
  unfold dispatch
  split
  case h_1 none =>
    have other : f.connID ≠ id := by
      rintro rfl
      cases none.symm.trans entry
    simp [inLoop, chunksOf_singleton, other]
  case h_2 j known =>
    obtain ⟨s, slot, same⟩ := n.known f.connID j known
    have own := id_eq_iff n slot id
    rw [same] at own
    split_ifs with connect data close
    · simp [inLoop, chunksOf_singleton, connect, cmdConnect, cmdData]
    · simp [inLoop, chunksOf_singleton, data, own]
    · simp [inLoop, chunksOf_singleton, data]
    · simp [inLoop, chunksOf_singleton, data]

theorem Open.connCtxDone {c : Client} {id : UInt32} (open_ : c.Open id) {s : Slot}
    (hs : c.slotOf id = some s) : c.connCtxDone s = false := by
  obtain ⟨ctx, -, u, hu, done, -⟩ := open_
  obtain rfl := Option.some.inj (hs.symm.trans hu)
  simp [Client.connCtxDone, ctx, done]

/-- `deliver` finds room. -/
theorem send_down_all {c : Client} (n : Numbered c) {j : Nat} {s : Slot} {data : Bytes}
    (slot : c.slots[j]? = some s) (loop : c.loop = .send j data) {id : UInt32}
    (noHole : NoHole c id .loop) (open_ : c.Open id) :
    ((c.setSlot j { s with conn := s.conn.deliver data }).setLoop .top).downOf id =
      c.downOf id ++ chunksOf cmdData id (Action.input .loop) := by
  rw [downOf_setLoop, slotOf_setSlot c slot, downOf, loop]
  by_cases here : id.toNat = j
  · have own : c.slotOf id = some s := by rw [slotOf, here, slot]
    have room : s.conn.recvCh.length < recvChCap := by
      by_contra full
      have ended := noHole.full loop slot (by omega) ((id_eq_iff n slot id).mpr here)
      rw [open_.connCtxDone own] at ended
      cases ended
    obtain ⟨-, -, u, hu, -, closed⟩ := open_
    obtain rfl := Option.some.inj (own.symm.trans hu)
    have takes : s.conn.accepts = true := by simp [ProxyConn.accepts, closed, room]
    simp [here, own, inLoop, received, ProxyConn.deliver, takes, Action.input]
  · simp [here, inLoop, Action.input]

/-- While its connection takes chunks, none of them is lost. -/
theorem down_all {c c' : Client} {a : Action} {out : List VFrame} (n : Numbered c)
    (h : Steps c a c' out) {id : UInt32} (noHole : NoHole c id a) (before : c.Open id)
    (after : c'.Open id) : c'.downOf id = c.downOf id ++ chunksOf cmdData id a.input := by
  have keeps : c'.downOf id = c.downOf id → a.input = [] →
      c'.downOf id = c.downOf id ++ chunksOf cmdData id a.input := by
    intro same silent
    rw [same, silent, chunksOf_nil, List.append_nil]
  have moves : ∀ l, c'.downOf id = ((c.slotOf id).map received).getD [] ++ inLoop id l →
      inLoop id l = inLoop id c.loop → a.input = [] →
      c'.downOf id = c.downOf id ++ chunksOf cmdData id a.input := by
    intro l same loop silent
    rw [same, loop, silent, chunksOf_nil, List.append_nil]
    rfl
  cases h with
  | connect host port =>
    refine keeps ?_ rfl
    unfold downOf
    rw [slotOf_allocate]
    split
    · rw [slotOf_eq_none ‹_›]
      rfl
    · rfl
  | callSend slot | callOk slot | callErr slot | callRemove slot | callSendDone slot
  | callWaitDone slot | read _ slot | copy _ slot | taskWrite _ slot =>
    refine keeps (downOf_setSlot _ slot ?_ id) rfl
    rfl
  | eof a slot ended =>
    refine keeps (downOf_setSlot _ slot ?_ id) ?_
    · rfl
    · rcases ended with rfl | rfl <;> rfl
  | callShutdown slot _ shut | taskShutdown _ slot shut =>
    refine keeps (downOf_setSlot c slot ?_ id) rfl
    simp [received, (shutdown_keeps shut).2.1]
  | recv slot queue =>
    refine keeps (downOf_setSlot c slot ?_ id) rfl
    simp [received, queue]
  | frame f loop =>
    rw [downOf_setLoop]
    simp [downOf, loop, inLoop, Action.input]
  | relayLost loop | cancel loop | shutdownAll loop | exit loop | visit loop =>
    exact moves .cancel rfl (by simp [inLoop, loop]) rfl
  | top loop =>
    refine moves (if c.ctxDone then .cancel else .reading) rfl ?_ rfl
    rw [loop]
    split <;> simp [inLoop]
  | dispatch loop =>
    refine moves (c.dispatch _) rfl ?_ rfl
    rw [loop, inLoop_dispatch_open n before]
    rfl
  | ack loop slot =>
    refine moves .top (received_setSlot c slot ?_ .top id) (by simp [inLoop, loop]) rfl
    rfl
  | check loop slot =>
    rename_i j data s
    refine moves (if c.connCtxDone s then .top else .send j data) rfl ?_ rfl
    rw [loop]
    by_cases here : id.toNat = j
    · rw [before.connCtxDone (by rw [slotOf, here, slot])]
      rfl
    · split <;> simp [inLoop, here]
  | send loop slot => exact send_down_all n slot loop noHole before
  | remove loop => exact moves .top rfl (by simp [inLoop, loop]) rfl
  | shutdown loop slot shut =>
    refine moves _ (received_setSlot c slot ?_ _ id) (by rw [inLoop_loopNext, loop]; rfl) rfl
    simp [received, (shutdown_keeps shut).2.1]
  | shuttingOne loop slot shut =>
    refine moves _ (received_setSlot c slot ?_ _ id) (by rw [inLoop_visitNext, loop]; rfl) rfl
    simp [received, (shutdown_keeps shut).2.1]
  | close | write | taskRemove | taskClose | taskCheck | taskDone | heartbeat | cancelled =>
    exact keeps rfl rfl

/-! ## The chunk in hand -/

/-- `readLoop` stays where it is, and what has ended stays so. -/
theorem handed_ends {c c' : Client} (loop : c'.loop = c.loop)
    (ctx : c.ctxDone = true → c'.ctxDone = true) {id : UInt32} {s s' : Slot}
    (hs : c.slotOf id = some s) (hs' : c'.slotOf id = some s') (ends : Ends s s') :
    c'.handed id <+: c.handed id := by
  unfold handed
  rw [hs, hs', loop]
  have done : c.connCtxDone s = true → c'.connCtxDone s' = true := by
    intro h
    rcases Bool.or_eq_true _ _ ▸ h with h | h
    · simp [connCtxDone, ctx h]
    · simp [connCtxDone, ends.ctxDone h]
  have closed := ends.closed
  cases c.loop with
  | check j data =>
    simp only
    split
    · rw [if_pos (by grind)]
    · exact List.nil_prefix
  | send j data =>
    simp only
    split
    · rw [if_pos (by grind)]
    · exact List.nil_prefix
  | _ => exact List.nil_prefix

theorem handed_idle {c : Client} (check : ∀ j data, c.loop ≠ .check j data)
    (send : ∀ j data, c.loop ≠ .send j data) (id : UInt32) : c.handed id = [] := by
  unfold handed
  split
  · rfl
  · split
    · exact absurd ‹_› (check _ _)
    · exact absurd ‹_› (send _ _)
    · rfl

theorem handed_of_check (c : Client) {id : UInt32} {s : Slot} (hs : c.slotOf id = some s) (j : Nat)
    (data : Bytes) : (c.setLoop (.check j data)).handed id =
      if id.toNat = j ∧ c.connCtxDone s = false ∧ s.conn.closed = false then [data] else [] := by
  have same : (c.setLoop (.check j data)).slotOf id = some s := hs
  unfold handed
  rw [same]
  rfl

theorem handed_of_send (c : Client) {id : UInt32} {s : Slot} (hs : c.slotOf id = some s) (j : Nat)
    (data : Bytes) : (c.setLoop (.send j data)).handed id =
      if id.toNat = j ∧ s.conn.closed = false then [data] else [] := by
  have same : (c.setLoop (.send j data)).slotOf id = some s := hs
  unfold handed
  rw [same]
  rfl

theorem receivedOf_setSlot {c c' : Client} {j : Nat} {s s' : Slot} (slot : c.slots[j]? = some s)
    (slots : c'.slots = c.slots.set j s') (same : received s' = received s) (id : UInt32) :
    c'.receivedOf id = c.receivedOf id := by
  unfold receivedOf
  rw [slotOf_set slot slots]
  split
  · rename_i here
    simp [slotOf, here, slot, same]
  · rfl

/-- `dispatch` hands a chunk on only while the connection takes chunks. -/
theorem handed_dispatch {c : Client} (n : Numbered c) {f : VFrame} (loop : c.loop = .dispatch f)
    (id : UInt32) : (c.setLoop (c.dispatch f)).handed id = [] ∨
      c.Open id ∧ (c.setLoop (c.dispatch f)).handed id = inLoop id c.loop := by
  cases known : c.conns f.connID with
  | none =>
    refine .inl (handed_idle ?_ ?_ id) <;> simp [setLoop, dispatch, known]
  | some j =>
    by_cases data : f.cmd = cmdData
    · obtain ⟨s, slot, same⟩ := n.known f.connID j known
      have at_check : c.dispatch f = .check j f.data := by
        simp [dispatch, known, data, cmdData, cmdConnect]
      rw [at_check]
      cases hs : c.slotOf id with
      | none =>
        refine .inl ?_
        have none : (c.setLoop (.check j f.data)).slotOf id = none := hs
        simp [handed, none]
      | some u =>
        rw [handed_of_check c hs]
        split
        · rename_i takes
          obtain ⟨here, done, closed⟩ := takes
          have own := (id_eq_iff n slot id).mpr here
          have flags : c.ctxDone = false ∧ u.conn.ctxDone = false := by
            simpa [connCtxDone] using done
          refine .inr ⟨⟨flags.1, ⟨j, ?_⟩, u, hs, flags.2, closed⟩, ?_⟩
          · rw [← own, same, known]
          · rw [loop, inLoop, chunksOf_singleton, if_pos ⟨data, same ▸ own⟩]
        · exact .inl rfl
    · refine .inl (handed_idle ?_ ?_ id) <;>
      · intro i p
        simp only [setLoop, dispatch, known]
        split_ifs <;> simp

/-- `deliver` puts the chunk in hand into the channel, or refuses it. -/
theorem handed_send {c : Client} {j : Nat} {s : Slot} {data : Bytes} (slot : c.slots[j]? = some s)
    (loop : c.loop = .send j data) (id : UInt32) :
    ((c.setSlot j { s with conn := s.conn.deliver data }).setLoop .top).receivedOf id <+:
      c.receivedOf id ++ c.handed id := by
  have after := slotOf_setSlot c slot { s with conn := s.conn.deliver data } id
  change Option.getD (Option.map received ((c.setSlot j _).slotOf id)) [] <+: _
  rw [after]
  by_cases here : id.toNat = j
  · have own : c.slotOf id = some s := by rw [slotOf, here, slot]
    by_cases takes : s.conn.accepts = true
    · have live : s.conn.closed = false := by
        simp only [ProxyConn.accepts, Bool.and_eq_true, Bool.not_eq_true'] at takes
        exact takes.1
      simp [here, own, receivedOf, received, ProxyConn.deliver, takes, handed, loop, live]
    · simp [here, own, receivedOf, received, ProxyConn.deliver, takes]
  · simp [here, receivedOf]

/-- What the channel takes in is what was in hand, or the next chunk of an open connection. -/
theorem handed_step {c c' : Client} {a : Action} {out : List VFrame} (n : Numbered c)
    (h : Steps c a c' out) {id : UInt32} {u : Slot} (hu : c.slotOf id = some u) :
    c'.receivedOf id ++ c'.handed id <+: c.receivedOf id ++ c.handed id ∨
      c.Open id ∧ c'.receivedOf id ++ c'.handed id <+: c.downOf id := by
  have stays : c'.receivedOf id = c.receivedOf id → c'.loop = c.loop →
      c'.receivedOf id ++ c'.handed id <+: c.receivedOf id ++ c.handed id := by
    intro same loop
    obtain ⟨u', hu', ends⟩ := ends_step h hu
    rw [same]
    exact (List.prefix_append_right_inj _).mpr (handed_ends loop (ctxDone_step h) hu hu' ends)
  have idles : c'.receivedOf id = c.receivedOf id → (∀ j data, c'.loop ≠ .check j data) →
      (∀ j data, c'.loop ≠ .send j data) →
      c'.receivedOf id ++ c'.handed id <+: c.receivedOf id ++ c.handed id := by
    intro same check send
    rw [same, handed_idle check send, List.append_nil]
    exact List.prefix_append _ _
  cases h with
  | connect host port =>
    refine .inl (stays ?_ rfl)
    unfold receivedOf
    rw [slotOf_allocate, if_neg]
    intro same
    rw [slotOf_eq_none same] at hu
    cases hu
  | callSend slot | callOk slot | callErr slot | callRemove slot | callSendDone slot
  | callWaitDone slot | read _ slot | eof _ slot | copy _ slot | taskWrite _ slot =>
    refine .inl (stays (receivedOf_setSlot slot rfl ?_ id) rfl)
    rfl
  | callShutdown slot _ shut | taskShutdown _ slot shut =>
    refine .inl (stays (receivedOf_setSlot slot rfl ?_ id) rfl)
    simp [received, (shutdown_keeps shut).2.1]
  | recv slot queue =>
    refine .inl (stays (receivedOf_setSlot slot rfl ?_ id) rfl)
    simp [received, queue]
  | close | write | taskRemove | taskClose | taskCheck | taskDone | heartbeat | cancelled =>
    exact .inl (stays rfl rfl)
  | frame | relayLost | cancel | shutdownAll | exit | visit | remove =>
    refine .inl (idles rfl ?_ ?_) <;> simp [setLoop]
  | top =>
    refine .inl (idles rfl ?_ ?_) <;> cases c.ctxDone <;> simp [setLoop]
  | ack loop slot =>
    refine .inl (idles (receivedOf_setSlot slot rfl ?_ id) ?_ ?_)
    · rfl
    · simp [setLoop]
    · simp [setLoop]
  | shutdown loop slot shut | shuttingOne loop slot shut =>
    refine .inl (idles (receivedOf_setSlot slot rfl ?_ id) ?_ ?_)
    · simp [received, (shutdown_keeps shut).2.1]
    · cases ‹Option ShutPc› <;> simp [setLoop, loopNext, visitNext]
    · cases ‹Option ShutPc› <;> simp [setLoop, loopNext, visitNext]
  | dispatch loop =>
    have same : ∀ l, (c.setLoop l).receivedOf id = c.receivedOf id := fun _ => rfl
    rw [same]
    rcases handed_dispatch n loop id with none | ⟨open_, some⟩
    · rw [none, List.append_nil]
      exact .inl (List.prefix_append _ _)
    · rw [some]
      exact .inr ⟨open_, List.prefix_rfl⟩
  | check loop slot =>
    rename_i j data s
    have same : ∀ l, (c.setLoop l).receivedOf id = c.receivedOf id := fun _ => rfl
    have back : c.setLoop (.check j data) = c := by rw [← loop]; rfl
    have before := handed_of_check c hu j data
    rw [back] at before
    refine .inl ?_
    rw [same, before]
    by_cases done : c.connCtxDone s = true
    · rw [if_pos done, handed_idle (by simp [setLoop]) (by simp [setLoop]), List.append_nil]
      exact List.prefix_append _ _
    · rw [if_neg done, handed_of_send c hu]
      split
      · rename_i takes
        obtain rfl : u = s := by
          rw [slotOf, takes.1, slot] at hu
          exact (Option.some.inj hu).symm
        rw [if_pos ⟨takes.1, by simpa using done, takes.2⟩]
      · rw [List.append_nil]
        exact List.prefix_append _ _
  | send loop slot =>
    refine .inl ?_
    rw [handed_idle (by simp [setLoop]) (by simp [setLoop]), List.append_nil]
    exact handed_send slot loop id

/-! ## Granted connections -/

theorem ackErr_eq_none {payload : Bytes} : ackErr payload = none ↔ payload = [0] := by
  unfold ackErr
  split
  · rename_i status
    by_cases ok : status = 0 <;> simp [ok]
  · rename_i other
    exact ⟨fun h => (by cases h), fun h => absurd h (other 0)⟩

theorem deliver_result (pc : ProxyConn) (data : Bytes) :
    (pc.deliver data).connResult = pc.connResult := by
  unfold ProxyConn.deliver
  split <;> rfl

/-- Whatever shows that a connection was acknowledged shows `P` of its id, and only such a
connection is written on or closed. -/
structure Grants (c : Client) (P : UInt32 → Prop) : Prop where
  calls : ∀ (id : UInt32) (s : Slot), c.slotOf id = some s →
    s.call = .ok ∨ s.conn.connResult = some none → P id
  acks : ∀ (id : UInt32) j, c.loop = .ack j none → id.toNat = j → P id
  frames : ∀ f, c.loop = .dispatch f → f.cmd = cmdConnect → f.data = [0] → P f.connID
  tasks : ∀ t ∈ c.tasks, ∀ j, t.conn = some j → ∃ s, c.slots[j]? = some s ∧ s.call = .ok
  written : ∀ s ∈ c.slots, s.written ≠ [] → s.call = .ok

theorem Grants.mono {c : Client} {P Q : UInt32 → Prop} (g : Grants c P) (more : ∀ id, P id → Q id) :
    Grants c Q where
  calls id s hs h := more id (g.calls id s hs h)
  acks id j loop here := more id (g.acks id j loop here)
  frames f loop cmd data := more _ (g.frames f loop cmd data)
  tasks := g.tasks
  written := g.written

/-- `readLoop` goes on elsewhere. -/
theorem Grants.setLoop {c : Client} {P : UInt32 → Prop} (g : Grants c P) {l : LoopPc}
    (acks : ∀ (id : UInt32) j, l = .ack j none → id.toNat = j → P id)
    (frames : ∀ f, l = .dispatch f → f.cmd = cmdConnect → f.data = [0] → P f.connID) :
    Grants (c.setLoop l) P :=
  ⟨g.calls, acks, frames, g.tasks, g.written⟩

/-- One connection changes; its call does not go back. -/
theorem Grants.setSlot {c : Client} {P : UInt32 → Prop} (g : Grants c P) {j : Nat} {s s' : Slot}
    (slot : c.slots[j]? = some s)
    (calls : ∀ id : UInt32, id.toNat = j → s'.call = .ok ∨ s'.conn.connResult = some none → P id)
    (ok : s.call = .ok → s'.call = .ok) (written : s'.written ≠ [] → s'.call = .ok) :
    Grants (c.setSlot j s') P := by
  refine ⟨fun id u hu => ?_, g.acks, g.frames, fun t mem i h => ?_, fun u mem => ?_⟩
  · rw [slotOf_setSlot c slot] at hu
    split at hu
    · obtain rfl := Option.some.inj hu
      exact calls id ‹_›
    · exact g.calls id u hu
  · obtain ⟨u, hu, granted⟩ := g.tasks t mem i h
    rw [setSlot_slot c slot]
    split
    · subst i
      obtain rfl := Option.some.inj (slot.symm.trans hu)
      exact ⟨s', rfl, ok granted⟩
    · exact ⟨u, hu, granted⟩
  · rcases List.mem_or_eq_of_mem_set mem with old | rfl
    · exact g.written u old
    · exact written

/-- One connection changes in what its user does not see. -/
theorem Grants.keep {c : Client} {P : UInt32 → Prop} (g : Grants c P) {j : Nat} {s s' : Slot}
    (slot : c.slots[j]? = some s) (call : s'.call = s.call)
    (result : s'.conn.connResult = s.conn.connResult) (written : s'.written = s.written) :
    Grants (c.setSlot j s') P := by
  refine g.setSlot slot (fun id here => ?_) (fun h => call ▸ h) ?_
  · rw [call, result]
    exact g.calls id s (by rw [slotOf, here, slot])
  · rw [call, written]
    exact g.written s (List.mem_of_getElem? slot)

/-- A call that has not returned its connection goes on. -/
theorem Grants.advance {c : Client} {P : UInt32 → Prop} (g : Grants c P) {j : Nat} {s s' : Slot}
    (slot : c.slots[j]? = some s) (call : s.call ≠ .ok) (next : s'.call ≠ .ok)
    (result : s'.conn.connResult = some none → s.conn.connResult = some none)
    (written : s'.written = s.written) : Grants (c.setSlot j s') P := by
  have hs : ∀ id : UInt32, id.toNat = j → c.slotOf id = some s := fun id here => by
    rw [slotOf, here, slot]
  refine g.setSlot slot (fun id here h => ?_) (fun h => absurd h call) fun some => ?_
  · exact g.calls id s (hs id here) (.inr (result (h.resolve_left next)))
  · exact absurd (g.written s (List.mem_of_getElem? slot) (written ▸ some)) call

theorem Grants.setTask {c : Client} {P : UInt32 → Prop} (g : Grants c P) (i : Nat) {t : Task}
    (granted : ∀ j, t.conn = some j → ∃ s, c.slots[j]? = some s ∧ s.call = .ok) :
    Grants (c.setTask i t) P := by
  refine ⟨g.calls, g.acks, g.frames, fun u mem => ?_, g.written⟩
  rcases List.mem_or_eq_of_mem_set mem with old | rfl
  · exact g.tasks u old
  · exact granted

theorem Grants.removeConn {c : Client} {P : UInt32 → Prop} (g : Grants c P) (id : UInt32) :
    Grants (c.removeConn id) P := ⟨g.calls, g.acks, g.frames, g.tasks, g.written⟩

theorem Grants.dispatch {c : Client} {P : UInt32 → Prop} (g : Grants c P) (n : Numbered c)
    {f : VFrame} (loop : c.loop = .dispatch f) : Grants (c.setLoop (c.dispatch f)) P := by
  refine g.setLoop (fun id j at_ack here => ?_) fun f' at_dispatch => ?_
  · unfold Client.dispatch at at_ack
    split at at_ack
    · cases at_ack
    · rename_i i known
      split_ifs at at_ack with connect
      obtain ⟨rfl, none⟩ := LoopPc.ack.inj at_ack
      obtain ⟨s, slot, own⟩ := n.known f.connID i known
      have same : s.conn.id = id := (id_eq_iff n slot id).mpr here
      rw [← same, own]
      exact g.frames f loop connect (ackErr_eq_none.mp none)
  · unfold Client.dispatch at at_dispatch
    split at at_dispatch
    · cases at_dispatch
    · split_ifs at at_dispatch

theorem Grants.allocate {c : Client} {P : UInt32 → Prop} (g : Grants c P) (host : Bytes)
    (port : UInt16) : Grants (c.allocate host port) P := by
  refine ⟨fun id s hs => ?_, g.acks, g.frames, fun t mem j h => ?_, fun s mem => ?_⟩
  · rw [slotOf_allocate] at hs
    split at hs
    · obtain rfl := Option.some.inj hs
      simp [ProxyConn.new]
    · exact g.calls id s hs
  · obtain ⟨s, hs, granted⟩ := g.tasks t mem j h
    have old := (List.getElem?_eq_some_iff.mp hs).1
    exact ⟨s, by simp [Client.allocate, List.getElem?_append_left old, hs], granted⟩
  · rcases List.mem_append.mp mem with old | new
    · exact g.written s old
    · obtain rfl := List.mem_singleton.mp new
      simp

theorem Grants.step {c c' : Client} {a : Action} {out : List VFrame} {P : UInt32 → Prop}
    (g : Grants c P) (n : Numbered c) (h : Steps c a c' out)
    (input : ∀ f ∈ a.input, f.cmd = cmdConnect → f.data = [0] → P f.connID) : Grants c' P := by
  have silent : ∀ {l : LoopPc}, (∀ j, l ≠ .ack j none) → (∀ f, l ≠ .dispatch f) →
      Grants (c.setLoop l) P :=
    fun ack dispatch => g.setLoop (fun _ j h => absurd h (ack j)) fun f h => absurd h (dispatch f)
  have granted : ∀ {i : Nat} {t : Task}, c.tasks[i]? = some t → ∀ j, t.conn = some j →
      ∃ s, c.slots[j]? = some s ∧ s.call = .ok := fun task => g.tasks _ (List.mem_of_getElem? task)
  cases h with
  | connect host port => exact g.allocate host port
  | callSend slot call | callSendDone slot call | callWaitDone slot call =>
    exact g.advance slot (by simp [call]) (by simp) (fun h => h) rfl
  | callErr slot call => exact g.advance slot (by simp [call]) (by simp) (by simp) rfl
  | callRemove slot call =>
    exact (g.removeConn _).advance slot (by simp [call]) (by simp) (fun h => h) rfl
  | callShutdown slot call shut =>
    refine g.advance slot (by simp [call]) ?_ ?_ rfl
    · cases ‹Option ShutPc› <;> simp [callNext]
    · simp [(shutdown_keeps shut).2.2.2.1]
  | callOk slot call result =>
    refine g.setSlot slot (fun id here _ => ?_) (fun _ => rfl) fun _ => rfl
    exact g.calls id _ (by rw [slotOf, here, slot]) (.inr result)
  | frame f loop =>
    refine g.setLoop (by simp) ?_
    rintro f' ⟨⟩
    exact input f (List.mem_singleton_self f)
  | relayLost | cancel | shutdownAll =>
    exact ⟨g.calls, by simp, by simp, g.tasks, g.written⟩
  | top =>
    refine silent ?_ ?_ <;> cases c.ctxDone <;> simp
  | dispatch loop => exact g.dispatch n loop
  | ack loop slot =>
    rename_i j err s
    refine Grants.setLoop (c := c.setSlot j _) ?_ (by simp) (by simp)
    refine g.setSlot slot (fun id here h => ?_) (fun h => h)
      (g.written s (List.mem_of_getElem? slot))
    have hs : c.slotOf id = some s := by rw [slotOf, here, slot]
    rcases h with ok | result
    · exact g.calls id s hs (.inl ok)
    · cases before : s.conn.connResult with
      | none =>
        simp only [before, Option.some.injEq] at result
        subst result
        exact g.acks id j loop here
      | some r => exact g.calls id s hs (.inr (by simpa [before] using result))
  | check =>
    refine silent ?_ ?_ <;> · split <;> simp
  | send loop slot =>
    refine Grants.setLoop (c := c.setSlot _ _) (g.keep slot ?_ ?_ ?_) (by simp) (by simp)
    · rfl
    · simp [deliver_result]
    · rfl
  | remove => exact Grants.setLoop (c := c.removeConn _) (g.removeConn _) (by simp) (by simp)
  | shutdown loop slot shut =>
    refine Grants.setLoop (c := c.setSlot _ _) (g.keep slot ?_ ?_ ?_) ?_ ?_
    · rfl
    · exact (shutdown_keeps shut).2.2.2.1
    · rfl
    · cases ‹Option ShutPc› <;> simp [loopNext]
    · cases ‹Option ShutPc› <;> simp [loopNext]
  | shuttingOne loop slot shut =>
    refine Grants.setLoop (c := c.setSlot _ _) (g.keep slot ?_ ?_ ?_) ?_ ?_
    · rfl
    · exact (shutdown_keeps shut).2.2.2.1
    · rfl
    · cases ‹Option ShutPc› <;> simp [visitNext]
    · cases ‹Option ShutPc› <;> simp [visitNext]
  | exit | visit => exact silent (by simp) (by simp)
  | close slot call | write p slot call =>
    refine ⟨g.calls, g.acks, g.frames, fun t mem i h => ?_, g.written⟩
    rcases List.mem_append.mp mem with old | new
    · exact g.tasks t old i h
    · obtain rfl := List.mem_singleton.mp new
      obtain rfl := Option.some.inj h
      exact ⟨_, slot, call⟩
  | taskRemove task =>
    refine (g.removeConn _).setTask _ fun k h => ?_
    exact granted task k h
  | taskShutdown task slot shut =>
    rename_i j _ u conn _
    have kept : Grants (c.setSlot j { u with conn }) P :=
      g.keep slot rfl (shutdown_keeps shut).2.2.2.1 rfl
    refine kept.setTask _ fun k h => kept.tasks _ (List.mem_of_getElem? task) k ?_
    rw [closeNext_conn] at h
    exact h
  | taskClose | taskDone => exact g.setTask _ (by simp [Task.conn])
  | taskCheck task slot =>
    refine g.setTask _ fun k h => granted task k ?_
    split at h
    · cases h
    · exact h
  | taskWrite task slot =>
    obtain ⟨u, hu, ok⟩ := granted task _ rfl
    obtain rfl := Option.some.inj (slot.symm.trans hu)
    refine Grants.setTask (c := c.setSlot _ _) ?_ _ (by simp [Task.conn])
    refine g.setSlot slot (fun id here h => ?_) (fun h => h) fun _ => ok
    have hs := slot
    rw [← here] at hs
    exact g.calls id _ hs h
  | read _ slot | recv slot | eof _ slot | copy _ slot =>
    refine g.keep slot ?_ ?_ ?_ <;> rfl
  | heartbeat => exact g
  | cancelled => exact ⟨g.calls, g.acks, g.frames, g.tasks, g.written⟩

/-! ## Close frames -/

/-- The connection whose Close frame a step puts on the relay. -/
def closer (c : Client) : Action → Option Slot
  | .task i =>
    match c.tasks[i]? with
    | some (.closeSend j) => c.slots[j]?
    | _ => none
  | _ => none

theorem closes_step {c c' : Client} {a : Action} {out : List VFrame} (h : Steps c a c' out) :
    (∃ s, c.closer a = some s ∧ c'.slots = c.slots ∧ out = [⟨cmdClose, s.conn.id, []⟩]) ∨
    c.closer a = none ∧ ∀ id, chunksOf cmdClose id out = [] := by
  cases h with
  | taskClose task slot =>
    refine .inl ⟨_, ?_, rfl, rfl⟩
    simp [closer, task, slot]
  | callSend | heartbeat =>
    refine .inr ⟨rfl, fun id => ?_⟩
    simp [chunksOf_singleton, cmdConnect, cmdPing, cmdClose]
  | taskWrite task | taskRemove task | taskShutdown task | taskCheck task =>
    refine .inr ⟨by simp [closer, task], fun id => ?_⟩
    simp [chunksOf_singleton, cmdData, cmdClose]
  | eof a slot ended =>
    refine .inr ⟨?_, by simp⟩
    rcases ended with rfl | rfl <;> rfl
  | _ => exact .inr ⟨rfl, by simp⟩

/-- A connection that is closed was granted. -/
theorem Grants.closer {c : Client} {P : UInt32 → Prop} (g : Grants c P) (n : Numbered c)
    {a : Action} {s : Slot} (closes : c.closer a = some s) :
    P s.conn.id ∧ c.slotOf s.conn.id = some s := by
  unfold Client.closer at closes
  split at closes
  case h_2 => cases closes
  case h_1 i =>
    split at closes
    case h_2 => cases closes
    case h_1 j task =>
      obtain ⟨u, slot, ok⟩ := g.tasks _ (List.mem_of_getElem? task) j rfl
      obtain rfl := Option.some.inj (slot.symm.trans closes)
      have own : c.slotOf u.conn.id = some u := by rw [slotOf, toNat_id n slot, slot]
      exact ⟨g.calls _ u own (.inl ok), own⟩

end Client

end EspNetwork.Ctrl
