import Mathlib
import EspNetwork.Ctrl.Client

/-!
# Waiting for a connect acknowledgement

`ConnectRemote` waits for its acknowledgement without a timeout, so the only thing that can
release it, as long as the client lives, is a Connect frame that finds its connection in
`conns`. Entries are removed by `Close`, by a failed call, by `shutdownAll` and by the
dispatcher when a Close frame arrives. Only the last can hit a call that is still waiting.
-/

namespace EspNetwork.Ctrl

open Serial (Byte Bytes)
open Relay (VFrame)
open Schedule

namespace Client

/-! ## Numbering -/

/-- Connections are numbered in the order they were made, and every entry of `conns` is a
connection under its own id. -/
structure Numbered (c : Client) : Prop where
  few : c.slots.length ≤ 2 ^ 32
  next : c.nextID = UInt32.ofNat c.slots.length
  ids : ∀ (j : Nat) (s : Slot), c.slots[j]? = some s → s.conn.id = UInt32.ofNat j
  known : ∀ id j, c.conns id = some j → ∃ s, c.slots[j]? = some s ∧ s.conn.id = id

theorem ofNat_inj {i j : Nat} (hi : i < 2 ^ 32) (hj : j < 2 ^ 32)
    (h : UInt32.ofNat i = UInt32.ofNat j) : i = j := by
  have := congrArg UInt32.toNat h
  simp only [UInt32.toNat_ofNat'] at this
  omega

/-- Ids tell connections apart. -/
theorem Numbered.eq_of_id {c : Client} (n : Numbered c) {i j : Nat} {s t : Slot}
    (hs : c.slots[i]? = some s) (ht : c.slots[j]? = some t) (same : s.conn.id = t.conn.id) :
    i = j := by
  have hi := (List.getElem?_eq_some_iff.mp hs).1
  have hj := (List.getElem?_eq_some_iff.mp ht).1
  have few := n.few
  exact ofNat_inj (by omega) (by omega) (by rw [← n.ids i s hs, ← n.ids j t ht, same])

/-- The id of the next connection is new. -/
theorem Numbered.nextID_new {c : Client} (n : Numbered c) (room : c.slots.length < 2 ^ 32) {j : Nat}
    {s : Slot} (hs : c.slots[j]? = some s) : s.conn.id ≠ c.nextID := by
  have hj := (List.getElem?_eq_some_iff.mp hs).1
  rw [n.ids j s hs, n.next]
  intro same
  have := ofNat_inj (by omega) room same
  omega

theorem setSlot_slot (c : Client) {j : Nat} {s : Slot} (slot : c.slots[j]? = some s) (s' : Slot)
    (i : Nat) : (c.setSlot j s').slots[i]? = if i = j then some s' else c.slots[i]? := by
  have hj := (List.getElem?_eq_some_iff.mp slot).1
  by_cases same : i = j
  · subst same
    simp [setSlot, hj]
  · simp [setSlot, same, Ne.symm same]

theorem Numbered.setSlot {c : Client} (n : Numbered c) {j : Nat} {s s' : Slot}
    (slot : c.slots[j]? = some s) (id : s'.conn.id = s.conn.id) : Numbered (c.setSlot j s') where
  few := by simpa [Client.setSlot] using n.few
  next := by simpa [Client.setSlot] using n.next
  ids i t ht := by
    rw [setSlot_slot c slot] at ht
    split at ht
    · obtain rfl := Option.some.inj ht
      subst i
      rw [id, n.ids j s slot]
    · exact n.ids i t ht
  known k i hk := by
    obtain ⟨t, ht, hid⟩ := n.known k i hk
    rw [setSlot_slot c slot]
    split
    · subst i
      obtain rfl := Option.some.inj (slot.symm.trans ht)
      exact ⟨s', rfl, id.trans hid⟩
    · exact ⟨t, ht, hid⟩

theorem Numbered.removeConn {c : Client} (n : Numbered c) (id : UInt32) :
    Numbered (c.removeConn id) where
  few := n.few
  next := n.next
  ids := n.ids
  known k j hk := by
    by_cases same : k = id
    · simp [Client.removeConn, same] at hk
    · exact n.known k j (by simpa [Client.removeConn, same] using hk)

theorem Numbered.allocate {c : Client} (n : Numbered c) (room : c.slots.length < 2 ^ 32)
    (host : Bytes) (port : UInt16) : Numbered (c.allocate host port) where
  few := by simp [Client.allocate]; omega
  next := by
    simp only [Client.allocate, n.next, List.length_append, List.length_singleton]
    apply UInt32.toNat_inj.mp
    simp
  ids j s hs := by
    simp only [Client.allocate] at hs
    rcases Nat.lt_or_ge j c.slots.length with old | new
    · rw [List.getElem?_append_left old] at hs
      exact n.ids j s hs
    · rw [List.getElem?_append_right new] at hs
      obtain ⟨hlt, rfl⟩ := List.getElem?_eq_some_iff.mp hs
      obtain rfl : j = c.slots.length := by simp at hlt; omega
      simp [ProxyConn.new, n.next]
  known id j hk := by
    by_cases same : id = c.nextID
    · subst same
      obtain rfl : c.slots.length = j := by simpa [Client.allocate] using hk
      exact ⟨_, by simp [Client.allocate]; rfl, rfl⟩
    · obtain ⟨s, hs, hid⟩ := n.known id j (by simpa [Client.allocate, same] using hk)
      have old := (List.getElem?_eq_some_iff.mp hs).1
      exact ⟨s, by simp [Client.allocate, List.getElem?_append_left old, hs], hid⟩

/-- Fewer than `2 ^ 32` connections were made before the next one. -/
def Counts (c : Client) (a : Action) : Prop :=
  ∀ host port, a = .connect host port → c.slots.length < 2 ^ 32

theorem deliver_id (pc : ProxyConn) (data : Bytes) : (pc.deliver data).id = pc.id := by
  unfold ProxyConn.deliver
  split <;> rfl

theorem Numbered.congr {c c' : Client} (n : Numbered c) (slots : c'.slots = c.slots)
    (next : c'.nextID = c.nextID) (conns : c'.conns = c.conns) : Numbered c' :=
  ⟨slots ▸ n.few, by rw [next, slots, n.next], slots ▸ n.ids, by rw [conns, slots]; exact n.known⟩

theorem Numbered.step {c c' : Client} {a : Action} {out : List VFrame} (n : Numbered c)
    (counts : Counts c a) (h : Steps c a c' out) : Numbered c' := by
  cases h with
  | connect host port => exact n.allocate (counts host port rfl) host port
  | callSend slot | callOk slot | callErr slot | callSendDone slot | callWaitDone slot
  | read _ slot | recv slot | eof _ slot | copy _ slot => exact n.setSlot slot rfl
  | callRemove slot => exact (n.removeConn _).setSlot slot rfl
  | callShutdown slot _ shut => exact n.setSlot slot (shutdown_keeps shut).2.2.1
  | frame | relayLost | top | dispatch | check | cancel | exit | visit | close | write
  | taskClose | taskCheck | taskDone | heartbeat | cancelled => exact n.congr rfl rfl rfl
  | ack _ slot =>
    refine Numbered.congr (c := c.setSlot _ _) (n.setSlot slot ?_) rfl rfl rfl
    rfl
  | send _ slot =>
    refine Numbered.congr (c := c.setSlot _ _) (n.setSlot slot ?_) rfl rfl rfl
    exact deliver_id _ _
  | remove => exact (n.removeConn _).congr rfl rfl rfl
  | shutdown _ slot shut | shuttingOne _ slot shut | taskShutdown _ slot shut =>
    refine Numbered.congr (c := c.setSlot _ _) (n.setSlot slot ?_) rfl rfl rfl
    exact (shutdown_keeps shut).2.2.1
  | shutdownAll => exact ⟨n.few, n.next, n.ids, by simp⟩
  | taskRemove => exact (n.removeConn _).congr rfl rfl rfl
  | taskWrite _ slot =>
    refine Numbered.congr (c := c.setSlot _ _) (n.setSlot slot ?_) rfl rfl rfl
    rfl

/-! ## Calls that wait -/

/-- The call waits, or is about to, and nobody has put a result into its channel. -/
def Unanswered (s : Slot) : Prop :=
  (s.call = .send ∨ s.call = .wait) ∧ s.conn.connResult = none

/-- While the client lives, a waiting call without a result is still in `conns`. -/
def Answerable (c : Client) : Prop :=
  c.ctxDone = false → ∀ (j : Nat) (s : Slot), c.slots[j]? = some s → s.call = .wait → s.conn.connResult = none →
    c.conns s.conn.id = some j

/-- The condition on a step: a Close frame is dispatched only for an id whose call, if there is
one, has been answered, and ids are not used twice. -/
def ClosesAnswered (c : Client) (a : Action) : Prop :=
  Counts c a ∧ (a = .loop → ∀ f, c.loop = .dispatch f → f.cmd = cmdClose →
    ∀ (j : Nat) (s : Slot), c.slots[j]? = some s → s.conn.id = f.connID → ¬ Unanswered s)

/-- The invariant: unanswered calls are registered, and every goroutine about to remove an
entry is past the point where its call was answered. -/
structure Registered (c : Client) : Prop where
  numbered : Numbered c
  waiting : c.ctxDone = false → ∀ (j : Nat) (s : Slot), c.slots[j]? = some s → Unanswered s →
    c.conns s.conn.id = some j
  closing : ∀ t ∈ c.tasks, ∀ j, t = .closeRemove j → ∃ s, c.slots[j]? = some s ∧ s.call = .ok
  removing : ∀ j id, c.loop = .remove j id →
    ∃ s, c.slots[j]? = some s ∧ s.conn.id = id ∧ ¬ Unanswered s
  exiting : c.loop = .shutdownAll → c.ctxDone = true

theorem Registered.setLoop {c : Client} (r : Registered c) {l : LoopPc}
    (removing : ∀ j id, l ≠ .remove j id) (exiting : l ≠ .shutdownAll) :
    Registered (c.setLoop l) :=
  ⟨r.numbered.congr rfl rfl rfl, r.waiting, r.closing, fun j id h => absurd h (removing j id),
    fun h => absurd h exiting⟩

theorem Registered.setTask {c : Client} (r : Registered c) (i : Nat) {t : Task}
    (closing : ∀ j, t ≠ .closeRemove j) : Registered (c.setTask i t) := by
  refine ⟨r.numbered.congr rfl rfl rfl, r.waiting, fun u hu j hj => ?_, r.removing, r.exiting⟩
  rcases List.mem_or_eq_of_mem_set hu with old | rfl
  · exact r.closing u old j hj
  · exact absurd hj (closing j)

/-- A slot may change as long as it does not start to wait and a returned call stays so. -/
theorem Registered.setSlot {c : Client} (r : Registered c) {j : Nat} {s s' : Slot}
    (slot : c.slots[j]? = some s) (id : s'.conn.id = s.conn.id)
    (waits : Unanswered s' → Unanswered s) (ok : s.call = .ok → s'.call = .ok) :
    Registered (c.setSlot j s') where
  numbered := r.numbered.setSlot slot id
  waiting alive i t ht unanswered := by
    rw [setSlot_slot c slot] at ht
    split at ht
    · obtain rfl := Option.some.inj ht
      subst i
      rw [id]
      exact r.waiting alive j s slot (waits unanswered)
    · exact r.waiting alive i t ht unanswered
  closing t ht i hi := by
    obtain ⟨u, hu, returned⟩ := r.closing t ht i hi
    rw [setSlot_slot c slot]
    split
    · subst i
      obtain rfl := Option.some.inj (slot.symm.trans hu)
      exact ⟨s', rfl, ok returned⟩
    · exact ⟨u, hu, returned⟩
  removing i k hl := by
    obtain ⟨u, hu, hid, answered⟩ := r.removing i k hl
    rw [setSlot_slot c slot]
    split
    · subst i
      obtain rfl := Option.some.inj (slot.symm.trans hu)
      exact ⟨s', rfl, id.trans hid, fun h => answered (waits h)⟩
    · exact ⟨u, hu, hid, answered⟩
  exiting := r.exiting

/-- An entry may go if no unanswered call has its id. -/
theorem Registered.removeConn {c : Client} (r : Registered c) {id : UInt32}
    (answered : ∀ (j : Nat) (s : Slot), c.slots[j]? = some s → s.conn.id = id → ¬ Unanswered s) :
    Registered (c.removeConn id) where
  numbered := r.numbered.removeConn id
  waiting alive j s hs unanswered := by
    have other : s.conn.id ≠ id := fun h => answered j s hs h unanswered
    simpa [Client.removeConn, other] using r.waiting alive j s hs unanswered
  closing := r.closing
  removing := r.removing
  exiting := r.exiting

theorem Registered.allocate {c : Client} (r : Registered c) (room : c.slots.length < 2 ^ 32)
    (host : Bytes) (port : UInt16) : Registered (c.allocate host port) where
  numbered := r.numbered.allocate room host port
  waiting alive j s hs unanswered := by
    simp only [Client.allocate] at hs ⊢
    rcases Nat.lt_or_ge j c.slots.length with old | new
    · rw [List.getElem?_append_left old] at hs
      rw [Function.update_of_ne (r.numbered.nextID_new room hs)]
      exact r.waiting alive j s hs unanswered
    · rw [List.getElem?_append_right new] at hs
      obtain ⟨hlt, rfl⟩ := List.getElem?_eq_some_iff.mp hs
      obtain rfl : j = c.slots.length := by simp at hlt; omega
      simp [ProxyConn.new]
  closing t ht j hj := by
    obtain ⟨s, hs, returned⟩ := r.closing t ht j hj
    have old := (List.getElem?_eq_some_iff.mp hs).1
    exact ⟨s, by simp [Client.allocate, List.getElem?_append_left old, hs], returned⟩
  removing j id hl := by
    obtain ⟨s, hs, hid, answered⟩ := r.removing j id hl
    have old := (List.getElem?_eq_some_iff.mp hs).1
    exact ⟨s, by simp [Client.allocate, List.getElem?_append_left old, hs], hid, answered⟩
  exiting := r.exiting

/-- Cancelling ends all obligations. -/
theorem Registered.cancelled {c : Client} (r : Registered c) :
    Registered { c with ctxDone := true } :=
  ⟨r.numbered.congr rfl rfl rfl, by simp, r.closing, r.removing, fun _ => rfl⟩

/-- An id whose call is not waiting, by its slot. -/
theorem Registered.answered_of_slot {c : Client} (r : Registered c) {j : Nat} {s : Slot}
    (slot : c.slots[j]? = some s) (answered : ¬ Unanswered s) :
    ∀ (i : Nat) (t : Slot), c.slots[i]? = some t → t.conn.id = s.conn.id → ¬ Unanswered t := by
  intro i t ht same
  obtain rfl := r.numbered.eq_of_id ht slot same
  obtain rfl := Option.some.inj (slot.symm.trans ht)
  exact answered

theorem unanswered_congr {s s' : Slot} (call : s'.call = s.call)
    (result : s'.conn.connResult = s.conn.connResult) (h : Unanswered s') : Unanswered s := by
  rwa [Unanswered, call, result] at h

/-! A goroutine inside `shutdown` never goes back to waiting or to a removal. -/

theorem callNext_returns (err : CallErr) (next : Option ShutPc) :
    ¬ (callNext err next = .send ∨ callNext err next = .wait) := by
  cases next <;> simp [callNext]

theorem loopNext_shuts (j : Nat) (next : Option ShutPc) (i : Nat) (id : UInt32) :
    loopNext j next ≠ .remove i id ∧ loopNext j next ≠ .shutdownAll := by
  cases next <;> simp [loopNext]

theorem visitNext_shuts (j : Nat) (rest : List Nat) (next : Option ShutPc) (i : Nat) (id : UInt32) :
    visitNext j rest next ≠ .remove i id ∧ visitNext j rest next ≠ .shutdownAll := by
  cases next <;> simp [visitNext]

theorem closeNext_shuts (j : Nat) (next : Option ShutPc) (i : Nat) :
    closeNext j next ≠ .closeRemove i := by
  cases next <;> simp [closeNext]

/-- The branch of `dispatch` never removes an unanswered call. -/
theorem Registered.dispatch {c : Client} (r : Registered c) {f : VFrame}
    (closes : f.cmd = cmdClose → ∀ (j : Nat) (s : Slot), c.slots[j]? = some s →
      s.conn.id = f.connID → ¬ Unanswered s) : Registered (c.setLoop (c.dispatch f)) := by
  unfold Client.dispatch
  split
  · exact r.setLoop (by simp) (by simp)
  case h_2 j known =>
    split_ifs with connect data close
    · exact r.setLoop (by simp) (by simp)
    · exact r.setLoop (by simp) (by simp)
    · obtain ⟨s, slot, id⟩ := r.numbered.known f.connID j known
      refine ⟨r.numbered.congr rfl rfl rfl, r.waiting, r.closing, ?_, by simp [Client.setLoop]⟩
      rintro i k ⟨⟩
      exact ⟨s, slot, id, closes close j s slot id⟩
    · exact r.setLoop (by simp) (by simp)

theorem Registered.step {c c' : Client} {a : Action} {out : List VFrame} (r : Registered c)
    (closes : ClosesAnswered c a) (h : Steps c a c' out) : Registered c' := by
  cases h with
  | connect host port => exact r.allocate (closes.1 host port rfl) host port
  | callSend slot call =>
    exact r.setSlot slot rfl (fun h => ⟨.inl call, h.2⟩) (by simp [call])
  | callOk slot call | callErr slot call =>
    exact r.setSlot slot rfl (fun h => by simp [Unanswered] at h) (by simp [call])
  | callRemove slot call =>
    have answered := r.answered_of_slot slot (by simp [Unanswered, call])
    exact (r.removeConn answered).setSlot slot rfl (fun h => by simp [Unanswered] at h)
      (by simp [call])
  | callShutdown slot call shut =>
    refine r.setSlot slot (shutdown_keeps shut).2.2.1 (fun h => ?_) (by simp [call])
    exact absurd h.1 (callNext_returns _ _)
  | callSendDone slot call =>
    exact r.setSlot slot rfl (fun h => ⟨.inl call, h.2⟩) (by simp [call])
  | callWaitDone slot call =>
    exact r.setSlot slot rfl (fun h => by simp [Unanswered] at h) (by simp [call])
  | frame | exit | visit => exact r.setLoop (by simp) (by simp)
  | relayLost =>
    exact Registered.setLoop (l := .cancel) r.cancelled (by simp) (by simp)
  | top =>
    refine r.setLoop ?_ ?_ <;> split <;> simp
  | dispatch loop => exact r.dispatch (closes.2 rfl _ loop)
  | ack loop slot =>
    refine Registered.setLoop ?_ (by simp) (by simp)
    refine r.setSlot slot rfl ?_ (fun h => h)
    rintro ⟨-, unset⟩
    simp only at unset
    split at unset <;> simp at unset
  | check => refine r.setLoop ?_ ?_ <;> split <;> simp
  | send loop slot =>
    refine Registered.setLoop ?_ (by simp) (by simp)
    refine r.setSlot slot (deliver_id _ _) (unanswered_congr rfl ?_) (fun h => h)
    unfold ProxyConn.deliver
    split <;> rfl
  | remove loop =>
    obtain ⟨s, slot, rfl, answered⟩ := r.removing _ _ loop
    exact (r.removeConn (r.answered_of_slot slot answered)).setLoop (by simp) (by simp)
  | shutdown loop slot shut =>
    obtain ⟨-, -, id, result, -⟩ := shutdown_keeps shut
    refine Registered.setLoop ?_ (fun _ _ => (loopNext_shuts _ _ _ _).1) (loopNext_shuts _ _ 0 0).2
    exact r.setSlot slot id (unanswered_congr rfl result) (fun h => h)
  | shuttingOne loop slot shut =>
    obtain ⟨-, -, id, result, -⟩ := shutdown_keeps shut
    refine Registered.setLoop ?_ (fun _ _ => (visitNext_shuts _ _ _ _ _).1)
      (visitNext_shuts _ _ _ 0 0).2
    exact r.setSlot slot id (unanswered_congr rfl result) (fun h => h)
  | cancel =>
    exact ⟨r.numbered.congr rfl rfl rfl, by simp, r.closing, by simp, fun _ => rfl⟩
  | shutdownAll loop =>
    have cancelled := r.exiting loop
    exact ⟨⟨r.numbered.few, r.numbered.next, r.numbered.ids, by simp⟩, by simp [cancelled],
      r.closing, by simp, by simp⟩
  | close slot call =>
    refine ⟨r.numbered.congr rfl rfl rfl, r.waiting, fun t ht j hj => ?_, r.removing, r.exiting⟩
    rcases List.mem_append.mp ht with old | new
    · exact r.closing t old j hj
    · obtain rfl := List.mem_singleton.mp new
      obtain rfl := Task.closeRemove.inj hj
      exact ⟨_, slot, call⟩
  | write p slot call =>
    refine ⟨r.numbered.congr rfl rfl rfl, r.waiting, fun t ht j hj => ?_, r.removing, r.exiting⟩
    rcases List.mem_append.mp ht with old | new
    · exact r.closing t old j hj
    · obtain rfl := List.mem_singleton.mp new
      simp at hj
  | taskRemove task slot =>
    obtain ⟨s, hs, returned⟩ := r.closing _ (List.mem_of_getElem? task) _ rfl
    obtain rfl := Option.some.inj (slot.symm.trans hs)
    have answered := r.answered_of_slot slot (by simp [Unanswered, returned])
    exact (r.removeConn answered).setTask _ (by simp)
  | taskShutdown task slot shut =>
    obtain ⟨-, -, id, result, -⟩ := shutdown_keeps shut
    refine Registered.setTask ?_ _ (closeNext_shuts _ _)
    exact r.setSlot slot id (unanswered_congr rfl result) (fun h => h)
  | taskClose => exact r.setTask _ (by simp)
  | taskCheck => exact r.setTask _ (by intro j; split <;> simp)
  | taskWrite task slot =>
    refine Registered.setTask ?_ _ (by simp)
    exact r.setSlot slot rfl (unanswered_congr rfl rfl) (fun h => h)
  | taskDone => exact r.setTask _ (by simp)
  | read _ slot | recv slot | eof _ slot | copy _ slot =>
    exact r.setSlot slot rfl (unanswered_congr rfl rfl) (fun h => h)
  | heartbeat => exact r
  | cancelled => exact r.cancelled

/-! ## Runs -/

theorem numbered_newClient : Numbered newClient :=
  ⟨by simp [newClient], rfl, by simp [newClient], by simp [newClient]⟩

theorem registered_newClient : Registered newClient :=
  ⟨numbered_newClient, by simp [newClient], by simp [newClient], by simp [newClient],
    by simp [newClient]⟩

/-- A step of the client, its output aside. -/
def clientStep (c : Client) (a : Action) : Option Client := (step c a).map Prod.fst

theorem clientStep_steps {c c' : Client} {a : Action} (h : clientStep c a = some c') :
    ∃ out, Steps c a c' out := by
  obtain ⟨⟨c₁, out⟩, taken, rfl⟩ := Option.map_eq_some_iff.mp h
  exact ⟨out, step_steps taken⟩

theorem registered_of_exec {as : List Action} {c : Client}
    (obeys : Obeys clientStep ClosesAnswered newClient as)
    (run : exec clientStep newClient as = some c) : Registered c := by
  refine exec_invariant_of_obeys Registered ?_ registered_newClient obeys run
  intro s a t r closes taken
  obtain ⟨out, h⟩ := clientStep_steps taken
  exact r.step closes h

/-- Where a call goes on with the result an acknowledgement stands for. -/
def released : Option ConnErr → CallPc
  | none => .ok
  | some err => .remove (.ack err)

/-- An acknowledgement that finds its connection releases the call. -/
theorem exec_ack {c : Client} {j : Nat} {s : Slot} (slot : c.slots[j]? = some s)
    (waits : s.call = .wait) (unset : s.conn.connResult = none)
    (known : c.conns s.conn.id = some j) (reading : c.loop = .reading) (payload : Bytes) :
    ∃ c' s', exec clientStep c [.frame ⟨cmdConnect, s.conn.id, payload⟩, .loop, .loop, .call j] =
        some c' ∧ c'.slots[j]? = some s' ∧ s'.call = released (ackErr payload) := by
  set f : VFrame := ⟨cmdConnect, s.conn.id, payload⟩
  set s₁ : Slot := { s with conn := { s.conn with connResult := some (ackErr payload) } }
  set c₁ : Client := (c.setSlot j s₁).setLoop .top
  have frame : clientStep c (.frame f) = some (c.setLoop (.dispatch f)) := by
    simp [clientStep, step, reading]
  have branch : clientStep (c.setLoop (.dispatch f)) .loop =
      some (c.setLoop (.ack j (ackErr payload))) := by
    simp [clientStep, step, loopStep, Client.setLoop, dispatch, f, known]
  have put : clientStep (c.setLoop (.ack j (ackErr payload))) .loop = some c₁ := by
    simp [clientStep, step, loopStep, Client.setLoop, slot, unset, c₁, s₁, Client.setSlot]
  have slot₁ : c₁.slots[j]? = some s₁ := by
    simpa [c₁, Client.setLoop] using setSlot_slot c slot s₁ j
  have result : s₁.conn.connResult = some (ackErr payload) := rfl
  suffices h : ∃ c' s', clientStep c₁ (.call j) = some c' ∧ c'.slots[j]? = some s' ∧
      s'.call = released (ackErr payload) by
    obtain ⟨c', s', taken, slot', call'⟩ := h
    refine ⟨c', s', ?_, slot', call'⟩
    exact exec_cons.mpr ⟨_, frame, exec_cons.mpr ⟨_, branch, exec_cons.mpr ⟨_, put,
      exec_cons.mpr ⟨_, taken, rfl⟩⟩⟩⟩
  cases err : ackErr payload with
  | none =>
    set s₂ : Slot := { s₁ with conn := { s₁.conn with connResult := none }, call := .ok }
    refine ⟨c₁.setSlot j s₂, s₂, ?_, by simpa using setSlot_slot c₁ slot₁ s₂ j, rfl⟩
    rw [err] at result
    have waits₁ : s₁.call = .wait := waits
    simp [clientStep, step, callStep, slot₁, result, waits₁, s₂]
  | some e =>
    set s₂ : Slot := { s₁ with
      conn := { s₁.conn with connResult := none }
      call := .remove (.ack e) }
    refine ⟨c₁.setSlot j s₂, s₂, ?_, by simpa using setSlot_slot c₁ slot₁ s₂ j, rfl⟩
    rw [err] at result
    have waits₁ : s₁.call = .wait := waits
    simp [clientStep, step, callStep, slot₁, result, waits₁, s₂]

/-- A waiting `ConnectRemote` can always be answered, unless a Close frame was dispatched for a
call that had no answer yet: the call is still registered under its id, and an acknowledgement
releases it. -/
theorem waiting_connect_answerable {as : List Action} {c : Client}
    (obeys : Obeys clientStep ClosesAnswered newClient as)
    (run : exec clientStep newClient as = some c) :
    Answerable c ∧ ∀ (j : Nat) (s : Slot), c.ctxDone = false → c.slots[j]? = some s →
      s.call = .wait → s.conn.connResult = none → c.loop = .reading → ∀ payload, ∃ c' s',
        exec clientStep c [.frame ⟨cmdConnect, s.conn.id, payload⟩, .loop, .loop, .call j] =
          some c' ∧ c'.slots[j]? = some s' ∧ s'.call = released (ackErr payload) := by
  have r := registered_of_exec obeys run
  have answerable : Answerable c := by
    intro alive j s slot waits unset
    exact r.waiting alive j s slot ⟨.inr waits, unset⟩
  refine ⟨answerable, ?_⟩
  intro j s alive slot waits unset reading payload
  exact exec_ack slot waits unset (answerable alive j s slot waits unset) reading payload

/-- One call waits for its answer. -/
def waitingRun : List Action := [.connect [104] 80, .call 0, .loop]

theorem waiting_connect_answerable_one : ∃ c s c' s', exec clientStep newClient waitingRun = some c ∧
    c.slots[0]? = some s ∧ s.call = .wait ∧ s.conn.connResult = none ∧ Answerable c ∧
    exec clientStep c [.frame ⟨cmdConnect, s.conn.id, [0]⟩, .loop, .loop, .call 0] = some c' ∧
    c'.slots[0]? = some s' ∧ s'.call = .ok := by
  have obeys : Obeys clientStep ClosesAnswered newClient waitingRun := by
    refine obeys_cons ⟨fun _ _ _ => by simp [newClient], by simp⟩ rfl ?_
    refine obeys_cons ⟨by simp [Counts], by simp⟩ rfl ?_
    exact obeys_cons ⟨by simp [Counts], fun _ f h => by cases h⟩ rfl trivial
  obtain ⟨answerable, ack⟩ := waiting_connect_answerable obeys rfl
  obtain ⟨c', s', run, slot, call⟩ := ack 0 _ rfl rfl rfl rfl rfl [0]
  exact ⟨_, _, c', s', rfl, rfl, rfl, rfl, answerable, run, slot, call⟩

/-- The target of a connection hangs up before its acknowledgement is sent: the Close frame takes
the waiting call out of `conns`. -/
def closedRun : List Action :=
  [.connect [104] 80, .call 0, .loop, .frame ⟨cmdClose, 0, []⟩, .loop, .loop]

theorem waiting_connect_stranded : ∃ c, exec clientStep newClient closedRun = some c ∧
    ¬ Answerable c := by
  refine ⟨_, rfl, fun answerable => ?_⟩
  have := answerable rfl 0 _ rfl rfl rfl
  revert this
  decide

end Client

end EspNetwork.Ctrl
