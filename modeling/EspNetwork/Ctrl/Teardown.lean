import EspNetwork.Base.Winding
import EspNetwork.Ctrl.Lossless
import EspNetwork.Ctrl.Shutting

/-!
# The end of a client

When the relay is lost, `readLoop` cancels the client's context and `shutdownAll` closes what is in
the table. A connection that enters the table later belongs to a `ConnectRemote` that finds the
context cancelled. So in the end the table is empty and every connection is closed.
-/

namespace EspNetwork.Ctrl

open Serial (Byte Bytes)
open Relay (VFrame)
open Schedule

namespace Client

/-! ## Behind `shutdownAll` -/

/-- The table was emptied. -/
def cleared : LoopPc → Bool
  | .shutting _ | .shuttingOne .. | .exited => true
  | _ => false

/-- The loop was left. -/
def left (l : LoopPc) : Bool := l = .shutdownAll || cleared l

/-- The call has its slot and no result. -/
def Outstanding (s : Slot) : Prop :=
  s.conn.connResult = none ∧ (s.call = .send ∨ s.call = .wait ∨ ∃ err, s.call = .remove err)

/-- What is in the table once it was emptied belongs to calls that nobody answers any more. -/
structure Late (c : Client) : Prop where
  ended : left c.loop = true → c.ctxDone = true
  late : cleared c.loop = true → ∀ id j, c.conns id = some j → ∃ s, c.slots[j]? = some s ∧ Outstanding s

theorem Late.of_running {c : Client} (running : left c.loop = false) : Late c := by
  obtain ⟨-, other⟩ := Bool.or_eq_false_iff.mp running
  exact ⟨by simp [running], by simp [other]⟩

theorem Late.setSlot {c : Client} (l : Late c) {j : Nat} {s s' : Slot}
    (slot : c.slots[j]? = some s) (stays : Outstanding s → Outstanding s') : Late (c.setSlot j s') := by
  refine ⟨l.ended, fun clear id i known => ?_⟩
  obtain ⟨t, slot_i, open_t⟩ := l.late clear id i known
  by_cases here : i = j
  · subst here
    obtain rfl := Option.some.inj (slot.symm.trans slot_i)
    exact ⟨s', (setSlot_slot c slot s' i).trans (if_pos rfl), stays open_t⟩
  · exact ⟨t, (setSlot_slot c slot s' i).trans ((if_neg here).trans slot_i), open_t⟩

theorem Late.removeConn {c : Client} (l : Late c) (id : UInt32) : Late (c.removeConn id) := by
  refine ⟨l.ended, fun clear k i known => l.late clear k i ?_⟩
  by_cases same : k = id
  · simp [Client.removeConn, same] at known
  · simpa [Client.removeConn, same] using known

theorem Late.setTask {c : Client} (l : Late c) (i : Nat) (t : Task) : Late (c.setTask i t) :=
  ⟨l.ended, l.late⟩

theorem Late.setLoop {c : Client} (l : Late c) {next : LoopPc}
    (ended : left next = true → left c.loop = true)
    (clear : cleared next = true → cleared c.loop = true) : Late (c.setLoop next) :=
  ⟨fun h => l.ended (ended h), fun h => l.late (clear h)⟩

theorem late_callRemove {c : Client} (l : Late c) (n : Numbered c) {j : Nat} {s s' : Slot}
    (slot : c.slots[j]? = some s) : Late ((c.removeConn s.conn.id).setSlot j s') := by
  refine ⟨l.ended, fun clear k i known => ?_⟩
  obtain ⟨t, slot_i, open_t⟩ := (l.removeConn s.conn.id).late clear k i known
  have other : i ≠ j := by
    rintro rfl
    obtain rfl := Option.some.inj (slot.symm.trans slot_i)
    obtain ⟨t, slot_t, same⟩ := (n.removeConn s.conn.id).known k i known
    obtain rfl := Option.some.inj (slot.symm.trans slot_t)
    simp [Client.setSlot, Client.removeConn, same] at known
  exact ⟨t, (setSlot_slot (c.removeConn s.conn.id) slot s' i).trans
    ((if_neg other).trans slot_i), open_t⟩

theorem left_dispatch (c : Client) (f : VFrame) : left (c.setLoop (c.dispatch f)).loop = false := by
  simp only [Client.setLoop, Client.dispatch]
  split
  · rfl
  · split_ifs <;> rfl

theorem Late.step {c c' : Client} {a : Action} {out : List VFrame} (l : Late c) (n : Numbered c)
    (counts : Counts c a) (h : Steps c a c' out) : Late c' := by
  cases h with
  | connect host port =>
    refine ⟨l.ended, fun clear id j known => ?_⟩
    by_cases same : id = c.nextID
    · subst same
      obtain rfl : c.slots.length = j := by simpa [Client.allocate] using known
      exact ⟨_, by simp [Client.allocate]; rfl, rfl, .inl rfl⟩
    · obtain ⟨s, slot, open_s⟩ := l.late clear id j (by simpa [Client.allocate, same] using known)
      have old := (List.getElem?_eq_some_iff.mp slot).1
      exact ⟨s, (List.getElem?_append_left old).trans slot, open_s⟩
  | callSend slot call | callSendDone slot call =>
    exact l.setSlot slot fun open_s => ⟨open_s.1, .inr (.inl rfl)⟩
  | callWaitDone slot call =>
    exact l.setSlot slot fun open_s => ⟨open_s.1, .inr (.inr ⟨_, rfl⟩)⟩
  | callOk slot call result | callErr slot call result =>
    refine l.setSlot slot fun open_s => ?_
    rw [open_s.1] at result
    cases result
  | callRemove slot call => exact late_callRemove l n slot
  | callShutdown slot call shut =>
    refine l.setSlot slot fun open_s => ?_
    simp [Outstanding, call] at open_s
  | read _ slot | recv slot | eof _ slot | copy _ slot => exact l.setSlot slot fun open_s => open_s
  | frame | relayLost | ack | send | remove => exact .of_running rfl
  | top | check => exact .of_running (by simp only [Client.setLoop]; split <;> rfl)
  | dispatch => exact .of_running (left_dispatch c _)
  | @shutdown j pc s conn next =>
    refine .of_running ?_
    cases next <;> rfl
  | cancel => exact ⟨fun _ => rfl, fun clear => by cases clear⟩
  | shutdownAll loop =>
    exact ⟨fun _ => l.ended (by rw [loop]; rfl), fun _ id j known => by cases known⟩
  | @shuttingOne j pc rest s conn next loop slot shut =>
    refine Late.setLoop (c := c.setSlot _ _) (l.setSlot slot fun open_s => ?_) (fun _ => ?_)
      fun _ => ?_
    · exact ⟨(shutdown_keeps shut).2.2.2.1.trans open_s.1, open_s.2⟩
    · rw [Client.setSlot, loop]
      rfl
    · rw [Client.setSlot, loop]
      rfl
  | exit loop | visit loop => exact l.setLoop (fun _ => by rw [loop]; rfl) fun _ => by rw [loop]; rfl
  | close | write => exact ⟨l.ended, l.late⟩
  | taskClose | taskCheck | taskDone => exact l.setTask _ _
  | taskRemove => exact (l.removeConn _).setTask _ _
  | taskShutdown task slot shut =>
    refine Late.setTask (c := c.setSlot _ _) (l.setSlot slot fun open_s => ?_) _ _
    exact ⟨(shutdown_keeps shut).2.2.2.1.trans open_s.1, open_s.2⟩
  | taskWrite task slot =>
    refine Late.setTask (c := c.setSlot _ _) (l.setSlot slot fun open_s => ?_) _ _
    exact open_s
  | heartbeat => exact l
  | cancelled => exact ⟨fun _ => rfl, l.late⟩

/-! ## What is left to do -/

def shutWork : ShutPc → Nat
  | .enter => 3
  | .cancel => 2
  | .close => 1

def callWork : CallPc → Nat
  | .send => 6
  | .wait => 5
  | .remove _ => 4
  | .shutdown _ pc => shutWork pc
  | .ok | .failed _ => 0

def taskWork : Task → Nat
  | .closeRemove _ => 5
  | .closeShutdown _ pc => shutWork pc + 1
  | .closeSend _ => 1
  | .writeCheck .. => 2
  | .writeSend .. => 1
  | .returned => 0

/-- The steps `readLoop` has left once the context is cancelled, for `n` connections. -/
def loopWork (n : Nat) : LoopPc → Nat
  | .exited => 0
  | .shutting rest => 4 * rest.length + 1
  | .shuttingOne _ pc rest => 4 * rest.length + 1 + shutWork pc
  | .shutdownAll => 4 * n + 2
  | .cancel => 4 * n + 3
  | .top => 4 * n + 4
  | .shutdown _ pc => 4 * n + 4 + shutWork pc
  | .remove .. => 4 * n + 8
  | .ack .. => 4 * n + 5
  | .send .. => 4 * n + 6
  | .check .. => 4 * n + 7
  | .dispatch _ => 4 * n + 9
  | .reading => 4 * n + 10

def slotWork (s : Slot) : Nat :=
  callWork s.call + (s.conn.recvCh.length + if s.read.isSome then 1 else 0)

def work (c : Client) : Nat :=
  (c.slots.map slotWork).sum + (c.tasks.map taskWork).sum + loopWork c.slots.length c.loop

/-- The steps of the goroutines that run; no user asks for more. A `ReadFull` in which `readLoop` is
blocked returns. -/
def Winding : Action → Prop
  | .call _ | .callDone _ | .frame _ | .relayLost | .loop | .visit _ | .task _ | .taskDone _
  | .recv _ | .readDone _ | .copy _ => True
  | .connect .. | .close _ | .write .. | .read .. | .heartbeat | .cancelled => False

/-- Nobody is in a call any more. -/
structure Settled (c : Client) : Prop where
  loop : c.loop = .exited
  calls : ∀ s ∈ c.slots, s.call = .ok ∨ ∃ err, s.call = .failed err
  tasks : ∀ t ∈ c.tasks, t = .returned
  reads : ∀ s ∈ c.slots, s.read = none

theorem shutWork_next {p p' : ProxyConn} {pc : ShutPc} {next : Option ShutPc}
    (h : p.shutdown pc = some (p', next)) :
    (next.elim 0 shutWork) < shutWork pc ∧ p'.recvCh = p.recvCh := by
  rcases shutdown_cases h with ⟨rfl, -, rfl, rfl⟩ | ⟨rfl, -, rfl, rfl⟩ | ⟨rfl, rfl, rfl⟩ |
    ⟨rfl, rfl, rfl⟩ <;> simp [shutWork]

theorem lowers_setSlot {c : Client} {j : Nat} {s s' : Slot} (slot : c.slots[j]? = some s)
    (less : slotWork s' < slotWork s) : (c.setSlot j s').work < c.work := by
  have sum := sum_map_set slotWork slot s'
  simp only [work, Client.setSlot, List.length_set]
  omega

theorem lowers_setTask {c : Client} {i : Nat} {t t' : Task} (task : c.tasks[i]? = some t)
    (less : taskWork t' < taskWork t) : (c.setTask i t').work < c.work := by
  have sum := sum_map_set taskWork task t'
  simp only [work, Client.setTask]
  omega

theorem lowers_setLoop {c : Client} {l : LoopPc}
    (less : loopWork c.slots.length l < loopWork c.slots.length c.loop) :
    (c.setLoop l).work < c.work := by
  simp only [work, Client.setLoop]
  omega

/-- The loop changes a slot with its step. -/
theorem lowers_slotLoop {c : Client} {j : Nat} {s s' : Slot} {l : LoopPc}
    (slot : c.slots[j]? = some s) (less : slotWork s' + loopWork c.slots.length l <
      slotWork s + loopWork c.slots.length c.loop) : ((c.setSlot j s').setLoop l).work < c.work := by
  have sum := sum_map_set slotWork slot s'
  simp only [work, Client.setSlot, Client.setLoop, List.length_set]
  omega

/-- A task changes a slot with its step. -/
theorem lowers_slotTask {c : Client} {i j : Nat} {s s' : Slot} {t t' : Task}
    (slot : c.slots[j]? = some s) (task : c.tasks[i]? = some t)
    (less : slotWork s' + taskWork t' < slotWork s + taskWork t) :
    ((c.setSlot j s').setTask i t').work < c.work := by
  have sum := sum_map_set slotWork slot s'
  have sum' := sum_map_set taskWork task t'
  simp only [work, Client.setSlot, Client.setTask, List.length_set]
  omega

theorem length_entries (c : Client) : c.entries.length ≤ c.slots.length := by
  unfold Client.entries
  exact (List.length_filter_le _ _).trans List.length_range.le

/-- `Read` is in progress where it goes on. -/
theorem step_reads {c c' : Client} {j : Nat} {a : Action} {out : List VFrame}
    (reads : a = .recv j ∨ a = .readDone j ∨ a = .copy j) (h : step c a = some (c', out)) :
    ∃ s, c.slots[j]? = some s ∧ s.read.isSome := by
  rcases reads with rfl | rfl | rfl
  · obtain ⟨c₁, recv, -⟩ := Option.map_eq_some_iff.mp h
    obtain ⟨s, slot, recv⟩ := Option.bind_eq_some_iff.mp recv
    by_cases reading : s.read.isSome ∧ s.conn.last = []
    · exact ⟨s, slot, reading.1⟩
    · rw [if_neg reading] at recv
      cases recv
  · obtain ⟨c₁, done, -⟩ := Option.map_eq_some_iff.mp h
    obtain ⟨s, slot, done⟩ := Option.bind_eq_some_iff.mp done
    split_ifs at done with reading
    exact ⟨s, slot, reading.1⟩
  · obtain ⟨c₁, copy, -⟩ := Option.map_eq_some_iff.mp h
    obtain ⟨s, slot, copy⟩ := Option.bind_eq_some_iff.mp copy
    obtain ⟨n, reading, -⟩ := Option.bind_eq_some_iff.mp copy
    exact ⟨s, slot, by rw [reading]; rfl⟩

theorem slotWork_shut {s : Slot} {conn : ProxyConn} {pc : ShutPc} {next : Option ShutPc}
    (shut : s.conn.shutdown pc = some (conn, next)) : slotWork { s with conn } = slotWork s := by
  simp only [slotWork, (shutWork_next shut).2]

theorem loopWork_dispatch (c : Client) (f : VFrame) :
    loopWork c.slots.length (c.dispatch f) < loopWork c.slots.length (.dispatch f) := by
  unfold Client.dispatch
  split
  · simp [loopWork]
  · split_ifs <;> simp [loopWork]

theorem work_winding {c c' : Client} {a : Action} {out : List VFrame} (winding : Winding a)
    (ended : c.ctxDone = true) (h : step c a = some (c', out)) : c'.work < c.work := by
  cases step_steps h with
  | connect | close | write | read | heartbeat | cancelled => exact winding.elim
  | callSend slot call | callOk slot call | callErr slot call | callSendDone slot call
  | callWaitDone slot call =>
    refine lowers_setSlot slot ?_
    simp [slotWork, callWork, call]
  | callRemove slot call =>
    refine lowers_setSlot (c := c.removeConn _) slot ?_
    simp [slotWork, callWork, call, shutWork]
  | @callShutdown j s err pc conn next slot call shut =>
    refine lowers_setSlot slot ?_
    obtain ⟨less, queue⟩ := shutWork_next shut
    cases next <;> simp only [Option.elim_none, Option.elim_some] at less <;>
      simp only [slotWork, callNext, callWork, call, queue] <;> omega
  | frame _ loop =>
    refine lowers_setLoop ?_
    simp only [loop, loopWork]
    omega
  | relayLost loop | cancel loop =>
    simp only [work, loop, loopWork]
    omega
  | top loop =>
    refine lowers_setLoop ?_
    simp only [loop, loopWork, ended, if_true]
    omega
  | @dispatch f loop =>
    refine lowers_setLoop ?_
    rw [loop]
    exact loopWork_dispatch c f
  | ack loop slot =>
    refine lowers_slotLoop slot ?_
    simp only [slotWork, loop, loopWork]
    omega
  | @check j data s loop slot =>
    refine lowers_setLoop ?_
    rw [connCtxDone, ended, Bool.true_or, if_pos rfl, loop]
    simp only [loopWork]
    omega
  | @send j data s loop slot =>
    refine lowers_slotLoop slot ?_
    have one : (s.conn.deliver data).recvCh.length ≤ s.conn.recvCh.length + 1 := by
      unfold ProxyConn.deliver
      split <;> simp
    simp only [slotWork, loop, loopWork]
    omega
  | @remove j id loop =>
    refine lowers_setLoop (c := c.removeConn id) ?_
    simp only [Client.removeConn, loop, loopWork, shutWork]
    omega
  | @shutdown j pc s conn next loop slot shut =>
    refine lowers_slotLoop slot ?_
    rw [slotWork_shut shut, loop]
    have less := (shutWork_next shut).1
    cases next <;> simp only [Option.elim_none, Option.elim_some] at less <;>
      simp only [loopNext, loopWork] <;> omega
  | shutdownAll loop =>
    rw [step_shutdownAll h loop]
    have few := length_entries c
    simp only [work, loop, loopWork]
    omega
  | @shuttingOne j pc rest s conn next loop slot shut =>
    refine lowers_slotLoop slot ?_
    rw [slotWork_shut shut, loop]
    have less := (shutWork_next shut).1
    cases next <;> simp only [Option.elim_none, Option.elim_some] at less <;>
      simp only [visitNext, loopWork] <;> omega
  | exit loop =>
    refine lowers_setLoop ?_
    simp only [loop, loopWork]
    omega
  | @visit j rest loop mem =>
    refine lowers_setLoop ?_
    have shorter := List.length_erase_of_mem mem
    have filled := List.length_pos_of_mem mem
    simp only [loop, loopWork, shutWork]
    omega
  | taskRemove task =>
    refine lowers_setTask (c := c.removeConn _) task ?_
    simp [taskWork, shutWork]
  | @taskShutdown i j pc s conn next task slot shut =>
    refine lowers_slotTask slot task ?_
    rw [slotWork_shut shut]
    have less := (shutWork_next shut).1
    cases next <;> simp only [Option.elim_none, Option.elim_some] at less <;>
      simp only [closeNext, taskWork] <;> omega
  | taskClose task => exact lowers_setTask task (by simp [taskWork])
  | taskCheck task =>
    refine lowers_setTask task ?_
    split_ifs <;> simp [taskWork]
  | taskWrite task slot =>
    refine lowers_slotTask slot task ?_
    simp [slotWork, taskWork]
  | taskDone =>
    obtain ⟨t, task, ⟨j, closing⟩, -⟩ := step_taskDone h
    refine lowers_setTask task ?_
    rcases closing with rfl | ⟨p, rfl⟩ <;> simp [taskWork]
  | recv slot queue =>
    refine lowers_setSlot slot ?_
    simp only [slotWork, queue, List.length_cons]
    omega
  | eof _ slot which =>
    obtain ⟨s, slot', reading⟩ := step_reads (which.imp_right .inl) h
    obtain rfl := Option.some.inj (slot.symm.trans slot')
    refine lowers_setSlot slot ?_
    simp [slotWork, reading]
  | copy _ slot =>
    obtain ⟨s, slot', reading⟩ := step_reads (.inr (.inr rfl)) h
    obtain rfl := Option.some.inj (slot.symm.trans slot')
    refine lowers_setSlot slot ?_
    simp [slotWork, reading]

/-! ## Nobody is stuck -/

/-- Some goroutine can go on. -/
def CanWind (c : Client) : Prop := ∃ a c', Winding a ∧ clientStep c a = some c'

theorem canWind_of_step {c : Client} {a : Action} (winding : Winding a)
    (enabled : (step c a).isSome) : CanWind c := by
  obtain ⟨⟨c', out⟩, taken⟩ := Option.isSome_iff_exists.mp enabled
  exact ⟨a, c', winding, by simp [clientStep, taken]⟩

theorem exists_slot {c : Client} {j : Nat} (bound : j < c.slots.length) :
    ∃ s, c.slots[j]? = some s :=
  ⟨_, List.getElem?_eq_getElem bound⟩

/-- A step of `shutdown` that does not have to wait for the `sync.Once`. -/
theorem canWind_of_free {c : Client} (r : Rooted c) {j : Nat} {pc : ShutPc} (h : Shuts c j pc)
    (free : ∀ s, c.slots[j]? = some s → (s.conn.shutdown pc).isSome) : CanWind c := by
  rcases h with ⟨slot, call⟩ | @⟨i, task⟩ | loop | loop
  · refine canWind_of_step (a := .call j) trivial ?_
    simpa [step, callStep, slot, call] using free _ slot
  · obtain ⟨s, slot⟩ := exists_slot (r.tasks _ (List.mem_of_getElem? task) j (by simp [Task.refs]))
    obtain ⟨⟨conn, next⟩, shut⟩ := Option.isSome_iff_exists.mp (free s slot)
    refine canWind_of_step (a := .task i) trivial ?_
    simp [step, taskStep, task, shutdownConn, slot, shut]
  · obtain ⟨s, slot⟩ := exists_slot (r.loop j (by simp [LoopPc.refs, loop]))
    obtain ⟨⟨conn, next⟩, shut⟩ := Option.isSome_iff_exists.mp (free s slot)
    refine canWind_of_step (a := .loop) trivial ?_
    simp [step, loopStep, loop, shutdownConn, slot, shut]
  · obtain ⟨s, slot⟩ := exists_slot (r.loop j (by simp [LoopPc.refs, loop]))
    obtain ⟨⟨conn, next⟩, shut⟩ := Option.isSome_iff_exists.mp (free s slot)
    refine canWind_of_step (a := .loop) trivial ?_
    simp [step, loopStep, loop, shutdownConn, slot, shut]

/-- Who waits for the `sync.Once` waits for somebody who goes on. -/
theorem canWind_of_shuts {c : Client} (r : Rooted c) (o : Shutting c) {j : Nat} {pc : ShutPc}
    (h : Shuts c j pc) : CanWind c := by
  have inside : ∀ q, q ≠ .enter → Shuts c j q → CanWind c := by
    intro q entered at_q
    refine canWind_of_free r at_q fun s _ => ?_
    cases q with
    | enter => exact absurd rfl entered
    | cancel | close => rfl
  by_cases entering : pc = .enter
  · subst entering
    by_cases waits : ∃ s, c.slots[j]? = some s ∧ s.conn.closeOnce = .running
    · obtain ⟨s, slot, running⟩ := waits
      obtain ⟨q, entered, at_q⟩ := o.body j s slot running
      exact inside q entered at_q
    · refine canWind_of_free r h fun s slot => ?_
      cases once : s.conn.closeOnce with
      | fresh | finished => simp [ProxyConn.shutdown, once]
      | running => exact absurd ⟨s, slot, once⟩ waits
  · exact inside pc entering h

/-- The context is cancelled, and the invariants hold. -/
structure Ending (c : Client) : Prop where
  numbered : Numbered c
  rooted : Rooted c
  shutting : Shutting c
  late : Late c
  ended : c.ctxDone = true

theorem Ending.loop_canWind {c : Client} (e : Ending c) (running : c.loop ≠ .exited) :
    CanWind c := by
  have slot : ∀ j ∈ LoopPc.refs c.loop, ∃ s, c.slots[j]? = some s :=
    fun j mem => exists_slot (e.rooted.loop j mem)
  cases loop : c.loop with
  | exited => exact absurd loop running
  | reading => exact canWind_of_step (a := .relayLost) trivial (by simp [step, loop])
  | top | dispatch | remove | cancel | shutdownAll =>
    exact canWind_of_step (a := .loop) trivial (by simp [step, loopStep, loop])
  | ack j err | check j data | send j data =>
    obtain ⟨s, slot⟩ := slot j (by simp [loop, LoopPc.refs])
    exact canWind_of_step (a := .loop) trivial (by simp [step, loopStep, loop, slot])
  | shutdown j pc => exact canWind_of_shuts e.rooted e.shutting (.loop loop)
  | shuttingOne j pc rest => exact canWind_of_shuts e.rooted e.shutting (.visit loop)
  | shutting rest =>
    cases rest with
    | nil => exact canWind_of_step (a := .loop) trivial (by simp [step, loopStep, loop])
    | cons j rest => exact canWind_of_step (a := .visit j) trivial (by simp [step, loop])

theorem Ending.call_canWind {c : Client} (e : Ending c) {j : Nat} {s : Slot}
    (slot : c.slots[j]? = some s) (running : ¬ (s.call = .ok ∨ ∃ err, s.call = .failed err)) :
    CanWind c := by
  cases call : s.call with
  | send | wait =>
    refine canWind_of_step (a := .callDone j) trivial ?_
    simp [step, callDoneStep, slot, e.ended, call]
  | remove err => exact canWind_of_step (a := .call j) trivial (by simp [step, callStep, slot, call])
  | shutdown err pc => exact canWind_of_shuts e.rooted e.shutting (.call slot call)
  | ok | failed err => simp [call] at running

theorem Ending.task_canWind {c : Client} (e : Ending c) {i : Nat} {t : Task}
    (task : c.tasks[i]? = some t) (running : t ≠ .returned) : CanWind c := by
  have slot : ∀ j ∈ Task.refs t, ∃ s, c.slots[j]? = some s :=
    fun j mem => exists_slot (e.rooted.tasks t (List.mem_of_getElem? task) j mem)
  cases t with
  | returned => exact absurd rfl running
  | closeRemove j | writeCheck j p =>
    obtain ⟨s, slot⟩ := slot j (by simp [Task.refs])
    exact canWind_of_step (a := .task i) trivial (by simp [step, taskStep, task, slot])
  | closeShutdown j pc => exact canWind_of_shuts e.rooted e.shutting (.task task)
  | closeSend j | writeSend j p =>
    refine canWind_of_step (a := .taskDone i) trivial ?_
    simp [step, taskDoneStep, task, e.ended]

theorem Ending.read_canWind {c : Client} (e : Ending c) {j n : Nat} {s : Slot}
    (slot : c.slots[j]? = some s) (reading : s.read = some n) : CanWind c := by
  by_cases empty : s.conn.last = []
  · refine canWind_of_step (a := .readDone j) trivial ?_
    simp [step, readDoneStep, slot, reading, empty, connCtxDone, e.ended]
  · refine canWind_of_step (a := .copy j) trivial ?_
    simp [step, copyStep, slot, reading, empty]

theorem Ending.canWind {c : Client} (e : Ending c) (busy : ¬ Settled c) : CanWind c := by
  by_contra stuck
  refine busy ⟨?_, fun s mem => ?_, fun t mem => ?_, fun s mem => ?_⟩
  · by_contra running
    exact stuck (e.loop_canWind running)
  · obtain ⟨j, slot⟩ := List.mem_iff_getElem?.mp mem
    by_contra running
    exact stuck (e.call_canWind slot running)
  · obtain ⟨i, task⟩ := List.mem_iff_getElem?.mp mem
    by_contra running
    exact stuck (e.task_canWind task running)
  · obtain ⟨j, slot⟩ := List.mem_iff_getElem?.mp mem
    by_contra running
    obtain ⟨n, reading⟩ := Option.ne_none_iff_exists'.mp running
    exact stuck (e.read_canWind slot reading)

theorem Ending.step {c c' : Client} {a : Action} {out : List VFrame} (e : Ending c)
    (counts : Counts c a) (h : step c a = some (c', out)) : Ending c' where
  numbered := e.numbered.step counts (step_steps h)
  rooted := e.rooted.step e.numbered h
  shutting := e.shutting.step e.numbered e.rooted counts h
  late := e.late.step e.numbered counts (step_steps h)
  ended := ctxDone_step (step_steps h) e.ended

theorem ending_winds :
    Winds clientStep Winding Ending Settled work where
  keeps c a c' e winding taken := by
    obtain ⟨⟨c₁, out⟩, h, rfl⟩ := Option.map_eq_some_iff.mp taken
    refine e.step ?_ h
    rintro host port rfl
    exact winding.elim
  lowers c a c' e winding taken := by
    obtain ⟨⟨c₁, out⟩, h, rfl⟩ := Option.map_eq_some_iff.mp taken
    exact work_winding winding e.ended h
  enabled c e busy := e.canWind busy

/-! ## At rest -/

theorem Settled.shuts {c : Client} (r : Settled c) (j : Nat) (pc : ShutPc) : ¬ Shuts c j pc := by
  rintro (⟨slot, call⟩ | task | loop | loop)
  · rcases r.calls _ (List.mem_of_getElem? slot) with ok | ⟨err, failed⟩
    · simp [ok] at call
    · simp [failed] at call
  · cases r.tasks _ (List.mem_of_getElem? task)
  · cases r.loop.symm.trans loop
  · cases r.loop.symm.trans loop

/-- The table is empty and every connection is closed. -/
def Dead (c : Client) : Prop := c.conns = (fun _ => none) ∧ ∀ s ∈ c.slots, s.conn.closed = true

theorem Settled.dead {c : Client} (r : Settled c) (o : Shutting c) (l : Late c) : Dead c := by
  have empty : c.conns = fun _ => none := by
    funext id
    cases known : c.conns id with
    | none => rfl
    | some j =>
      obtain ⟨s, slot, -, waits⟩ := l.late (by rw [r.loop]; rfl) id j known
      rcases r.calls s (List.mem_of_getElem? slot) with ok | ⟨err, failed⟩
      · simp [ok] at waits
      · simp [failed] at waits
  refine ⟨empty, fun s mem => ?_⟩
  obtain ⟨j, slot⟩ := List.mem_iff_getElem?.mp mem
  cases once : s.conn.closeOnce with
  | finished => exact o.closed s mem once
  | running =>
    obtain ⟨pc, -, at_pc⟩ := o.body j s slot once
    exact absurd at_pc (r.shuts j pc)
  | fresh =>
    rcases o.due j s slot once with known | enters | visits
    · simp [empty] at known
    · exact absurd enters (r.shuts j _)
    · simp [r.loop, unvisited] at visits

/-! ## Runs -/

/-- The invariants of a client from its start on. -/
structure Sound (c : Client) : Prop where
  numbered : Numbered c
  rooted : Rooted c
  shutting : Shutting c
  late : Late c

theorem sound_newClient : Sound newClient where
  numbered := numbered_newClient
  rooted := ⟨by simp [newClient, LoopPc.refs], by simp [newClient], by simp [newClient]⟩
  shutting := ⟨by simp [newClient], by simp [newClient], by simp [newClient]⟩
  late := .of_running rfl

theorem Sound.step {c c' : Client} {a : Action} {out : List VFrame} (s : Sound c)
    (counts : Counts c a) (h : step c a = some (c', out)) : Sound c' where
  numbered := s.numbered.step counts (step_steps h)
  rooted := s.rooted.step s.numbered h
  shutting := s.shutting.step s.numbered s.rooted counts h
  late := s.late.step s.numbered counts (step_steps h)

theorem Sound.ending {c : Client} (s : Sound c) (ended : c.ctxDone = true) : Ending c :=
  ⟨s.numbered, s.rooted, s.shutting, s.late, ended⟩

theorem sound_of_exec {as : List Action} {c : Client} (counted : Obeys clientStep Counts newClient as)
    (run : exec clientStep newClient as = some c) : Sound c := by
  refine exec_invariant_of_obeys Sound (fun s a t sound counts taken => ?_) sound_newClient counted run
  obtain ⟨⟨c₁, out⟩, h, rfl⟩ := Option.map_eq_some_iff.mp taken
  exact sound.step counts h

/-- **When the context of a client ends, nothing stays open.** Whatever its users and the server did
before, the goroutines that are left come to an end after at most `work` steps, whoever is scheduled,
if the read in which `readLoop` may be blocked returns. Then every call has returned, the table is
empty and every virtual connection is closed. -/
theorem client_winds_down {as : List Action} {c : Client}
    (counted : Obeys clientStep Counts newClient as) (run : exec clientStep newClient as = some c)
    (ended : c.ctxDone = true) {bs : List Action} {d : Client} (winding : ∀ b ∈ bs, Winding b)
    (later : exec clientStep c bs = some d) :
    bs.length ≤ c.work ∧
      ((∀ b, Winding b → clientStep d b = none) → Settled d ∧ Dead d) := by
  have ending := (sound_of_exec counted run).ending ended
  obtain ⟨short, rests⟩ := ending_winds.comes_to_rest ending winding later
  have still := (ending_winds.run ending winding later).1
  exact ⟨short, fun stuck => ⟨rests stuck, (rests stuck).dead still.shutting still.late⟩⟩

/-- A connection is open and being read when the relay is lost. -/
def lostRun : List Action :=
  [.connect [104] 80, .loop, .call 0, .frame ⟨cmdConnect, 0, [0]⟩, .loop, .loop, .call 0, .read 0 16,
    .loop, .relayLost]

def restRun : List Action :=
  [.loop, .loop, .visit 0, .loop, .loop, .loop, .loop, .recv 0]

theorem client_winds_down_lost : ∃ c d, exec clientStep newClient lostRun = some c ∧
    exec clientStep c restRun = some d ∧ restRun.length ≤ c.work ∧ Settled d ∧ Dead d ∧
      d.slots.map Slot.call = [.ok] := by
  have lost : (exec clientStep newClient lostRun).map (fun c => c.ctxDone) = some true := by
    decide +kernel
  obtain ⟨c, run, ended⟩ := Option.map_eq_some_iff.mp lost
  have rested : (exec clientStep newClient (lostRun ++ restRun)).map
      (fun d => (d.ctxDone, d.work, d.slots.map Slot.call)) = some (true, 0, [.ok]) := by
    decide +kernel
  obtain ⟨d, whole, shape⟩ := Option.map_eq_some_iff.mp rested
  obtain ⟨ended', idle, calls⟩ : d.ctxDone = true ∧ d.work = 0 ∧ d.slots.map Slot.call = [.ok] := by
    simpa using shape
  obtain ⟨c', run', later⟩ := exec_append.mp whole
  obtain rfl := Option.some.inj (run.symm.trans run')
  have counted : Obeys clientStep Counts newClient lostRun := by
    refine Obeys.mono (G := fun c _ => c.slots.length < 2) (by decide +kernel) ?_
    intro s a few host port _
    omega
  have winding : ∀ b ∈ restRun, Winding b := by simp [restRun, Winding]
  obtain ⟨short, rests⟩ := client_winds_down counted run ended winding later
  have stuck : ∀ b, Winding b → clientStep d b = none := by
    intro b winding
    cases taken : clientStep d b with
    | none => rfl
    | some e =>
      obtain ⟨⟨e', out⟩, h, -⟩ := Option.map_eq_some_iff.mp taken
      have less := work_winding winding ended' h
      omega
  exact ⟨c, d, run, later, short, (rests stuck).1, (rests stuck).2, calls⟩

end Client

end EspNetwork.Ctrl
