import EspNetwork.Ctrl.Connect

/-!
# Who shuts a connection down

A connection leaves the table when its call failed, when its user closes it, when a Close frame
arrives for it or when `shutdownAll` empties the table. Whoever takes it out goes on to shut it down,
and a `sync.Once` lets the first one in. So what is not shut down is in the table, or a goroutine is
about to do it.
-/

namespace EspNetwork.Ctrl

open Serial (Byte Bytes)
open Relay (VFrame)
open Schedule

namespace Client

/-! ## Who shuts a connection down -/

/-- A goroutine stands at this place of `shutdown` on the `j`-th connection. -/
inductive Shuts (c : Client) (j : Nat) (pc : ShutPc) : Prop where
  | call {s : Slot} {err : CallErr} (slot : c.slots[j]? = some s) (call : s.call = .shutdown err pc)
  | task {i : Nat} (task : c.tasks[i]? = some (.closeShutdown j pc))
  | loop (loop : c.loop = .shutdown j pc)
  | visit {rest : List Nat} (loop : c.loop = .shuttingOne j pc rest)

/-- The connections `shutdownAll` has not visited yet. -/
def unvisited : LoopPc → List Nat
  | .shutting rest | .shuttingOne _ _ rest => rest
  | _ => []

/-- Somebody has yet to call `shutdown` on the `j`-th connection. -/
def Due (c : Client) (j : Nat) : Prop := Shuts c j .enter ∨ j ∈ unvisited c.loop

/-- A connection that nobody has begun to shut down is in the table, or somebody will do it. -/
structure Shutting (c : Client) : Prop where
  closed : ∀ s ∈ c.slots, s.conn.closeOnce = .finished → s.conn.closed = true
  body : ∀ (j : Nat) (s : Slot), c.slots[j]? = some s → s.conn.closeOnce = .running →
    ∃ pc, pc ≠ .enter ∧ Shuts c j pc
  due : ∀ (j : Nat) (s : Slot), c.slots[j]? = some s → s.conn.closeOnce = .fresh →
    c.conns s.conn.id = some j ∨ Due c j

/-- The loop is not shutting anything down. -/
def idle : LoopPc → Bool
  | .shutdown .. | .shutting _ | .shuttingOne .. => false
  | _ => true

/-- What a step that shuts nothing down leaves as it was. -/
structure Frame (c c' : Client) : Prop where
  slots : ∀ (j : Nat) (s' : Slot), c'.slots[j]? = some s' → ∃ s, c.slots[j]? = some s ∧
    s'.conn.id = s.conn.id ∧ s'.conn.closeOnce = s.conn.closeOnce ∧ s'.conn.closed = s.conn.closed
  shuts : ∀ j pc, Shuts c j pc → Shuts c' j pc
  due : ∀ j, j ∈ unvisited c.loop → j ∈ unvisited c'.loop

theorem Frame.trans {c d e : Client} (f : Frame c d) (g : Frame d e) : Frame c e where
  slots j s'' slot := by
    obtain ⟨s', slot', id', once', closed'⟩ := g.slots j s'' slot
    obtain ⟨s, slot, id, once, closed⟩ := f.slots j s' slot'
    exact ⟨s, slot, id'.trans id, once'.trans once, closed'.trans closed⟩
  shuts j pc h := g.shuts j pc (f.shuts j pc h)
  due j h := g.due j (f.due j h)

theorem Frame.of_eq {c c' : Client} (slots : c'.slots = c.slots) (tasks : c'.tasks = c.tasks)
    (loop : c'.loop = c.loop) : Frame c c' where
  slots j s slot := ⟨s, by rw [← slots, slot], rfl, rfl, rfl⟩
  shuts j pc h := by
    cases h with
    | call slot call => exact .call (by rw [slots, slot]) call
    | task task => exact .task (by rw [tasks, task])
    | loop at_loop => exact .loop (by rw [loop, at_loop])
    | visit at_loop => exact .visit (by rw [loop, at_loop])
  due j h := by rwa [loop]

theorem Frame.setSlot {c : Client} {j : Nat} {s s' : Slot} (slot : c.slots[j]? = some s)
    (id : s'.conn.id = s.conn.id) (once : s'.conn.closeOnce = s.conn.closeOnce)
    (closed : s'.conn.closed = s.conn.closed) (call : ∀ err pc, s.call = .shutdown err pc →
      s'.call = .shutdown err pc) : Frame c (c.setSlot j s') where
  slots i t slot' := by
    rw [setSlot_slot c slot] at slot'
    split_ifs at slot' with same
    · obtain rfl := Option.some.inj slot'
      exact ⟨s, same ▸ slot, id, once, closed⟩
    · exact ⟨t, slot', rfl, rfl, rfl⟩
  shuts i pc h := by
    cases h with
    | @call t err slot' at_call =>
      by_cases same : i = j
      · subst same
        obtain rfl := Option.some.inj (slot.symm.trans slot')
        exact .call ((setSlot_slot c slot s' i).trans (if_pos rfl)) (call err pc at_call)
      · exact .call ((setSlot_slot c slot s' i).trans ((if_neg same).trans slot')) at_call
    | task task => exact .task task
    | loop loop => exact .loop loop
    | visit loop => exact .visit loop
  due _ h := h

theorem Frame.setLoop {c : Client} (l : LoopPc) (rests : idle c.loop = true) :
    Frame c (c.setLoop l) where
  slots j s slot := ⟨s, slot, rfl, rfl, rfl⟩
  shuts j pc h := by
    cases h with
    | call slot call => exact .call slot call
    | task task => exact .task task
    | loop loop | visit loop => simp [idle, loop] at rests
  due j h := by
    cases loop : c.loop <;> simp [idle, loop, unvisited] at rests h

theorem Frame.setTask {c : Client} {i : Nat} {t : Task} (t' : Task) (task : c.tasks[i]? = some t)
    (other : ∀ j pc, t ≠ .closeShutdown j pc) : Frame c (c.setTask i t') where
  slots j s slot := ⟨s, slot, rfl, rfl, rfl⟩
  shuts j pc h := by
    cases h with
    | call slot call => exact .call slot call
    | @task k at_k =>
      have here : i ≠ k := by
        rintro rfl
        exact other j pc (Option.some.inj (task.symm.trans at_k))
      exact .task (by rw [Client.setTask, List.getElem?_set_ne here, at_k])
    | loop loop => exact .loop loop
    | visit loop => exact .visit loop
  due _ h := h

theorem Frame.addTask {c : Client} (t : Task) : Frame c { c with tasks := c.tasks ++ [t] } where
  slots j s slot := ⟨s, slot, rfl, rfl, rfl⟩
  shuts j pc h := by
    cases h with
    | call slot call => exact .call slot call
    | @task k at_k =>
      have old := (List.getElem?_eq_some_iff.mp at_k).1
      exact .task ((List.getElem?_append_left old).trans at_k)
    | loop loop => exact .loop loop
    | visit loop => exact .visit loop
  due _ h := h

theorem Frame.allDue {c c' : Client} (f : Frame c c') {j : Nat} (h : Due c j) : Due c' j :=
  h.imp (f.shuts j .enter) (f.due j)

theorem Frame.closed {c c' : Client} (f : Frame c c') (o : Shutting c) :
    ∀ s ∈ c'.slots, s.conn.closeOnce = .finished → s.conn.closed = true := by
  intro s' mem once
  obtain ⟨j, slot'⟩ := List.mem_iff_getElem?.mp mem
  obtain ⟨s, slot, -, once', closed'⟩ := f.slots j s' slot'
  rw [closed']
  exact o.closed s (List.mem_of_getElem? slot) (once'.symm.trans once)

theorem Frame.body {c c' : Client} (f : Frame c c') (o : Shutting c) (j : Nat) (s' : Slot)
    (slot' : c'.slots[j]? = some s') (once : s'.conn.closeOnce = .running) :
    ∃ pc, pc ≠ .enter ∧ Shuts c' j pc := by
  obtain ⟨s, slot, -, once', -⟩ := f.slots j s' slot'
  obtain ⟨pc, inside, shuts⟩ := o.body j s slot (once'.symm.trans once)
  exact ⟨pc, inside, f.shuts j pc shuts⟩

theorem Shutting.frame {c c' : Client} (o : Shutting c) (f : Frame c c')
    (conns : c'.conns = c.conns) : Shutting c' where
  closed := f.closed o
  body := f.body o
  due j s' slot' once := by
    obtain ⟨s, slot, id, once', -⟩ := f.slots j s' slot'
    rw [conns, id]
    exact (o.due j s slot (once'.symm.trans once)).imp_right f.allDue

/-- Who takes an entry out of the table goes on to shut its connection down. -/
theorem Shutting.remove {c c' : Client} (o : Shutting c) (n : Numbered c) (f : Frame c c')
    {j : Nat} {s : Slot} (slot : c.slots[j]? = some s)
    (conns : c'.conns = Function.update c.conns s.conn.id none) (mine : Shuts c' j .enter) :
    Shutting c' where
  closed := f.closed o
  body := f.body o
  due i t' slot' once := by
    obtain ⟨t, slot_i, id, once', -⟩ := f.slots i t' slot'
    by_cases same : i = j
    · exact .inr (.inl (same ▸ mine))
    · have other : t.conn.id ≠ s.conn.id := fun h => same (n.eq_of_id slot_i slot h)
      rw [conns, id, Function.update_of_ne other]
      exact (o.due i t slot_i (once'.symm.trans once)).imp_right f.allDue

/-- A step of `shutdown`: the `sync.Once` lets one goroutine in, which closes the channel. -/
theorem shutdown_cases {p p' : ProxyConn} {pc : ShutPc} {next : Option ShutPc}
    (h : p.shutdown pc = some (p', next)) :
    (pc = .enter ∧ p.closeOnce = .fresh ∧ p' = { p with closeOnce := .running } ∧
      next = some .cancel) ∨
    (pc = .enter ∧ p.closeOnce = .finished ∧ p' = p ∧ next = none) ∨
    (pc = .cancel ∧ p' = { p with ctxDone := true } ∧ next = some .close) ∨
    (pc = .close ∧ p' = { p with closed := true, closeOnce := .finished } ∧ next = none) := by
  cases pc with
  | enter =>
    cases once : p.closeOnce <;> simp [ProxyConn.shutdown, once] at h
    · exact .inl ⟨rfl, rfl, h.1.symm, h.2.symm⟩
    · exact .inr (.inl ⟨rfl, rfl, h.1.symm, h.2.symm⟩)
  | cancel =>
    obtain ⟨rfl, rfl⟩ : _ ∧ _ := by simpa [ProxyConn.shutdown] using h
    exact .inr (.inr (.inl ⟨rfl, rfl, rfl⟩))
  | close =>
    obtain ⟨rfl, rfl⟩ : _ ∧ _ := by simpa [ProxyConn.shutdown] using h
    exact .inr (.inr (.inr ⟨rfl, rfl, rfl⟩))

/-- A goroutine takes a step of `shutdown` on the `j`-th connection and stands at `next` then. -/
theorem Shutting.shut {c c' : Client} (o : Shutting c) {j : Nat} {s : Slot} {pc : ShutPc}
    {conn : ProxyConn} {next : Option ShutPc} (slot : c.slots[j]? = some s)
    (shut : s.conn.shutdown pc = some (conn, next)) (conns : c'.conns = c.conns)
    (slots : ∀ (i : Nat) (t' : Slot), c'.slots[i]? = some t' →
      (i = j ∧ t'.conn = conn) ∨ (i ≠ j ∧ ∃ t, c.slots[i]? = some t ∧ t'.conn = t.conn))
    (others : ∀ i q, Shuts c i q → (i = j ∧ q = pc) ∨ Shuts c' i q)
    (unvisited : ∀ i, i ∈ unvisited c.loop → i ∈ Client.unvisited c'.loop)
    (mine : ∀ q, next = some q → Shuts c' j q) : Shutting c' := by
  have due : ∀ i, Due c i → (i = j ∧ pc = .enter) ∨ Due c' i := by
    rintro i (enters | visits)
    · rcases others i .enter enters with ⟨here, entering⟩ | still
      · exact .inl ⟨here, entering.symm⟩
      · exact .inr (.inl still)
    · exact .inr (.inr (unvisited i visits))
  refine ⟨fun t' mem once => ?_, fun i t' slot' once => ?_, fun i t' slot' once => ?_⟩
  · obtain ⟨i, slot'⟩ := List.mem_iff_getElem?.mp mem
    rcases slots i t' slot' with ⟨rfl, here⟩ | ⟨-, t, slot_i, same⟩
    · rw [here] at once ⊢
      have before := o.closed s (List.mem_of_getElem? slot)
      rcases shutdown_cases shut with ⟨-, -, rfl, -⟩ | ⟨-, -, rfl, -⟩ | ⟨-, rfl, -⟩ | ⟨-, rfl, -⟩
      · cases once
      · exact before once
      · exact before once
      · rfl
    · rw [same] at once ⊢
      exact o.closed t (List.mem_of_getElem? slot_i) once
  · rcases slots i t' slot' with ⟨rfl, here⟩ | ⟨other, t, slot_i, same⟩
    · rw [here] at once
      rcases shutdown_cases shut with ⟨-, -, -, rfl⟩ | ⟨-, once', rfl, -⟩ | ⟨-, -, rfl⟩ |
        ⟨-, rfl, -⟩
      · exact ⟨.cancel, by simp, mine _ rfl⟩
      · rw [once'] at once
        cases once
      · exact ⟨.close, by simp, mine _ rfl⟩
      · cases once
    · rw [same] at once
      obtain ⟨q, inside, shuts⟩ := o.body i t slot_i once
      rcases others i q shuts with ⟨here, -⟩ | still
      · exact absurd here other
      · exact ⟨q, inside, still⟩
  · rw [conns]
    rcases slots i t' slot' with ⟨rfl, here⟩ | ⟨other, t, slot_i, same⟩
    · rw [here] at once ⊢
      rcases shutdown_cases shut with ⟨-, -, rfl, -⟩ | ⟨-, once', rfl, -⟩ | ⟨at_cancel, rfl, -⟩ |
        ⟨-, rfl, -⟩
      · cases once
      · rw [once'] at once
        cases once
      · refine (o.due i s slot once).imp_right fun h => ?_
        rcases due i h with ⟨-, entering⟩ | still
        · simp [at_cancel] at entering
        · exact still
      · cases once
    · rw [same] at once ⊢
      refine (o.due i t slot_i once).imp_right fun h => ?_
      rcases due i h with ⟨here, -⟩ | still
      · exact absurd here other
      · exact still

/-! ## References to connections -/

def LoopPc.refs : LoopPc → List Nat
  | .ack j _ | .check j _ | .send j _ | .remove j _ | .shutdown j _ => [j]
  | .shutting rest => rest
  | .shuttingOne j _ rest => j :: rest
  | _ => []

def Task.refs : Task → List Nat
  | .closeRemove j | .closeShutdown j _ | .closeSend j | .writeCheck j _ | .writeSend j _ => [j]
  | .returned => []

/-- Goroutines refer to connections that exist, and the dispatcher removes one under its own id. -/
structure Rooted (c : Client) : Prop where
  loop : ∀ j ∈ LoopPc.refs c.loop, j < c.slots.length
  tasks : ∀ t ∈ c.tasks, ∀ j ∈ Task.refs t, j < c.slots.length
  removing : ∀ j id, c.loop = .remove j id → ∃ s, c.slots[j]? = some s ∧ s.conn.id = id

/-- The places in the table, as `shutdownAll` collects them. -/
def entries (c : Client) : List Nat :=
  (List.range c.slots.length).filter fun j =>
    match c.slots[j]? with
    | some s => c.conns s.conn.id = some j
    | none => false

theorem mem_entries {c : Client} {j : Nat} {s : Slot} (slot : c.slots[j]? = some s) :
    j ∈ c.entries ↔ c.conns s.conn.id = some j := by
  obtain ⟨bound, rfl⟩ := List.getElem?_eq_some_iff.mp slot
  simp [entries, bound]

theorem step_shutdownAll {c c' : Client} {out : List VFrame} (h : step c .loop = some (c', out))
    (loop : c.loop = .shutdownAll) :
    c' = { c with conns := fun _ => none, loop := .shutting c.entries } := by
  simp only [step, loopStep, loop, Option.map_some, Option.some.injEq, Prod.mk.injEq] at h
  exact h.1.symm

theorem step_taskDone {c c' : Client} {i : Nat} {out : List VFrame}
    (h : step c (.taskDone i) = some (c', out)) :
    ∃ t, c.tasks[i]? = some t ∧ (∃ j, t = .closeSend j ∨ ∃ p, t = .writeSend j p) ∧
      c' = c.setTask i .returned := by
  obtain ⟨c₁, done, heq⟩ := Option.map_eq_some_iff.mp h
  obtain ⟨rfl, rfl⟩ : _ ∧ _ := by simpa using heq
  simp only [taskDoneStep, Option.bind_eq_bind, Option.bind_eq_some_iff] at done
  obtain ⟨t, task, done⟩ := done
  split_ifs at done
  cases t <;> simp only [reduceCtorEq] at done <;> obtain rfl := Option.some.inj done
  case closeSend j => exact ⟨_, task, ⟨j, .inl rfl⟩, rfl⟩
  case writeSend j p => exact ⟨_, task, ⟨j, .inr ⟨p, rfl⟩⟩, rfl⟩

theorem Rooted.mono {c c' : Client} (r : Rooted c) (slots : c.slots.length ≤ c'.slots.length)
    (loop : ∀ j ∈ LoopPc.refs c'.loop, j ∈ LoopPc.refs c.loop ∨ j < c'.slots.length)
    (tasks : ∀ t ∈ c'.tasks, t ∈ c.tasks ∨ ∀ j ∈ Task.refs t, j < c'.slots.length)
    (removing : ∀ j id, c'.loop = .remove j id → ∃ s, c'.slots[j]? = some s ∧ s.conn.id = id) :
    Rooted c' where
  loop j mem := by
    rcases loop j mem with old | new
    · exact (r.loop j old).trans_le slots
    · exact new
  tasks t mem j ref := by
    rcases tasks t mem with old | new
    · exact (r.tasks t old j ref).trans_le slots
    · exact new j ref
  removing := removing

theorem Rooted.setSlot {c : Client} (r : Rooted c) {j : Nat} {s s' : Slot}
    (slot : c.slots[j]? = some s) (id : s'.conn.id = s.conn.id) : Rooted (c.setSlot j s') := by
  refine r.mono (by simp [Client.setSlot]) (fun _ mem => .inl mem) (fun _ mem => .inl mem) ?_
  intro i k removing
  obtain ⟨t, slot_i, same⟩ := r.removing i k removing
  by_cases here : i = j
  · subst here
    obtain rfl := Option.some.inj (slot.symm.trans slot_i)
    exact ⟨s', (setSlot_slot c slot s' i).trans (if_pos rfl), id.trans same⟩
  · exact ⟨t, (setSlot_slot c slot s' i).trans ((if_neg here).trans slot_i), same⟩

theorem Rooted.setLoop {c : Client} (r : Rooted c) {l : LoopPc}
    (refs : ∀ j ∈ LoopPc.refs l, j ∈ LoopPc.refs c.loop ∨ j < c.slots.length)
    (removing : ∀ j id, l ≠ .remove j id) : Rooted (c.setLoop l) :=
  r.mono le_rfl refs (fun _ mem => .inl mem) fun j id h => absurd h (removing j id)

theorem Rooted.setTask {c : Client} (r : Rooted c) {i : Nat} {t t' : Task}
    (task : c.tasks[i]? = some t) (refs : ∀ j ∈ Task.refs t', j ∈ Task.refs t) :
    Rooted (c.setTask i t') := by
  refine r.mono le_rfl (fun _ mem => .inl mem) (fun u mem => ?_) r.removing
  rcases List.mem_or_eq_of_mem_set mem with old | rfl
  · exact .inl old
  · exact .inr fun j ref => r.tasks t (List.mem_of_getElem? task) j (refs j ref)

theorem Rooted.dispatch {c : Client} (r : Rooted c) (n : Numbered c) (f : VFrame) :
    Rooted (c.setLoop (c.dispatch f)) := by
  unfold Client.dispatch
  split
  · exact r.setLoop (by simp [LoopPc.refs]) (by simp)
  case h_2 j known =>
    obtain ⟨s, slot, id⟩ := n.known f.connID j known
    have bound := (List.getElem?_eq_some_iff.mp slot).1
    split_ifs with connect data close
    · exact r.setLoop (by simpa [LoopPc.refs] using .inr bound) (by simp)
    · exact r.setLoop (by simpa [LoopPc.refs] using .inr bound) (by simp)
    · refine r.mono le_rfl ?_ (fun _ mem => .inl mem) ?_
      · simpa [Client.setLoop, LoopPc.refs] using .inr bound
      · rintro i k ⟨⟩
        exact ⟨s, slot, id⟩
    · exact r.setLoop (by simp [LoopPc.refs]) (by simp)

theorem Rooted.step {c c' : Client} {a : Action} {out : List VFrame} (r : Rooted c)
    (n : Numbered c) (h : step c a = some (c', out)) : Rooted c' := by
  cases step_steps h with
  | connect host port =>
    refine r.mono (by simp [Client.allocate]) (fun _ mem => .inl mem) (fun _ mem => .inl mem) ?_
    intro j id removing
    obtain ⟨s, slot, same⟩ := r.removing j id removing
    have old := (List.getElem?_eq_some_iff.mp slot).1
    exact ⟨s, (List.getElem?_append_left old).trans slot, same⟩
  | callSend slot | callOk slot | callErr slot | callSendDone slot | callWaitDone slot
  | read _ slot | recv slot | eof _ slot | copy _ slot => exact r.setSlot slot rfl
  | callRemove slot =>
    refine Rooted.setSlot (c := c.removeConn _) ?_ slot rfl
    exact r.mono le_rfl (fun _ mem => .inl mem) (fun _ mem => .inl mem) r.removing
  | callShutdown slot _ shut => exact r.setSlot slot (shutdown_keeps shut).2.2.1
  | frame | exit => exact r.setLoop (by simp [LoopPc.refs]) (by simp)
  | top => split_ifs <;> exact r.setLoop (by simp [LoopPc.refs]) (by simp)
  | relayLost | cancel =>
    exact r.mono le_rfl (by simp [LoopPc.refs]) (fun _ mem => .inl mem) (by simp)
  | dispatch => exact r.dispatch n _
  | ack _ slot =>
    refine Rooted.setLoop (c := c.setSlot _ _) (r.setSlot slot ?_) (by simp [LoopPc.refs]) (by simp)
    rfl
  | @check j data s loop slot =>
    have bound := (List.getElem?_eq_some_iff.mp slot).1
    by_cases done : c.connCtxDone s = true
    · rw [if_pos done]
      exact r.setLoop (by simp [LoopPc.refs]) (by simp)
    · rw [if_neg done]
      exact r.setLoop (by simpa [LoopPc.refs] using .inr bound) (by simp)
  | send _ slot =>
    refine Rooted.setLoop (c := c.setSlot _ _) (r.setSlot slot ?_) (by simp [LoopPc.refs]) (by simp)
    exact deliver_id _ _
  | @remove j id loop =>
    have mine : j < c.slots.length := r.loop j (by simp [LoopPc.refs, loop])
    refine Rooted.setLoop (c := c.removeConn id) ?_ ?_ (by simp)
    · exact r.mono le_rfl (fun _ mem => .inl mem) (fun _ mem => .inl mem) r.removing
    · simpa [LoopPc.refs] using .inr mine
  | @shutdown j pc s conn next loop slot shut =>
    refine (r.setSlot slot (shutdown_keeps shut).2.2.1).setLoop ?_ (fun i id => ?_)
    · intro i mem
      refine .inl ?_
      change i ∈ LoopPc.refs c.loop
      rw [loop]
      cases next with
      | none => simp [loopNext, LoopPc.refs] at mem
      | some q => exact mem
    · exact (loopNext_shuts j next i id).1
  | @shuttingOne j pc rest s conn next loop slot shut =>
    refine (r.setSlot slot (shutdown_keeps shut).2.2.1).setLoop ?_ (fun i id => ?_)
    · intro i mem
      refine .inl ?_
      change i ∈ LoopPc.refs c.loop
      rw [loop]
      cases next
      · exact List.mem_cons_of_mem _ mem
      · exact mem
    · exact (visitNext_shuts j rest next i id).1
  | shutdownAll loop =>
    rw [step_shutdownAll h loop]
    refine r.mono le_rfl (fun j mem => .inr ?_) (fun _ mem => .inl mem) (by simp)
    have listed : j ∈ List.range c.slots.length := (List.mem_filter.mp mem).1
    exact List.mem_range.mp listed
  | @visit j rest loop mem =>
    refine r.setLoop (fun i ref => .inl ?_) (by simp)
    rw [loop]
    rcases List.mem_cons.mp ref with rfl | later
    · exact mem
    · exact List.mem_of_mem_erase later
  | @close j s slot | @write j s _ slot =>
    have bound := (List.getElem?_eq_some_iff.mp slot).1
    refine r.mono le_rfl (fun _ mem => .inl mem) (fun t mem => ?_) r.removing
    rcases List.mem_append.mp mem with old | new
    · exact .inl old
    · obtain rfl := List.mem_singleton.mp new
      exact .inr (by simpa [Task.refs] using bound)
  | taskRemove task =>
    refine Rooted.setTask (c := c.removeConn _) ?_ task (by simp [Task.refs])
    exact r.mono le_rfl (fun _ mem => .inl mem) (fun _ mem => .inl mem) r.removing
  | @taskShutdown i j pc s conn next task slot shut =>
    refine (r.setSlot slot (shutdown_keeps shut).2.2.1).setTask task ?_
    cases next <;> simp [closeNext, Task.refs]
  | taskClose task => exact r.setTask task (by simp [Task.refs])
  | @taskCheck i j p s task =>
    refine r.setTask task ?_
    split_ifs <;> simp [Task.refs]
  | taskWrite task slot =>
    refine Rooted.setTask (c := c.setSlot _ _) (r.setSlot slot ?_) task (by simp [Task.refs])
    rfl
  | taskDone =>
    obtain ⟨t, task, -, -⟩ := step_taskDone h
    exact r.setTask task (by simp [Task.refs])
  | heartbeat => exact r
  | cancelled => exact r.mono le_rfl (fun _ mem => .inl mem) (fun _ mem => .inl mem) r.removing

/-! ## The invariant -/

theorem Shutting.allocate {c : Client} (o : Shutting c) (n : Numbered c)
    (room : c.slots.length < 2 ^ 32) (host : Bytes) (port : UInt16) :
    Shutting (c.allocate host port) := by
  have cases : ∀ {j : Nat} {s : Slot}, (c.allocate host port).slots[j]? = some s →
      c.slots[j]? = some s ∨ (j = c.slots.length ∧ s.conn = ProxyConn.new c.nextID) := by
    intro j s slot
    simp only [Client.allocate] at slot
    by_cases old : j < c.slots.length
    · rw [List.getElem?_append_left old] at slot
      exact .inl slot
    · rw [List.getElem?_append_right (not_lt.mp old)] at slot
      obtain ⟨bound, rfl⟩ := List.getElem?_eq_some_iff.mp slot
      rw [List.length_singleton] at bound
      exact .inr ⟨by omega, by simp⟩
  have keeps : ∀ {j : Nat} {s : Slot}, c.slots[j]? = some s →
      (c.allocate host port).slots[j]? = some s := by
    intro j s slot
    have old := (List.getElem?_eq_some_iff.mp slot).1
    exact (List.getElem?_append_left old).trans slot
  have shuts : ∀ j pc, Shuts c j pc → Shuts (c.allocate host port) j pc := by
    rintro j pc (⟨slot, call⟩ | task | loop | loop)
    · exact .call (keeps slot) call
    · exact .task task
    · exact .loop loop
    · exact .visit loop
  refine ⟨fun s mem once => ?_, fun j s slot once => ?_, fun j s slot once => ?_⟩
  · obtain ⟨j, slot⟩ := List.mem_iff_getElem?.mp mem
    rcases cases slot with old | ⟨-, new⟩
    · exact o.closed s (List.mem_of_getElem? old) once
    · simp [new, ProxyConn.new] at once
  · rcases cases slot with old | ⟨-, new⟩
    · obtain ⟨pc, inside, at_pc⟩ := o.body j s old once
      exact ⟨pc, inside, shuts j pc at_pc⟩
    · simp [new, ProxyConn.new] at once
  · rcases cases slot with old | ⟨rfl, new⟩
    · have other := n.nextID_new room old
      refine (o.due j s old once).imp (fun known => ?_) fun due => due.imp (shuts j _) id
      exact (Function.update_of_ne other _ _).trans known
    · left
      simp [new, ProxyConn.new, Client.allocate]

theorem Shutting.cleared {c : Client} (o : Shutting c) (loop : c.loop = .shutdownAll) :
    Shutting { c with conns := fun _ => none, loop := .shutting c.entries } := by
  have shuts : ∀ j pc, Shuts c j pc →
      Shuts { c with conns := fun _ => none, loop := .shutting c.entries } j pc := by
    rintro j pc (⟨slot, call⟩ | task | at_loop | at_loop)
    · exact .call slot call
    · exact .task task
    · simp [loop] at at_loop
    · simp [loop] at at_loop
  refine ⟨o.closed, fun j s slot once => ?_, fun j s slot once => .inr ?_⟩
  · obtain ⟨pc, inside, at_pc⟩ := o.body j s slot once
    exact ⟨pc, inside, shuts j pc at_pc⟩
  · rcases o.due j s slot once with known | enters | visits
    · exact .inr ((mem_entries (c := c) slot).mpr known)
    · exact .inl (shuts j _ enters)
    · simp [loop, unvisited] at visits

/-- The goroutines other than the one that takes the step. -/
theorem shuts_setSlot {c : Client} {j : Nat} {s t : Slot} (slot : c.slots[j]? = some s)
    (call : t.call = s.call) {i : Nat} {q : ShutPc} (h : Shuts c i q) :
    Shuts (c.setSlot j t) i q := by
  rcases h with ⟨slot_i, at_call⟩ | task | loop | loop
  · by_cases here : i = j
    · subst here
      obtain rfl := Option.some.inj (slot.symm.trans slot_i)
      exact .call ((setSlot_slot c slot t i).trans (if_pos rfl)) (call.trans at_call)
    · exact .call ((setSlot_slot c slot t i).trans ((if_neg here).trans slot_i)) at_call
  · exact .task task
  · exact .loop loop
  · exact .visit loop

theorem slots_setSlot {c : Client} {j : Nat} {s s' : Slot} (slot : c.slots[j]? = some s)
    (i : Nat) (t' : Slot) (h : (c.setSlot j s').slots[i]? = some t') :
    (i = j ∧ t'.conn = s'.conn) ∨ (i ≠ j ∧ ∃ t, c.slots[i]? = some t ∧ t'.conn = t.conn) := by
  rw [setSlot_slot c slot] at h
  split_ifs at h with here
  · obtain rfl := Option.some.inj h
    exact .inl ⟨here, rfl⟩
  · exact .inr ⟨here, t', h, rfl⟩

theorem Shutting.step {c c' : Client} {a : Action} {out : List VFrame} (o : Shutting c)
    (n : Numbered c) (r : Rooted c) (counts : Counts c a) (h : step c a = some (c', out)) :
    Shutting c' := by
  cases step_steps h with
  | connect host port => exact o.allocate n (counts host port rfl) host port
  | callSend slot call | callOk slot call | callErr slot call | callSendDone slot call
  | callWaitDone slot call =>
    exact o.frame (.setSlot slot rfl rfl rfl (by simp [call])) rfl
  | read _ slot | recv slot | eof _ slot | copy _ slot =>
    exact o.frame (.setSlot slot rfl rfl rfl (fun _ _ call => call)) rfl
  | @callRemove j s err slot call =>
    refine o.remove n (Frame.trans (d := c.removeConn s.conn.id) (.of_eq rfl rfl rfl)
      (.setSlot slot rfl rfl rfl (by simp [call]))) slot rfl ?_
    exact .call ((setSlot_slot (c.removeConn s.conn.id) slot _ j).trans (if_pos rfl)) rfl
  | @callShutdown j s err pc conn next slot call shut =>
    refine o.shut slot shut rfl (slots_setSlot slot) (fun i q at_q => ?_) (fun _ mem => mem) ?_
    · rcases at_q with ⟨slot_i, at_call⟩ | task | loop | loop
      · by_cases here : i = j
        · subst here
          obtain rfl := Option.some.inj (slot.symm.trans slot_i)
          rw [call] at at_call
          exact .inl ⟨rfl, (CallPc.shutdown.inj at_call).2.symm⟩
        · exact .inr (.call ((setSlot_slot c slot _ i).trans ((if_neg here).trans slot_i)) at_call)
      · exact .inr (.task task)
      · exact .inr (.loop loop)
      · exact .inr (.visit loop)
    · rintro q rfl
      exact .call ((setSlot_slot c slot _ j).trans (if_pos rfl)) rfl
  | frame _ loop | top loop | dispatch loop | check loop =>
    exact o.frame (.setLoop _ (by rw [loop]; rfl)) rfl
  | relayLost loop | cancel loop =>
    refine o.frame (Frame.trans (d := { c with ctxDone := true }) (.of_eq rfl rfl rfl) ?_) rfl
    exact .setLoop _ (by rw [loop]; rfl)
  | exit loop =>
    refine o.frame ⟨fun _ s slot => ⟨s, slot, rfl, rfl, rfl⟩, ?_, by simp [loop, unvisited]⟩ rfl
    rintro j pc (⟨slot, call⟩ | task | at_loop | at_loop)
    · exact .call slot call
    · exact .task task
    · simp [loop] at at_loop
    · simp [loop] at at_loop
  | ack loop slot =>
    refine o.frame (Frame.trans (d := c.setSlot _ _)
      (.setSlot slot ?_ ?_ ?_ (fun _ _ call => ?_)) (.setLoop .top ?_)) rfl
    · rfl
    · rfl
    · rfl
    · exact call
    · rw [Client.setSlot, loop]
      rfl
  | @send j data s loop slot =>
    have once : (s.conn.deliver data).closeOnce = s.conn.closeOnce := by
      unfold ProxyConn.deliver
      split <;> rfl
    refine o.frame (Frame.trans (d := c.setSlot j { s with conn := s.conn.deliver data })
      (.setSlot slot (deliver_id _ _) once (deliver_keeps s.conn data).2.2 fun _ _ call => call)
      (.setLoop .top ?_)) rfl
    rw [Client.setSlot, loop]
    rfl
  | @remove j id loop =>
    obtain ⟨s, slot, rfl⟩ := r.removing j id loop
    refine o.remove n (Frame.trans (d := c.removeConn s.conn.id) (.of_eq rfl rfl rfl)
      (.setLoop _ ?_)) slot rfl (.loop rfl)
    rw [Client.removeConn, loop]
    rfl
  | @shutdown j pc s conn next loop slot shut =>
    refine o.shut slot shut rfl (slots_setSlot slot) (fun i q at_q => ?_) ?_ ?_
    · rcases shuts_setSlot (t := { s with conn }) slot rfl at_q with ⟨slot_i, at_call⟩ | task |
        at_loop | at_loop
      · exact .inr (.call slot_i at_call)
      · exact .inr (.task task)
      · obtain ⟨rfl, rfl⟩ := LoopPc.shutdown.inj (loop.symm.trans at_loop)
        exact .inl ⟨rfl, rfl⟩
      · cases loop.symm.trans at_loop
    · simp [loop, unvisited]
    · rintro q rfl
      exact .loop rfl
  | shutdownAll loop =>
    rw [step_shutdownAll h loop]
    exact o.cleared loop
  | @shuttingOne j pc rest s conn next loop slot shut =>
    refine o.shut slot shut rfl (slots_setSlot slot) (fun i q at_q => ?_) ?_ ?_
    · rcases shuts_setSlot (t := { s with conn }) slot rfl at_q with ⟨slot_i, at_call⟩ | task |
        at_loop | at_loop
      · exact .inr (.call slot_i at_call)
      · exact .inr (.task task)
      · cases loop.symm.trans at_loop
      · obtain ⟨rfl, rfl, -⟩ := LoopPc.shuttingOne.inj (loop.symm.trans at_loop)
        exact .inl ⟨rfl, rfl⟩
    · intro i mem
      rw [loop] at mem
      cases next <;> exact mem
    · rintro q rfl
      exact .visit rfl
  | @visit j rest loop mem =>
    have shuts : ∀ i pc, Shuts c i pc →
        Shuts (c.setLoop (.shuttingOne j .enter (rest.erase j))) i pc := by
      rintro i pc (⟨slot, call⟩ | task | at_loop | at_loop)
      · exact .call slot call
      · exact .task task
      · cases loop.symm.trans at_loop
      · cases loop.symm.trans at_loop
    refine ⟨o.closed, fun i s slot once => ?_, fun i s slot once => ?_⟩
    · obtain ⟨pc, inside, at_pc⟩ := o.body i s slot once
      exact ⟨pc, inside, shuts i pc at_pc⟩
    · refine (o.due i s slot once).imp_right fun due => ?_
      rcases due with enters | visits
      · exact .inl (shuts i _ enters)
      · rw [loop] at visits
        by_cases here : i = j
        · subst here
          exact .inl (.visit rfl)
        · exact .inr ((List.mem_erase_of_ne here).mpr visits)
  | close | write => exact o.frame (.addTask _) rfl
  | @taskRemove i j s task slot =>
    have bound := (List.getElem?_eq_some_iff.mp task).1
    refine o.remove n (Frame.trans (d := c.removeConn s.conn.id) (.of_eq rfl rfl rfl)
      (.setTask _ task (by simp))) slot rfl (.task (i := i) ?_)
    simp [Client.setTask, Client.removeConn, bound]
  | @taskShutdown i j pc s conn next task slot shut =>
    have bound := (List.getElem?_eq_some_iff.mp task).1
    refine o.shut slot shut rfl (slots_setSlot slot) (fun k q at_q => ?_) (fun _ mem => mem) ?_
    · rcases shuts_setSlot (t := { s with conn }) slot rfl at_q with ⟨slot_i, at_call⟩ | @⟨l, at_l⟩ |
        at_loop | at_loop
      · exact .inr (.call slot_i at_call)
      · by_cases here : l = i
        · subst here
          obtain ⟨rfl, rfl⟩ := Task.closeShutdown.inj (Option.some.inj (task.symm.trans at_l))
          exact .inl ⟨rfl, rfl⟩
        · refine .inr (.task (i := l) ?_)
          rw [Client.setTask, List.getElem?_set_ne (Ne.symm here)]
          exact at_l
      · exact .inr (.loop at_loop)
      · exact .inr (.visit at_loop)
    · rintro q rfl
      refine .task (i := i) ?_
      simp [Client.setTask, Client.setSlot, bound, closeNext]
  | taskClose task | taskCheck task =>
    exact o.frame (.setTask _ task (by simp)) rfl
  | @taskWrite i j p s task slot =>
    refine o.frame (Frame.trans (d := c.setSlot j { s with written := s.written ++ [p] })
      (.setSlot slot rfl rfl rfl fun _ _ call => call) (.setTask _ task (by simp))) rfl
  | taskDone =>
    obtain ⟨t, task, plain, -⟩ := step_taskDone h
    refine o.frame (.setTask _ task ?_) rfl
    rintro j pc rfl
    simp at plain
  | heartbeat => exact o
  | cancelled => exact o.frame (.of_eq rfl rfl rfl) rfl

end Client

end EspNetwork.Ctrl
