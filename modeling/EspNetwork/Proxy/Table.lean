import Mathlib
import EspNetwork.Proxy.Announce

/-!
# The connection table

`conns` is written by four parties: `handleConnect` registers a target it has dialled,
`closeNotify` and `dispatch` take a target out under its id, and `cleanup` empties the table.
The goroutines of a target run before it is registered, and nothing ties the removal of an id to
the target it was meant for, so the table is exact only if these operations keep an order. This
is proved for every run in which they do.
-/

namespace EspNetwork.Proxy

open Serial (Byte Bytes)
open Relay (VFrame)
open Schedule

/-- The target a handler has dialled and not yet registered. -/
def HandlerPc.adding : HandlerPc → Option Nat
  | .add j => some j
  | _ => none

theorem HandlerPc.adding_eq_some {pc : HandlerPc} {j : Nat} : pc.adding = some j ↔ pc = .add j := by
  cases pc <;> simp [adding]

/-- A goroutine is inside `closeNotify` and has `removeConn` before it. -/
def TargetConn.Leaving (tc : TargetConn) : Prop :=
  ∃ side pc, tc.notifyPc side = some pc ∧ pc ≠ .enter ∧ pc ≠ .send

namespace Server

/-- No operation on the table is in progress: every dialled target was registered, no goroutine
is behind the guard of `closeNotify`, and `Run` is not closing a target. -/
structure Settled (s : Server) : Prop where
  added : ∀ h ∈ s.handlers, h.pc.adding = none
  notified : ∀ tc ∈ s.tcs, ∀ side pc, tc.notifyPc side = some pc → pc = .enter
  requested : ∀ j pc, s.run ≠ .closing j pc

/-- The table holds the open targets, none whose `closeOnce` has fired, and once `cleanup` has
run there is no open target. -/
structure Exact (s : Server) : Prop where
  table : ∀ id j, s.conns id = some j ↔
    ∃ tc, s.tcs[j]? = some tc ∧ tc.id = id ∧ tc.connClosed = false
  fired : ∀ (j : Nat) (tc : TargetConn), s.tcs[j]? = some tc → tc.closeOnce ≠ .fresh →
    ∀ id, s.conns id ≠ some j
  cleaned : s.run = .exited → ∀ tc ∈ s.tcs, tc.connClosed = true

/-- The condition on a step. `addConn` finds its id unused and comes before `cleanup`, unless the
target is about to be taken out again; `closeNotify` takes its target out after it was registered;
and an id that is taken out is not that of another target. -/
def Orderly (s : Server) : Action → Prop
  | .handler i => ∀ h j, s.handlers[i]? = some h → h.pc = .add j → s.conns h.id = none ∧
    (s.run = .exited → ∀ tc, s.tcs[j]? = some tc → tc.Leaving)
  | .notify side j => ∀ tc, s.tcs[j]? = some tc → tc.notifyPc side = some .remove →
    (∀ h ∈ s.handlers, h.pc ≠ .add j) ∧ ∀ k, s.conns tc.id = some k → k = j
  | .run => ∀ j id, s.run = .remove j id → ∀ k, s.conns id = some k → k = j
  | _ => True

/-! ## Where a target stands -/

/-- The targets that wait to be registered. -/
def pending (s : Server) : List Nat := s.handlers.filterMap fun h => h.pc.adding

def Listed (s : Server) (j : Nat) : Prop := ∃ id, s.conns id = some j

/-- `Run` has taken the target out and closes it. -/
def Asked (s : Server) (j : Nat) : Prop := ∃ pc, s.run = .closing j pc

/-- What the table, the goroutines and the flags of one target say about each other. -/
structure Standing (s : Server) (j : Nat) (tc : TargetConn) : Prop where
  kept : tc.connClosed = false → j ∈ s.pending ∨ Listed s j ∨ Asked s j
  leaves : j ∈ s.pending ∨ Listed s j → tc.connClosed = true →
    ∃ side, tc.notifyPc side = some .remove
  gone : (tc.closeOnce = .finished ∨ ∃ side, tc.notifyPc side = some .send) →
    j ∉ s.pending ∧ ¬ Listed s j
  shut : (tc.closeOnce = .finished ∨ ∃ side, tc.notifyPc side = some .remove ∨
    tc.notifyPc side = some .send) → tc.connClosed = true
  last : s.run = .exited → Listed s j → tc.Leaving
  runs : tc.closeOnce = .running →
    (∃ side pc, tc.notifyPc side = some pc ∧ pc ≠ .enter) ∨ s.inRequest j = true

/-- A target is dialled for one handler, registered once, and taken out before `Run` closes it. -/
structure Roles (s : Server) : Prop where
  once : s.pending.Nodup
  unlisted : ∀ j ∈ s.pending, ¬ Listed s j
  busy : ∀ j, s.run.target = some j → j ∉ s.pending
  removes : ∀ j id, s.run = .remove j id → s.HasId j id
  asked : ∀ j, Asked s j → ¬ Listed s j

structure Table (s : Server) : Prop extends Roles s where
  targets : ∀ (j : Nat) (tc : TargetConn), s.tcs[j]? = some tc → Standing s j tc

theorem table_newServer : Table newServer := by
  refine ⟨⟨?_, ?_, ?_, ?_, ?_⟩, ?_⟩ <;> simp [newServer, pending, RunPc.target, Asked]

/-- In a settled state the table is exact. -/
theorem Table.exact {s : Server} (t : Table s) (x : Indexed s) (settled : Settled s) : Exact s := by
  have added : ∀ j, j ∉ s.pending := by
    intro j mem
    obtain ⟨h, at_h, adding⟩ := List.mem_filterMap.mp mem
    rw [settled.added h at_h] at adding
    cases adding
  have asked : ∀ j, ¬ Asked s j := fun j ⟨pc, run⟩ => settled.requested j pc run
  have outside : ∀ {j : Nat} {tc : TargetConn}, s.tcs[j]? = some tc → ∀ {side pc},
      tc.notifyPc side = some pc → pc = .enter :=
    fun target => settled.notified _ (List.mem_of_getElem? target) _ _
  have listed : ∀ {j : Nat} {tc : TargetConn}, s.tcs[j]? = some tc → tc.connClosed = false →
      Listed s j := by
    intro j tc target live
    rcases (t.targets j tc target).kept live with waits | listed | closing
    · exact absurd waits (added j)
    · exact listed
    · exact absurd closing (asked j)
  refine ⟨fun id j => ⟨fun entry => ?_, ?_⟩, fun j tc target fired id entry => ?_, fun exited tc mem => ?_⟩
  · obtain ⟨tc, target, own⟩ := x.known id j entry
    refine ⟨tc, target, own, ?_⟩
    by_contra closed
    obtain ⟨side, pc⟩ := (t.targets j tc target).leaves (.inr ⟨id, entry⟩) (by simpa using closed)
    cases outside target pc
  · rintro ⟨tc, target, rfl, live⟩
    obtain ⟨id, entry⟩ := listed target live
    obtain ⟨u, target', rfl⟩ := x.known id j entry
    obtain rfl := Option.some.inj (target.symm.trans target')
    exact entry
  · cases once : tc.closeOnce with
    | fresh => exact fired once
    | finished => exact ((t.targets j tc target).gone (.inl once)).2 ⟨id, entry⟩
    | running =>
      rcases (t.targets j tc target).runs once with ⟨side, pc, at_pc, inside⟩ | request
      · exact inside (outside target at_pc)
      · simp only [inRequest, decide_eq_true_eq] at request
        rcases request with run | run <;> exact settled.requested _ _ run
  · obtain ⟨j, target⟩ := List.mem_iff_getElem?.mp mem
    by_contra live
    have entry := listed target (by simpa using live)
    obtain ⟨side, pc, at_pc, inside, -⟩ := (t.targets j tc target).last exited entry
    exact inside (outside target at_pc)

/-! ## What a step leaves alone -/

/-- One handler goes on: the targets it waits to register are exchanged, the others stay. -/
theorem pending_setHandler {s s' : Server} {i : Nat} {h h' : Handler}
    (handler : s.handlers[i]? = some h) (handlers : s'.handlers = s.handlers.set i h') :
    ∃ rest, s.pending.Perm (h.pc.adding.toList ++ rest) ∧
      s'.pending.Perm (h'.pc.adding.toList ++ rest) := by
  obtain ⟨hi, rfl⟩ := List.getElem?_eq_some_iff.mp handler
  have apart : ∀ (g : Handler) (front back : List Handler),
      ((front ++ g :: back).filterMap fun h => h.pc.adding).Perm
        (g.pc.adding.toList ++ (front ++ back).filterMap fun h => h.pc.adding) := by
    intro g front back
    refine (List.perm_middle.filterMap _).trans ?_
    cases adding : g.pc.adding <;> simp [adding]
  refine ⟨(s.handlers.take i ++ s.handlers.drop (i + 1)).filterMap fun h => h.pc.adding, ?_, ?_⟩
  · have whole : s.handlers = s.handlers.take i ++ s.handlers[i] :: s.handlers.drop (i + 1) := by
      simp
    rw [pending]
    nth_rewrite 1 [whole]
    exact apart _ _ _
  · rw [pending, handlers, List.set_eq_take_append_cons_drop, if_pos hi]
    exact apart _ _ _

/-- A handler goes on without a target of its own. -/
theorem pending_same {s s' : Server} {i : Nat} {h h' : Handler} (handler : s.handlers[i]? = some h)
    (handlers : s'.handlers = s.handlers.set i h') (before : h.pc.adding = none)
    (after : h'.pc.adding = none) : s'.pending.Perm s.pending := by
  obtain ⟨rest, was, is⟩ := pending_setHandler handler handlers
  rw [before] at was
  rw [after] at is
  exact is.trans was.symm

/-- `handleConnect` registers its target. -/
theorem pending_add {s : Server} {i j : Nat} {h : Handler} (handler : s.handlers[i]? = some h)
    (pc : h.pc = .add j) :
    s.pending.Perm (j :: ((s.addConn h.id j).setHandler i { h with pc := .ack j }).pending) := by
  have handlers : ((s.addConn h.id j).setHandler i { h with pc := .ack j }).handlers =
      s.handlers.set i { h with pc := .ack j } := rfl
  obtain ⟨rest, was, is⟩ := pending_setHandler handler handlers
  rw [pc] at was
  exact was.trans (is.symm.cons j)

/-- `handleConnect` has dialled a target. -/
theorem pending_dial {s : Server} {i : Nat} {h : Handler} {host : Bytes} {port : UInt16}
    (handler : s.handlers[i]? = some h) (pc : h.pc = .dial host port) (tc : TargetConn) :
    ((s.addTarget tc).setHandler i { h with pc := .add s.tcs.length }).pending.Perm
      (s.tcs.length :: s.pending) := by
  have handlers : ((s.addTarget tc).setHandler i { h with pc := .add s.tcs.length }).handlers =
      s.handlers.set i { h with pc := .add s.tcs.length } := rfl
  obtain ⟨rest, was, is⟩ := pending_setHandler handler handlers
  rw [pc] at was
  exact is.trans (was.symm.cons _)

/-- The number a new target gets is not in use. -/
theorem Indexed.fresh {s : Server} (x : Indexed s) : s.tcs.length ∉ s.pending ∧
    ¬ Listed s s.tcs.length := by
  have unknown : ∀ id, ¬ s.HasId s.tcs.length id := by
    rintro id ⟨tc, target, -⟩
    simp at target
  refine ⟨fun mem => ?_, fun ⟨id, entry⟩ => unknown id (x.known id _ entry)⟩
  obtain ⟨h, at_h, adding⟩ := List.mem_filterMap.mp mem
  exact unknown h.id (x.dialled h at_h _ (.inl (HandlerPc.adding_eq_some.mp adding)))

/-- Only the id of one target is taken out of the table. -/
theorem listed_removeConn {s : Server} (x : Indexed s) {j : Nat} {id : UInt32} (own : s.HasId j id)
    (alone : ∀ k, s.conns id = some k → k = j) (k : Nat) :
    Listed (s.removeConn id) k ↔ Listed s k ∧ k ≠ j := by
  constructor
  · rintro ⟨id', entry⟩
    refine ⟨⟨id', known_of_removeConn entry⟩, ?_⟩
    rintro rfl
    obtain ⟨tc, target, rfl⟩ := x.known id' k (known_of_removeConn entry)
    obtain ⟨u, target', rfl⟩ := own
    obtain rfl := Option.some.inj (target.symm.trans target')
    simp [removeConn] at entry
  · rintro ⟨⟨id', entry⟩, other⟩
    refine ⟨id', ?_⟩
    have different : id' ≠ id := by
      rintro rfl
      exact other (alone k entry)
    simpa [removeConn, different] using entry

theorem listed_addConn {s : Server} {id : UInt32} (unused : s.conns id = none) (j k : Nat) :
    Listed (s.addConn id j) k ↔ Listed s k ∨ k = j := by
  constructor
  · rintro ⟨id', entry⟩
    by_cases same : id' = id
    · subst same
      exact .inr (by simpa [addConn, eq_comm] using entry)
    · exact .inl ⟨id', by simpa [addConn, same] using entry⟩
  · rintro (⟨id', entry⟩ | rfl)
    · refine ⟨id', ?_⟩
      have different : id' ≠ id := by
        rintro rfl
        rw [unused] at entry
        cases entry
      simpa [addConn, different] using entry
    · exact ⟨id, by simp [addConn]⟩

theorem Roles.keep {s s' : Server} (r : Roles s) (pending : s'.pending.Perm s.pending)
    (conns : s'.conns = s.conns) (run : s'.run = s.run)
    (ids : ∀ j id, s.HasId j id → s'.HasId j id) : Roles s' where
  once := pending.nodup_iff.mpr r.once
  unlisted j mem := by
    unfold Listed
    rw [conns]
    exact r.unlisted j (pending.mem_iff.mp mem)
  busy j target mem := r.busy j (run ▸ target) (pending.mem_iff.mp mem)
  removes j id at_run := ids j id (r.removes j id (run ▸ at_run))
  asked j := by
    unfold Asked Listed
    rw [run, conns]
    exact r.asked j

/-- `Run` is done with its target. -/
theorem Roles.free {s s' : Server} (r : Roles s) (pending : s'.pending.Perm s.pending)
    (conns : s'.conns = s.conns) (free : s'.run.target = none) : Roles s' where
  once := pending.nodup_iff.mpr r.once
  unlisted j mem := by
    unfold Listed
    rw [conns]
    exact r.unlisted j (pending.mem_iff.mp mem)
  busy j target := by simp [free] at target
  removes j id at_run := by simp [at_run, RunPc.target] at free
  asked j := by
    rintro ⟨pc, at_run⟩
    simp [at_run, RunPc.target] at free

/-- `Run` gets busy with a target of the table, or goes on with the one it took out. -/
theorem Roles.turn {s s' : Server} (r : Roles s) {j : Nat} (pending : s'.pending = s.pending)
    (conns : s'.conns = s.conns) (target : s'.run.target = some j) (registered : j ∉ s.pending)
    (removes : ∀ id, s'.run = .remove j id → s'.HasId j id) (asked : Asked s' j → Asked s j) :
    Roles s' where
  once := pending ▸ r.once
  unlisted k mem := by
    unfold Listed
    rw [conns]
    exact r.unlisted k (pending ▸ mem)
  busy k at_k := by
    obtain rfl := Option.some.inj (target.symm.trans at_k)
    exact pending ▸ registered
  removes k id at_run := by
    obtain rfl : j = k := by simpa [at_run, RunPc.target, eq_comm] using target
    exact removes id at_run
  asked k := by
    rintro ⟨pc, at_run⟩
    obtain rfl : j = k := by simpa [at_run, RunPc.target, eq_comm] using target
    unfold Listed
    rw [conns]
    exact r.asked j (asked ⟨pc, at_run⟩)

theorem Roles.add {s : Server} (r : Roles s) {i j : Nat} {h : Handler}
    (handler : s.handlers[i]? = some h) (pc : h.pc = .add j) (unused : s.conns h.id = none) :
    Roles ((s.addConn h.id j).setHandler i { h with pc := .ack j }) := by
  have was := pending_add handler pc
  obtain ⟨fresh, nodup⟩ := List.nodup_cons.mp (was.nodup_iff.mp r.once)
  have waiting : j ∈ s.pending := was.mem_iff.mpr List.mem_cons_self
  refine ⟨nodup, fun k mem listed => ?_, fun k target mem => ?_, r.removes, fun k asked listed => ?_⟩
  · rcases (listed_addConn unused j k).mp listed with old | rfl
    · exact r.unlisted k (was.mem_iff.mpr (List.mem_cons_of_mem _ mem)) old
    · exact fresh mem
  · exact r.busy k target (was.mem_iff.mpr (List.mem_cons_of_mem _ mem))
  · rcases (listed_addConn unused j k).mp listed with old | rfl
    · exact r.asked k asked old
    · obtain ⟨pc', at_run⟩ := asked
      have run : s.run = .closing k pc' := at_run
      exact r.busy k (by rw [run]; rfl) waiting

theorem Roles.dial {s : Server} (r : Roles s) (x : Indexed s) {i : Nat} {h : Handler} {host : Bytes}
    {port : UInt16} (handler : s.handlers[i]? = some h) (pc : h.pc = .dial host port)
    (tc : TargetConn) :
    Roles ((s.addTarget tc).setHandler i { h with pc := .add s.tcs.length }) := by
  have is := pending_dial handler pc tc
  refine ⟨?_, fun k mem listed => ?_, fun k target mem => ?_, fun k id run => ?_, r.asked⟩
  · rw [is.nodup_iff, List.nodup_cons]
    exact ⟨x.fresh.1, r.once⟩
  · rcases List.mem_cons.mp (is.mem_iff.mp mem) with rfl | old
    · exact x.fresh.2 listed
    · exact r.unlisted k old listed
  · rcases List.mem_cons.mp (is.mem_iff.mp mem) with rfl | old
    · obtain ⟨id, tc, known, -⟩ := x.running _ target
      simp at known
    · exact r.busy k target old
  · exact (r.removes k id run).addTarget tc

theorem Roles.removeConn {s : Server} (r : Roles s) (x : Indexed s) {j : Nat} {id : UInt32}
    (own : s.HasId j id) (alone : ∀ k, s.conns id = some k → k = j) : Roles (s.removeConn id) where
  once := r.once
  unlisted k mem listed := r.unlisted k mem ((listed_removeConn x own alone k).mp listed).1
  busy := r.busy
  removes := r.removes
  asked k asked listed := r.asked k asked ((listed_removeConn x own alone k).mp listed).1

theorem Roles.step {s s' : Server} {a : Action} {out : List VFrame} (r : Roles s) (x : Indexed s)
    (orderly : Orderly s a) (taken : Steps s a s' out) : Roles s' := by
  have ids : ∀ j id, s.HasId j id → s'.HasId j id := fun j id known => known.step taken
  cases taken with
  | malformed handler pc | wellFormed handler pc | reply handler pc | ack handler pc
  | dialFailed handler pc | replyDone handler pc | ackDone handler pc =>
    refine r.keep (pending_same handler rfl ?_ ?_) rfl rfl ids
    · rw [pc]
      rfl
    · rfl
  | add handler pc => exact r.add handler pc (orderly _ _ handler pc).1
  | dialConn handler pc => exact r.dial x handler pc _
  | dialPanicked | heartbeat | drain | flushFailed | drainDone | readNone | readSome | readSend
  | readSendDone | take | write | writerDone | notifyEnter | notifyLate | notifyCancel | notifyClose
  | notifySend | notifySendDone => exact r.keep (.refl _) rfl rfl ids
  | top =>
    refine r.free (.refl _) rfl ?_
    simp only [setRun_fields]
    split <;> rfl
  | dispatchConnect =>
    refine r.free ?_ rfl rfl
    simp [pending, setRun, addHandler, HandlerPc.adding]
  | frame | relayLost | dispatchPing | idle | ping | enqueue | requestClose =>
    exact r.free (.refl _) rfl rfl
  | dispatchData run cmd known =>
    refine r.turn rfl rfl rfl (fun waits => r.unlisted _ waits ⟨_, known⟩) (by simp [setRun]) ?_
    simp [Asked, setRun]
  | dispatchClose run cmd known =>
    refine r.turn rfl rfl rfl (fun waits => r.unlisted _ waits ⟨_, known⟩) ?_ ?_
    · intro id same
      obtain rfl := (RunPc.remove.inj same).2
      exact x.known _ _ known
    · simp [Asked, setRun]
  | remove run =>
    rename_i j id
    have own := r.removes j id run
    have alone := orderly j id run
    have out := r.removeConn x own alone
    refine ⟨out.once, out.unlisted, fun k target => ?_, by simp [setRun], ?_⟩
    · obtain rfl := Option.some.inj target
      exact r.busy j (by rw [run]; rfl)
    · rintro k ⟨pc, at_run⟩ listed
      obtain ⟨rfl, -⟩ := RunPc.closing.inj at_run
      exact ((listed_removeConn x own alone j).mp listed).2 rfl
  | requestEnter run target once =>
    refine r.turn rfl rfl rfl (r.busy _ (by rw [run]; rfl)) (by simp [setRun]) ?_
    exact fun _ => ⟨_, run⟩
  | requestCancel run target =>
    refine r.turn rfl rfl rfl (r.busy _ (by rw [run]; rfl)) (by simp [setRun]) ?_
    exact fun _ => ⟨_, run⟩
  | notifyRemove target pc =>
    obtain ⟨-, alone⟩ := orderly _ target pc
    exact Roles.keep (r.removeConn x (hasId_of_target target) alone) (.refl _) rfl rfl ids
  | cleanup run =>
    refine ⟨r.once, ?_, ?_, ?_, ?_⟩ <;> simp [cleanup, Listed, RunPc.target, Asked]

/-! ## Targets -/

/-- What is said of a target in the rest of the state stays. -/
theorem Standing.frame {s s' : Server} {j : Nat} {tc : TargetConn} (st : Standing s j tc)
    (pending : j ∈ s'.pending ↔ j ∈ s.pending) (listed : Listed s' j ↔ Listed s j)
    (asked : Asked s j → Asked s' j ∨ tc.connClosed = true)
    (exited : s'.run = .exited → s.run = .exited)
    (request : s.inRequest j = true → s'.inRequest j = true) : Standing s' j tc where
  kept live := by
    rw [pending, listed]
    rcases st.kept live with h | h | h
    · exact .inl h
    · exact .inr (.inl h)
    · rcases asked h with still | closed
      · exact .inr (.inr still)
      · rw [live] at closed
        cases closed
  leaves := by
    rw [pending, listed]
    exact st.leaves
  gone := by
    rw [pending, listed]
    exact st.gone
  shut := st.shut
  last out entry := st.last (exited out) (listed.mp entry)
  runs once := (st.runs once).imp_right request

/-- A target keeps its flags, and its goroutines stay outside the body of `closeNotify` or where
they are in it. -/
theorem Standing.moved {s : Server} {j : Nat} {tc tc' : TargetConn} (st : Standing s j tc)
    (closed : tc'.connClosed = tc.connClosed) (once : tc'.closeOnce = tc.closeOnce)
    (pcs : ∀ side pc, pc ≠ .enter → (tc'.notifyPc side = some pc ↔ tc.notifyPc side = some pc)) :
    Standing s j tc' where
  kept := closed ▸ st.kept
  leaves := by
    simpa only [closed, pcs _ .remove (by simp)] using st.leaves
  gone := by
    simpa only [once, pcs _ .send (by simp)] using st.gone
  shut := by
    simpa only [closed, once, pcs _ .send (by simp), pcs _ .remove (by simp)] using st.shut
  last out entry := by
    obtain ⟨side, pc, at_pc, inside, before⟩ := st.last out entry
    exact ⟨side, pc, (pcs side pc inside).mpr at_pc, inside, before⟩
  runs running := by
    refine (st.runs (once ▸ running)).imp_left ?_
    rintro ⟨side, pc, at_pc, inside⟩
    exact ⟨side, pc, (pcs side pc inside).mpr at_pc, inside⟩

/-- A goroutine goes on inside `closeNotify`, before `removeConn`. -/
theorem Standing.advance {s : Server} {j : Nat} {tc tc' : TargetConn} {side : Side}
    {pc next : NotifyPc} (st : Standing s j tc) (at_pc : tc.notifyPc side = some pc)
    (pcs : ∀ side', tc'.notifyPc side' = if side' = side then some next else tc.notifyPc side')
    (before : pc ≠ .remove) (after : next ≠ .enter ∧ next ≠ .send)
    (once : tc'.closeOnce = .finished → tc.closeOnce = .finished)
    (closed : tc'.connClosed = tc.connClosed ∧ next ≠ .remove ∨
      tc'.connClosed = true ∧ next = .remove) : Standing s j tc' := by
  have here : tc'.notifyPc side = some next := by rw [pcs, if_pos rfl]
  have other : ∀ {side' p}, tc'.notifyPc side' = some p → p ≠ next → tc.notifyPc side' = some p := by
    intro side' p at_p different
    rw [pcs] at at_p
    split at at_p
    · exact absurd (Option.some.inj at_p).symm different
    · exact at_p
  refine ⟨?_, ?_, ?_, ?_, fun _ _ => ⟨side, next, here, after⟩, fun _ => .inl ⟨side, next, here, after.1⟩⟩
  · intro live
    rcases closed with ⟨same, -⟩ | ⟨shut, -⟩
    · exact st.kept (same ▸ live)
    · rw [live] at shut
      cases shut
  · intro known shut
    rcases closed with ⟨same, -⟩ | ⟨-, rfl⟩
    · obtain ⟨side', at_remove⟩ := st.leaves known (same ▸ shut)
      refine ⟨side', ?_⟩
      rw [pcs, if_neg]
      · exact at_remove
      · rintro rfl
        exact before (Option.some.inj (at_pc.symm.trans at_remove))
    · exact ⟨side, here⟩
  · rintro (finished | ⟨side', at_send⟩)
    · exact st.gone (.inl (once finished))
    · exact st.gone (.inr ⟨side', other at_send after.2.symm⟩)
  · rcases closed with ⟨same, later⟩ | ⟨shut, -⟩
    · rw [same]
      rintro (finished | ⟨side', at_remove | at_send⟩)
      · exact st.shut (.inl (once finished))
      · exact st.shut (.inr ⟨side', .inl (other at_remove later.symm)⟩)
      · exact st.shut (.inr ⟨side', .inr (other at_send after.2.symm)⟩)
    · exact fun _ => shut

/-- Whoever closed the target has taken it out. -/
theorem Standing.closed {s : Server} {j : Nat} {tc : TargetConn} (shut : tc.connClosed = true)
    (out : j ∉ s.pending ∧ ¬ Listed s j)
    (runs : tc.closeOnce = .running → ∃ side pc, tc.notifyPc side = some pc ∧ pc ≠ .enter) :
    Standing s j tc where
  kept live := by
    rw [shut] at live
    cases live
  leaves known := absurd known (not_or.mpr out)
  gone _ := out
  shut _ := shut
  last _ listed := absurd listed out.2
  runs running := .inl (runs running)

/-- One target changes. -/
theorem standing_setConn {s s' : Server}
    (targets : ∀ (i : Nat) (tc : TargetConn), s.tcs[i]? = some tc → Standing s i tc) {j : Nat}
    {tc tc' : TargetConn} (target : s.tcs[j]? = some tc) (tcs : s'.tcs = s.tcs.set j tc')
    (mine : Standing s j tc → Standing s' j tc')
    (others : ∀ (i : Nat) (u : TargetConn), i ≠ j → Standing s i u → Standing s' i u) (i : Nat)
    (u : TargetConn) (at_i : s'.tcs[i]? = some u) : Standing s' i u := by
  have before : s'.tcs[i]? = if i = j then some tc' else s.tcs[i]? := by
    rw [tcs]
    exact setConn_target s target tc' i
  rw [at_i] at before
  split at before
  · subst i
    obtain rfl := Option.some.inj before
    exact mine (targets j tc target)
  · exact others i u ‹_› (targets i u before.symm)

theorem notifyPc_afterRead {tc : TargetConn} {fail : Bool} (outside : tc.notifyPc .reader = none)
    (side : Side) (pc : NotifyPc) (inside : pc ≠ .enter) :
    { tc with reader := afterRead fail }.notifyPc side = some pc ↔ tc.notifyPc side = some pc := by
  cases side with
  | writer => rfl
  | reader =>
    rw [outside]
    cases fail <;> simp [TargetConn.notifyPc, afterRead, Ne.symm inside]

/-- Nothing of a target changes. -/
theorem Table.keeps {s s' : Server} (t : Table s) (tcs : s'.tcs = s.tcs) (conns : s'.conns = s.conns)
    (pending : s'.pending.Perm s.pending) (run : s'.run = s.run) (j : Nat) (tc : TargetConn)
    (target : s'.tcs[j]? = some tc) : Standing s' j tc := by
  have st := t.targets j tc (tcs ▸ target)
  refine st.frame pending.mem_iff (by rw [Listed, conns]; rfl) ?_ ?_ ?_
  · rw [Asked, Asked, run]
    exact .inl
  · rw [run]
    exact id
  · rw [inRequest, inRequest, run]
    exact id

/-- `Run` goes on outside a `closeOnce`. -/
theorem Table.turns {s s' : Server} (t : Table s) (tcs : s'.tcs = s.tcs) (conns : s'.conns = s.conns)
    (pending : s'.pending.Perm s.pending) (run : s'.run ≠ .exited)
    (asked : ∀ (j : Nat) (tc : TargetConn), s.tcs[j]? = some tc → Asked s j → tc.connClosed = true)
    (request : ∀ j, s.inRequest j = false) (j : Nat) (tc : TargetConn)
    (target : s'.tcs[j]? = some tc) : Standing s' j tc := by
  have st := t.targets j tc (tcs ▸ target)
  refine st.frame pending.mem_iff (by rw [Listed, conns]; rfl) ?_ ?_ ?_
  · exact fun h => .inr (asked j tc (tcs ▸ target) h)
  · exact fun h => absurd h run
  · simp [request]

/-- A goroutine of one target goes on. -/
theorem Table.moves {s s' : Server} (t : Table s) {j : Nat} {tc tc' : TargetConn}
    (target : s.tcs[j]? = some tc) (tcs : s'.tcs = s.tcs.set j tc') (conns : s'.conns = s.conns)
    (handlers : s'.handlers = s.handlers) (run : s'.run = s.run)
    (mine : Standing s j tc → Standing s j tc') (i : Nat) (u : TargetConn)
    (at_i : s'.tcs[i]? = some u) : Standing s' i u := by
  have frame : ∀ i u, Standing s i u → Standing s' i u := by
    intro i u st
    refine st.frame ?_ (by rw [Listed, conns]; rfl) ?_ ?_ ?_
    · rw [pending, pending, handlers]
    · rw [Asked, Asked, run]
      exact .inl
    · rw [run]
      exact id
    · rw [inRequest, inRequest, run]
      exact id
  exact standing_setConn t.targets target tcs (fun st => frame j _ (mine st)) (fun i u _ => frame i u)
    i u at_i

/-- A target changes in what the table does not see, and `Run` is done with it. -/
theorem Table.enqueue {s : Server} (t : Table s) {j : Nat} {data : Bytes} {tc tc' : TargetConn}
    (run : s.run = .enqueue j data) (target : s.tcs[j]? = some tc)
    (closed : tc'.connClosed = tc.connClosed) (once : tc'.closeOnce = tc.closeOnce)
    (pcs : tc'.notifyPc = tc.notifyPc) (i : Nat) (u : TargetConn)
    (at_i : ((s.setConn j tc').setRun .top).tcs[i]? = some u) :
    Standing ((s.setConn j tc').setRun .top) i u := by
  have free : ∀ i u, Standing s i u → Standing ((s.setConn j tc').setRun .top) i u := by
    intro i u st
    refine st.frame Iff.rfl Iff.rfl ?_ ?_ ?_
    · simp [Asked, run]
    · simp [setRun]
    · simp [inRequest, run]
  refine standing_setConn t.targets target rfl (fun st => ?_) (fun i u _ => free i u) i u at_i
  exact free _ _ (st.moved closed once fun _ _ _ => by rw [pcs])

/-- `Run` goes on with the target it took out. -/
theorem Table.requests {s s' : Server} (t : Table s) {j : Nat} {pc : RequestPc} {tc tc' : TargetConn}
    (was : s.run = .closing j pc) (target : s.tcs[j]? = some tc) (tcs : s'.tcs = s.tcs.set j tc')
    (conns : s'.conns = s.conns) (handlers : s'.handlers = s.handlers) (run : s'.run ≠ .exited)
    (mine : j ∉ s'.pending ∧ ¬ Listed s' j → Standing s j tc → Standing s' j tc') (i : Nat)
    (u : TargetConn) (at_i : s'.tcs[i]? = some u) : Standing s' i u := by
  have pending : s'.pending = s.pending := by rw [pending, pending, handlers]
  have listed : ∀ i, Listed s' i ↔ Listed s i := fun i => by rw [Listed, conns]; rfl
  refine standing_setConn t.targets target tcs (mine ⟨?_, ?_⟩) (fun i u other st => ?_) i u at_i
  · rw [pending]
    exact t.busy j (by rw [was]; rfl)
  · rw [listed]
    exact t.asked j ⟨pc, was⟩
  · refine st.frame (by rw [pending]) (listed i) ?_ (fun h => absurd h run) ?_
    · rintro ⟨pc', asked⟩
      obtain ⟨same, -⟩ := RunPc.closing.inj (was.symm.trans asked)
      exact absurd same.symm other
    · simp [inRequest, was, Ne.symm other]

/-- `closeNotify` takes its target out. -/
theorem Table.notifyRemove {s : Server} (t : Table s) (x : Indexed s) {side : Side} {j : Nat}
    {tc : TargetConn} (target : s.tcs[j]? = some tc) (pc : tc.notifyPc side = some .remove)
    (registered : j ∉ s.pending) (alone : ∀ k, s.conns tc.id = some k → k = j) (i : Nat)
    (u : TargetConn)
    (at_i : ((s.removeConn tc.id).setConn j (tc.setNotify side (some .send))).tcs[i]? = some u) :
    Standing ((s.removeConn tc.id).setConn j (tc.setNotify side (some .send))) i u := by
  have listed := listed_removeConn x (hasId_of_target target) alone
  refine standing_setConn t.targets target rfl (fun st => ?_) (fun i u other st => ?_) i u at_i
  · have shut : (tc.setNotify side (some .send)).connClosed = true := by
      have := st.shut (.inr ⟨side, .inl pc⟩)
      cases side <;> simpa [TargetConn.setNotify] using this
    refine .closed shut ⟨registered, fun h => ((listed j).mp h).2 rfl⟩ fun _ => ⟨side, .send, ?_, by simp⟩
    simp [notifyPc_setNotify]
  · refine st.frame Iff.rfl ?_ .inl id id
    exact (listed i).trans (and_iff_left other)

/-- `dispatch` takes a target out before it closes it. -/
theorem Table.removes_step {s : Server} (t : Table s) (x : Indexed s) {j : Nat} {id : UInt32}
    (run : s.run = .remove j id) (alone : ∀ k, s.conns id = some k → k = j) (i : Nat)
    (u : TargetConn) (at_i : s.tcs[i]? = some u) :
    Standing ((s.removeConn id).setRun (.closing j .enter)) i u := by
  have listed := listed_removeConn x (t.removes j id run) alone
  have st := t.targets i u at_i
  by_cases same : i = j
  · subst same
    have registered : i ∉ s.pending := t.busy i (by rw [run]; rfl)
    have out : ¬ Listed ((s.removeConn id).setRun (.closing i .enter)) i :=
      fun h => ((listed i).mp h).2 rfl
    refine ⟨fun _ => .inr (.inr ⟨_, rfl⟩), fun known => ?_, fun _ => ⟨registered, out⟩, st.shut, ?_, ?_⟩
    · exact absurd known (not_or.mpr ⟨registered, out⟩)
    · exact fun _ h => absurd h out
    · intro once
      refine .inl ((st.runs once).resolve_right ?_)
      simp [inRequest, run]
  · refine st.frame Iff.rfl ((listed i).trans (and_iff_left same)) ?_ ?_ ?_
    · rintro ⟨pc, asked⟩
      simp [run] at asked
    · simp [setRun]
    · simp [inRequest, run]

theorem Table.add {s : Server} (t : Table s) {i j : Nat} {h : Handler}
    (handler : s.handlers[i]? = some h) (pc : h.pc = .add j) (unused : s.conns h.id = none)
    (late : s.run = .exited → ∀ tc, s.tcs[j]? = some tc → tc.Leaving) (k : Nat) (tc : TargetConn)
    (target : s.tcs[k]? = some tc) :
    Standing ((s.addConn h.id j).setHandler i { h with pc := .ack j }) k tc := by
  have was := pending_add handler pc
  have st := t.targets k tc target
  have listed := listed_addConn unused j
  obtain ⟨fresh, -⟩ := List.nodup_cons.mp (was.nodup_iff.mp t.once)
  by_cases same : k = j
  · subst same
    have waiting : k ∈ s.pending := was.mem_iff.mpr List.mem_cons_self
    refine ⟨fun _ => .inr (.inl ((listed k).mpr (.inr rfl))), fun _ => st.leaves (.inl waiting),
      fun gone => ?_, st.shut, fun exited _ => late exited tc target, st.runs⟩
    exact absurd waiting (st.gone gone).1
  · refine st.frame ?_ ((listed k).trans (or_iff_left same)) .inl id id
    rw [was.mem_iff, List.mem_cons]
    exact (or_iff_right same).symm

theorem Table.dial {s : Server} (t : Table s) (x : Indexed s) {i : Nat} {h : Handler} {host : Bytes}
    {port : UInt16} (handler : s.handlers[i]? = some h) (pc : h.pc = .dial host port) (j : Nat)
    (tc : TargetConn)
    (target : (s.addTarget (newTargetConn h.id host port)).tcs[j]? = some tc) :
    Standing ((s.addTarget (newTargetConn h.id host port)).setHandler i
      { h with pc := .add s.tcs.length }) j tc := by
  have is := pending_dial handler pc (newTargetConn h.id host port)
  rcases addTarget_target target with old | ⟨rfl, rfl⟩
  · refine (t.targets j tc old).frame ?_ Iff.rfl .inl id id
    rw [is.mem_iff, List.mem_cons]
    refine or_iff_right ?_
    rintro rfl
    simp at old
  · have idle : ∀ side, (newTargetConn h.id host port).notifyPc side = none := by
      intro side
      cases side <;> rfl
    have unused : (newTargetConn h.id host port).closeOnce = .fresh := rfl
    refine ⟨fun _ => .inl (is.mem_iff.mpr List.mem_cons_self), fun _ shut => ?_, ?_, ?_,
      fun _ listed => absurd listed x.fresh.2, ?_⟩
    · simp [newTargetConn] at shut
    · simp [idle, unused]
    · simp [idle, unused]
    · simp [unused]

theorem Table.cleanup {s : Server} (t : Table s) (x : Indexed s) (run : s.run = .cleanup) (j : Nat)
    (tc : TargetConn) (target : s.cleanup.tcs[j]? = some tc) : Standing s.cleanup j tc := by
  have empty : ¬ Listed s.cleanup j := by
    rintro ⟨id, entry⟩
    simp [Server.cleanup] at entry
  simp only [Server.cleanup, List.getElem?_mapIdx, Option.map_eq_some_iff] at target
  obtain ⟨u, before, rfl⟩ := target
  have st := t.targets j u before
  have outside : s.inRequest j = false := by simp [inRequest, run]
  split
  case isTrue entry =>
    have unlisted : j ∉ s.pending := fun waits => t.unlisted j waits ⟨_, entry⟩
    refine .closed rfl ⟨unlisted, empty⟩ fun once => ?_
    exact (st.runs once).resolve_right (by simp [outside])
  case isFalse entry =>
    have out : ¬ Listed s j := by
      rintro ⟨id, at_id⟩
      obtain ⟨v, target, rfl⟩ := x.known id j at_id
      obtain rfl := Option.some.inj (before.symm.trans target)
      exact entry at_id
    refine ⟨fun live => ?_, fun known => ?_, fun gone => ⟨(st.gone gone).1, empty⟩, st.shut,
      fun _ listed => absurd listed empty, fun once => .inl ?_⟩
    · rcases st.kept live with waits | listed | ⟨pc, asked⟩
      · exact .inl waits
      · exact absurd listed out
      · simp [run] at asked
    · exact st.leaves (.inl (known.resolve_right empty))
    · exact (st.runs once).resolve_right (by simp [outside])

theorem Table.targets_step {s s' : Server} {a : Action} {out : List VFrame} (t : Table s)
    (x : Indexed s) (orderly : Orderly s a) (taken : Steps s a s' out) :
    ∀ (j : Nat) (tc : TargetConn), s'.tcs[j]? = some tc → Standing s' j tc := by
  cases taken with
  | malformed handler pc | wellFormed handler pc | reply handler pc | ack handler pc
  | dialFailed handler pc | replyDone handler pc | ackDone handler pc =>
    refine t.keeps rfl rfl (pending_same handler rfl ?_ ?_) rfl
    · rw [pc]
      rfl
    · rfl
  | dialPanicked | heartbeat | drain | flushFailed | drainDone => exact t.keeps rfl rfl (.refl _) rfl
  | add handler pc =>
    obtain ⟨unused, late⟩ := orderly _ _ handler pc
    exact t.add handler pc unused late
  | dialConn handler pc => exact t.dial x handler pc
  | top run =>
    refine t.turns rfl rfl (.refl _) ?_ ?_ ?_
    · simp only [setRun_fields]
      split <;> simp
    · simp [Asked, run]
    · simp [inRequest, run]
  | frame _ run | relayLost run | dispatchPing run | dispatchData run | dispatchClose run
  | ping run =>
    refine t.turns rfl rfl (.refl _) ?_ ?_ ?_
    · simp [setRun]
    · simp [Asked, run]
    · simp [inRequest, run]
  | dispatchConnect run =>
    refine t.turns rfl rfl ?_ ?_ ?_ ?_
    · simp [pending, setRun, addHandler, HandlerPc.adding]
    · simp [setRun]
    · simp [Asked, run]
    · simp [inRequest, run]
  | idle why =>
    refine t.turns rfl rfl (.refl _) (by simp [setRun]) ?_ why.free
    rintro j tc target ⟨pc, asked⟩
    cases why with
    | late run target' once =>
      obtain ⟨rfl, -⟩ := RunPc.closing.inj (run.symm.trans asked)
      obtain rfl := Option.some.inj (target.symm.trans target')
      exact (t.targets _ tc target).shut (.inl once)
    | unknown run | other run | full run | cancelled run | pingDone run => simp [run] at asked
  | enqueue run target => exact t.enqueue run target rfl rfl rfl
  | remove run => exact t.removes_step x run (orderly _ _ run)
  | cleanup run => exact t.cleanup x run
  | requestEnter run target once =>
    refine t.requests run target rfl rfl rfl (by simp [setRun]) fun out st => ?_
    refine ⟨fun _ => .inr (.inr ⟨_, rfl⟩), fun known => absurd known (not_or.mpr out), fun _ => out,
      ?_, fun _ listed => absurd listed out.2, fun _ => .inr (by simp [inRequest])⟩
    rintro (finished | inside)
    · simp at finished
    · exact st.shut (.inr inside)
  | requestCancel run target =>
    refine t.requests run target rfl rfl rfl (by simp [setRun]) fun out st => ?_
    refine ⟨fun _ => .inr (.inr ⟨_, rfl⟩), fun known => absurd known (not_or.mpr out), fun _ => out,
      st.shut, fun _ listed => absurd listed out.2, fun _ => .inr (by simp [inRequest])⟩
  | requestClose run target =>
    exact t.requests run target rfl rfl rfl (by simp [setRun]) fun out st => .closed rfl out (by simp)
  | readNone fail target reader =>
    refine t.moves target rfl rfl rfl rfl fun st => st.moved rfl rfl (notifyPc_afterRead ?_)
    simp [TargetConn.notifyPc, reader]
  | readSend target reader | readSendDone target reader =>
    refine t.moves target rfl rfl rfl rfl fun st => st.moved rfl rfl (notifyPc_afterRead ?_)
    simp [TargetConn.notifyPc, reader]
  | readSome fail target reader =>
    refine t.moves target rfl rfl rfl rfl fun st => st.moved rfl rfl ?_
    rintro (_ | _) pc inside <;> simp [TargetConn.notifyPc, reader]
  | take target writer =>
    refine t.moves target rfl rfl rfl rfl fun st => st.moved rfl rfl ?_
    rintro (_ | _) pc inside <;> simp [TargetConn.notifyPc, writer]
  | write ok target writer =>
    refine t.moves target rfl rfl rfl rfl fun st => st.moved rfl rfl ?_
    rintro (_ | _) pc inside <;> cases ok <;> simp [TargetConn.notifyPc, writer, Ne.symm inside]
  | writerDone target writer =>
    refine t.moves target rfl rfl rfl rfl fun st => st.moved rfl rfl ?_
    rintro (_ | _) pc inside <;> simp [TargetConn.notifyPc, writer]
  | notifyEnter target pc | notifyCancel target pc | notifyClose target pc =>
    refine t.moves target rfl rfl rfl rfl fun st =>
      st.advance pc (notifyPc_setNotify _ _ _) ?_ ?_ ?_ ?_ <;> simp
  | notifyLate target pc once =>
    refine t.moves target rfl rfl rfl rfl fun st => st.moved (by simp) (by simp) fun side p inside => ?_
    rw [notifyPc_setNotify]
    split
    · subst side
      simp [pc, Ne.symm inside]
    · rfl
  | notifyRemove target pc =>
    obtain ⟨added, alone⟩ := orderly _ target pc
    refine t.notifyRemove x target pc (fun waits => ?_) alone
    obtain ⟨h, mem, adding⟩ := List.mem_filterMap.mp waits
    exact added h mem (HandlerPc.adding_eq_some.mp adding)
  | notifySend target pc | notifySendDone target pc =>
    refine t.moves target rfl rfl rfl rfl fun st => .closed ?_ (st.gone (.inr ⟨_, pc⟩)) (by simp)
    simpa using st.shut (.inr ⟨_, .inr pc⟩)

/-! ## Runs -/

theorem Table.step {s s' : Server} {a : Action} {out : List VFrame} (t : Table s) (x : Indexed s)
    (orderly : Orderly s a) (taken : Steps s a s' out) : Table s' :=
  ⟨t.toRoles.step x orderly taken, t.targets_step x orderly taken⟩

/-- If the operations on the table keep their order, it is exact whenever none is in progress. -/
theorem server_table_exact {as : List Action} {s : Server}
    (obeys : Obeys serverStep Orderly newServer as) (run : exec serverStep newServer as = some s)
    (settled : Settled s) : Exact s := by
  obtain ⟨x, t⟩ : Indexed s ∧ Table s := by
    refine exec_invariant_of_obeys (fun s => Indexed s ∧ Table s) ?_
      ⟨indexed_newServer, table_newServer⟩ obeys run
    rintro s a s' ⟨x, t⟩ orderly taken
    obtain ⟨out, steps⟩ := serverStep_steps taken
    exact ⟨x.step steps, t.step x orderly steps⟩
  exact t.exact x settled

/-- A target is dialled, registered and acknowledged, and then ends. -/
def orderlyRun : List Action :=
  [.run, .frame ⟨cmdProxyConnect, 7, [1, 104, 80, 0]⟩, .run, .handler 0, .dial 0 .conn, .handler 0,
    .handler 0, .targetRead 0 [] true, .notify .reader 0, .notify .reader 0, .notify .reader 0,
    .notify .reader 0, .notify .reader 0]

theorem server_table_exact_orderly : ∃ s tc, exec serverStep newServer orderlyRun = some s ∧
    Settled s ∧ s.tcs = [tc] ∧ tc.connClosed = true ∧ s.conns 7 = none ∧ Exact s := by
  have obeys : Obeys serverStep Orderly newServer orderlyRun := by
    refine obeys_cons (by rintro j id ⟨⟩) rfl (obeys_cons trivial rfl ?_)
    refine obeys_cons (by rintro j id ⟨⟩) rfl (obeys_cons (by rintro h j ⟨⟩ ⟨⟩) rfl ?_)
    refine obeys_cons trivial rfl (obeys_cons ?_ rfl ?_)
    · -- the request is alone and `Run` goes on
      rintro h j ⟨⟩ ⟨⟩
      exact ⟨rfl, by rintro ⟨⟩⟩
    refine obeys_cons (by rintro h j ⟨⟩ ⟨⟩) rfl (obeys_cons trivial rfl ?_)
    refine obeys_cons (by rintro tc ⟨⟩ ⟨⟩) rfl (obeys_cons (by rintro tc ⟨⟩ ⟨⟩) rfl ?_)
    refine obeys_cons (by rintro tc ⟨⟩ ⟨⟩) rfl (obeys_cons ?_ rfl ?_)
    · -- the target was registered under its id
      rintro tc ⟨⟩ -
      exact ⟨by decide, by rintro k ⟨⟩; rfl⟩
    exact obeys_cons (by rintro tc ⟨⟩ ⟨⟩) rfl trivial
  have settled : ∀ s, exec serverStep newServer orderlyRun = some s → Settled s := by
    rintro s ⟨⟩
    refine ⟨by decide, ?_, by rintro j pc ⟨⟩⟩
    rintro tc mem side pc at_pc
    obtain rfl := List.mem_singleton.mp mem
    cases side <;> cases at_pc
  exact ⟨_, _, rfl, settled _ rfl, rfl, rfl, rfl, server_table_exact obeys rfl (settled _ rfl)⟩

/-- The same target ends before it is registered. -/
def lateRun : List Action :=
  [.run, .frame ⟨cmdProxyConnect, 7, [1, 104, 80, 0]⟩, .run, .handler 0, .dial 0 .conn,
    .targetRead 0 [] true, .notify .reader 0, .notify .reader 0, .notify .reader 0,
    .notify .reader 0, .notify .reader 0, .handler 0, .handler 0]

theorem server_table_keeps_closed : ∃ s tc, exec serverStep newServer lateRun = some s ∧
    Settled s ∧ s.tcs = [tc] ∧ tc.closeOnce = .finished ∧ s.conns 7 = some 0 ∧ ¬ Exact s := by
  have settled : ∀ s, exec serverStep newServer lateRun = some s → Settled s := by
    rintro s ⟨⟩
    refine ⟨by decide, ?_, by rintro j pc ⟨⟩⟩
    rintro tc mem side pc at_pc
    obtain rfl := List.mem_singleton.mp mem
    cases side <;> cases at_pc
  refine ⟨_, _, rfl, settled _ rfl, rfl, rfl, rfl, fun exact => ?_⟩
  exact exact.fired 0 _ rfl (by simp) 7 rfl

end Server

end EspNetwork.Proxy
