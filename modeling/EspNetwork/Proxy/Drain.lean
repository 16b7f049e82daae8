import Mathlib
import EspNetwork.Proxy.Lossless

/-!
# From the Close frame to the closed target

`closeByRequest` cancels the context of a target and closes its connection at once, whatever is
still in its queue. Until `Run` reads the Close frame nothing has touched the target, and then
`Run` alone takes it from the table to its `conn.Close()`; so what the target was written by then
is what came before the Close frame, less what the queue and `writeLoop` still hold.
-/

namespace EspNetwork.Proxy

open Serial (Byte Bytes)
open Relay

namespace TargetConn

/-- The target is open and neither of its goroutines has met an error. -/
structure Calm (tc : TargetConn) : Prop where
  unclosed : tc.connClosed = false
  reader : ∀ data, tc.reader ≠ .send data true
  outside : ∀ side, tc.notifyPc side = none

/-- Nobody has begun to close the target. -/
structure Untouched (tc : TargetConn) : Prop extends Calm tc where
  ctx : tc.ctxDone = false
  once : tc.closeOnce = .fresh
  live : tc.live = true

/-- `readLoop` goes on without an error. -/
theorem Calm.reads {tc : TargetConn} (calm : tc.Calm) {r : ReaderPc} (log : List Bytes)
    (fine : r = .read ∨ ∃ data, r = .send data false) :
    { tc with reader := r, readLog := log }.Calm := by
  refine ⟨calm.unclosed, fun data bad => ?_, fun side => ?_⟩
  · rcases fine with rfl | ⟨data', rfl⟩ <;> cases bad
  · cases side with
    | reader => rcases fine with rfl | ⟨data, rfl⟩ <;> rfl
    | writer => exact calm.outside .writer

/-- `writeLoop` goes on or ends without an error. -/
theorem Calm.writes {tc : TargetConn} (calm : tc.Calm) {w : WriterPc} (queue wrote : List Bytes)
    (fine : ∀ pc, w ≠ .closing pc) : { tc with writer := w, writeQ := queue, wrote }.Calm := by
  refine ⟨calm.unclosed, calm.reader, fun side => ?_⟩
  cases side with
  | reader => exact calm.outside .reader
  | writer =>
    cases w with
    | closing pc => exact absurd rfl (fine pc)
    | _ => rfl

theorem Calm.afterRead {tc : TargetConn} (calm : tc.Calm) {data : Bytes} {fail : Bool}
    (reader : tc.reader = .send data fail) : Server.afterRead fail = .read := by
  cases fail with
  | false => rfl
  | true => exact absurd reader (calm.reader data)

end TargetConn

namespace Server

/-- `Run` is at work on a Close frame of this id. -/
def handles (s : Server) (id : UInt32) : Bool :=
  match s.run with
  | .dispatch f => f.cmd = cmdProxyClose ∧ f.connID = id
  | .remove _ k => k = id
  | .closing j _ => s.tcs[j]?.map TargetConn.id = some id
  | _ => false

/-- The target that `closeByRequest` is about to close. -/
def shutting (s : Server) : Option TargetConn :=
  match s.run with
  | .closing j .close => s.tcs[j]?
  | _ => none

/-- What the target of this id can count on: its queue does not overflow, it takes every chunk and
does not end the connection itself, and the relay lasts until `Run` has read the Close frame. -/
def Serves (s : Server) (id : UInt32) : Action → Prop
  | .run => ∀ tc ∈ s.holding, tc.id = id → tc.writeQ.length < targetWriteQ
  | .targetRead j _ fail => fail = true → ∀ tc ∈ s.tcs[j]?, tc.id = id → tc.connClosed = true
  | .targetWrite j ok => ok = false → ∀ tc ∈ s.tcs[j]?, tc.id = id → tc.connClosed = true
  | .relayLost | .flushFailed =>
    s.handles id = true ∨ ∃ tc ∈ s.tcs, tc.id = id ∧ tc.connClosed = true
  | _ => True

/-- The condition on a step: `closeByRequest` closes the connection only when the queue is empty
and `writeLoop` has no chunk in its hands. -/
def Drained (s : Server) (id : UInt32) : Action → Prop
  | .run => ∀ tc ∈ s.shutting, tc.id = id → tc.writeQ = [] ∧ inWriter tc = []
  | _ => True

instance (s : Server) (id : UInt32) : (a : Action) → Decidable (s.Serves id a)
  | .run =>
    inferInstanceAs (Decidable (∀ tc ∈ s.holding, tc.id = id → tc.writeQ.length < targetWriteQ))
  | .targetRead j _ fail =>
    inferInstanceAs (Decidable (fail = true → ∀ tc ∈ s.tcs[j]?, tc.id = id → tc.connClosed = true))
  | .targetWrite j ok =>
    inferInstanceAs (Decidable (ok = false → ∀ tc ∈ s.tcs[j]?, tc.id = id → tc.connClosed = true))
  | .relayLost | .flushFailed =>
    inferInstanceAs (Decidable
      (s.handles id = true ∨ ∃ tc ∈ s.tcs, tc.id = id ∧ tc.connClosed = true))
  | .handler _ | .dial _ _ | .handlerDone _ | .frame _ | .runDone | .reader _ | .readerDone _
  | .take _ | .writerDone _ | .notify _ _ | .notifyDone _ _ | .heartbeat | .drain | .drainDone =>
    .isTrue trivial

instance (s : Server) (id : UInt32) : (a : Action) → Decidable (s.Drained id a)
  | .run =>
    inferInstanceAs (Decidable
      (∀ tc ∈ s.shutting, tc.id = id → tc.writeQ = [] ∧ inWriter tc = []))
  | .targetRead _ _ _ | .targetWrite _ _ | .relayLost | .flushFailed
  | .handler _ | .dial _ _ | .handlerDone _ | .frame _ | .runDone | .reader _ | .readerDone _
  | .take _ | .writerDone _ | .notify _ _ | .notifyDone _ _ | .heartbeat | .drain | .drainDone =>
    .isTrue trivial

theorem Serves.reads {s : Server} {id : UInt32} {j : Nat} {data : Bytes} {fail : Bool}
    (serves : s.Serves id (.targetRead j data fail)) {tc : TargetConn}
    (target : s.tcs[j]? = some tc) (own : tc.id = id) (unclosed : tc.connClosed = false) :
    fail = false := by
  by_contra failed
  have closed := serves (by simpa using failed) tc target own
  rw [unclosed] at closed
  cases closed

theorem Serves.writes {s : Server} {id : UInt32} {j : Nat} {ok : Bool}
    (serves : s.Serves id (.targetWrite j ok)) {tc : TargetConn} (target : s.tcs[j]? = some tc)
    (own : tc.id = id) (unclosed : tc.connClosed = false) : ok = true := by
  by_contra failed
  have closed := serves (by simpa using failed) tc target own
  rw [unclosed] at closed
  cases closed

/-! ## Before the Close frame -/

/-- The server before it reads a Close frame of this id. -/
structure Before (s : Server) (id : UInt32) : Prop where
  ctx : s.ctxDone = false
  going : s.run ≠ .cleanup
  free : s.handles id = false
  removes : ∀ j k, s.run = .remove j k → s.HasId j k
  targets : ∀ (j : Nat) (tc : TargetConn), s.tcs[j]? = some tc → tc.id = id →
    tc.Untouched ∧ (j ∈ s.pending ∨ s.conns id = some j)

/-- The ids of the targets stay, so `Run` keeps the id it is at work on. -/
theorem handles_of_hasId {s s' : Server} (stay : ∀ j id, s.HasId j id → s'.HasId j id)
    (known : ∀ j, s.run.target = some j → ∃ id, s.HasId j id) (run : s'.run = s.run) (id : UInt32) :
    s'.handles id = s.handles id := by
  unfold handles
  rw [run]
  cases at_run : s.run with
  | closing j pc =>
    obtain ⟨k, tc, target, own⟩ := known j (by rw [at_run]; rfl)
    obtain ⟨tc', target', own'⟩ := stay j k ⟨tc, target, own⟩
    simp [target, target', own, own']
  | _ => rfl

/-- No target moves. -/
theorem Before.keep {s s' : Server} {id : UInt32} (b : Before s id) (tcs : s'.tcs = s.tcs)
    (ctx : s'.ctxDone = s.ctxDone) (going : s'.run ≠ .cleanup) (free : s'.handles id = false)
    (removes : ∀ j k, s'.run = .remove j k → s.HasId j k)
    (standing : ∀ j, s.HasId j id → j ∈ s.pending ∨ s.conns id = some j →
      j ∈ s'.pending ∨ s'.conns id = some j) : Before s' id := by
  refine ⟨ctx.trans b.ctx, going, free, fun j k run => ?_, fun j tc target own => ?_⟩
  · obtain ⟨tc, target, own⟩ := removes j k run
    exact ⟨tc, tcs ▸ target, own⟩
  · rw [tcs] at target
    obtain ⟨untouched, stands⟩ := b.targets j tc target own
    exact ⟨untouched, standing j ⟨tc, target, own⟩ stands⟩

/-- No target and not `Run` moves. -/
theorem Before.stay {s s' : Server} {id : UInt32} (b : Before s id) (tcs : s'.tcs = s.tcs)
    (ctx : s'.ctxDone = s.ctxDone) (run : s'.run = s.run)
    (standing : ∀ j, s.HasId j id → j ∈ s.pending ∨ s.conns id = some j →
      j ∈ s'.pending ∨ s'.conns id = some j) : Before s' id := by
  refine b.keep tcs ctx (run ▸ b.going) ?_ (run ▸ b.removes) standing
  rw [handles, run, tcs]
  exact b.free

/-- One target moves. -/
theorem Before.turn {s s' : Server} {id : UInt32} (b : Before s id) {j : Nat}
    {tc tc' : TargetConn} (target : s.tcs[j]? = some tc) (tcs : s'.tcs = s.tcs.set j tc')
    (same : tc'.id = tc.id) (ctx : s'.ctxDone = s.ctxDone) (going : s'.run ≠ .cleanup)
    (free : s'.handles id = false) (removes : ∀ i k, s'.run = .remove i k → s'.HasId i k)
    (handlers : s'.handlers = s.handlers) (conns : s'.conns id = s.conns id)
    (mine : tc.id = id → tc.Untouched → tc'.Untouched) : Before s' id := by
  refine ⟨ctx.trans b.ctx, going, free, removes, fun i u at_i own => ?_⟩
  have pending : s'.pending = s.pending := by rw [pending, pending, handlers]
  have after : s'.tcs[i]? = if i = j then some tc' else s.tcs[i]? := by
    rw [tcs]
    exact setConn_target s target tc' i
  rw [pending, conns]
  rw [after] at at_i
  split at at_i
  · subst i
    obtain rfl := Option.some.inj at_i
    obtain ⟨untouched, stands⟩ := b.targets j tc target (same ▸ own)
    exact ⟨mine (same ▸ own) untouched, stands⟩
  · exact b.targets i u at_i own

/-- One target moves, and `Run` does not. -/
theorem Before.move {s s' : Server} {id : UInt32} (b : Before s id) (x : Indexed s) {j : Nat}
    {tc tc' : TargetConn} (target : s.tcs[j]? = some tc) (tcs : s'.tcs = s.tcs.set j tc')
    (same : tc'.id = tc.id) (ctx : s'.ctxDone = s.ctxDone) (run : s'.run = s.run)
    (handlers : s'.handlers = s.handlers) (conns : s'.conns id = s.conns id)
    (mine : tc.id = id → tc.Untouched → tc'.Untouched) : Before s' id := by
  have stays : ∀ i k, s.HasId i k → s'.HasId i k := by
    intro i k known
    obtain ⟨u, at_i, own⟩ := known.setConn target same
    exact ⟨u, tcs ▸ at_i, own⟩
  refine b.turn target tcs same ctx (run ▸ b.going) ?_ (fun i k at_run => ?_) handlers conns mine
  · rw [handles_of_hasId stays x.running run]
    exact b.free
  · exact stays i k (b.removes i k (run ▸ at_run))

/-- A handler goes on that neither has dialled nor is about to. -/
theorem Before.setHandler {s s' : Server} {id : UInt32} (b : Before s id) {i : Nat} {h h' : Handler}
    (handler : s.handlers[i]? = some h) (handlers : s'.handlers = s.handlers.set i h')
    (before : h.pc.adding = none) (after : h'.pc.adding = none) (tcs : s'.tcs = s.tcs)
    (ctx : s'.ctxDone = s.ctxDone) (run : s'.run = s.run) (conns : s'.conns = s.conns) :
    Before s' id := by
  refine b.stay tcs ctx run fun j _ stands => ?_
  rwa [(pending_same handler handlers before after).mem_iff, conns]

/-- A target is registered. -/
theorem Before.add {s : Server} {id : UInt32} (b : Before s id) (x : Indexed s)
    (single : s.Single id) {i j : Nat} {h : Handler} (handler : s.handlers[i]? = some h)
    (pc : h.pc = .add j) :
    Before ((s.addConn h.id j).setHandler i { h with pc := .ack j }) id := by
  have dialled := x.dialled h (List.mem_of_getElem? handler) j (.inl pc)
  refine b.stay rfl rfl rfl fun k known stands => ?_
  by_cases own : h.id = id
  · subst own
    obtain ⟨tc, target, own⟩ := dialled
    obtain ⟨u, at_k, own'⟩ := known
    obtain rfl := single j k tc u target at_k own own'
    exact .inr (by simp [addConn])
  · rcases stands with waits | entry
    · rcases List.mem_cons.mp ((pending_add handler pc).mem_iff.mp waits) with rfl | rest
      · obtain ⟨tc, target, own'⟩ := known
        obtain ⟨u, at_k, named⟩ := dialled
        obtain rfl := Option.some.inj (target.symm.trans at_k)
        exact absurd (named.symm.trans own') own
      · exact .inl rest
    · exact .inr (by simpa [addConn, Ne.symm own] using entry)

/-- A target is dialled. -/
theorem Before.dial {s : Server} {id : UInt32} (b : Before s id) (x : Indexed s) {i : Nat}
    {h : Handler} {host : Bytes} {port : UInt16} (handler : s.handlers[i]? = some h)
    (pc : h.pc = .dial host port) :
    Before ((s.addTarget (newTargetConn h.id host port)).setHandler i
      { h with pc := .add s.tcs.length }) id := by
  have is := pending_dial handler pc (newTargetConn h.id host port)
  refine ⟨b.ctx, b.going, ?_, fun j k run => ?_, fun j tc target own => ?_⟩
  · have same : (s.addTarget (newTargetConn h.id host port)).handles id = s.handles id :=
      handles_of_hasId (fun _ _ known => known.addTarget _) x.running rfl id
    exact same.trans b.free
  · exact (b.removes j k run).addTarget _
  · rw [is.mem_iff]
    rcases addTarget_target target with old | ⟨rfl, rfl⟩
    · obtain ⟨untouched, stands⟩ := b.targets j tc old own
      exact ⟨untouched, stands.imp_left (List.mem_cons_of_mem _)⟩
    · refine ⟨⟨⟨rfl, ?_, ?_⟩, rfl, rfl, rfl⟩, .inl List.mem_cons_self⟩
      · simp [newTargetConn]
      · rintro (_ | _) <;> rfl

/-- `Run` closes a target of another id. -/
theorem Before.request {s : Server} {id : UInt32} (b : Before s id) {j : Nat} {pc : RequestPc}
    {next : RunPc} {tc tc' : TargetConn} (run : s.run = .closing j pc)
    (target : s.tcs[j]? = some tc) (same : tc'.id = tc.id)
    (goes : next = .top ∨ ∃ pc', next = .closing j pc') :
    Before ((s.setConn j tc').setRun next) id := by
  have apart : tc.id ≠ id := by simpa [handles, run, target] using b.free
  have here : (s.setConn j tc').tcs[j]? = some tc' := by rw [setConn_target s target, if_pos rfl]
  refine b.turn target rfl same rfl ?_ ?_ ?_ rfl rfl fun own => absurd own apart
  · rcases goes with rfl | ⟨pc', rfl⟩ <;> simp [setRun]
  · rcases goes with rfl | ⟨pc', rfl⟩
    · rfl
    · change decide ((s.setConn j tc').tcs[j]?.map TargetConn.id = some id) = false
      rw [here]
      simp [same, apart]
  · rcases goes with rfl | ⟨pc', rfl⟩ <;> simp [setRun]

theorem Before.step {s s' : Server} {a : Action} {out : List VFrame} {id : UInt32}
    (b : Before s id) (x : Indexed s) (single : s.Single id) (serves : s.Serves id a)
    (other : chunksOf cmdProxyClose id a.input = []) (h : Steps s a s' out) : Before s' id := by
  cases h with
  | malformed handler pc | wellFormed handler pc | reply handler pc | ack handler pc
  | dialFailed handler pc | replyDone handler pc | ackDone handler pc =>
    refine b.setHandler handler rfl (by rw [pc]; rfl) rfl ?_ ?_ ?_ ?_
    iterate 4 rfl
  | add handler pc => exact b.add x single handler pc
  | dialConn handler pc => exact b.dial x handler pc
  | dialPanicked | heartbeat | drain | drainDone => exact b.stay rfl rfl rfl fun _ _ h => h
  | flushFailed | relayLost =>
    rcases serves with handles | ⟨tc, mem, own, closed⟩
    · rw [b.free] at handles
      cases handles
    · obtain ⟨j, target⟩ := List.mem_iff_getElem?.mp mem
      rw [(b.targets j tc target own).1.unclosed] at closed
      cases closed
  | top run =>
    refine b.keep rfl rfl ?_ ?_ ?_ fun _ _ h => h
    · simp [setRun, b.ctx]
    · simp [handles, setRun, b.ctx]
    · simp [setRun, b.ctx]
  | frame f run =>
    refine b.keep rfl rfl ?_ ?_ ?_ fun _ _ h => h
    · simp [setRun]
    · by_contra own
      simp_all [handles, setRun, Action.input, chunksOf_singleton]
    · simp [setRun]
  | dispatchConnect run =>
    refine b.keep rfl rfl ?_ ?_ ?_ fun j _ stands => ?_
    · simp [setRun]
    · simp [handles, setRun]
    · simp [setRun]
    · simpa [pending, setRun, addHandler, HandlerPc.adding] using stands
  | dispatchData run cmd known =>
    refine b.keep rfl rfl ?_ ?_ ?_ fun _ _ h => h
    · simp [setRun]
    · simp [handles, setRun]
    · simp [setRun]
  | dispatchClose run cmd known =>
    have free := b.free
    refine b.keep rfl rfl ?_ ?_ ?_ fun _ _ h => h
    · simp [setRun]
    · simpa [handles, setRun, run, cmd] using free
    · rintro j k ⟨⟩
      exact x.known _ _ known
  | dispatchPing run | idle why | ping =>
    refine b.keep rfl rfl ?_ ?_ ?_ fun _ _ h => h
    · simp [setRun]
    · simp [handles, setRun]
    · simp [setRun]
  | remove run =>
    rename_i j k
    have apart : k ≠ id := by simpa [handles, run] using b.free
    obtain ⟨tc, target, own⟩ := b.removes j k run
    refine b.keep rfl rfl ?_ ?_ ?_ fun i _ stands => ?_
    · simp [setRun]
    · simp [handles, setRun, removeConn, target, own, apart]
    · simp [setRun]
    · have kept : ((s.removeConn k).setRun (.closing j .enter)).conns id = s.conns id := by
        simp [setRun, removeConn, Ne.symm apart]
      rw [kept]
      exact stands
  | enqueue run target =>
    refine b.turn target rfl ?_ rfl ?_ ?_ ?_ rfl rfl fun _ u => ?_
    · rfl
    · simp [setRun]
    · simp [handles, setRun]
    · simp [setRun]
    · exact ⟨⟨u.unclosed, u.reader, u.outside⟩, u.ctx, u.once, u.live⟩
  | requestEnter run target | requestCancel run target =>
    refine b.request run target ?_ (.inr ⟨_, rfl⟩)
    rfl
  | requestClose run target =>
    refine b.request run target ?_ (.inl rfl)
    rfl
  | cleanup run => exact absurd run b.going
  | readNone fail target =>
    refine b.move x target rfl ?_ rfl rfl rfl rfl fun own u => ?_
    · rfl
    · obtain rfl := serves.reads target own u.unclosed
      exact ⟨u.reads _ (.inl rfl), u.ctx, u.once, u.live⟩
  | readSome fail target =>
    refine b.move x target rfl ?_ rfl rfl rfl rfl fun own u => ?_
    · rfl
    · obtain rfl := serves.reads target own u.unclosed
      exact ⟨u.reads _ (.inr ⟨_, rfl⟩), u.ctx, u.once, u.live⟩
  | readSend target reader | readSendDone target reader =>
    refine b.move x target rfl ?_ rfl rfl rfl rfl fun own u => ?_
    · rfl
    · rw [u.afterRead reader]
      exact ⟨u.reads _ (.inl rfl), u.ctx, u.once, u.live⟩
  | take target writer queue =>
    refine b.move x target rfl ?_ rfl rfl rfl rfl fun own u => ?_
    · rfl
    · exact ⟨u.writes _ _ (by simp), u.ctx, u.once, rfl⟩
  | write ok target writer =>
    refine b.move x target rfl ?_ rfl rfl rfl rfl fun own u => ?_
    · rfl
    · obtain rfl := serves.writes target own u.unclosed
      exact ⟨u.writes _ _ (by simp), u.ctx, u.once, rfl⟩
  | writerDone target writer done =>
    refine b.move x target rfl ?_ rfl rfl rfl rfl fun own u => ?_
    · rfl
    · simp [targetCtxDone, b.ctx, u.ctx] at done
  | notifyEnter target pc | notifyLate target pc | notifyCancel target pc | notifyClose target pc
  | notifySend target pc | notifySendDone target pc =>
    refine b.move x target rfl ?_ rfl rfl rfl rfl fun own u => ?_
    · simp
    · rw [u.outside] at pc
      cases pc
  | notifyRemove target pc =>
    rename_i tc
    have apart : tc.id ≠ id := by
      intro own
      rw [(b.targets _ tc target own).1.outside] at pc
      cases pc
    refine b.move x target rfl ?_ rfl rfl rfl ?_ fun own => absurd own apart
    · simp
    · simp [removeConn, Ne.symm apart]

/-- Nothing of this id is dropped. -/
theorem Before.noHole {s s' : Server} {a : Action} {out : List VFrame} {id : UInt32}
    (b : Before s id) (serves : s.Serves id a) (h : Steps s a s' out) : NoHole s id a := by
  intro tc dropped own
  cases a with
  | run =>
    obtain ⟨held, full⟩ := Option.filter_eq_some_iff.mp dropped
    have room := serves tc held own
    simp only [decide_eq_true_eq] at full
    omega
  | runDone =>
    obtain ⟨held, -⟩ := Option.filter_eq_some_iff.mp dropped
    cases h with
    | idle why =>
      cases why with
      | cancelled run target done =>
        obtain rfl : _ = tc := by simpa [holding, run, target] using held
        have untouched := (b.targets _ _ target own).1
        simp [targetCtxDone, b.ctx, untouched.ctx] at done
      | pingDone run => simp [holding, run] at held
  | readerDone j =>
    cases h with
    | readSendDone target reader done =>
      rw [b.ctx] at done
      cases done
    | idle why => cases why
  | _ => cases dropped

/-! ## After the Close frame -/

/-- The target was closed after all its chunks were written, and nothing more comes for it. -/
structure Shut (s : Server) (sent : List Bytes) (j : Nat) (tc : TargetConn) : Prop where
  closed : tc.connClosed = true
  wrote : tc.wrote = sent
  queue : tc.writeQ = []
  hand : inWriter tc = []
  gone : s.conns tc.id = none
  idle : s.handed j = []

/-- How far `Run` is with the Close frame of a target that accepted the chunks `sent`. -/
inductive Closing (s : Server) (sent : List Bytes) (j : Nat) (tc : TargetConn) : Prop where
  | received {f : VFrame} (run : s.run = .dispatch f) (cmd : f.cmd = cmdProxyClose)
    (own : f.connID = tc.id) (entry : s.conns tc.id = some j) (calm : tc.Calm)
    (once : tc.closeOnce = .fresh) (all : accepted tc = sent)
  | removing (run : s.run = .remove j tc.id) (calm : tc.Calm) (once : tc.closeOnce = .fresh)
    (all : accepted tc = sent)
  | entering (run : s.run = .closing j .enter) (gone : s.conns tc.id = none) (calm : tc.Calm)
    (once : tc.closeOnce = .fresh) (all : accepted tc = sent)
  | inside {pc : RequestPc} (run : s.run = .closing j pc) (entered : pc ≠ .enter)
    (gone : s.conns tc.id = none) (calm : tc.Calm) (all : accepted tc = sent)
  | shut (done : Shut s sent j tc)

/-- A step that moves one target, as seen by any target. -/
theorem target_set {s : Server} {j k : Nat} {tc u u' : TargetConn} {P : TargetConn → Prop}
    (at_k : s.tcs[k]? = some u) (target : s.tcs[j]? = some tc) (other : k ≠ j → P tc)
    (mine : k = j → u = tc → P u') : ∃ tc', (s.tcs.set k u')[j]? = some tc' ∧ P tc' := by
  have after := setConn_target s at_k u' j
  change (s.tcs.set k u')[j]? = _ at after
  by_cases same : k = j
  · subst same
    rw [if_pos rfl] at after
    exact ⟨u', after, mine rfl (Option.some.inj (at_k.symm.trans target))⟩
  · rw [if_neg (Ne.symm same)] at after
    exact ⟨tc, after.trans target, other same⟩

/-- The target as it was, but for the chunks that `writeLoop` still writes. -/
structure Kept (tc tc' : TargetConn) : Prop where
  id : tc'.id = tc.id
  calm : tc'.Calm
  once : tc'.closeOnce = tc.closeOnce
  all : accepted tc' = accepted tc

/-- While `Run` is at work on the Close frame, nobody else touches its target. -/
theorem kept_step {s s' : Server} {a : Action} {out : List VFrame} {j : Nat} {tc : TargetConn}
    (x : Indexed s) (single : s.Single tc.id) (opened : s.Opened tc.id)
    (serves : s.Serves tc.id a) (target : s.tcs[j]? = some tc) (calm : tc.Calm)
    (handles : s.handles tc.id = true) (other : a ≠ .run) (h : Steps s a s' out) :
    s'.run = s.run ∧ s'.conns tc.id = s.conns tc.id ∧
      ∃ tc', s'.tcs[j]? = some tc' ∧ Kept tc tc' := by
  have same : Kept tc tc := ⟨rfl, calm, rfl, rfl⟩
  have outside : ∀ {side pc}, tc.notifyPc side ≠ some pc := by
    intro side pc at_pc
    rw [calm.outside side] at at_pc
    cases at_pc
  cases h with
  | top | dispatchConnect | dispatchData | dispatchClose | dispatchPing | enqueue | remove
  | requestEnter | requestCancel | requestClose | ping | cleanup => exact absurd rfl other
  | frame f run | relayLost run => simp [Server.handles, run] at handles
  | idle why =>
    cases why with
    | unknown | other | full | late => exact absurd rfl other
    | cancelled run | pingDone run => simp [Server.handles, run] at handles
  | malformed | wellFormed | reply | ack | dialFailed | dialPanicked | replyDone | ackDone
  | heartbeat | drain | flushFailed | drainDone => exact ⟨rfl, rfl, tc, target, same⟩
  | add handler pc =>
    have apart := opened.not_add x single handler pc
    exact ⟨rfl, by simp [addConn, Ne.symm apart], tc, target, same⟩
  | dialConn =>
    have old := (List.getElem?_eq_some_iff.mp target).1
    exact ⟨rfl, rfl, tc, by simp [addTarget, List.getElem?_append_left old, target], same⟩
  | readNone fail at_k =>
    refine ⟨rfl, rfl, target_set at_k target (fun _ => same) ?_⟩
    rintro rfl rfl
    obtain rfl := serves.reads target rfl calm.unclosed
    exact ⟨rfl, calm.reads _ (.inl rfl), rfl, rfl⟩
  | readSome fail at_k =>
    refine ⟨rfl, rfl, target_set at_k target (fun _ => same) ?_⟩
    rintro rfl rfl
    obtain rfl := serves.reads target rfl calm.unclosed
    exact ⟨rfl, calm.reads _ (.inr ⟨_, rfl⟩), rfl, rfl⟩
  | readSend at_k reader | readSendDone at_k reader =>
    refine ⟨rfl, rfl, target_set at_k target (fun _ => same) ?_⟩
    rintro rfl rfl
    rw [calm.afterRead reader]
    exact ⟨rfl, calm.reads _ (.inl rfl), rfl, rfl⟩
  | take at_k writer queue =>
    refine ⟨rfl, rfl, target_set at_k target (fun _ => same) ?_⟩
    rintro rfl rfl
    exact ⟨rfl, calm.writes _ _ (by simp), rfl, by simp [accepted, inWriter, writer, queue]⟩
  | write ok at_k writer =>
    refine ⟨rfl, rfl, target_set at_k target (fun _ => same) ?_⟩
    rintro rfl rfl
    obtain rfl := serves.writes target rfl calm.unclosed
    exact ⟨rfl, calm.writes _ _ (by simp), rfl, by simp [accepted, inWriter, writer]⟩
  | writerDone at_k writer =>
    refine ⟨rfl, rfl, target_set at_k target (fun _ => same) ?_⟩
    rintro rfl rfl
    exact ⟨rfl, calm.writes _ _ (by simp), rfl, by simp [accepted, inWriter, writer]⟩
  | notifyEnter at_k pc | notifyLate at_k pc | notifyCancel at_k pc | notifyClose at_k pc
  | notifySend at_k pc | notifySendDone at_k pc =>
    refine ⟨rfl, rfl, target_set at_k target (fun _ => same) ?_⟩
    rintro rfl rfl
    exact absurd pc outside
  | notifyRemove at_k pc =>
    rename_i side k u
    have apart : u.id ≠ tc.id := by
      intro own
      obtain rfl := single k j u tc at_k target own rfl
      obtain rfl := Option.some.inj (at_k.symm.trans target)
      exact outside pc
    refine ⟨rfl, by simp [removeConn, Ne.symm apart], target_set at_k target (fun _ => same) ?_⟩
    rintro rfl rfl
    exact absurd pc outside

theorem hand_setNotify {tc : TargetConn} (hand : inWriter tc = []) (side : Side)
    (next : Option NotifyPc) : inWriter (tc.setNotify side next) = [] := by
  cases side <;> cases next <;> simp_all [inWriter, TargetConn.setNotify]

/-- A closed target stays as it is. -/
theorem Shut.step {s s' : Server} {a : Action} {out : List VFrame} {sent : List Bytes} {j : Nat}
    {tc : TargetConn} (c : Shut s sent j tc) (x : Indexed s) (single : s.Single tc.id)
    (opened : s.Opened tc.id) (target : s.tcs[j]? = some tc) (h : Steps s a s' out) :
    ∃ tc', s'.tcs[j]? = some tc' ∧ tc'.id = tc.id ∧ Shut s' sent j tc' := by
  have stays : s'.tcs = s.tcs → s'.conns tc.id = none → s'.handed j = [] →
      ∃ tc', s'.tcs[j]? = some tc' ∧ tc'.id = tc.id ∧ Shut s' sent j tc' :=
    fun tcs gone idle => ⟨tc, tcs ▸ target, rfl, c.closed, c.wrote, c.queue, c.hand, gone, idle⟩
  have moves : ∀ {k : Nat} {u u' : TargetConn}, s.tcs[k]? = some u → s'.tcs = s.tcs.set k u' →
      s'.conns tc.id = none → s'.handed j = [] →
      (k = j → u = tc → u'.id = tc.id ∧ u'.connClosed = true ∧ u'.wrote = tc.wrote ∧
        u'.writeQ = tc.writeQ ∧ inWriter u' = []) →
      ∃ tc', s'.tcs[j]? = some tc' ∧ tc'.id = tc.id ∧ Shut s' sent j tc' := by
    intro k u u' at_k tcs gone idle mine
    rw [tcs]
    refine target_set at_k target
      (fun _ => ⟨rfl, c.closed, c.wrote, c.queue, c.hand, gone, idle⟩) fun here same => ?_
    obtain ⟨id, closed, wrote, queue, hand⟩ := mine here same
    exact ⟨id, closed, wrote.trans c.wrote, queue.trans c.queue, hand,
      by rw [id, gone], idle⟩
  cases h with
  | malformed | wellFormed | reply | ack | dialFailed | dialPanicked | replyDone | ackDone
  | heartbeat | drain | flushFailed | drainDone => exact stays rfl c.gone c.idle
  | add handler pc =>
    have apart := opened.not_add x single handler pc
    exact stays rfl (by simpa [addConn, Ne.symm apart] using c.gone) c.idle
  | dialConn =>
    have old := (List.getElem?_eq_some_iff.mp target).1
    exact ⟨tc, by simp [addTarget, List.getElem?_append_left old, target], rfl,
      c.closed, c.wrote, c.queue, c.hand, c.gone, c.idle⟩
  | top =>
    refine stays rfl c.gone ?_
    cases s.ctxDone <;> rfl
  | frame | relayLost | dispatchConnect | dispatchClose | dispatchPing | idle | ping =>
    exact stays rfl c.gone rfl
  | dispatchData run cmd known =>
    refine stays rfl c.gone ?_
    rename_i f k
    have apart : k ≠ j := by
      rintro rfl
      obtain ⟨u, at_k, own⟩ := x.known _ _ known
      obtain rfl := Option.some.inj (target.symm.trans at_k)
      rw [← own, c.gone] at known
      cases known
    simp [handed, setRun, apart]
  | enqueue run at_k =>
    refine moves at_k rfl c.gone rfl ?_
    rintro rfl rfl
    have idle := c.idle
    simp [handed, run] at idle
  | remove run =>
    refine stays rfl ?_ rfl
    have gone := c.gone
    rename_i k id
    by_cases same : tc.id = id <;> simp [removeConn, setRun, same, gone]
  | requestEnter run at_k | requestCancel run at_k =>
    refine moves at_k rfl c.gone rfl ?_
    rintro rfl rfl
    exact ⟨rfl, c.closed, rfl, rfl, c.hand⟩
  | requestClose run at_k =>
    refine moves at_k rfl c.gone rfl ?_
    rintro rfl rfl
    exact ⟨rfl, rfl, rfl, rfl, c.hand⟩
  | cleanup run =>
    refine ⟨tc, ?_, rfl, c.closed, c.wrote, c.queue, c.hand, rfl, rfl⟩
    simp [cleanup, target, c.gone]
  | readNone fail at_k | readSome fail at_k | readSend at_k | readSendDone at_k =>
    refine moves at_k rfl c.gone c.idle ?_
    rintro rfl rfl
    exact ⟨rfl, c.closed, rfl, rfl, c.hand⟩
  | take at_k writer queue =>
    refine moves at_k rfl c.gone c.idle ?_
    rintro rfl rfl
    rw [c.queue] at queue
    cases queue
  | write ok at_k writer =>
    refine moves at_k rfl c.gone c.idle ?_
    rintro rfl rfl
    have hand := c.hand
    simp [inWriter, writer] at hand
  | writerDone at_k writer =>
    refine moves at_k rfl c.gone c.idle ?_
    rintro rfl rfl
    exact ⟨rfl, c.closed, rfl, rfl, rfl⟩
  | notifyEnter at_k pc | notifyLate at_k pc | notifyCancel at_k pc | notifySend at_k pc
  | notifySendDone at_k pc =>
    refine moves at_k rfl c.gone c.idle ?_
    rintro rfl rfl
    refine ⟨by simp, by simpa using c.closed, by simp, by simp, hand_setNotify ?_ _ _⟩
    exact c.hand
  | notifyClose at_k pc =>
    refine moves at_k rfl c.gone c.idle ?_
    rintro rfl rfl
    refine ⟨by simp, by simp, by simp, by simp, hand_setNotify ?_ _ _⟩
    exact c.hand
  | notifyRemove at_k pc =>
    have gone := c.gone
    rename_i side k u
    refine moves at_k rfl ?_ c.idle ?_
    · by_cases same : tc.id = u.id
      · simp [removeConn, same]
      · simp [removeConn, same, gone]
    · rintro rfl rfl
      exact ⟨by simp, by simpa using c.closed, by simp, by simp, hand_setNotify c.hand _ _⟩

/-- `Run` is through with the Close frame or goes on with it. -/
theorem Closing.step {s s' : Server} {a : Action} {out : List VFrame} {sent : List Bytes} {j : Nat}
    {tc : TargetConn} (c : Closing s sent j tc) (x : Indexed s) (single : s.Single tc.id)
    (opened : s.Opened tc.id) (serves : s.Serves tc.id a) (drained : s.Drained tc.id a)
    (target : s.tcs[j]? = some tc) (h : Steps s a s' out) :
    ∃ tc', s'.tcs[j]? = some tc' ∧ tc'.id = tc.id ∧ Closing s' sent j tc' := by
  by_cases moves : a = .run
  · subst moves
    cases c with
    | received run cmd own entry calm once all =>
      cases h with
      | dispatchClose run' cmd' known =>
        obtain rfl := RunPc.dispatch.inj (run.symm.trans run')
        rw [own, entry] at known
        obtain rfl := Option.some.inj known
        exact ⟨tc, target, rfl, .removing (by rw [own]; rfl) calm once all⟩
      | idle why =>
        cases why with
        | unknown run' none =>
          obtain rfl := RunPc.dispatch.inj (run.symm.trans run')
          rw [own, entry] at none
          cases none
        | other run' data close =>
          obtain rfl := RunPc.dispatch.inj (run.symm.trans run')
          exact absurd cmd close
        | full run' | late run' => cases run.symm.trans run'
      | dispatchConnect run' cmd' | dispatchData run' cmd' | dispatchPing run' cmd' =>
        obtain rfl := RunPc.dispatch.inj (run.symm.trans run')
        cases cmd.symm.trans cmd'
      | top run' | enqueue run' | remove run' | requestEnter run' | requestCancel run'
      | requestClose run' | ping run' | cleanup run' => cases run.symm.trans run'
    | removing run calm once all =>
      cases h with
      | remove run' =>
        obtain ⟨rfl, rfl⟩ := RunPc.remove.inj (run.symm.trans run')
        exact ⟨tc, target, rfl, .entering rfl (by simp [removeConn, setRun]) calm once all⟩
      | idle why =>
        cases why with
        | unknown run' | other run' | full run' | late run' => cases run.symm.trans run'
      | top run' | dispatchConnect run' | dispatchData run' | dispatchClose run'
      | dispatchPing run' | enqueue run' | requestEnter run' | requestCancel run'
      | requestClose run' | ping run' | cleanup run' => cases run.symm.trans run'
    | entering run gone calm once all =>
      cases h with
      | requestEnter run' target' =>
        obtain ⟨rfl, -⟩ := RunPc.closing.inj (run.symm.trans run')
        refine target_set target' target (fun other => absurd rfl other) ?_
        rintro - rfl
        exact ⟨rfl, .inside rfl (by simp) gone ⟨calm.unclosed, calm.reader, calm.outside⟩ all⟩
      | idle why =>
        cases why with
        | late run' target' finished =>
          obtain ⟨rfl, -⟩ := RunPc.closing.inj (run.symm.trans run')
          obtain rfl := Option.some.inj (target.symm.trans target')
          cases once.symm.trans finished
        | unknown run' | other run' | full run' => cases run.symm.trans run'
      | top run' | dispatchConnect run' | dispatchData run' | dispatchClose run'
      | dispatchPing run' | enqueue run' | remove run' | requestCancel run'
      | requestClose run' | ping run' | cleanup run' => cases run.symm.trans run'
    | inside run entered gone calm all =>
      cases h with
      | requestCancel run' target' =>
        obtain ⟨rfl, -⟩ := RunPc.closing.inj (run.symm.trans run')
        refine target_set target' target (fun other => absurd rfl other) ?_
        rintro - rfl
        exact ⟨rfl, .inside rfl (by simp) gone ⟨calm.unclosed, calm.reader, calm.outside⟩ all⟩
      | requestClose run' target' =>
        obtain ⟨rfl, rfl⟩ := RunPc.closing.inj (run.symm.trans run')
        refine target_set target' target (fun other => absurd rfl other) ?_
        rintro - rfl
        obtain ⟨queue, hand⟩ := drained _ (by simp [shutting, run, target]) rfl
        rw [accepted, hand, queue, List.append_nil, List.append_nil] at all
        exact ⟨rfl, .shut ⟨rfl, all, queue, hand, gone, rfl⟩⟩
      | requestEnter run' =>
        obtain ⟨-, rfl⟩ := RunPc.closing.inj (run.symm.trans run')
        exact absurd rfl entered
      | idle why =>
        cases why with
        | late run' =>
          obtain ⟨-, rfl⟩ := RunPc.closing.inj (run.symm.trans run')
          exact absurd rfl entered
        | unknown run' | other run' | full run' => cases run.symm.trans run'
      | top run' | dispatchConnect run' | dispatchData run' | dispatchClose run'
      | dispatchPing run' | enqueue run' | remove run' | ping run' | cleanup run' =>
        cases run.symm.trans run'
    | shut done =>
      obtain ⟨tc', target', same, after⟩ := done.step x single opened target h
      exact ⟨tc', target', same, .shut after⟩
  · have follow : s.handles tc.id = true → tc.Calm →
        (∀ tc', Kept tc tc' → s'.run = s.run → s'.conns tc.id = s.conns tc.id →
          Closing s' sent j tc') →
        ∃ tc', s'.tcs[j]? = some tc' ∧ tc'.id = tc.id ∧ Closing s' sent j tc' := by
      intro handles calm after
      obtain ⟨run, conns, tc', target', kept⟩ :=
        kept_step x single opened serves target calm handles moves h
      exact ⟨tc', target', kept.id, after tc' kept run conns⟩
    cases c with
    | received run cmd own entry calm once all =>
      refine follow (by simp [handles, run, cmd, own]) calm fun tc' kept run' conns => ?_
      exact .received (run'.trans run) cmd (own.trans kept.id.symm)
        (by rw [kept.id, conns, entry]) kept.calm (kept.once.trans once) (kept.all.trans all)
    | removing run calm once all =>
      refine follow (by simp [handles, run]) calm fun tc' kept run' conns => ?_
      exact .removing (by rw [run', run, kept.id]) kept.calm (kept.once.trans once)
        (kept.all.trans all)
    | entering run gone calm once all =>
      refine follow (by simp [handles, run, target]) calm fun tc' kept run' conns => ?_
      exact .entering (run'.trans run) (by rw [kept.id, conns, gone]) kept.calm
        (kept.once.trans once) (kept.all.trans all)
    | inside run entered gone calm all =>
      refine follow (by simp [handles, run, target]) calm fun tc' kept run' conns => ?_
      exact .inside (run'.trans run) entered (by rw [kept.id, conns, gone]) kept.calm
        (kept.all.trans all)
    | shut done =>
      obtain ⟨tc', target', same, after⟩ := done.step x single opened target h
      exact ⟨tc', target', same, .shut after⟩

theorem Closing.whole {s : Server} {sent : List Bytes} {j : Nat} {tc : TargetConn}
    (c : Closing s sent j tc) (closed : tc.connClosed = true) : tc.wrote = sent := by
  cases c with
  | shut done => exact done.wrote
  | received _ _ _ _ calm | removing _ calm | entering _ _ calm | inside _ _ _ calm =>
    cases calm.unclosed.symm.trans closed

theorem Closing.done {s : Server} {sent : List Bytes} {j : Nat} {tc : TargetConn}
    (c : Closing s sent j tc) (back : s.run = .top ∨ s.run = .reading) : tc.connClosed = true := by
  cases c with
  | shut done => exact done.closed
  | received run | removing run | entering run | inside run => simp [run] at back

end Server

end EspNetwork.Proxy
