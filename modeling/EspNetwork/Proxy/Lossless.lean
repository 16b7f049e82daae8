import Mathlib
import EspNetwork.Proxy.Flow
import EspNetwork.Proxy.Table

/-!
# Losing no chunk on the way through the server

`enqueue` drops a chunk when the queue of its target is full or its context is done, and
`writeFrame` drops one when the server is done. If neither happens while later chunks can still
pass, then what a target was written is a prefix of what came for it, and what goes out to the
relay is what the target returned. A chunk that comes for an id without an entry is lost as well,
but then the connection was opened and taken out of the table, and nothing follows.
-/

namespace EspNetwork.Proxy

open Serial (Byte Bytes)
open Relay

/-- `writeLoop` goes on. -/
def TargetConn.live (tc : TargetConn) : Bool :=
  match tc.writer with
  | .select | .write _ => true
  | .closing _ | .exited => false

namespace Server

/-- The target `Run` has a chunk for. -/
def holding (s : Server) : Option TargetConn :=
  match s.run with
  | .enqueue j _ => s.tcs[j]?
  | _ => none

/-- The target of a chunk that a step drops while later chunks can still pass: `enqueue` finds the
queue full or the context done and `writeLoop` goes on, or `writeFrame` gives up a chunk of
`readLoop` and the `writeLoop` of the server goes on. -/
def drops (s : Server) : Action → Option TargetConn
  | .run => s.holding.filter fun tc => targetWriteQ ≤ tc.writeQ.length ∧ tc.live
  | .runDone => s.holding.filter TargetConn.live
  | .readerDone j => if s.writing then s.tcs[j]? else none
  | _ => none

/-- The condition on a step, for one id. -/
def NoHole (s : Server) (id : UInt32) (a : Action) : Prop := ∀ tc, s.drops a = some tc → tc.id ≠ id

theorem NoHole.full {s : Server} {id : UInt32} (noHole : NoHole s id .run) {j : Nat} {data : Bytes}
    {tc : TargetConn} (run : s.run = .enqueue j data) (target : s.tcs[j]? = some tc)
    (full : targetWriteQ ≤ tc.writeQ.length) (own : tc.id = id) : tc.live = false := by
  by_contra live
  refine noHole tc ?_ own
  simpa [drops, holding, run, target, full] using live

theorem NoHole.cancelled {s : Server} {id : UInt32} (noHole : NoHole s id .runDone) {j : Nat}
    {data : Bytes} {tc : TargetConn} (run : s.run = .enqueue j data) (target : s.tcs[j]? = some tc)
    (own : tc.id = id) : tc.live = false := by
  by_contra live
  refine noHole tc ?_ own
  simpa [drops, holding, run, target] using live

theorem NoHole.readerDone {s : Server} {id : UInt32} {j : Nat} (noHole : NoHole s id (.readerDone j))
    {tc : TargetConn} (target : s.tcs[j]? = some tc) (own : tc.id = id) : s.writing = false := by
  by_contra live
  refine noHole tc ?_ own
  simp [drops, target, live]

/-! ## Opened connections -/

/-- The target of this id was dialled and has been registered. -/
def Opened (s : Server) (id : UInt32) : Prop := ∃ j, s.HasId j id ∧ j ∉ s.pending

/-- An acknowledgement is due only after the target was registered. -/
structure Acks (s : Server) : Prop where
  once : s.pending.Nodup
  due : ∀ h ∈ s.handlers, ∀ j, h.pc = .ack j → j ∉ s.pending
  refused : ∀ h ∈ s.handlers, ∀ status, h.pc = .reply status → status ≠ statusOK
  queued : ∀ id, [statusOK] ∈ chunksOf cmdProxyConnect id s.writeQ → s.Opened id

theorem Opened.step {s s' : Server} {a : Action} {out : List VFrame} {id : UInt32}
    (opened : s.Opened id) (h : Steps s a s' out) : s'.Opened id := by
  obtain ⟨j, known, added⟩ := opened
  refine ⟨j, known.step h, ?_⟩
  cases h with
  | malformed handler pc | wellFormed handler pc | reply handler pc | ack handler pc
  | dialFailed handler pc | replyDone handler pc | ackDone handler pc =>
    rwa [(pending_same handler rfl (by rw [pc]; rfl) rfl).mem_iff]
  | add handler pc =>
    exact fun waits => added ((pending_add handler pc).mem_iff.mpr (List.mem_cons_of_mem _ waits))
  | dialConn handler pc =>
    rw [(pending_dial handler pc _).mem_iff, List.mem_cons, not_or]
    refine ⟨?_, added⟩
    rintro rfl
    obtain ⟨tc, target, -⟩ := known
    simp at target
  | dispatchConnect => simpa [pending, setRun, addHandler, HandlerPc.adding] using added
  | _ => exact added

theorem Acks.congr {s s' : Server} (k : Acks s) (handlers : s'.handlers = s.handlers)
    (queued : ∀ id, [statusOK] ∈ chunksOf cmdProxyConnect id s'.writeQ → s'.Opened id) :
    Acks s' := by
  have pending : s'.pending = s.pending := by rw [pending, pending, handlers]
  exact ⟨pending ▸ k.once, by rw [handlers, pending]; exact k.due, handlers ▸ k.refused, queued⟩

/-- A handler goes on that neither has dialled nor is about to. -/
theorem Acks.setHandler {s s' : Server} (k : Acks s) {i : Nat} {h h' : Handler}
    (handler : s.handlers[i]? = some h) (handlers : s'.handlers = s.handlers.set i h')
    (before : h.pc.adding = none) (after : h'.pc.adding = none) (due : ∀ j, h'.pc ≠ .ack j)
    (refused : ∀ status, h'.pc = .reply status → status ≠ statusOK)
    (queued : ∀ id, [statusOK] ∈ chunksOf cmdProxyConnect id s'.writeQ → s'.Opened id) :
    Acks s' := by
  have same := pending_same handler handlers before after
  refine ⟨same.nodup_iff.mpr k.once, fun g mem j pc => ?_, fun g mem status pc => ?_, queued⟩
  · rcases List.mem_or_eq_of_mem_set (handlers ▸ mem) with old | rfl
    · rw [same.mem_iff]
      exact k.due g old j pc
    · exact absurd pc (due j)
  · rcases List.mem_or_eq_of_mem_set (handlers ▸ mem) with old | rfl
    · exact k.refused g old status pc
    · exact refused status pc

/-- Another answer than an acknowledgement is queued. -/
theorem queued_put {s s' : Server} {f : VFrame} (k : Acks s) (queue : s'.writeQ = s.writeQ ++ [f])
    (opened : ∀ id, s.Opened id → s'.Opened id)
    (granted : f.cmd = cmdProxyConnect → f.data = [statusOK] → s'.Opened f.connID) (id : UInt32)
    (mem : [statusOK] ∈ chunksOf cmdProxyConnect id s'.writeQ) : s'.Opened id := by
  rw [queue, chunksOf_append, List.mem_append, chunksOf_singleton] at mem
  rcases mem with old | new
  · exact opened id (k.queued id old)
  · split at new
    case isTrue own =>
      obtain ⟨cmd, rfl⟩ := own
      exact granted cmd (List.mem_singleton.mp new).symm
    case isFalse => cases new

theorem Acks.step {s s' : Server} {a : Action} {out : List VFrame} (k : Acks s) (x : Indexed s)
    (h : Steps s a s' out) : Acks s' := by
  have opened : ∀ id, s.Opened id → s'.Opened id := fun id o => o.step h
  have kept : s'.writeQ = s.writeQ → ∀ id, [statusOK] ∈ chunksOf cmdProxyConnect id s'.writeQ →
      s'.Opened id := fun queue id mem => opened id (k.queued id (queue ▸ mem))
  cases h with
  | malformed handler pc =>
    refine k.setHandler handler rfl (by rw [pc]; rfl) rfl (by simp) ?_ (kept rfl)
    rintro status ⟨⟩
    decide
  | dialFailed handler pc =>
    refine k.setHandler handler rfl (by rw [pc]; rfl) rfl (by simp) ?_ (kept rfl)
    rintro status ⟨⟩
    decide
  | wellFormed handler pc | replyDone handler pc | ackDone handler pc =>
    exact k.setHandler handler rfl (by rw [pc]; rfl) rfl (by simp) (by simp) (kept rfl)
  | reply handler pc =>
    refine k.setHandler handler rfl (by rw [pc]; rfl) rfl (by simp) (by simp) ?_
    refine queued_put k rfl opened fun _ same => ?_
    have refused := k.refused _ (List.mem_of_getElem? handler) _ pc
    exact absurd (by simpa using same) refused
  | ack handler pc =>
    refine k.setHandler handler rfl (by rw [pc]; rfl) rfl (by simp) (by simp) ?_
    refine queued_put k rfl opened fun _ _ => opened _ ?_
    have mem := List.mem_of_getElem? handler
    exact ⟨_, x.dialled _ mem _ (.inr pc), k.due _ mem _ pc⟩
  | add handler pc =>
    have was := pending_add handler pc
    obtain ⟨fresh, nodup⟩ := List.nodup_cons.mp (was.nodup_iff.mp k.once)
    refine ⟨nodup, fun g mem j at_ack => ?_, fun g mem status at_reply => ?_, kept rfl⟩
    · rcases List.mem_or_eq_of_mem_set mem with old | rfl
      · exact fun waits => k.due g old j at_ack (was.mem_iff.mpr (List.mem_cons_of_mem _ waits))
      · obtain rfl := HandlerPc.ack.inj at_ack
        exact fresh
    · rcases List.mem_or_eq_of_mem_set mem with old | rfl
      · exact k.refused g old status at_reply
      · cases at_reply
  | dialConn handler pc =>
    rename_i i h host port
    have is := pending_dial handler pc (newTargetConn h.id host port)
    refine ⟨?_, fun g mem j at_ack => ?_, fun g mem status at_reply => ?_, kept rfl⟩
    · rw [is.nodup_iff, List.nodup_cons]
      exact ⟨x.fresh.1, k.once⟩
    · rcases List.mem_or_eq_of_mem_set mem with old | rfl
      · rw [is.mem_iff, List.mem_cons, not_or]
        refine ⟨?_, k.due g old j at_ack⟩
        rintro rfl
        obtain ⟨tc, target, -⟩ := x.dialled g old _ (.inr at_ack)
        simp at target
      · cases at_ack
    · rcases List.mem_or_eq_of_mem_set mem with old | rfl
      · exact k.refused g old status at_reply
      · cases at_reply
  | dispatchConnect =>
    have same : ∀ new : Handler, new.pc = .start → ((s.addHandler new).setRun .top).pending =
        s.pending := by
      intro new pc
      simp [pending, setRun, addHandler, pc, HandlerPc.adding]
    refine ⟨?_, fun g mem j at_ack => ?_, fun g mem status at_reply => ?_, kept rfl⟩
    · rw [same _ rfl]
      exact k.once
    · rw [same _ rfl]
      rcases List.mem_append.mp mem with old | new
      · exact k.due g old j at_ack
      · obtain rfl := List.mem_singleton.mp new
        cases at_ack
    · rcases List.mem_append.mp mem with old | new
      · exact k.refused g old status at_reply
      · obtain rfl := List.mem_singleton.mp new
        cases at_reply
  | ping | heartbeat =>
    refine k.congr rfl (queued_put k rfl opened fun cmd => ?_)
    simp [cmdProxyPing, cmdProxyConnect] at cmd
  | readSend =>
    refine k.congr rfl (queued_put k rfl opened fun cmd => ?_)
    simp [cmdProxyData, cmdProxyConnect] at cmd
  | notifySend =>
    refine k.congr rfl (queued_put k rfl opened fun cmd => ?_)
    simp [cmdProxyClose, cmdProxyConnect] at cmd
  | drain queue =>
    refine k.congr rfl fun id mem => opened id (k.queued id ?_)
    rw [queue, chunksOf_cons]
    exact List.mem_append_right _ mem
  | _ => exact k.congr rfl (kept rfl)

/-- An acknowledgement that goes out is that of an opened connection. -/
theorem Acks.out {s s' : Server} {a : Action} {out : List VFrame} (k : Acks s)
    (h : Steps s a s' out) {id : UInt32} (mem : [statusOK] ∈ chunksOf cmdProxyConnect id out) :
    s.Opened id := by
  cases h with
  | drain queue =>
    refine k.queued id ?_
    rw [queue, chunksOf_cons]
    exact List.mem_append_left _ mem
  | _ => simp at mem

/-! ## Towards the target -/

/-- The chunk `Run` is about to enqueue for a target. -/
def handed (s : Server) (j : Nat) : List Bytes :=
  match s.run with
  | .enqueue k data => if k = j then [data] else []
  | _ => []

/-- How the chunks `written` on the other side, of which those in `us` are still to come, stand to
a target: as long as it is in the table all of them are accounted for, and without an entry it has
got, or will get, the first of them. -/
structure Line (s : Server) (us : List VFrame) (written : List Bytes) (j : Nat) (tc : TargetConn) :
    Prop where
  live : tc.live → accepted tc ++ s.handed j <+: written
  listed : tc.live → Listed s j →
    accepted tc ++ (s.inRun tc.id s.run ++ chunksOf cmdProxyData tc.id us) = written
  wrote : tc.wrote <+: written

theorem Line.frame {s s' : Server} {us us' : List VFrame} {written : List Bytes} {j : Nat}
    {tc : TargetConn} (l : Line s us written j tc) (handed : s'.handed j = s.handed j)
    (listed : Listed s' j → Listed s j)
    (rest : Listed s' j → s'.inRun tc.id s'.run ++ chunksOf cmdProxyData tc.id us' =
      s.inRun tc.id s.run ++ chunksOf cmdProxyData tc.id us) : Line s' us' written j tc where
  live h := handed ▸ l.live h
  listed h entry := by
    rw [rest entry]
    exact l.listed h (listed entry)
  wrote := l.wrote

/-- The target takes nothing in. -/
theorem Line.moved {s : Server} {us : List VFrame} {written : List Bytes} {j : Nat}
    {tc tc' : TargetConn} (l : Line s us written j tc) (id : tc'.id = tc.id)
    (live : tc'.live → tc.live) (same : accepted tc' = accepted tc)
    (wrote : tc'.wrote <+: written) : Line s us written j tc' where
  live h := same ▸ l.live (live h)
  listed h entry := by
    rw [same, id]
    exact l.listed (live h) entry
  wrote := wrote

/-- What was written is the first part of what was accepted. -/
theorem Line.wrote_of_live {s : Server} {us : List VFrame} {written : List Bytes} {j : Nat}
    {tc : TargetConn} (l : Line s us written j tc) (live : tc.live) :
    tc.wrote ++ inWriter tc <+: written := by
  have all := l.live live
  rw [accepted, List.append_assoc (tc.wrote ++ inWriter tc)] at all
  exact (List.prefix_append _ _).trans all

/-- Nothing was written on the other side, so nothing is on its way. -/
theorem line_of_nothing {s : Server} {us : List VFrame} {id : UInt32} (single : s.Single id)
    (nothing : s.upOf id ++ chunksOf cmdProxyData id us = []) {j : Nat} {tc : TargetConn}
    (target : s.tcs[j]? = some tc) (own : tc.id = id) : Line s us [] j tc := by
  subst own
  obtain ⟨up, rest⟩ := List.append_eq_nil_iff.mp nothing
  obtain ⟨taken, run⟩ := List.append_eq_nil_iff.mp up
  rw [view_of_target _ single target] at taken
  have handed : s.handed j = [] := by
    unfold Server.handed
    split
    case h_2 => rfl
    case h_1 k data at_run =>
      split
      · subst k
        simp [at_run, inRun, target] at run
      · rfl
  refine ⟨fun _ => by rw [taken, handed]; rfl, fun _ _ => by rw [taken, run, rest]; rfl, ?_⟩
  rw [accepted, List.append_assoc, List.append_eq_nil_iff] at taken
  rw [taken.1]

/-- The targets of one id; there is one at most. -/
def Lines (s : Server) (us : List VFrame) (written : List Bytes) (id : UInt32) : Prop :=
  ∀ (j : Nat) (tc : TargetConn), s.tcs[j]? = some tc → tc.id = id → Line s us written j tc

/-- `Run` moves and no target does. -/
theorem Lines.turn {s s' : Server} {us us' : List VFrame} {written : List Bytes} {id : UInt32}
    (lines : Lines s us written id) (tcs : s'.tcs = s.tcs)
    (listed : ∀ (j : Nat) (tc : TargetConn), s.tcs[j]? = some tc → tc.id = id → Listed s' j →
      Listed s j)
    (handed : ∀ (j : Nat) (tc : TargetConn), s.tcs[j]? = some tc → tc.id = id →
      s'.handed j = s.handed j)
    (rest : s.inRun id s'.run ++ chunksOf cmdProxyData id us' =
      s.inRun id s.run ++ chunksOf cmdProxyData id us) : Lines s' us' written id := by
  intro j tc target own
  rw [tcs] at target
  refine (lines j tc target own).frame (handed j tc target own) (listed j tc target own) fun _ => ?_
  subst own
  have same : s'.inRun tc.id s'.run = s.inRun tc.id s'.run := by
    cases s'.run <;> simp [inRun, tcs]
  rw [same, rest]

/-- Nothing that matters to a target moves. -/
theorem Lines.keep {s s' : Server} {us : List VFrame} {written : List Bytes} {id : UInt32}
    (lines : Lines s us written id) (tcs : s'.tcs = s.tcs) (run : s'.run = s.run)
    (listed : ∀ (j : Nat) (tc : TargetConn), s.tcs[j]? = some tc → tc.id = id → Listed s' j →
      Listed s j) : Lines s' us written id := by
  refine lines.turn tcs listed (fun j tc _ _ => ?_) (by rw [run])
  rw [handed, handed, run]

/-- One target moves, and `Run` does not. -/
theorem Lines.move {s s' : Server} {us : List VFrame} {written : List Bytes} {id : UInt32}
    (lines : Lines s us written id) (x : Indexed s) {j : Nat} {tc tc' : TargetConn}
    (target : s.tcs[j]? = some tc) (tcs : s'.tcs = s.tcs.set j tc') (run : s'.run = s.run)
    (listed : ∀ j, Listed s' j → Listed s j) (same : tc'.id = tc.id)
    (mine : Line s us written j tc → Line s us written j tc') : Lines s' us written id := by
  have after : ∀ i, s'.tcs[i]? = if i = j then some tc' else s.tcs[i]? := by
    intro i
    rw [tcs]
    exact setConn_target s target tc' i
  have stay : ∀ i k, s.HasId i k → s'.HasId i k := by
    intro i k known
    obtain ⟨u, at_i, own⟩ := known.setConn target same
    exact ⟨u, tcs ▸ at_i, own⟩
  have frame : ∀ i u, Line s us written i u → Line s' us written i u := by
    intro i u l
    refine l.frame (by rw [handed, handed, run]) (listed i) fun _ => ?_
    rw [run, inRun_of_hasId stay x.running]
  intro i u at_i own
  rw [after] at at_i
  split at at_i
  · subst i
    obtain rfl := Option.some.inj at_i
    exact frame j _ (mine (lines j tc target (same ▸ own)))
  · exact frame i u (lines i u at_i own)

/-- `enqueue` finds room. -/
theorem Lines.enqueue {s : Server} {us : List VFrame} {written : List Bytes} {id : UInt32}
    (lines : Lines s us written id) (single : s.Single id) {j : Nat} {data : Bytes}
    {tc tc' : TargetConn} (run : s.run = .enqueue j data) (target : s.tcs[j]? = some tc)
    (same : tc'.id = tc.id) (writer : tc'.writer = tc.writer) (wrote : tc'.wrote = tc.wrote)
    (more : accepted tc' = accepted tc ++ [data]) :
    Lines ((s.setConn j tc').setRun .top) us written id := by
  intro i u at_i own
  change (s.setConn j tc').tcs[i]? = some u at at_i
  rw [setConn_target s target] at at_i
  split at at_i
  · subst i
    obtain rfl := Option.some.inj at_i
    have l := lines j tc target (same ▸ own)
    have live : tc'.live → tc.live := by simp [TargetConn.live, writer]
    refine ⟨fun h => ?_, fun h entry => ?_, wrote ▸ l.wrote⟩
    · have all := l.live (live h)
      rw [handed, run] at all
      simpa [handed, setRun, more] using all
    · have all := l.listed (live h) entry
      rw [run, inRun, target] at all
      simpa [inRun, setRun, more, same] using all
  · rename_i other
    refine (lines i u at_i own).frame ?_ (fun h => h) fun _ => ?_
    · simp [handed, run, setRun, Ne.symm other]
    · have apart : tc.id ≠ u.id := fun h => other (single i j u tc at_i target own (h.trans own))
      simp [inRun, run, setRun, target, apart]

/-- `enqueue` drops its chunk. -/
theorem Lines.drop {s : Server} {us : List VFrame} {written : List Bytes} {id : UInt32}
    (lines : Lines s us written id) (single : s.Single id) {j : Nat} {data : Bytes}
    {tc : TargetConn} (run : s.run = .enqueue j data) (target : s.tcs[j]? = some tc)
    (ended : tc.id = id → tc.live = false) : Lines (s.setRun .top) us written id := by
  intro i u at_i own
  have l := lines i u at_i own
  by_cases same : i = j
  · subst same
    obtain rfl := Option.some.inj (target.symm.trans at_i)
    have stopped : ¬ tc.live := by simp [ended own]
    exact ⟨fun h => absurd h stopped, fun h => absurd h stopped, l.wrote⟩
  · refine l.frame ?_ (fun h => h) fun _ => ?_
    · simp [handed, run, setRun, Ne.symm same]
    · have apart : tc.id ≠ u.id := fun h => same (single i j u tc at_i target own (h.trans own))
      simp [inRun, run, setRun, target, apart]

/-- `dispatch` finds the target of a chunk. -/
theorem Lines.dispatch {s : Server} {us : List VFrame} {written : List Bytes} {id : UInt32}
    (lines : Lines s us written id) (x : Indexed s) (single : s.Single id) {f : VFrame} {j : Nat}
    (run : s.run = .dispatch f) (cmd : f.cmd = cmdProxyData) (known : s.conns f.connID = some j) :
    Lines (s.setRun (.enqueue j f.data)) us written id := by
  obtain ⟨tc, target, own⟩ := x.known _ _ known
  intro i u at_i own_u
  have l := lines i u at_i own_u
  by_cases same : i = j
  · subst same
    obtain rfl := Option.some.inj (target.symm.trans at_i)
    have rest : ∀ live, _ := fun live => l.listed live ⟨_, known⟩
    simp only [run, inRun, chunksOf_singleton, cmd, ← own, and_self, if_true] at rest
    refine ⟨fun live => ?_, fun live _ => ?_, l.wrote⟩
    · rw [← rest live, ← List.append_assoc]
      simp [handed, setRun]
    · simpa [inRun, setRun, target] using rest live
  · have apart : tc.id ≠ u.id := fun h => same (single i j u tc at_i target own_u (h.trans own_u))
    refine l.frame ?_ (fun h => h) fun _ => ?_
    · simp [handed, run, setRun, Ne.symm same]
    · simp [inRun, run, setRun, target, apart, chunksOf_singleton, ← own]

/-- Chunks for this id find no entry, so there are no further ones. -/
theorem Lines.unknown {s : Server} {us : List VFrame} {written : List Bytes} {id : UInt32}
    (lines : Lines s us written id) (x : Indexed s) {f : VFrame} (run : s.run = .dispatch f)
    (none : s.conns f.connID = none) : Lines (s.setRun .top) us written id := by
  intro j tc target own
  refine (lines j tc target own).frame ?_ (fun h => h) fun entry => ?_
  · simp [handed, run, setRun]
  · obtain ⟨id', entry⟩ := entry
    obtain ⟨u, at_j, rfl⟩ := x.known id' j entry
    obtain rfl := Option.some.inj (target.symm.trans at_j)
    have other : f.connID ≠ tc.id := by
      intro same
      rw [same] at none
      cases none.symm.trans entry
    simp [inRun, run, setRun, chunksOf_singleton, other]

theorem Lines.cleanup {s : Server} {us : List VFrame} {written : List Bytes} {id : UInt32}
    (lines : Lines s us written id) (run : s.run = .cleanup) : Lines s.cleanup us written id := by
  have empty : ∀ j, ¬ Listed s.cleanup j := by
    rintro j ⟨id, entry⟩
    simp [Server.cleanup] at entry
  intro j tc target own
  obtain ⟨u, before, rfl | rfl⟩ := cleanup_target target
  · refine (lines j tc before own).frame ?_ (fun h => absurd h (empty j)) fun h => absurd h (empty j)
    simp [handed, run, Server.cleanup]
  · have l := lines j u before own
    have closed : Line s us written j { u with ctxDone := true, connClosed := true } :=
      l.moved rfl (fun h => h) rfl l.wrote
    refine closed.frame ?_ (fun h => absurd h (empty j)) fun h => absurd h (empty j)
    simp [handed, run, Server.cleanup]

theorem listed_of_removeConn {s : Server} {id : UInt32} {j : Nat}
    (h : Listed (s.removeConn id) j) : Listed s j := by
  obtain ⟨k, entry⟩ := h
  exact ⟨k, known_of_removeConn entry⟩

/-- A goroutine inside `closeNotify` takes nothing in and is not `writeLoop` at its work. -/
theorem Line.notify {s : Server} {us : List VFrame} {written : List Bytes} {j : Nat}
    {tc tc₁ : TargetConn} {side : Side} {pc : NotifyPc} {next : Option NotifyPc}
    (l : Line s us written j tc) (at_pc : tc.notifyPc side = some pc) (id : tc₁.id = tc.id)
    (writer : tc₁.writer = tc.writer) (wrote : tc₁.wrote = tc.wrote)
    (queue : tc₁.writeQ = tc.writeQ) : Line s us written j (tc₁.setNotify side next) := by
  refine l.moved (by simp [id]) (fun live => ?_) (accepted_setNotify writer wrote queue at_pc) ?_
  · cases side with
    | reader => cases next <;> simpa [TargetConn.live, TargetConn.setNotify, writer] using live
    | writer => cases next <;> simp [TargetConn.live, TargetConn.setNotify] at live
  · simpa [wrote] using l.wrote

/-- The target of an opened connection is not registered again. -/
theorem Opened.not_add {s : Server} {id : UInt32} (opened : s.Opened id) (x : Indexed s)
    (single : s.Single id) {i j : Nat} {h : Handler} (handler : s.handlers[i]? = some h)
    (pc : h.pc = .add j) : h.id ≠ id := by
  intro own
  obtain ⟨k, ⟨tc, target, own_k⟩, added⟩ := opened
  obtain ⟨u, at_j, own_j⟩ := x.dialled h (List.mem_of_getElem? handler) j (.inl pc)
  obtain rfl := single k j tc u target at_j own_k (own_j.trans own)
  refine added (List.mem_filterMap.mpr ⟨h, List.mem_of_getElem? handler, ?_⟩)
  rw [pc]
  rfl

/-- `Run` closes a target. -/
theorem Lines.request {s s' : Server} {us : List VFrame} {written : List Bytes} {id : UInt32}
    (lines : Lines s us written id) {j : Nat} {pc : RequestPc} {tc tc' : TargetConn}
    (run : s.run = .closing j pc) (target : s.tcs[j]? = some tc) (tcs : s'.tcs = s.tcs.set j tc')
    (conns : s'.conns = s.conns) (handed : ∀ i, s'.handed i = [])
    (inRun : ∀ k, s'.inRun k s'.run = []) (same : tc'.id = tc.id) (writer : tc'.writer = tc.writer)
    (queue : tc'.writeQ = tc.writeQ) (wrote : tc'.wrote = tc.wrote) : Lines s' us written id := by
  have frame : ∀ i u, Line s us written i u → Line s' us written i u := by
    intro i u l
    refine l.frame ?_ (by rw [Listed, conns]; exact fun h => h) fun _ => ?_
    · rw [handed i, Server.handed, run]
    · rw [inRun, run]
      rfl
  intro i u at_i own
  have after : s'.tcs[i]? = if i = j then some tc' else s.tcs[i]? := by
    rw [tcs]
    exact setConn_target s target tc' i
  rw [after] at at_i
  split at at_i
  · subst i
    obtain rfl := Option.some.inj at_i
    have l := lines j tc target (same ▸ own)
    refine frame j _ (l.moved same ?_ ?_ (wrote ▸ l.wrote))
    · simp [TargetConn.live, writer]
    · simp [accepted, inWriter, writer, queue, wrote]
  · exact frame i u (lines i u at_i own)

/-- A target of another id is registered. -/
theorem Lines.add {s : Server} {us : List VFrame} {written : List Bytes} {id : UInt32} {i j : Nat}
    {h h' : Handler} (lines : Lines s us written id) (x : Indexed s) (single : s.Single id)
    (opened : s.Opened id) (handler : s.handlers[i]? = some h) (pc : h.pc = .add j) :
    Lines ((s.addConn h.id j).setHandler i h') us written id := by
  refine lines.keep rfl rfl fun k u target own => ?_
  rintro ⟨id', entry⟩
  by_cases same : id' = h.id
  · subst same
    obtain rfl : j = k := by simpa [addConn] using entry
    obtain ⟨v, at_j, own'⟩ := x.dialled h (List.mem_of_getElem? handler) j (.inl pc)
    obtain rfl := Option.some.inj (target.symm.trans at_j)
    exact absurd (own'.symm.trans own) (opened.not_add x single handler pc)
  · exact ⟨id', by simpa [addConn, same] using entry⟩

/-- A new target is one of another id. -/
theorem Lines.dial {s : Server} {us : List VFrame} {written : List Bytes} {id : UInt32} {i : Nat}
    {h : Handler} {new : TargetConn} (lines : Lines s us written id) (x : Indexed s)
    (single' : ((s.addTarget new).setHandler i h).Single id) (opened : s.Opened id) :
    Lines ((s.addTarget new).setHandler i h) us written id := by
  obtain ⟨k, known, -⟩ := opened
  intro j tc target own
  rcases addTarget_target target with old | ⟨rfl, -⟩
  · refine (lines j tc old own).frame rfl (fun h => h) fun _ => ?_
    have same : (s.addTarget new).inRun tc.id s.run = s.inRun tc.id s.run :=
      inRun_of_hasId (fun _ _ h => h.addTarget new) x.running tc.id
    exact congrArg (· ++ _) same
  · obtain ⟨u, at_k, own_k⟩ := known
    obtain ⟨v, at_k', own_k'⟩ := (hasId_of_target at_k).addTarget new
    have same := single' _ _ _ _ target at_k' own (own_k'.trans own_k)
    have := (List.getElem?_eq_some_iff.mp at_k).1
    omega

theorem lines_step {s s' : Server} {a : Action} {out us : List VFrame} {written : List Bytes}
    {id : UInt32} (h : Steps s a s' out) (x : Indexed s) (single : s.Single id)
    (single' : s'.Single id) (noHole : NoHole s id a) (opened : s.Opened id)
    (lines : Lines s (a.input ++ us) written id) : Lines s' us written id := by
  cases h with
  | malformed | wellFormed | reply | ack | dialFailed | replyDone | ackDone | dialPanicked
  | heartbeat | drain | flushFailed | drainDone => exact lines.keep rfl rfl fun _ _ _ _ h => h
  | add handler pc => exact lines.add x single opened handler pc
  | dialConn handler pc => exact lines.dial x single' opened
  | top run =>
    refine lines.turn rfl (fun _ _ _ _ h => h) (fun j tc _ _ => ?_) ?_
    · simp only [handed, run, setRun_fields]
      cases s.ctxDone <;> rfl
    · simp only [run, setRun_fields]
      cases s.ctxDone <;> rfl
  | frame f run =>
    refine lines.turn rfl (fun _ _ _ _ h => h) (fun j tc _ _ => ?_) ?_
    · simp [handed, run, setRun]
    · simp only [setRun_fields, inRun, run, Action.input, List.nil_append, List.singleton_append]
      rw [← chunksOf_cons]
  | relayLost run | ping run =>
    refine lines.turn rfl (fun _ _ _ _ h => h) (fun j tc _ _ => ?_) ?_
    · simp [handed, run, setRun]
    · simp [inRun, run, setRun, Action.input]
  | dispatchConnect run cmd =>
    refine lines.turn rfl (fun _ _ _ _ h => h) (fun j tc _ _ => ?_) ?_
    · simp [handed, run, setRun]
    · simp [inRun, run, setRun, Action.input, chunksOf_singleton, cmd, cmdProxyConnect, cmdProxyData]
  | dispatchPing run cmd =>
    refine lines.turn rfl (fun _ _ _ _ h => h) (fun j tc _ _ => ?_) ?_
    · simp [handed, run, setRun]
    · simp [inRun, run, setRun, Action.input, chunksOf_singleton, cmd, cmdProxyPing, cmdProxyData]
  | dispatchClose run cmd =>
    refine lines.turn rfl (fun _ _ _ _ h => h) (fun j tc _ _ => ?_) ?_
    · simp [handed, run, setRun]
    · simp [inRun, run, setRun, Action.input, chunksOf_singleton, cmd, cmdProxyClose, cmdProxyData]
  | dispatchData run cmd known => exact lines.dispatch x single run cmd known
  | idle why =>
    cases why with
    | unknown run none => exact lines.unknown x run none
    | full run target full =>
      exact lines.drop single run target fun own => noHole.full run target full own
    | cancelled run target =>
      exact lines.drop single run target fun own => noHole.cancelled run target own
    | other run data =>
      refine lines.turn rfl (fun _ _ _ _ h => h) (fun j tc _ _ => ?_) ?_
      · simp [handed, run, setRun]
      · simp [inRun, run, setRun, Action.input, chunksOf_singleton, data]
    | late run | pingDone run =>
      refine lines.turn rfl (fun _ _ _ _ h => h) (fun j tc _ _ => ?_) ?_
      · simp [handed, run, setRun]
      · simp [inRun, run, setRun, Action.input]
  | remove run =>
    refine lines.turn rfl (fun _ _ _ _ h => listed_of_removeConn h) (fun j tc _ _ => ?_) ?_
    · simp [handed, run, setRun]
    · simp [inRun, run, setRun, Action.input]
  | enqueue run target =>
    refine lines.enqueue single run target ?_ ?_ ?_ ?_
    iterate 3 rfl
    simp [accepted, inWriter]
  | requestEnter run target | requestCancel run target | requestClose run target =>
    refine lines.request run target rfl rfl (fun _ => rfl) (fun _ => rfl) ?_ ?_ ?_ ?_
    iterate 4 rfl
  | cleanup run => exact lines.cleanup run
  | readNone _ target | readSome _ target | readSend target | readSendDone target =>
    refine lines.move x target rfl rfl (fun _ h => h) ?_ fun l => l.moved ?_ (fun h => h) ?_ l.wrote
    iterate 3 rfl
  | take target writer queue =>
    refine lines.move x target rfl rfl (fun _ h => h) ?_ fun l => l.moved ?_ ?_ ?_ l.wrote
    · rfl
    · rfl
    · simp [TargetConn.live, writer]
    · simp [accepted, inWriter, writer, queue]
  | write ok target writer =>
    refine lines.move x target rfl rfl (fun _ h => h) ?_ fun l => l.moved ?_ ?_ ?_ ?_
    · rfl
    · rfl
    · simp [TargetConn.live, writer]
    · cases ok <;> simp [accepted, inWriter, writer]
    · simpa [inWriter, writer] using l.wrote_of_live (by simp [TargetConn.live, writer])
  | writerDone target writer =>
    refine lines.move x target rfl rfl (fun _ h => h) ?_ fun l => l.moved ?_ ?_ ?_ l.wrote
    · rfl
    · rfl
    · simp [TargetConn.live, writer]
    · simp [accepted, inWriter, writer]
  | notifyEnter target pc | notifyLate target pc | notifyCancel target pc | notifyClose target pc
  | notifySend target pc | notifySendDone target pc =>
    refine lines.move x target rfl rfl (fun _ h => h) (by simp) fun l => l.notify pc ?_ ?_ ?_ ?_
    iterate 4 rfl
  | notifyRemove target pc =>
    refine lines.move x target rfl rfl (fun _ h => listed_of_removeConn h) (by simp) fun l =>
      l.notify pc ?_ ?_ ?_ ?_
    iterate 4 rfl

/-! ## From the target -/

/-- The `writeLoop` of the server does not come back, and nothing goes out without it. -/
theorem writing_step {s s' : Server} {a : Action} {out : List VFrame} (h : Steps s a s' out) :
    (s'.writing = true → s.writing = true) ∧ (s'.writing = false → out = []) := by
  cases h with
  | flushFailed | drainDone => exact ⟨fun h => (Bool.false_ne_true h).elim, fun _ => rfl⟩
  | drain queue live =>
    refine ⟨fun h => h, fun ended => ?_⟩
    have same : s.writing = false := ended
    rw [live] at same
    cases same
  | _ => exact ⟨fun h => h, fun _ => rfl⟩

/-- As long as frames go out, all chunks of a target are among them or on their way. -/
theorem returns_all {s s' : Server} {a : Action} {out : List VFrame} {id : UInt32}
    (h : Steps s a s' out) (single : s.Single id) (single' : s'.Single id)
    (noHole : NoHole s id a) :
    ∃ new, view TargetConn.readLog s' id = view TargetConn.readLog s id ++ new ∧
      (s'.writing = true → s.writing = true ∧
        chunksOf cmdProxyData id out ++ s'.downOf id = s.downOf id ++ new) ∧
      (s'.writing = false → chunksOf cmdProxyData id out = []) := by
  obtain ⟨before, silent⟩ := writing_step h
  obtain ⟨lost, ⟨new, log, all⟩, losing⟩ := accounts_step h single single'
  refine ⟨new, log, fun live => ⟨before live, ?_⟩, fun ended => by rw [silent ended]; rfl⟩
  have none : lost = [] := by
    by_contra some
    obtain ⟨j, tc, rfl, target, own⟩ := losing some
    have ended := noHole.readerDone target own
    rw [before live] at ended
    cases ended
  rw [none, List.append_nil] at all
  exact all

end Server

end EspNetwork.Proxy
