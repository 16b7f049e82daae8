import Mathlib
import EspNetwork.Proxy.Server

/-!
# What a target sends and receives

The server seen from one id: the requests that may still dial a target for it, the chunks on
their way from that target to the relay, and those on their way from the relay to it. A step
adds what it takes from the relay and what the target returns, may lose chunks, and mixes
nothing with another id.
-/

namespace EspNetwork.Proxy

open Serial (Byte Bytes)
open Relay

/-- The frame an action takes from the relay. -/
def Action.input : Action → List VFrame
  | .frame f => [f]
  | _ => []

namespace Server

/-! ## One target for an id -/

def Single (s : Server) (id : UInt32) : Prop :=
  ∀ (i j : Nat) (t u : TargetConn), s.tcs[i]? = some t → s.tcs[j]? = some u →
    t.id = id → u.id = id → i = j

/-- The target dialled for an id. -/
def targetOf (s : Server) (id : UInt32) : Option TargetConn := s.tcs.find? fun tc => tc.id = id

/-- Some data of the target of an id. -/
def view {α : Type} (f : TargetConn → List α) (s : Server) (id : UInt32) : List α :=
  ((s.targetOf id).map f).getD []

theorem targetOf_eq_some {s : Server} {id : UInt32} (single : s.Single id) {tc : TargetConn} :
    s.targetOf id = some tc ↔ ∃ j : Nat, s.tcs[j]? = some tc ∧ tc.id = id := by
  constructor
  · intro found
    obtain ⟨j, target⟩ := List.mem_iff_getElem?.mp (List.mem_of_find?_eq_some found)
    exact ⟨j, target, by simpa using List.find?_some found⟩
  · rintro ⟨j, target, own⟩
    cases found : s.targetOf id with
    | none =>
      have absent := List.find?_eq_none.mp found tc (List.mem_of_getElem? target)
      simp [own] at absent
    | some u =>
      obtain ⟨i, other⟩ := List.mem_iff_getElem?.mp (List.mem_of_find?_eq_some found)
      have same := single i j u tc other target (by simpa using List.find?_some found) own
      rw [same] at other
      rw [← other, target]

theorem view_of_target {α : Type} {s : Server} {j : Nat} {tc : TargetConn} (f : TargetConn → List α)
    (single : s.Single tc.id) (target : s.tcs[j]? = some tc) : view f s tc.id = f tc := by
  rw [view, (targetOf_eq_some single).mpr ⟨j, target, rfl⟩]
  rfl

theorem view_congr {α : Type} {s s' : Server} (f : TargetConn → List α) (tcs : s'.tcs = s.tcs)
    (id : UInt32) : view f s' id = view f s id := by
  rw [view, targetOf, tcs]
  rfl

theorem view_setHandler {α : Type} (s : Server) (f : TargetConn → List α) (i : Nat) (h : Handler)
    (id : UInt32) : view f (s.setHandler i h) id = view f s id := rfl

theorem Single.setConn {s : Server} {id : UInt32} (single : s.Single id) {j : Nat}
    {tc tc' : TargetConn} (target : s.tcs[j]? = some tc) (same : tc'.id = tc.id) :
    (s.setConn j tc').Single id := by
  have before : ∀ {i : Nat} {t : TargetConn}, (s.setConn j tc').tcs[i]? = some t → t.id = id →
      ∃ u, s.tcs[i]? = some u ∧ u.id = id := by
    intro i t at_i own
    rw [setConn_target s target] at at_i
    split at at_i
    · subst i
      obtain rfl := Option.some.inj at_i
      exact ⟨tc, target, same ▸ own⟩
    · exact ⟨t, at_i, own⟩
  intro i k t u at_i at_k own_t own_u
  obtain ⟨t', ht, own_t'⟩ := before at_i own_t
  obtain ⟨u', hu, own_u'⟩ := before at_k own_u
  exact single i k t' u' ht hu own_t' own_u'

theorem targetOf_setConn {s : Server} {id : UInt32} (single : s.Single id) {j : Nat}
    {tc tc' : TargetConn} (target : s.tcs[j]? = some tc) (same : tc'.id = tc.id) :
    (s.setConn j tc').targetOf id = if tc.id = id then some tc' else s.targetOf id := by
  have here : (s.setConn j tc').tcs[j]? = some tc' := by rw [setConn_target s target, if_pos rfl]
  ext u
  rw [targetOf_eq_some (single.setConn target same)]
  split
  · rename_i own
    constructor
    · rintro ⟨i, at_i, own_u⟩
      obtain rfl := (single.setConn target same) i j u tc' at_i here own_u (same.trans own)
      exact here.symm.trans at_i
    · intro h
      obtain rfl := Option.some.inj h
      exact ⟨j, here, same.trans own⟩
  · rename_i other
    rw [targetOf_eq_some single]
    refine exists_congr fun i => and_congr_left fun own_u => ?_
    rw [setConn_target s target]
    split
    · subst i
      rw [target]
      constructor <;> intro h <;> obtain rfl := Option.some.inj h
      · exact absurd (same.symm.trans own_u) other
      · exact absurd own_u other
    · rfl

theorem view_setConn {α : Type} {s : Server} {id : UInt32} (f : TargetConn → List α)
    (single : s.Single id) {j : Nat} {tc tc' : TargetConn} (target : s.tcs[j]? = some tc)
    (same : tc'.id = tc.id) :
    view f (s.setConn j tc') id = if tc.id = id then f tc' else view f s id := by
  rw [view, targetOf_setConn single target same]
  split <;> rfl

/-- A target changes in what the view does not see. -/
theorem view_setConn_of_eq {α : Type} {s : Server} {id : UInt32} (f : TargetConn → List α)
    (single : s.Single id) {j : Nat} {tc tc' : TargetConn} (target : s.tcs[j]? = some tc)
    (same : tc'.id = tc.id) (unseen : f tc' = f tc) :
    view f (s.setConn j tc') id = view f s id := by
  rw [view_setConn f single target same]
  split
  · subst id
    rw [unseen, view_of_target f single target]
  · rfl

theorem view_addTarget {α : Type} (s : Server) (id : UInt32) (f : TargetConn → List α)
    (tc : TargetConn) (nothing : f tc = []) : view f (s.addTarget tc) id = view f s id := by
  unfold view targetOf addTarget
  rw [List.find?_append]
  cases s.tcs.find? fun tc => decide (tc.id = id) with
  | some u => rfl
  | none =>
    by_cases own : tc.id = id <;> simp [own, nothing]

theorem view_cleanup {α : Type} {s : Server} {id : UInt32} (f : TargetConn → List α)
    (single : s.Single id) (single' : s.cleanup.Single id)
    (unseen : ∀ tc : TargetConn, f { tc with ctxDone := true, connClosed := true } = f tc) :
    view f s.cleanup id = view f s id := by
  unfold view
  cases found : s.cleanup.targetOf id with
  | none =>
    cases before : s.targetOf id with
    | none => rfl
    | some tc =>
      obtain ⟨j, target, own⟩ := (targetOf_eq_some single).mp before
      obtain ⟨u, after, own'⟩ := (hasId_of_target target).cleanup
      rw [(targetOf_eq_some single').mpr ⟨j, after, own'.trans own⟩] at found
      cases found
  | some tc' =>
    obtain ⟨j, target', own'⟩ := (targetOf_eq_some single').mp found
    obtain ⟨tc, target, rfl | rfl⟩ := cleanup_target target'
    · rw [(targetOf_eq_some single).mpr ⟨j, target, own'⟩]
    · rw [(targetOf_eq_some single).mpr ⟨j, target, own'⟩]
      simp [unseen]

/-! ## Requests -/

/-- A handler that may still dial. -/
def asking (id : UInt32) (h : Handler) : Bool :=
  h.id = id && match h.pc with
    | .start | .dial .. => true
    | _ => false

/-- The connect request for this id in the hands of `Run`. -/
def runAsks (id : UInt32) : RunPc → List Bytes
  | .dispatch f => chunksOf cmdProxyConnect id [f]
  | _ => []

/-- Targets of this id there are or may come to be. -/
def tokens (s : Server) (id : UInt32) : Nat :=
  (runAsks id s.run).length + s.handlers.countP (asking id) + s.tcs.countP fun tc => tc.id = id

theorem countP_set_le {α : Type} (p : α → Bool) {l : List α} {i : Nat} {a b : α}
    (at_i : l[i]? = some a) (less : p b → p a) : (l.set i b).countP p ≤ l.countP p := by
  obtain ⟨hi, rfl⟩ := List.getElem?_eq_some_iff.mp at_i
  rw [List.countP_set hi]
  have held : p l[i] = true → 0 < l.countP p :=
    fun h => List.countP_pos_iff.mpr ⟨_, List.getElem_mem hi, h⟩
  grind

theorem countP_set_same {s : Server} {j : Nat} {tc tc' : TargetConn} (target : s.tcs[j]? = some tc)
    (same : tc'.id = tc.id) (id : UInt32) :
    ((s.tcs.set j tc').countP fun tc => tc.id = id) = s.tcs.countP fun tc => tc.id = id := by
  obtain ⟨hj, rfl⟩ := List.getElem?_eq_some_iff.mp target
  rw [List.countP_set hj, same]
  have held : s.tcs[j].id = id → 0 < s.tcs.countP fun tc => tc.id = id :=
    fun h => List.countP_pos_iff.mpr ⟨_, List.getElem_mem hj, by simpa using h⟩
  grind

/-- A handler that has dialled no longer asks. -/
theorem countP_dialled {s : Server} {i : Nat} {h : Handler} {host : Bytes} {port : UInt16}
    (handler : s.handlers[i]? = some h) (pc : h.pc = .dial host port) (id : UInt32) (j : Nat) :
    (s.handlers.set i { h with pc := .add j }).countP (asking id) + (if h.id = id then 1 else 0) =
      s.handlers.countP (asking id) := by
  obtain ⟨hi, rfl⟩ := List.getElem?_eq_some_iff.mp handler
  have held : s.handlers[i].id = id → 0 < s.handlers.countP (asking id) :=
    fun h => List.countP_pos_iff.mpr ⟨_, List.getElem_mem hi, by simp [asking, h, pc]⟩
  have before : asking id s.handlers[i] = decide (s.handlers[i].id = id) := by simp [asking, pc]
  have after : asking id { s.handlers[i] with pc := .add j } = false := by simp [asking]
  rw [List.countP_set hi, before, after]
  grind

theorem countP_cleanup (s : Server) (id : UInt32) :
    (s.cleanup.tcs.countP fun tc => tc.id = id) = s.tcs.countP fun tc => tc.id = id := by
  have ids : s.cleanup.tcs.map TargetConn.id = s.tcs.map TargetConn.id := by
    refine List.ext_getElem? fun j => ?_
    simp only [cleanup, List.getElem?_map, List.getElem?_mapIdx]
    cases s.tcs[j]? with
    | none => rfl
    | some tc =>
      by_cases entry : s.conns tc.id = some j <;> simp [entry]
  have counted : ∀ l : List TargetConn, (l.countP fun tc => tc.id = id) =
      (l.map TargetConn.id).countP fun k => k = id := by
    intro l
    rw [List.countP_map]
    rfl
  rw [counted, ids, counted]

theorem tokens_step {s s' : Server} {a : Action} {out : List VFrame} (h : Steps s a s' out)
    (id : UInt32) :
    s'.tokens id ≤ s.tokens id + (chunksOf cmdProxyConnect id a.input).length := by
  have moves : s'.handlers.countP (asking id) ≤ s.handlers.countP (asking id) →
      (s'.tcs.countP fun tc => tc.id = id) = (s.tcs.countP fun tc => tc.id = id) →
      (runAsks id s'.run).length ≤
        (runAsks id s.run).length + (chunksOf cmdProxyConnect id a.input).length →
      s'.tokens id ≤ s.tokens id + (chunksOf cmdProxyConnect id a.input).length := by
    unfold tokens
    omega
  have stays : ∀ {l : RunPc}, runAsks id l = [] → (runAsks id l).length ≤
      (runAsks id s.run).length + (chunksOf cmdProxyConnect id a.input).length := by
    intro l none
    simp [none]
  cases h with
  | malformed handler pc | reply handler pc | add handler pc | ack handler pc
  | dialFailed handler pc | replyDone handler pc | ackDone handler pc =>
    refine moves (countP_set_le (asking id) handler ?_) rfl (Nat.le_add_right _ _)
    simp [asking]
  | wellFormed handler pc =>
    refine moves (countP_set_le (asking id) handler ?_) rfl (Nat.le_add_right _ _)
    simp [asking, pc]
  | dialConn handler pc =>
    have dialled := countP_dialled handler pc id s.tcs.length
    unfold tokens
    simp only [setHandler_fields, addTarget, List.countP_append, List.countP_singleton,
      newTargetConn, decide_eq_true_eq]
    omega
  | dispatchConnect run cmd =>
    unfold tokens
    simp only [setRun_fields, addHandler, List.countP_append, List.countP_singleton, run, runAsks,
      chunksOf_singleton, cmd, asking]
    grind
  | dialPanicked | heartbeat | drain | flushFailed | drainDone =>
    exact moves le_rfl rfl (Nat.le_add_right _ _)
  | frame f run => exact moves le_rfl rfl (by simp [runAsks, Action.input])
  | top =>
    refine moves le_rfl rfl (stays ?_)
    simp only [setRun_fields]
    split <;> rfl
  | relayLost | dispatchData | dispatchClose | dispatchPing | idle | remove | ping =>
    exact moves le_rfl rfl (stays rfl)
  | enqueue _ target | requestEnter _ target | requestCancel _ target | requestClose _ target =>
    refine moves le_rfl (countP_set_same target ?_ id) (stays rfl)
    rfl
  | cleanup => exact moves le_rfl (countP_cleanup s id) (stays rfl)
  | readNone _ target | readSome _ target | readSend target | readSendDone target | take target
  | write _ target | writerDone target =>
    refine moves le_rfl (countP_set_same target ?_ id) (Nat.le_add_right _ _)
    rfl
  | notifyEnter target | notifyLate target | notifyCancel target | notifyClose target
  | notifyRemove target | notifySend target | notifySendDone target =>
    refine moves le_rfl (countP_set_same target ?_ id) (Nat.le_add_right _ _)
    simp

theorem two_le_countP {α : Type} {p : α → Bool} {l : List α} {i j : Nat} {a b : α} (lt : i < j)
    (at_i : l[i]? = some a) (at_j : l[j]? = some b) (pa : p a) (pb : p b) : 2 ≤ l.countP p := by
  have front : 0 < (l.take j).countP p := by
    refine List.countP_pos_iff.mpr ⟨a, List.mem_of_getElem? (i := i) ?_, pa⟩
    rw [List.getElem?_take_of_lt lt, at_i]
  have back : 0 < (l.drop j).countP p := by
    refine List.countP_pos_iff.mpr ⟨b, List.mem_of_getElem? (i := 0) ?_, pb⟩
    simpa using at_j
  rw [← List.take_append_drop j l, List.countP_append]
  omega

theorem single_of_tokens {s : Server} {id : UInt32} (few : s.tokens id ≤ 1) : s.Single id := by
  intro i j t u at_i at_j own_t own_u
  have count : (s.tcs.countP fun tc => tc.id = id) ≤ 1 := by
    unfold tokens at few
    omega
  rcases Nat.lt_trichotomy i j with lt | same | lt
  · have := two_le_countP (p := fun tc => tc.id = id) lt at_i at_j (by simp [own_t]) (by simp [own_u])
    omega
  · exact same
  · have := two_le_countP (p := fun tc => tc.id = id) lt at_j at_i (by simp [own_u]) (by simp [own_t])
    omega

/-! ## From the target -/

/-- The chunk `readLoop` has read and not yet handed over. -/
def unsent (tc : TargetConn) : List Bytes :=
  match tc.reader with
  | .send data _ => [data]
  | _ => []

def downOf (s : Server) (id : UInt32) : List Bytes :=
  chunksOf cmdProxyData id s.writeQ ++ view unsent s id

theorem unsent_afterRead (tc : TargetConn) (fail : Bool) :
    unsent { tc with reader := afterRead fail } = [] := by
  cases fail <;> rfl

theorem unsent_setNotify {tc tc₁ : TargetConn} {side : Side} {pc : NotifyPc}
    {next : Option NotifyPc} (same : tc₁.reader = tc.reader) (at_pc : tc.notifyPc side = some pc) :
    unsent (tc₁.setNotify side next) = unsent tc := by
  cases side with
  | writer => cases next <;> simp [TargetConn.setNotify, unsent, same]
  | reader =>
    simp only [TargetConn.notifyPc] at at_pc
    split at at_pc
    · rename_i at_reader
      cases next <;> simp [TargetConn.setNotify, unsent, at_reader]
    · cases at_pc

/-- The chunks the target returned join its log; a chunk on its way goes out to the relay, moves
on or is lost. -/
def Returns (id : UInt32) (s s' : Server) (out : List VFrame) : Prop :=
  ∃ new, view TargetConn.readLog s' id = view TargetConn.readLog s id ++ new ∧
    (chunksOf cmdProxyData id out ++ s'.downOf id).Sublist (s.downOf id ++ new)

/-- The same with account of the chunk that is lost. -/
def Accounts (id : UInt32) (s s' : Server) (out : List VFrame) (lost : List Bytes) : Prop :=
  ∃ new, view TargetConn.readLog s' id = view TargetConn.readLog s id ++ new ∧
    chunksOf cmdProxyData id out ++ s'.downOf id ++ lost = s.downOf id ++ new

theorem Accounts.returns {id : UInt32} {s s' : Server} {out : List VFrame} {lost : List Bytes}
    (h : Accounts id s s' out lost) : Returns id s s' out := by
  obtain ⟨new, log, all⟩ := h
  refine ⟨new, log, ?_⟩
  rw [← all]
  exact List.sublist_append_left _ _

theorem accounts_of_eq {id : UInt32} {s s' : Server} {out : List VFrame}
    (log : view TargetConn.readLog s' id = view TargetConn.readLog s id)
    (same : chunksOf cmdProxyData id out ++ s'.downOf id = s.downOf id) :
    Accounts id s s' out [] :=
  ⟨[], by simp [log], by simp [same]⟩

/-- No target moves. -/
theorem accounts_of_tcs {id : UInt32} {s s' : Server} {out : List VFrame} (tcs : s'.tcs = s.tcs)
    (queue : chunksOf cmdProxyData id out ++ chunksOf cmdProxyData id s'.writeQ =
      chunksOf cmdProxyData id s.writeQ) : Accounts id s s' out [] := by
  refine accounts_of_eq (view_congr _ tcs id) ?_
  rw [downOf, view_congr unsent tcs, ← List.append_assoc, queue]
  rfl

/-- One target moves, returns nothing and may lose the chunk it held. -/
theorem accounts_of_setConn {id : UInt32} {s s' : Server} (single : s.Single id) {j : Nat}
    {tc tc' : TargetConn} (lost : List Bytes) (target : s.tcs[j]? = some tc)
    (tcs : s'.tcs = s.tcs.set j tc')
    (queue : chunksOf cmdProxyData id s'.writeQ = chunksOf cmdProxyData id s.writeQ)
    (same : tc'.id = tc.id) (log : tc'.readLog = tc.readLog)
    (held : unsent tc = unsent tc' ++ lost) :
    Accounts id s s' [] (if tc.id = id then lost else []) := by
  have after : s'.tcs = (s.setConn j tc').tcs := tcs
  refine ⟨[], ?_, ?_⟩
  · rw [view_congr _ after, view_setConn_of_eq _ single target same log, List.append_nil]
  · rw [chunksOf_nil, List.nil_append, List.append_nil, downOf, downOf, queue,
      view_congr unsent after, view_setConn unsent single target same]
    split
    · subst id
      rw [view_of_target unsent single target, held, List.append_assoc]
    · simp

/-- One target moves and keeps what it holds. -/
theorem accounts_of_move {id : UInt32} {s s' : Server} (single : s.Single id) {j : Nat}
    {tc tc' : TargetConn} (target : s.tcs[j]? = some tc) (tcs : s'.tcs = s.tcs.set j tc')
    (queue : chunksOf cmdProxyData id s'.writeQ = chunksOf cmdProxyData id s.writeQ)
    (same : tc'.id = tc.id) (log : tc'.readLog = tc.readLog) (held : unsent tc' = unsent tc) :
    Accounts id s s' [] [] := by
  simpa using accounts_of_setConn single [] target tcs queue same log (by simp [held])

/-- A target returns a chunk. -/
theorem accounts_of_read {id : UInt32} {s : Server} (single : s.Single id) {j : Nat}
    {tc tc' : TargetConn} (data : Bytes) (target : s.tcs[j]? = some tc) (same : tc'.id = tc.id)
    (log : tc'.readLog = tc.readLog ++ [data]) (idle : unsent tc = []) (held : unsent tc' = [data]) :
    Accounts id s (s.setConn j tc') [] [] := by
  unfold Accounts downOf
  rw [view_setConn _ single target same, view_setConn _ single target same]
  by_cases own : tc.id = id
  · subst id
    refine ⟨[data], ?_, ?_⟩
    · simp [view_of_target _ single target, log]
    · simp [view_of_target _ single target, idle, held, setConn]
  · refine ⟨[], by simp [own], ?_⟩
    simp [own, setConn]

/-- A target hands its chunk over. -/
theorem accounts_of_send {id : UInt32} {s : Server} (single : s.Single id) {j : Nat}
    {tc tc' : TargetConn} {data : Bytes} (target : s.tcs[j]? = some tc) (same : tc'.id = tc.id)
    (log : tc'.readLog = tc.readLog) (held : unsent tc = [data]) (idle : unsent tc' = []) :
    Accounts id s ((s.put ⟨cmdProxyData, tc.id, data⟩).setConn j tc') [] [] := by
  have single' : (s.put ⟨cmdProxyData, tc.id, data⟩).Single id := single
  refine accounts_of_eq (view_setConn_of_eq _ single' target same log) ?_
  unfold downOf
  rw [view_setConn _ single' target same]
  by_cases own : tc.id = id
  · subst id
    simp [view_of_target _ single target, held, idle, setConn, put, chunksOf_singleton]
  · have others : view unsent (s.put ⟨cmdProxyData, tc.id, data⟩) id = view unsent s id := rfl
    rw [if_neg own, others]
    simp [own, setConn, put, chunksOf_singleton]

/-- A chunk is lost only when `writeFrame` of `readLoop` sees the end of the server. -/
theorem accounts_step {s s' : Server} {a : Action} {out : List VFrame} (h : Steps s a s' out)
    {id : UInt32} (single : s.Single id) (single' : s'.Single id) :
    ∃ lost, Accounts id s s' out lost ∧
      (lost ≠ [] → ∃ j tc, a = .readerDone j ∧ s.tcs[j]? = some tc ∧ tc.id = id) := by
  have none : Accounts id s s' out [] → ∃ lost, Accounts id s s' out lost ∧
      (lost ≠ [] → ∃ j tc, a = .readerDone j ∧ s.tcs[j]? = some tc ∧ tc.id = id) :=
    fun h => ⟨[], h, fun some => absurd rfl some⟩
  cases h with
  | malformed | wellFormed | add | dialFailed | dialPanicked | replyDone | ackDone | top | frame
  | relayLost | dispatchConnect | dispatchData | dispatchClose | dispatchPing | idle | remove
  | flushFailed | drainDone => exact none (accounts_of_tcs rfl rfl)
  | reply | ack | ping | heartbeat =>
    refine none (accounts_of_tcs rfl ?_)
    simp [put, setHandler, setRun, chunksOf_singleton, cmdProxyConnect, cmdProxyData, cmdProxyPing]
  | drain queue =>
    refine none (accounts_of_tcs rfl ?_)
    rw [queue, ← chunksOf_cons]
  | dialConn =>
    refine none (accounts_of_eq (view_addTarget s id _ _ rfl) ?_)
    rw [chunksOf_nil, List.nil_append, downOf, view_setHandler, view_addTarget s id unsent _ rfl]
    rfl
  | enqueue _ target | requestEnter _ target | requestCancel _ target | requestClose _ target
  | take target | write _ target | writerDone target =>
    refine none (accounts_of_move single target rfl rfl ?_ ?_ ?_) <;> rfl
  | readNone fail target reader =>
    refine none (accounts_of_move single target rfl rfl ?_ ?_ ?_)
    · rfl
    · rfl
    · rw [unsent_afterRead, unsent, reader]
  | readSendDone target reader done =>
    rename_i j tc data fail
    refine ⟨_, accounts_of_setConn single [data] target rfl rfl ?_ ?_ ?_, ?_⟩
    · rfl
    · rfl
    · rw [unsent_afterRead, unsent, reader]
      rfl
    · intro some
      by_cases own : tc.id = id
      · exact ⟨j, tc, rfl, target, own⟩
      · simp [own] at some
  | readSome fail target reader =>
    rename_i j tc data _ _
    refine none (accounts_of_read single data target ?_ ?_ ?_ ?_)
    · rfl
    · rfl
    · simp [unsent, reader]
    · rfl
  | readSend target reader =>
    refine none (accounts_of_send single target ?_ ?_ ?_ ?_)
    · rfl
    · rfl
    · simp [unsent, reader]
    · exact unsent_afterRead _ _
  | notifyEnter target pc | notifyLate target pc | notifyCancel target pc | notifyClose target pc
  | notifyRemove target pc | notifySendDone target pc =>
    refine none (accounts_of_move single target rfl rfl ?_ ?_ ?_)
    · simp
    · simp
    · rw [unsent_setNotify ?_ pc]
      rfl
  | notifySend target pc =>
    refine none (accounts_of_move single target rfl ?_ ?_ ?_ ?_)
    · simp [setConn, put, chunksOf_singleton, cmdProxyClose, cmdProxyData]
    · simp
    · simp
    · rw [unsent_setNotify ?_ pc]
      rfl
  | cleanup =>
    refine none (accounts_of_eq (view_cleanup _ single single' fun _ => rfl) ?_)
    rw [chunksOf_nil, List.nil_append, downOf, downOf,
      view_cleanup unsent single single' fun _ => rfl]
    rfl

theorem down_step {s s' : Server} {a : Action} {out : List VFrame} (h : Steps s a s' out)
    {id : UInt32} (single : s.Single id) (single' : s'.Single id) : Returns id s s' out := by
  obtain ⟨lost, accounts, -⟩ := accounts_step h single single'
  exact accounts.returns

/-! ## To the target -/

/-- The chunk in the hands of `writeLoop`. -/
def inWriter (tc : TargetConn) : List Bytes :=
  match tc.writer with
  | .write data => [data]
  | _ => []

/-- The chunks written to the target or kept for it. -/
def accepted (tc : TargetConn) : List Bytes := tc.wrote ++ inWriter tc ++ tc.writeQ

/-- The chunk for this id in the hands of `Run`. -/
def inRun (s : Server) (id : UInt32) : RunPc → List Bytes
  | .dispatch f => chunksOf cmdProxyData id [f]
  | .enqueue j data => if s.tcs[j]?.map TargetConn.id = some id then [data] else []
  | _ => []

def upOf (s : Server) (id : UInt32) : List Bytes := view accepted s id ++ s.inRun id s.run

theorem accepted_setNotify {tc tc₁ : TargetConn} {side : Side} {pc : NotifyPc}
    {next : Option NotifyPc} (writer : tc₁.writer = tc.writer) (wrote : tc₁.wrote = tc.wrote)
    (queue : tc₁.writeQ = tc.writeQ) (at_pc : tc.notifyPc side = some pc) :
    accepted (tc₁.setNotify side next) = accepted tc := by
  cases side with
  | reader => cases next <;> simp [TargetConn.setNotify, accepted, inWriter, writer, wrote, queue]
  | writer =>
    simp only [TargetConn.notifyPc] at at_pc
    split at at_pc
    · rename_i at_writer
      cases next <;> simp [TargetConn.setNotify, accepted, inWriter, at_writer, wrote, queue]
    · cases at_pc

/-- The ids of the targets stay, so the chunk of `Run` keeps its id. -/
theorem inRun_of_hasId {s s' : Server} (stay : ∀ j id, s.HasId j id → s'.HasId j id)
    (known : ∀ j, s.run.target = some j → ∃ id, s.HasId j id) (id : UInt32) :
    s'.inRun id s.run = s.inRun id s.run := by
  cases run : s.run with
  | enqueue j data =>
    obtain ⟨k, h⟩ := known j (by rw [run]; rfl)
    obtain ⟨tc, target, own⟩ := h
    obtain ⟨tc', target', own'⟩ := stay j k ⟨tc, target, own⟩
    simp [inRun, target, target', own, own']
  | _ => rfl

theorem up_of_run {s s' : Server} {a : Action} {id : UInt32} (tcs : s'.tcs = s.tcs)
    (less : (s.inRun id s'.run).Sublist (s.inRun id s.run ++ chunksOf cmdProxyData id a.input)) :
    (s'.upOf id).Sublist (s.upOf id ++ chunksOf cmdProxyData id a.input) := by
  have ids : s'.inRun id s'.run = s.inRun id s'.run := by
    cases s'.run <;> simp [inRun, tcs]
  rw [upOf, upOf, ids, view_congr accepted tcs, List.append_assoc]
  exact less.append_left _

theorem up_of_view {s s' : Server} {a : Action} {out : List VFrame} {id : UInt32} (x : Indexed s)
    (h : Steps s a s' out) (run : s'.run = s.run) (same : view accepted s' id = view accepted s id) :
    (s'.upOf id).Sublist (s.upOf id ++ chunksOf cmdProxyData id a.input) := by
  rw [upOf, upOf, run, inRun_of_hasId (fun _ _ known => known.step h) x.running, same]
  exact List.sublist_append_left _ _

/-- `Run` puts its chunk down without a target taking it. -/
theorem up_of_loss {s s' : Server} {a : Action} {id : UInt32}
    (same : view accepted s' id = view accepted s id) (nothing : s'.inRun id s'.run = []) :
    (s'.upOf id).Sublist (s.upOf id ++ chunksOf cmdProxyData id a.input) := by
  rw [upOf, upOf, nothing, same, List.append_nil, List.append_assoc]
  exact List.sublist_append_left _ _

/-- `enqueue` finds room. -/
theorem up_of_enqueue {s : Server} {id : UInt32} (single : s.Single id) {j : Nat} {data : Bytes}
    {tc tc' : TargetConn} (run : s.run = .enqueue j data) (target : s.tcs[j]? = some tc)
    (same : tc'.id = tc.id) (more : accepted tc' = accepted tc ++ [data]) :
    ((s.setConn j tc').setRun .top).upOf id = s.upOf id := by
  have after : view accepted ((s.setConn j tc').setRun .top) id = view accepted (s.setConn j tc') id :=
    rfl
  rw [upOf, upOf, after, view_setConn _ single target same, run]
  by_cases own : tc.id = id
  · subst id
    simp [view_of_target _ single target, more, inRun, target]
  · simp [own, inRun, target]

theorem up_step {s s' : Server} {a : Action} {out : List VFrame} (x : Indexed s)
    (h : Steps s a s' out) {id : UInt32} (single : s.Single id) (single' : s'.Single id) :
    (s'.upOf id).Sublist (s.upOf id ++ chunksOf cmdProxyData id a.input) := by
  cases taken : h with
  | malformed | wellFormed | reply | add | ack | dialFailed | dialPanicked | replyDone | ackDone
  | heartbeat | drain | flushFailed | drainDone => exact up_of_view x h rfl (view_congr _ rfl id)
  | dialConn => exact up_of_view x h rfl (view_addTarget s id _ _ rfl)
  | top =>
    refine up_of_run rfl ?_
    simp only [setRun_fields]
    split <;> simp [inRun]
  | frame f run => exact up_of_run rfl (by simp [run, inRun, Action.input])
  | relayLost | dispatchConnect | dispatchClose | dispatchPing | idle | remove | ping =>
    exact up_of_run rfl (by simp [inRun])
  | dispatchData run cmd known =>
    obtain ⟨tc, target, own⟩ := x.known _ _ known
    refine up_of_run rfl ?_
    simp [run, inRun, target, own, chunksOf_singleton, cmd]
  | enqueue run target =>
    rw [up_of_enqueue single run target ?_ ?_]
    · exact List.sublist_append_left _ _
    · rfl
    · simp [accepted, inWriter]
  | requestEnter run target | requestCancel run target | requestClose run target =>
    refine up_of_loss (view_setConn_of_eq _ single target ?_ ?_) rfl
    · rfl
    · rfl
  | cleanup run => exact up_of_loss (view_cleanup _ single single' fun _ => rfl) rfl
  | readNone _ target | readSome _ target | readSend target | readSendDone target =>
    refine up_of_view x h rfl (view_setConn_of_eq _ single target ?_ ?_)
    · rfl
    · rfl
  | take target writer queue =>
    refine up_of_view x h rfl (view_setConn_of_eq _ single target ?_ ?_)
    · rfl
    · simp [accepted, inWriter, writer, queue]
  | write ok target writer =>
    refine up_of_view x h rfl (view_setConn_of_eq _ single target ?_ ?_)
    · rfl
    · cases ok <;> simp [accepted, inWriter, writer]
  | writerDone target writer =>
    refine up_of_view x h rfl (view_setConn_of_eq _ single target ?_ ?_)
    · rfl
    · simp [accepted, inWriter, writer]
  | notifyEnter target pc | notifyLate target pc | notifyCancel target pc | notifyClose target pc
  | notifyRemove target pc | notifySend target pc | notifySendDone target pc =>
    refine up_of_view x h rfl (view_setConn_of_eq _ single target ?_ ?_)
    · simp
    · refine accepted_setNotify ?_ ?_ ?_ pc <;> rfl

/-! ## Addresses -/

/-- Whatever may dial a target for this id, and the target itself, has this address. -/
structure Addressed (s : Server) (id : UInt32) (address : Bytes × UInt16) : Prop where
  run : ∀ p ∈ runAsks id s.run, parseConnect p = some address
  start : ∀ h ∈ s.handlers, h.id = id → h.pc = .start → parseConnect h.payload = some address
  dial : ∀ h ∈ s.handlers, h.id = id → ∀ host port, h.pc = .dial host port → (host, port) = address
  target : ∀ tc ∈ s.tcs, tc.id = id → (tc.host, tc.port) = address

theorem Addressed.setHandler {s s' : Server} {id : UInt32} {address : Bytes × UInt16}
    (ad : Addressed s id address) {i : Nat} {h' : Handler}
    (handlers : s'.handlers = s.handlers.set i h') (tcs : s'.tcs = s.tcs) (run : s'.run = s.run)
    (start : h'.pc ≠ .start)
    (dial : h'.id = id → ∀ host port, h'.pc = .dial host port → (host, port) = address) :
    Addressed s' id address := by
  refine ⟨run ▸ ad.run, fun g mem => ?_, fun g mem => ?_, tcs ▸ ad.target⟩
  all_goals rcases List.mem_or_eq_of_mem_set (handlers ▸ mem) with old | rfl
  · exact ad.start g old
  · exact fun _ at_start => absurd at_start start
  · exact ad.dial g old
  · exact dial

theorem Addressed.setConn {s s' : Server} {id : UInt32} {address : Bytes × UInt16}
    (ad : Addressed s id address) {j : Nat} {tc tc' : TargetConn} (target : s.tcs[j]? = some tc)
    (tcs : s'.tcs = s.tcs.set j tc') (handlers : s'.handlers = s.handlers)
    (run : s'.run = s.run ∨ runAsks id s'.run = []) (same : tc'.id = tc.id)
    (host : tc'.host = tc.host) (port : tc'.port = tc.port) : Addressed s' id address := by
  refine ⟨?_, handlers ▸ ad.start, handlers ▸ ad.dial, fun u mem own => ?_⟩
  · rcases run with run | run
    · exact run ▸ ad.run
    · simp [run]
  · rcases List.mem_or_eq_of_mem_set (tcs ▸ mem) with old | rfl
    · exact ad.target u old own
    · rw [host, port]
      exact ad.target tc (List.mem_of_getElem? target) (same ▸ own)

theorem Addressed.congr {s s' : Server} {id : UInt32} {address : Bytes × UInt16}
    (ad : Addressed s id address) (tcs : s'.tcs = s.tcs) (handlers : s'.handlers = s.handlers)
    (run : ∀ p ∈ runAsks id s'.run, parseConnect p = some address) : Addressed s' id address :=
  ⟨run, handlers ▸ ad.start, handlers ▸ ad.dial, tcs ▸ ad.target⟩

theorem Addressed.step {s s' : Server} {a : Action} {out : List VFrame} {id : UInt32}
    {address : Bytes × UInt16} (ad : Addressed s id address) (h : Steps s a s' out)
    (asked : ∀ p ∈ chunksOf cmdProxyConnect id a.input, parseConnect p = some address) :
    Addressed s' id address := by
  cases h with
  | malformed handler pc | reply handler pc | add handler pc | ack handler pc
  | dialFailed handler pc | replyDone handler pc | ackDone handler pc =>
    exact ad.setHandler rfl rfl rfl (by simp) (by simp)
  | wellFormed handler pc parse =>
    refine ad.setHandler rfl rfl rfl (by simp) ?_
    rintro own host port same
    have known := ad.start _ (List.mem_of_getElem? handler) own pc
    obtain ⟨rfl, rfl⟩ := HandlerPc.dial.inj same
    exact Option.some.inj (parse.symm.trans known)
  | dialConn handler pc =>
    refine ⟨ad.run, fun g mem => ?_, fun g mem => ?_, fun tc mem own => ?_⟩
    · rcases List.mem_or_eq_of_mem_set mem with old | rfl
      · exact ad.start g old
      · simp
    · rcases List.mem_or_eq_of_mem_set mem with old | rfl
      · exact ad.dial g old
      · simp
    · rcases List.mem_append.mp mem with old | new
      · exact ad.target tc old own
      · obtain rfl := List.mem_singleton.mp new
        exact ad.dial _ (List.mem_of_getElem? handler) own _ _ pc
  | dispatchConnect run cmd =>
    refine ⟨by simp [runAsks], fun g mem => ?_, fun g mem => ?_, ad.target⟩
    · rcases List.mem_append.mp mem with old | new
      · exact ad.start g old
      · obtain rfl := List.mem_singleton.mp new
        intro own _
        refine ad.run _ ?_
        rw [run, runAsks, chunksOf_singleton, if_pos ⟨cmd, own⟩]
        exact List.mem_singleton_self _
    · rcases List.mem_append.mp mem with old | new
      · exact ad.dial g old
      · obtain rfl := List.mem_singleton.mp new
        simp
  | dialPanicked | heartbeat | drain | flushFailed | drainDone => exact ad.congr rfl rfl ad.run
  | frame f run => exact ad.congr rfl rfl asked
  | top =>
    refine ad.congr rfl rfl ?_
    simp only [setRun_fields]
    split <;> simp [runAsks]
  | relayLost | dispatchData | dispatchClose | dispatchPing | idle | remove | ping =>
    exact ad.congr rfl rfl (by simp [runAsks])
  | enqueue _ target | requestEnter _ target | requestCancel _ target | requestClose _ target =>
    refine ad.setConn target rfl rfl (.inr rfl) ?_ ?_ ?_ <;> rfl
  | readNone _ target | readSome _ target | readSend target | readSendDone target | take target
  | write _ target | writerDone target =>
    refine ad.setConn target rfl rfl (.inl rfl) ?_ ?_ ?_ <;> rfl
  | notifyEnter target | notifyLate target | notifyCancel target | notifyClose target
  | notifyRemove target | notifySend target | notifySendDone target =>
    refine ad.setConn target rfl rfl (.inl rfl) ?_ ?_ ?_ <;> simp
  | cleanup run =>
    refine ⟨by simp [Server.cleanup, runAsks], ad.start, ad.dial, fun tc mem own => ?_⟩
    obtain ⟨j, target⟩ := List.mem_iff_getElem?.mp mem
    obtain ⟨u, before, rfl | rfl⟩ := cleanup_target target
    · exact ad.target tc (List.mem_of_getElem? before) own
    · exact ad.target u (List.mem_of_getElem? before) own

/-! ## Sizes -/

structure Fits (s : Server) : Prop where
  queue : ∀ f ∈ s.writeQ, f.data.length ≤ 65535
  readers : ∀ tc ∈ s.tcs, ∀ p ∈ unsent tc, p.length ≤ 65535

theorem Fits.setConn {s s' : Server} (fits : Fits s) {j : Nat} {tc' : TargetConn}
    (tcs : s'.tcs = s.tcs.set j tc') (queue : ∀ f ∈ s'.writeQ, f.data.length ≤ 65535)
    (small : ∀ p ∈ unsent tc', p.length ≤ 65535) : Fits s' := by
  refine ⟨queue, fun tc mem => ?_⟩
  rcases List.mem_or_eq_of_mem_set (tcs ▸ mem) with old | rfl
  · exact fits.readers tc old
  · exact small

theorem Fits.put {s : Server} (fits : Fits s) {f : VFrame} (small : f.data.length ≤ 65535) :
    ∀ g ∈ (s.put f).writeQ, g.data.length ≤ 65535 := by
  intro g mem
  rcases List.mem_append.mp mem with old | new
  · exact fits.queue g old
  · obtain rfl := List.mem_singleton.mp new
    exact small

theorem Fits.step {s s' : Server} {a : Action} {out : List VFrame} (fits : Fits s)
    (h : Steps s a s' out) : Fits s' ∧ ∀ f ∈ out, f.data.length ≤ 65535 := by
  have held : ∀ {j : Nat} {tc : TargetConn}, s.tcs[j]? = some tc → ∀ p ∈ unsent tc,
      p.length ≤ 65535 := fun target => fits.readers _ (List.mem_of_getElem? target)
  cases h with
  | malformed | wellFormed | add | dialFailed | dialPanicked | replyDone | ackDone | top | frame
  | relayLost | dispatchConnect | dispatchData | dispatchClose | dispatchPing | idle | remove
  | flushFailed | drainDone => exact ⟨⟨fits.queue, fits.readers⟩, by simp⟩
  | reply | ack | ping | heartbeat => exact ⟨⟨fits.put (by simp), fits.readers⟩, by simp⟩
  | drain queue =>
    refine ⟨⟨fun f mem => fits.queue f ?_, fits.readers⟩, fun f mem => fits.queue f ?_⟩
    · rw [queue]
      exact List.mem_cons_of_mem _ mem
    · obtain rfl := List.mem_singleton.mp mem
      rw [queue]
      exact List.mem_cons_self
  | dialConn =>
    refine ⟨⟨fits.queue, fun tc mem => ?_⟩, by simp⟩
    rcases List.mem_append.mp mem with old | new
    · exact fits.readers tc old
    · obtain rfl := List.mem_singleton.mp new
      simp [unsent, newTargetConn]
  | enqueue _ target | requestEnter _ target | requestCancel _ target | requestClose _ target
  | take target | write _ target | writerDone target =>
    have same := held target
    exact ⟨fits.setConn rfl fits.queue same, by simp⟩
  | readNone | readSendDone =>
    exact ⟨fits.setConn rfl fits.queue (by simp [unsent_afterRead]), by simp⟩
  | readSome _ _ _ _ small =>
    refine ⟨fits.setConn rfl fits.queue ?_, by simp⟩
    unfold relayReadBuf at small
    simp only [unsent, List.mem_singleton, forall_eq]
    omega
  | readSend target reader =>
    refine ⟨fits.setConn rfl (fits.put ?_) (by simp [unsent_afterRead]), by simp⟩
    exact held target _ (by simp [unsent, reader])
  | notifyEnter target pc | notifyLate target pc | notifyCancel target pc | notifyClose target pc
  | notifyRemove target pc | notifySendDone target pc =>
    refine ⟨fits.setConn rfl fits.queue ?_, by simp⟩
    rw [unsent_setNotify ?_ pc]
    · exact held target
    · rfl
  | notifySend target pc =>
    refine ⟨fits.setConn rfl (fits.put (by simp)) ?_, by simp⟩
    rw [unsent_setNotify ?_ pc]
    · exact held target
    · rfl
  | cleanup =>
    refine ⟨⟨fits.queue, fun tc mem => ?_⟩, by simp⟩
    obtain ⟨j, target⟩ := List.mem_iff_getElem?.mp mem
    obtain ⟨u, before, rfl | rfl⟩ := cleanup_target target
    all_goals
      have same := held before
      exact same

end Server

end EspNetwork.Proxy
