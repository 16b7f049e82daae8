import EspNetwork.Base.Winding
import EspNetwork.Proxy.Announce

/-!
# The end of a relay

When the relay is lost, `Run` cancels the server's context and `cleanup` closes the targets in the
table. A target that is dialled later is not closed by anyone but its own `readLoop`, which waits
for the target to end, and nobody interrupts the `writeLoop` of the server in a write to the relay.
So in the end every goroutine returns and every target is closed, if the targets that are left do
end, and the writes too.
-/

namespace EspNetwork.Proxy

open Serial (Byte Bytes)
open Relay (VFrame)
open Schedule

namespace Server

/-! ## Who closes a target -/

/-- A `closeOnce` that is taken is held by somebody; behind it, and where `readLoop` has returned,
the target is closed. -/
structure Departs (request : Bool) (tc : TargetConn) : Prop where
  runs : tc.closeOnce = .running →
    (∃ side pc, tc.notifyPc side = some pc ∧ pc ≠ .enter) ∨ request = true
  inside : ∀ side, tc.notifyPc side = some .remove ∨ tc.notifyPc side = some .send →
    tc.connClosed = true
  finished : tc.closeOnce = .finished → tc.connClosed = true
  exited : tc.reader = .exited → tc.closeOnce = .finished

def Departing (s : Server) : Prop :=
  ∀ (j : Nat) (tc : TargetConn), s.tcs[j]? = some tc → Departs (s.inRequest j) tc

theorem Departs.congr {request request' : Bool} {tc : TargetConn} (d : Departs request tc)
    (still : request = true → request' = true) : Departs request' tc :=
  ⟨fun running => (d.runs running).imp_right still, d.inside, d.finished, d.exited⟩

theorem Departing.congr {s s' : Server} (d : Departing s) (tcs : s'.tcs = s.tcs)
    (request : ∀ j, s.inRequest j = true → s'.inRequest j = true) : Departing s' := by
  intro j tc target
  rw [tcs] at target
  exact (d j tc target).congr (request j)

/-- One target changes, and `Run` does not leave the `closeOnce` of another one. -/
theorem Departing.update {s s' : Server} (d : Departing s) {j : Nat} {tc tc' : TargetConn}
    (target : s.tcs[j]? = some tc) (tcs : s'.tcs = s.tcs.set j tc')
    (mine : Departs (s'.inRequest j) tc')
    (request : ∀ i, i ≠ j → s.inRequest i = true → s'.inRequest i = true) : Departing s' := by
  intro i u at_i
  rw [tcs] at at_i
  by_cases same : i = j
  · subst same
    have bound := (List.getElem?_eq_some_iff.mp target).1
    obtain rfl : tc' = u := by simpa [bound] using at_i
    exact mine
  · rw [List.getElem?_set_ne (Ne.symm same)] at at_i
    exact (d i u at_i).congr (request i same)

theorem Departing.turn {s s' : Server} (d : Departing s) {j : Nat} {tc tc' : TargetConn}
    (target : s.tcs[j]? = some tc) (tcs : s'.tcs = s.tcs.set j tc') (run : s'.run = s.run)
    (mine : Departs (s.inRequest j) tc') : Departing s' := by
  have same : ∀ i, s'.inRequest i = s.inRequest i := by simp [inRequest, run]
  exact d.update target tcs (same j ▸ mine) fun i _ request => (same i).trans request

/-- A goroutine of the target moves outside of `closeNotify`. -/
theorem Departs.moves {request : Bool} {tc tc' : TargetConn} (d : Departs request tc)
    (once : tc'.closeOnce = tc.closeOnce) (closed : tc'.connClosed = tc.connClosed)
    (places : ∀ side, tc'.notifyPc side = tc.notifyPc side ∨
      tc.notifyPc side = none ∧ tc'.notifyPc side = some .enter)
    (reader : tc'.reader = .exited → tc.reader = .exited) : Departs request tc' where
  runs running := by
    refine (d.runs (once ▸ running)).imp_left ?_
    rintro ⟨side, pc, at_pc, behind⟩
    rcases places side with same | ⟨outside, -⟩
    · exact ⟨side, pc, same.trans at_pc, behind⟩
    · rw [outside] at at_pc
      cases at_pc
  inside side at_pc := by
    rw [closed]
    rcases places side with same | ⟨-, enters⟩
    · rw [same] at at_pc
      exact d.inside side at_pc
    · simp [enters] at at_pc
  finished h := closed ▸ d.finished (once ▸ h)
  exited h := once ▸ d.exited (reader h)

/-- A goroutine of the target moves inside of `closeNotify`. -/
theorem Departs.notify {request : Bool} {tc tc₁ : TargetConn} {side : Side}
    {next : Option NotifyPc} (d : Departs request tc)
    (same : tc₁.reader = tc.reader ∧ tc₁.writer = tc.writer)
    (holds : tc₁.closeOnce = .running → ∃ pc, next = some pc ∧ pc ≠ .enter)
    (closed : tc.connClosed = true → tc₁.connClosed = true)
    (inside : next = some .remove ∨ next = some .send → tc₁.connClosed = true)
    (finished : tc₁.closeOnce = .finished → tc₁.connClosed = true)
    (exits : next = none ∨ tc.closeOnce = .finished → tc₁.closeOnce = .finished) :
    Departs request (tc₁.setNotify side next) := by
  have places : ∀ side', tc₁.notifyPc side' = tc.notifyPc side' := by
    intro side'
    cases side' <;> simp [TargetConn.notifyPc, same]
  constructor
  · intro running
    obtain ⟨pc, rfl, behind⟩ := holds (by simpa using running)
    exact .inl ⟨side, pc, by simp [notifyPc_setNotify], behind⟩
  · intro side' at_pc
    rw [notifyPc_setNotify, places] at at_pc
    rw [(tc₁.setNotify_fields side next).2.2.2.2.2.1]
    split_ifs at at_pc
    · exact inside at_pc
    · exact closed (d.inside side' at_pc)
  · simpa using finished
  · intro exited
    rw [(tc₁.setNotify_fields side next).2.2.2.2.2.2.1]
    cases side <;> cases next <;>
      simp only [TargetConn.setNotify, reduceCtorEq, same.1] at exited
    · exact exits (.inl rfl)
    · exact exits (.inr (d.exited exited))
    · exact exits (.inr (d.exited exited))

theorem departs_new (request : Bool) (id : UInt32) (host : Bytes) (port : UInt16) :
    Departs request (newTargetConn id host port) := by
  constructor
  · simp [newTargetConn]
  · intro side
    cases side <;> simp [newTargetConn, TargetConn.notifyPc]
  · simp [newTargetConn]
  · simp [newTargetConn]

theorem afterRead_ne_exited (fail : Bool) : afterRead fail ≠ .exited := by
  cases fail <;> simp [afterRead]

/-- A `Read` that fails leads to `closeNotify`. -/
theorem places_afterRead {tc : TargetConn} {fail : Bool} (outside : tc.notifyPc .reader = none)
    (side : Side) :
    { tc with reader := afterRead fail }.notifyPc side = tc.notifyPc side ∨
      tc.notifyPc side = none ∧
        { tc with reader := afterRead fail }.notifyPc side = some .enter := by
  cases side with
  | writer => exact .inl rfl
  | reader =>
    rw [outside]
    cases fail <;> simp [afterRead, TargetConn.notifyPc]

/-- `Run` is not inside a `closeOnce`. -/
theorem inRequest_of_run {s : Server} (j : Nat) (outside : ∀ pc, s.run ≠ .closing j pc) :
    s.inRequest j = true → False := by
  simp [inRequest, outside]

theorem Departing.step {s s' : Server} {a : Action} {out : List VFrame} (d : Departing s)
    (h : Steps s a s' out) : Departing s' := by
  cases h with
  | malformed | wellFormed | reply | add | ack | dialFailed | dialPanicked | replyDone | ackDone
  | heartbeat | drain | flushFailed | drainDone => exact d.congr rfl fun _ h => h
  | top run | frame _ run | relayLost run | dispatchConnect run | dispatchData run
  | dispatchClose run | dispatchPing run | remove run | ping run =>
    exact d.congr rfl fun j request => (inRequest_of_run j (by simp [run]) request).elim
  | idle why => exact d.congr rfl fun j request => by simp [why.free j] at request
  | @dialConn i hd host port handler pc =>
    intro j tc target
    rcases addTarget_target target with old | ⟨rfl, rfl⟩
    · exact (d j tc old).congr fun h => h
    · exact departs_new _ _ _ _
  | @enqueue j data tc run target room =>
    refine d.update target rfl ?_ fun i _ request =>
      (inRequest_of_run i (by simp [run]) request).elim
    have moved : Departs (s.inRequest j) { tc with writeQ := tc.writeQ ++ [data] } :=
      (d j tc target).moves rfl rfl (fun side => .inl (by cases side <;> rfl)) fun h => h
    exact moved.congr fun request => (inRequest_of_run j (by simp [run]) request).elim
  | @requestEnter j tc run target once =>
    refine d.update target rfl ⟨fun _ => .inr (by simp [inRequest]), ?_, by simp, fun exited => ?_⟩
      fun i other request => by simp [inRequest, run, Ne.symm other] at request
    · exact (d j tc target).inside
    · have := (d j tc target).exited exited
      simp [once] at this
  | @requestCancel j tc run target =>
    have old := d j tc target
    exact d.update target rfl
      ⟨fun _ => .inr (by simp [inRequest]), old.inside, old.finished, old.exited⟩
      fun i other request => by simp [inRequest, run, Ne.symm other] at request
  | @requestClose j tc run target =>
    exact d.update target rfl ⟨by simp, fun _ _ => rfl, fun _ => rfl, fun _ => rfl⟩
      fun i other request => by simp [inRequest, run, Ne.symm other] at request
  | cleanup run =>
    intro j tc' target
    obtain ⟨tc, old, rfl | rfl⟩ := cleanup_target target
    · exact (d j _ old).congr fun request => (inRequest_of_run j (by simp [run]) request).elim
    · refine ⟨fun running => ?_, fun _ _ => rfl, fun _ => rfl, (d j tc old).exited⟩
      exact ((d j tc old).runs running).imp_right fun request =>
        (inRequest_of_run j (by simp [run]) request).elim
  | readNone _ target reader | readSend target reader | readSendDone target reader =>
    refine d.turn target rfl rfl ((d _ _ target).moves rfl rfl (places_afterRead ?_) ?_)
    · simp [TargetConn.notifyPc, reader]
    · simp [afterRead_ne_exited]
  | readSome fail target reader =>
    refine d.turn target rfl rfl ((d _ _ target).moves rfl rfl (fun side => .inl ?_) (by simp))
    cases side <;> simp [TargetConn.notifyPc, reader]
  | take target writer =>
    refine d.turn target rfl rfl ((d _ _ target).moves rfl rfl (fun side => .inl ?_) fun h => h)
    cases side <;> simp [TargetConn.notifyPc, writer]
  | @write j tc data ok target writer =>
    refine d.turn target rfl rfl ((d _ _ target).moves rfl rfl (fun side => ?_) fun h => h)
    cases side <;> cases ok <;> simp [TargetConn.notifyPc, writer]
  | writerDone target writer =>
    refine d.turn target rfl rfl ((d _ _ target).moves rfl rfl (fun side => .inl ?_) fun h => h)
    cases side <;> simp [TargetConn.notifyPc, writer]
  | notifyEnter target pc once =>
    exact d.turn target rfl rfl ((d _ _ target).notify ⟨rfl, rfl⟩ (by simp) (fun h => h) (by simp)
      (by simp) (by simp [once]))
  | notifyLate target pc once =>
    exact d.turn target rfl rfl ((d _ _ target).notify ⟨rfl, rfl⟩ (by simp [once]) (fun h => h)
      (by simp) (d _ _ target).finished fun _ => once)
  | notifyCancel target pc =>
    exact d.turn target rfl rfl ((d _ _ target).notify ⟨rfl, rfl⟩ (by simp) (fun h => h) (by simp)
      (d _ _ target).finished (by simp))
  | notifyClose target pc =>
    exact d.turn target rfl rfl ((d _ _ target).notify ⟨rfl, rfl⟩ (by simp) (fun _ => rfl)
      (fun _ => rfl) (fun _ => rfl) (by simp))
  | notifyRemove target pc =>
    exact d.turn target rfl rfl ((d _ _ target).notify ⟨rfl, rfl⟩ (by simp) (fun h => h)
      (fun _ => (d _ _ target).inside _ (.inl pc)) (d _ _ target).finished (by simp))
  | notifySend target pc | notifySendDone target pc =>
    exact d.turn target rfl rfl ((d _ _ target).notify ⟨rfl, rfl⟩ (by simp) (fun h => h) (by simp)
      (fun _ => (d _ _ target).inside _ (.inr pc)) fun _ => rfl)

/-! ## What is left to do -/

def notifyWork : NotifyPc → Nat
  | .enter => 6
  | .done => 5
  | .close => 4
  | .remove => 3
  | .send => 2

def readerWork : ReaderPc → Nat
  | .send .. => 9
  | .read => 7
  | .closing pc => notifyWork pc
  | .exited => 0

def writerWork : WriterPc → Nat
  | .write _ => 8
  | .select => 7
  | .closing pc => notifyWork pc
  | .exited => 0

def targetWork (tc : TargetConn) : Nat :=
  readerWork tc.reader + writerWork tc.writer + 2 * tc.writeQ.length

def handlerWork (h : Handler) : Nat :=
  match h.pc with
  | .start => 19
  | .dial .. => 18
  | .add _ => 3
  | .reply _ | .ack _ => 2
  | .returned => 0

/-- The steps `Run` has left once the context is cancelled. -/
def runWork : RunPc → Nat
  | .reading => 24
  | .dispatch _ => 23
  | .remove .. => 6
  | .enqueue .. | .closing _ .enter => 5
  | .closing _ .done | .ping => 4
  | .closing _ .close => 3
  | .top => 2
  | .cleanup => 1
  | .exited => 0

def work (s : Server) : Nat :=
  (s.tcs.map targetWork).sum + (s.handlers.map handlerWork).sum + runWork s.run +
    s.writeQ.length + s.writing.toNat

/-- The steps of the goroutines. A `ReadFull` in which `Run` is blocked returns, a dial comes to an
end, and so do a target and a write to the relay. -/
def Winding : Action → Prop
  | .targetRead _ data fail => data = [] ∧ fail = true
  | .heartbeat | .dial _ .panicked => False
  | _ => True

instance : DecidablePred Winding := fun a => by
  unfold Winding
  split <;> infer_instance

/-- A target goes on sending, or the ticker fires. -/
def Holding : Action → Prop
  | .targetRead .. | .heartbeat => True
  | _ => False

/-- Every goroutine has returned. -/
structure Over (s : Server) : Prop where
  run : s.run = .exited
  writing : s.writing = false
  handlers : ∀ h ∈ s.handlers, h.pc = .returned
  readers : ∀ tc ∈ s.tcs, tc.reader = .exited
  writers : ∀ tc ∈ s.tcs, tc.writer = .exited

theorem work_setConn {s : Server} {j : Nat} {tc : TargetConn} (target : s.tcs[j]? = some tc)
    (tc' : TargetConn) : (s.setConn j tc').work + targetWork tc = s.work + targetWork tc' := by
  have sum := sum_map_set targetWork target tc'
  simp only [work, setConn]
  omega

theorem work_setHandler {s : Server} {i : Nat} {h : Handler} (handler : s.handlers[i]? = some h)
    (h' : Handler) : (s.setHandler i h').work + handlerWork h = s.work + handlerWork h' := by
  have sum := sum_map_set handlerWork handler h'
  simp only [work, setHandler]
  omega

theorem work_setRun (s : Server) (pc : RunPc) :
    (s.setRun pc).work + runWork s.run = s.work + runWork pc := by
  simp only [work, setRun]
  omega

theorem work_put (s : Server) (f : VFrame) : (s.put f).work = s.work + 1 := by
  simp only [work, put, List.length_append, List.length_singleton]
  omega

theorem work_addHandler (s : Server) (h : Handler) :
    (s.addHandler h).work = s.work + handlerWork h := by
  simp only [work, addHandler, List.map_append, List.sum_append, List.map_singleton,
    List.sum_singleton]
  omega

theorem work_addTarget (s : Server) (tc : TargetConn) :
    (s.addTarget tc).work = s.work + targetWork tc := by
  simp only [work, addTarget, List.map_append, List.sum_append, List.map_singleton,
    List.sum_singleton]
  omega

theorem work_cleanup {s : Server} (run : s.run = .cleanup) : s.cleanup.work < s.work := by
  have same : s.cleanup.tcs.map targetWork = s.tcs.map targetWork := by
    apply List.ext_getElem
    · simp [cleanup]
    · intro i _ _
      simp only [cleanup, List.getElem_map, List.getElem_mapIdx]
      split <;> rfl
  simp only [work, same, run]
  simp only [cleanup, runWork]
  omega

theorem targetWork_setNotify {tc tc₁ : TargetConn} {side : Side} {pc : NotifyPc}
    {next : Option NotifyPc} (at_pc : tc.notifyPc side = some pc)
    (same : tc₁.reader = tc.reader ∧ tc₁.writer = tc.writer ∧ tc₁.writeQ = tc.writeQ) :
    targetWork (tc₁.setNotify side next) + notifyWork pc =
      targetWork tc + next.elim 0 notifyWork := by
  cases side with
  | reader =>
    obtain reader : tc.reader = .closing pc := by
      simp only [TargetConn.notifyPc] at at_pc
      split at at_pc <;> simp_all
    cases next <;> simp [targetWork, TargetConn.setNotify, readerWork, writerWork, same, reader] <;>
      omega
  | writer =>
    obtain writer : tc.writer = .closing pc := by
      simp only [TargetConn.notifyPc] at at_pc
      split at at_pc <;> simp_all
    cases next <;> simp [targetWork, TargetConn.setNotify, readerWork, writerWork, same, writer] <;>
      omega

/-- The `writeLoop` that returns was running. -/
theorem writing_of_end {s s' : Server} {a : Action} {out : List VFrame}
    (ends : a = .flushFailed ∨ a = .drainDone) (h : step s a = some (s', out)) :
    s.writing = true := by
  unfold step at h
  split at h
  · cases h
  · rcases ends with rfl | rfl
    · simp only [aliveStep] at h
      split at h
      · assumption
      · cases h
    · simp only [aliveStep] at h
      split at h
      case isTrue both => exact both.1
      case isFalse => cases h

theorem Idles.lowers {s : Server} {a : Action} (why : Idles s a) : 2 < runWork s.run := by
  cases why with
  | unknown run | other run | full run | cancelled run | late run | pingDone run =>
    simp [run, runWork]

/-! A step changes one place, and whatever else it does costs less. -/

theorem lowers_setRun {s t : Server} {pc : RunPc} (same : t.run = s.run)
    (less : t.work + runWork pc < s.work + runWork s.run) : (t.setRun pc).work < s.work := by
  have := work_setRun t pc
  rw [same] at this
  omega

theorem lowers_setHandler {s t : Server} {i : Nat} {h h' : Handler}
    (handler : s.handlers[i]? = some h) (same : t.handlers = s.handlers)
    (less : t.work + handlerWork h' < s.work + handlerWork h) :
    (t.setHandler i h').work < s.work := by
  have := work_setHandler (same ▸ handler) h'
  omega

theorem lowers_setConn {s t : Server} {j : Nat} {tc tc' : TargetConn}
    (target : s.tcs[j]? = some tc) (same : t.tcs = s.tcs)
    (less : t.work + targetWork tc' < s.work + targetWork tc) :
    (t.setConn j tc').work < s.work := by
  have := work_setConn (same ▸ target) tc'
  omega

/-- A goroutine goes on inside `closeNotify`. -/
theorem lowers_notify {s t : Server} {j : Nat} {tc tc₁ : TargetConn} {side : Side} {pc : NotifyPc}
    {next : Option NotifyPc} (target : s.tcs[j]? = some tc) (at_pc : tc.notifyPc side = some pc)
    (same : t.tcs = s.tcs)
    (places : tc₁.reader = tc.reader ∧ tc₁.writer = tc.writer ∧ tc₁.writeQ = tc.writeQ)
    (less : t.work + next.elim 0 notifyWork < s.work + notifyWork pc) :
    (t.setConn j (tc₁.setNotify side next)).work < s.work := by
  have sum : targetWork (tc₁.setNotify side next) + notifyWork pc =
      targetWork tc + next.elim 0 notifyWork := targetWork_setNotify at_pc places
  exact lowers_setConn target same (by omega)

theorem work_winding {s s' : Server} {a : Action} {out : List VFrame} (winding : Winding a)
    (ended : s.ctxDone = true) (h : step s a = some (s', out)) : s'.work < s.work := by
  cases step_steps h with
  | heartbeat | dialPanicked => exact winding.elim
  | malformed handler pc | wellFormed handler pc | dialFailed handler pc | replyDone handler pc
  | ackDone handler pc =>
    exact lowers_setHandler handler rfl (by simp [handlerWork, pc])
  | add handler pc =>
    exact lowers_setHandler (t := s.addConn _ _) handler rfl
      (Nat.add_lt_add_left (by simp [handlerWork, pc]) s.work)
  | reply handler pc | ack handler pc =>
    refine lowers_setHandler (t := s.put _) handler rfl ?_
    simp [work_put, handlerWork, pc]
  | dialConn handler pc =>
    refine lowers_setHandler (t := s.addTarget _) handler rfl ?_
    simp [work_addTarget, handlerWork, pc, targetWork, newTargetConn, readerWork, writerWork]
  | top run =>
    refine lowers_setRun rfl ?_
    simp [run, ended, runWork]
  | frame _ run | dispatchData run | dispatchClose run | dispatchPing run =>
    refine lowers_setRun rfl ?_
    simp [run, runWork]
  | relayLost run =>
    exact lowers_setRun (t := { s with ctxDone := true }) rfl
      (Nat.add_lt_add_left (by simp [run, runWork]) s.work)
  | dispatchConnect run =>
    refine lowers_setRun (t := s.addHandler _) rfl ?_
    simp only [work_addHandler, run, runWork, handlerWork]
    omega
  | idle why => exact lowers_setRun rfl (Nat.add_lt_add_left why.lowers s.work)
  | @enqueue j data tc run target =>
    have := work_setConn target { tc with writeQ := tc.writeQ ++ [data] }
    refine lowers_setRun (t := s.setConn _ _) rfl ?_
    simp only [targetWork, List.length_append, List.length_singleton] at this
    simp only [run, runWork]
    omega
  | remove run =>
    exact lowers_setRun (t := s.removeConn _) rfl
      (Nat.add_lt_add_left (by simp [run, runWork]) s.work)
  | @requestEnter j tc run target =>
    have same := work_setConn target { tc with closeOnce := .running }
    refine lowers_setRun (t := s.setConn _ _) rfl ?_
    simp only [targetWork] at same
    simp only [run, runWork]
    omega
  | @requestCancel j tc run target =>
    have same := work_setConn target { tc with ctxDone := true }
    refine lowers_setRun (t := s.setConn _ _) rfl ?_
    simp only [targetWork] at same
    simp only [run, runWork]
    omega
  | @requestClose j tc run target =>
    have same := work_setConn target { tc with connClosed := true, closeOnce := .finished }
    refine lowers_setRun (t := s.setConn _ _) rfl ?_
    simp only [targetWork] at same
    simp only [run, runWork]
    omega
  | ping run =>
    refine lowers_setRun (t := s.put _) rfl ?_
    simp only [work_put, run, runWork]
    omega
  | cleanup run => exact work_cleanup run
  | readNone fail target reader =>
    obtain ⟨-, rfl⟩ := winding
    refine lowers_setConn target rfl ?_
    simp [targetWork, readerWork, notifyWork, afterRead, reader]
  | readSome fail target reader some => exact absurd winding.1 some
  | @readSend j tc data fail target reader =>
    refine lowers_setConn (t := s.put _) target rfl ?_
    cases fail <;> simp [work_put, targetWork, readerWork, notifyWork, afterRead, reader] <;> omega
  | @readSendDone j tc data fail target reader =>
    refine lowers_setConn target rfl ?_
    cases fail <;> simp [targetWork, readerWork, notifyWork, afterRead, reader]
  | take target writer queue =>
    refine lowers_setConn target rfl ?_
    simp only [targetWork, writerWork, writer, queue, List.length_cons]
    omega
  | write ok target writer =>
    refine lowers_setConn target rfl ?_
    cases ok <;> simp [targetWork, writerWork, notifyWork, writer]
  | writerDone target writer =>
    refine lowers_setConn target rfl ?_
    simp [targetWork, writerWork, writer]
  | notifyEnter target pc | notifyLate target pc | notifyCancel target pc | notifyClose target pc
  | notifySendDone target pc =>
    exact lowers_notify target pc rfl ⟨rfl, rfl, rfl⟩ (by simp [notifyWork])
  | notifyRemove target pc =>
    exact lowers_notify (t := s.removeConn _) target pc rfl ⟨rfl, rfl, rfl⟩
      (Nat.add_lt_add_left (by simp [notifyWork]) s.work)
  | notifySend target pc =>
    refine lowers_notify (t := s.put _) target pc rfl ⟨rfl, rfl, rfl⟩ ?_
    simp [work_put, notifyWork]
  | drain queue =>
    simp only [work, queue, List.length_cons]
    omega
  | flushFailed | drainDone =>
    have running := writing_of_end (by simp) h
    simp only [work, running]
    simp

/-! ## Nobody is stuck -/

/-- A step that does not wait for the network: a target that was closed fails every call. The
`Write` and the `Flush` of the server's `writeLoop` wait for the relay. -/
def Own (s : Server) : Action → Prop
  | .frame _ | .relayLost | .dial .. | .heartbeat | .drain | .flushFailed | .drainDone => False
  | .targetRead j data fail =>
    data = [] ∧ fail = true ∧ ∀ tc, s.tcs[j]? = some tc → tc.connClosed = true
  | .targetWrite j ok => ok = false ∧ ∀ tc, s.tcs[j]? = some tc → tc.connClosed = true
  | _ => True

theorem Own.winding {s : Server} {a : Action} (own : Own s a) : Winding a := by
  cases a with
  | targetRead j data fail => exact ⟨own.1, own.2.1⟩
  | dial | heartbeat | drain | flushFailed | drainDone => exact own.elim
  | _ => trivial

/-- Some goroutine can go on, whatever the network does. -/
def CanGo (s : Server) : Prop := ∃ a s', Own s a ∧ serverStep s a = some s'

/-- Every goroutine has returned or is in a call of the network: `Run` reads from the relay, a
request dials, and the goroutines of a target that nobody has closed read from it or write to it.
The `writeLoop` of the server is not among them: until it returns it may be writing to the relay,
which the cancelled context does not interrupt. -/
structure Waiting (s : Server) : Prop where
  run : s.run = .exited ∨ s.run = .reading
  handlers : ∀ h ∈ s.handlers, h.pc = .returned ∨ ∃ host port, h.pc = .dial host port
  readers : ∀ tc ∈ s.tcs, tc.reader = .exited ∨ tc.reader = .read ∧ tc.connClosed = false
  writers : ∀ tc ∈ s.tcs,
    tc.writer = .exited ∨ (∃ data, tc.writer = .write data) ∧ tc.connClosed = false

/-- The context is cancelled, the process has not panicked, and the invariants hold. -/
structure Ending (s : Server) : Prop where
  indexed : Indexed s
  departing : Departing s
  ended : s.ctxDone = true
  alive : s.crashed = false

theorem Ending.enabled {s : Server} (e : Ending s) {a : Action} (able : (aliveStep s a).isSome) :
    ∃ s', serverStep s a = some s' := by
  obtain ⟨⟨s', out⟩, taken⟩ := Option.isSome_iff_exists.mp able
  exact ⟨s', by simp [serverStep, step, e.alive, taken]⟩

theorem Ending.canGo_of_step {s : Server} (e : Ending s) {a : Action} (own : Own s a)
    (able : (aliveStep s a).isSome) : CanGo s := by
  obtain ⟨s', taken⟩ := e.enabled able
  exact ⟨a, s', own, taken⟩

theorem Ending.canGo_of_inside {s : Server} (e : Ending s) {side : Side} {j : Nat}
    {tc : TargetConn} {pc : NotifyPc} (target : s.tcs[j]? = some tc)
    (at_pc : tc.notifyPc side = some pc) (inside : pc ≠ .enter) : CanGo s := by
  cases pc with
  | enter => exact absurd rfl inside
  | done | close | remove =>
    exact e.canGo_of_step (a := .notify side j) trivial
      (by simp [aliveStep, notifyStep, target, at_pc])
  | send =>
    exact e.canGo_of_step (a := .notifyDone side j) trivial
      (by simp [aliveStep, notifyDoneStep, target, at_pc, e.ended])

/-- Who holds the `closeOnce` of a target goes on. -/
theorem Ending.canGo_of_running {s : Server} (e : Ending s) {j : Nat} {tc : TargetConn}
    (target : s.tcs[j]? = some tc) (running : tc.closeOnce = .running) : CanGo s := by
  rcases (e.departing j tc target).runs running with ⟨side, pc, at_pc, inside⟩ | request
  · exact e.canGo_of_inside target at_pc inside
  · refine e.canGo_of_step (a := .run) trivial ?_
    simp only [inRequest, decide_eq_true_eq] at request
    rcases request with run | run <;> simp [aliveStep, runStep, run, requestStep, target]

/-- Who waits for the `closeOnce` waits for somebody who goes on. -/
theorem Ending.canGo_of_notify {s : Server} (e : Ending s) {side : Side} {j : Nat}
    {tc : TargetConn} {pc : NotifyPc} (target : s.tcs[j]? = some tc)
    (at_pc : tc.notifyPc side = some pc) : CanGo s := by
  by_cases entering : pc = .enter
  · subst entering
    cases once : tc.closeOnce with
    | running => exact e.canGo_of_running target once
    | fresh | finished =>
      exact e.canGo_of_step (a := .notify side j) trivial
        (by simp [aliveStep, notifyStep, target, at_pc, once])
  · exact e.canGo_of_inside target at_pc entering

theorem Ending.run_canGo {s : Server} (e : Ending s)
    (running : ¬ (s.run = .exited ∨ s.run = .reading)) : CanGo s := by
  have busy : ∀ j, s.run.target = some j → ∃ tc, s.tcs[j]? = some tc := by
    intro j at_j
    obtain ⟨id, tc, target, -⟩ := e.indexed.running j at_j
    exact ⟨tc, target⟩
  cases run : s.run with
  | exited | reading => simp [run] at running
  | top | dispatch | remove | cleanup =>
    exact e.canGo_of_step (a := .run) trivial (by simp [aliveStep, runStep, run])
  | ping =>
    exact e.canGo_of_step (a := .runDone) trivial (by simp [aliveStep, runDoneStep, run, e.ended])
  | enqueue j data =>
    obtain ⟨tc, target⟩ := busy j (by simp [run, RunPc.target])
    refine e.canGo_of_step (a := .runDone) trivial ?_
    simp [aliveStep, runDoneStep, run, target, targetCtxDone, e.ended]
  | closing j pc =>
    obtain ⟨tc, target⟩ := busy j (by simp [run, RunPc.target])
    by_cases held : tc.closeOnce = .running
    · exact e.canGo_of_running target held
    · refine e.canGo_of_step (a := .run) trivial ?_
      cases pc with
      | enter =>
        cases once : tc.closeOnce with
        | running => exact absurd once held
        | fresh | finished => simp [aliveStep, runStep, run, requestStep, target, once]
      | done | close => simp [aliveStep, runStep, run, requestStep, target]

theorem Ending.handler_canGo {s : Server} (e : Ending s) {i : Nat} {h : Handler}
    (handler : s.handlers[i]? = some h)
    (running : ¬ (h.pc = .returned ∨ ∃ host port, h.pc = .dial host port)) : CanGo s := by
  cases pc : h.pc with
  | returned | dial => simp [pc] at running
  | start =>
    refine e.canGo_of_step (a := .handler i) trivial ?_
    simp only [aliveStep, handlerStep, handler, pc, Option.bind_eq_bind, Option.bind_some]
    split <;> rfl
  | add j =>
    exact e.canGo_of_step (a := .handler i) trivial (by simp [aliveStep, handlerStep, handler, pc])
  | reply status | ack j =>
    exact e.canGo_of_step (a := .handlerDone i) trivial
      (by simp [aliveStep, handlerDoneStep, handler, pc, e.ended])

theorem Ending.reader_canGo {s : Server} (e : Ending s) {j : Nat} {tc : TargetConn}
    (target : s.tcs[j]? = some tc)
    (running : ¬ (tc.reader = .exited ∨ tc.reader = .read ∧ tc.connClosed = false)) : CanGo s := by
  cases reader : tc.reader with
  | exited => simp [reader] at running
  | read =>
    have closed : tc.connClosed = true := by simpa [reader] using running
    refine e.canGo_of_step (a := .targetRead j [] true) ⟨rfl, rfl, ?_⟩
      (by simp [aliveStep, targetReadStep, target, reader])
    simp [target, closed]
  | send data fail =>
    exact e.canGo_of_step (a := .readerDone j) trivial
      (by simp [aliveStep, readerDoneStep, target, reader, e.ended])
  | closing pc =>
    have at_pc : tc.notifyPc .reader = some pc := by simp [TargetConn.notifyPc, reader]
    exact e.canGo_of_notify target at_pc

theorem Ending.writer_canGo {s : Server} (e : Ending s) {j : Nat} {tc : TargetConn}
    (target : s.tcs[j]? = some tc)
    (running : ¬ (tc.writer = .exited ∨ (∃ data, tc.writer = .write data) ∧ tc.connClosed = false)) :
    CanGo s := by
  cases writer : tc.writer with
  | exited => simp [writer] at running
  | select =>
    exact e.canGo_of_step (a := .writerDone j) trivial
      (by simp [aliveStep, writerDoneStep, target, writer, targetCtxDone, e.ended])
  | write data =>
    have closed : tc.connClosed = true := by simpa [writer] using running
    refine e.canGo_of_step (a := .targetWrite j false) ⟨rfl, ?_⟩
      (by simp [aliveStep, targetWriteStep, target, writer])
    simp [target, closed]
  | closing pc =>
    have at_pc : tc.notifyPc .writer = some pc := by simp [TargetConn.notifyPc, writer]
    exact e.canGo_of_notify target at_pc

theorem Ending.canGo {s : Server} (e : Ending s) (busy : ¬ Waiting s) : CanGo s := by
  by_contra stuck
  refine busy ⟨?_, fun h mem => ?_, fun tc mem => ?_, fun tc mem => ?_⟩
  · by_contra running
    exact stuck (e.run_canGo running)
  · obtain ⟨i, handler⟩ := List.mem_iff_getElem?.mp mem
    by_contra running
    exact stuck (e.handler_canGo handler running)
  · obtain ⟨j, target⟩ := List.mem_iff_getElem?.mp mem
    by_contra running
    exact stuck (e.reader_canGo target running)
  · obtain ⟨j, target⟩ := List.mem_iff_getElem?.mp mem
    by_contra running
    exact stuck (e.writer_canGo target running)

theorem Ending.waiting {s : Server} (e : Ending s)
    (stuck : ∀ a, Own s a → serverStep s a = none) : Waiting s := by
  by_contra busy
  obtain ⟨a, s', own, taken⟩ := e.canGo busy
  simp [stuck a own] at taken

/-- The calls of the network come to an end. -/
theorem Ending.returned {s : Server} (e : Ending s)
    (stuck : ∀ a, Winding a → serverStep s a = none) : Over s := by
  have waits := e.waiting fun a own => stuck a own.winding
  have never : ∀ a, Winding a → (aliveStep s a).isSome → False := by
    intro a winding able
    obtain ⟨s', taken⟩ := e.enabled able
    simp [stuck a winding] at taken
  refine ⟨?_, ?_, fun h mem => ?_, fun tc mem => ?_, fun tc mem => ?_⟩
  · refine waits.run.resolve_right fun run => ?_
    exact never .relayLost trivial (by simp [aliveStep, run])
  · by_contra writing
    exact never .drainDone trivial (by simpa [aliveStep, e.ended] using writing)
  · refine (waits.handlers h mem).resolve_right ?_
    rintro ⟨host, port, pc⟩
    obtain ⟨i, handler⟩ := List.mem_iff_getElem?.mp mem
    exact never (.dial i .failed) trivial (by simp [aliveStep, dialStep, handler, pc])
  · refine (waits.readers tc mem).resolve_right ?_
    rintro ⟨reader, -⟩
    obtain ⟨j, target⟩ := List.mem_iff_getElem?.mp mem
    exact never (.targetRead j [] true) ⟨rfl, rfl⟩
      (by simp [aliveStep, targetReadStep, target, reader])
  · refine (waits.writers tc mem).resolve_right ?_
    rintro ⟨⟨data, writer⟩, -⟩
    obtain ⟨j, target⟩ := List.mem_iff_getElem?.mp mem
    exact never (.targetWrite j false) trivial
      (by simp [aliveStep, targetWriteStep, target, writer])

/-! ## The end -/

theorem ctxDone_step {s s' : Server} {a : Action} {out : List VFrame} (h : Steps s a s' out)
    (ended : s.ctxDone = true) : s'.ctxDone = true := by
  cases h with
  | relayLost | flushFailed => rfl
  | _ => exact ended

/-- Only a dial panics. -/
def Calm : Action → Prop
  | .dial _ .panicked => False
  | _ => True

theorem crashed_step {s s' : Server} {a : Action} {out : List VFrame} (calm : Calm a)
    (h : Steps s a s' out) : s'.crashed = s.crashed := by
  cases h with
  | dialPanicked => exact calm.elim
  | _ => rfl

theorem Ending.step {s s' : Server} {a : Action} {out : List VFrame} (e : Ending s) (calm : Calm a)
    (h : Steps s a s' out) : Ending s' where
  indexed := e.indexed.step h
  departing := e.departing.step h
  ended := ctxDone_step h e.ended
  alive := (crashed_step calm h).trans e.alive

theorem Winding.calm {a : Action} (w : Winding a) : Calm a := by
  cases a with
  | dial i outcome =>
    cases outcome with
    | conn | failed => trivial
    | panicked => exact w
  | _ => trivial

theorem ending_winds : Winds serverStep Winding Ending Over work where
  keeps s a s' e winding taken := by
    obtain ⟨out, h⟩ := serverStep_steps taken
    exact e.step winding.calm h
  lowers s a s' e winding taken := by
    obtain ⟨⟨s₁, out⟩, h, rfl⟩ := Option.map_eq_some_iff.mp taken
    exact work_winding winding e.ended h
  enabled s e busy := by
    by_contra stuck
    refine busy (e.returned fun a winding => ?_)
    cases taken : serverStep s a with
    | none => rfl
    | some s' => exact absurd ⟨a, s', winding, taken⟩ stuck

theorem Holding.calm {a : Action} (holding : Holding a) : Calm a := by
  cases a with
  | targetRead | heartbeat => trivial
  | _ => exact holding.elim

/-- Whoever has returned from `readLoop` has closed the target, or waited for that. -/
theorem Over.closed {s : Server} (o : Over s) (d : Departing s) :
    ∀ tc ∈ s.tcs, tc.connClosed = true := by
  intro tc mem
  obtain ⟨j, target⟩ := List.mem_iff_getElem?.mp mem
  have departs := d j tc target
  exact departs.finished (departs.exited (o.readers tc mem))

end Server

end EspNetwork.Proxy
