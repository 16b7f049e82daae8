import EspNetwork.Base.Refinement
import EspNetwork.Session.System

/-!
# The device answers in order

The device and the serial link are what calls of `Send` take them for: requests are taken in the
order they were written, each is answered at most once and under its own number and command, and the
responses arrive in that order. A reset loses what the device has not answered yet.
-/

namespace EspNetwork.Session

open Serial
open Firmware (CmdPc CmdChoice Mgr)
open Host (RelayConn Request Response SendAction SendResult SendPc SendCall ReaderPc)
open Host.Device (setCall setPending putRequest inHand Steps step_steps)
open Stack (arrive onUsb DeviceIdle HostIdle)
open Tunnel (Whole hostFrames)

/-! ## What the device has still to answer -/

/-- The request a handler has still to answer. -/
def owed : CmdPc → List ProtoFrame
  | .other f | .reset f | .connectBusy f _ _ | .connectSocket f _ _ | .connecting f _
  | .connectFailed f _ | .connectStore f _ | .disconnect f _ | .getStatus f | .respond f _ => [f]
  | .idle | .restart | .sendUp _ | .sendAlloc _ | .sendPut _ => []

/-- The requests that are answered when their turn comes. -/
def answered (fs : List ProtoFrame) : List ProtoFrame :=
  fs.filter fun f => f.cmd ≠ Firmware.cmdProxySend

theorem answered_append (fs gs : List ProtoFrame) :
    answered (fs ++ gs) = answered fs ++ answered gs :=
  List.filter_append ..

theorem answered_answered (fs : List ProtoFrame) : answered (answered fs) = answered fs := by
  simp [answered, List.filter_filter]

/-- What the device has received or will receive. -/
def inbound (d : Firmware.Device) : List ProtoFrame := owed d.cmd ++ Tunnel.pendingFrames d

theorem owed_onFrame (f : ProtoFrame) : owed (Firmware.onFrame f) = answered [f] := by
  by_cases relay : f.cmd = Firmware.cmdProxySend
  · have handler : Firmware.onFrame f = Firmware.handleProxySend f := by
      rw [Firmware.onFrame, relay]
      rfl
    rw [handler, Firmware.handleProxySend]
    split <;> simp [owed, answered, relay]
  · have awaited : answered [f] = [f] := by simp [answered, relay]
    rw [awaited, Firmware.onFrame]
    split_ifs with reset connect disconnect status
    · rfl
    · unfold Firmware.handleProxyConnect
      split
      · rfl
      · split <;> rfl
    · rfl
    · rfl
    · rfl

/-- A push, from its builder. -/
def Pushed (o : DeviceFrame) : Prop := o.WellFormed ∧ o.hostFrame.isResp = false

theorem pushed_push {cmd : Byte} {data : Option Bytes} (plain : cmd < 0x80)
    (fits : (data.getD []).length ≤ protoMaxPayload) :
    Pushed (.push cmd data Firmware.pushBufSize) := by
  refine ⟨⟨plain, fits, ?_⟩, rfl⟩
  simp only [Firmware.pushBufSize, protoMaxPayload] at fits ⊢
  omega

theorem wellFormed_response {f : ProtoFrame} (plain : f.cmd < 0x80) (a : Firmware.Answer) :
    (DeviceFrame.response f.seq f.cmd a.status a.data Firmware.respBufSize).WellFormed := by
  have fits := a.fits
  refine ⟨plain, fits, ?_⟩
  simp only [Firmware.respBufSize, protoMaxPayload]
  omega

/-- What `close_relay` writes is a push. -/
theorem closeRelay_usb {m m' : Mgr} {malloc : Bool} {pc : Firmware.ClosePc}
    {next : Option Firmware.ClosePc} (h : Firmware.closeRelay m malloc pc = (m', next)) :
    ∃ out, m'.usb = m.usb ++ out ∧ ∀ o ∈ out, Pushed o := by
  have push : Pushed (.push Firmware.cmdProxyClosedPush none Firmware.pushBufSize) :=
    pushed_push (by decide) (by simp)
  cases pc with
  | take =>
    cases up : m.sFd <;> simp only [Firmware.closeRelay, up] at h <;>
      obtain ⟨rfl, -⟩ := Prod.mk.inj h <;> exact ⟨[], by simp, by simp⟩
  | shut fd | close fd =>
    obtain ⟨rfl, -⟩ := Prod.mk.inj h
    exact ⟨[], by simp, by simp⟩
  | push =>
    obtain ⟨rfl, -⟩ := Prod.mk.inj h
    cases malloc with
    | true => exact ⟨_, rfl, by simpa using push⟩
    | false => exact ⟨[], by simp [Mgr.cdcSendPush], by simp⟩

/-- A step inside a handler answers the request it owes or goes on owing it. -/
theorem handlerStep_owed {m m' : Mgr} {pc pc' : CmdPc} {c : CmdChoice}
    (h : Firmware.handlerStep m pc c = some (m', pc')) :
    (owed pc' = owed pc ∧ ∃ out, m'.usb = m.usb ++ out ∧ ∀ o ∈ out, Pushed o) ∨
      ∃ f a, owed pc = [f] ∧ owed pc' = [] ∧ m' = m.cdcSendResponse f a := by
  have silent : m'.usb = m.usb → ∃ out, m'.usb = m.usb ++ out ∧ ∀ o ∈ out, Pushed o :=
    fun same => ⟨[], by simp [same], by simp⟩
  cases pc with
  | idle | restart => cases c <;> simp [Firmware.handlerStep] at h
  | other f | reset f | respond f a =>
    cases c <;> simp only [Firmware.handlerStep, reduceCtorEq, Option.some.injEq,
      Prod.mk.injEq] at h
    obtain ⟨rfl, rfl⟩ := h
    exact .inr ⟨f, _, rfl, rfl, rfl⟩
  | connectBusy f host port =>
    cases c <;> simp only [Firmware.handlerStep, reduceCtorEq] at h
    split at h <;> obtain ⟨rfl, rfl⟩ := Prod.mk.inj (Option.some.inj h) <;>
      exact .inl ⟨rfl, silent rfl⟩
  | connectSocket f host port =>
    cases c <;> simp only [Firmware.handlerStep, reduceCtorEq] at h
    case fail =>
      obtain ⟨rfl, rfl⟩ := Prod.mk.inj (Option.some.inj h)
      exact .inl ⟨rfl, silent rfl⟩
    case socket fd =>
      obtain ⟨net, -, eq⟩ := Option.map_eq_some_iff.mp h
      obtain ⟨rfl, rfl⟩ := Prod.mk.inj eq
      exact .inl ⟨rfl, silent rfl⟩
  | connecting f sock =>
    cases c <;> simp only [Firmware.handlerStep, reduceCtorEq] at h <;>
      obtain ⟨rfl, rfl⟩ := Prod.mk.inj (Option.some.inj h) <;> exact .inl ⟨rfl, silent rfl⟩
  | connectFailed f sock | connectStore f sock | getStatus f =>
    cases c <;> simp only [Firmware.handlerStep, reduceCtorEq] at h
    obtain ⟨rfl, rfl⟩ := Prod.mk.inj (Option.some.inj h)
    exact .inl ⟨rfl, silent rfl⟩
  | sendUp data =>
    cases c <;> simp only [Firmware.handlerStep, reduceCtorEq] at h
    obtain ⟨rfl, rfl⟩ := Prod.mk.inj (Option.some.inj h)
    refine .inl ⟨?_, silent rfl⟩
    split <;> rfl
  | sendAlloc data =>
    cases c <;> simp only [Firmware.handlerStep, reduceCtorEq] at h <;>
      obtain ⟨rfl, rfl⟩ := Prod.mk.inj (Option.some.inj h) <;> exact .inl ⟨rfl, silent rfl⟩
  | sendPut data =>
    cases c <;> simp only [Firmware.handlerStep, reduceCtorEq] at h <;> split_ifs at h <;>
      obtain ⟨rfl, rfl⟩ := Prod.mk.inj (Option.some.inj h) <;> exact .inl ⟨rfl, silent rfl⟩
  | disconnect f close =>
    have through : ∀ malloc, Firmware.handlerStep.afterClose f (Firmware.closeRelay m malloc close) =
        (m', pc') → owed pc' = [f] ∧ ∃ out, m'.usb = m.usb ++ out ∧ ∀ o ∈ out, Pushed o := by
      intro malloc eq
      cases closed : Firmware.closeRelay m malloc close with
      | mk mgr next =>
        rw [closed] at eq
        cases next <;> obtain ⟨rfl, rfl⟩ := Prod.mk.inj eq <;> exact ⟨rfl, closeRelay_usb closed⟩
    cases c with
    | go => exact .inl (through true (Option.some.inj h))
    | oom =>
      cases close <;> simp only [Firmware.handlerStep, reduceCtorEq] at h
      exact .inl (through false (Option.some.inj h))
    | _ => simp [Firmware.handlerStep] at h

/-- A piece that waits to be pushed fits into a push, and no write of the relay is answered. -/
structure Proper (d : Firmware.Device) : Prop where
  piece : ∀ data, d.rx = .push data → data.length ≤ protoMaxPayload
  owes : ∀ f ∈ owed d.cmd, f.cmd ≠ Firmware.cmdProxySend

theorem tcpSendTask_usb {m m' : Mgr} {pc pc' : Firmware.SendPc} {c : Firmware.SendChoice}
    (h : Firmware.tcpSendTask m pc c = some (m', pc')) :
    ∃ out, m'.usb = m.usb ++ out ∧ ∀ o ∈ out, Pushed o := by
  have silent : m'.usb = m.usb → ∃ out, m'.usb = m.usb ++ out ∧ ∀ o ∈ out, Pushed o :=
    fun same => ⟨[], by simp [same], by simp⟩
  have through : ∀ malloc close, Firmware.tcpSendTask.afterClose (Firmware.closeRelay m malloc close) =
      (m', pc') → ∃ out, m'.usb = m.usb ++ out ∧ ∀ o ∈ out, Pushed o := by
    intro malloc close eq
    cases closed : Firmware.closeRelay m malloc close with
    | mk mgr next =>
      rw [closed] at eq
      cases next <;> obtain ⟨rfl, rfl⟩ := Prod.mk.inj eq <;> exact closeRelay_usb closed
  cases pc with
  | receive =>
    cases c <;> simp only [Firmware.tcpSendTask, reduceCtorEq] at h
    split at h
    · cases h
    · obtain ⟨rfl, rfl⟩ := Prod.mk.inj (Option.some.inj h)
      exact silent rfl
  | snapshot job =>
    cases c <;> simp only [Firmware.tcpSendTask, reduceCtorEq] at h
    split at h <;> obtain ⟨rfl, rfl⟩ := Prod.mk.inj (Option.some.inj h) <;> exact silent rfl
  | sending fd rest =>
    cases c with
    | accept n =>
      obtain ⟨net, -, eq⟩ := Option.map_eq_some_iff.mp (by simpa only [Firmware.tcpSendTask] using h)
      obtain ⟨rfl, rfl⟩ := Prod.mk.inj eq
      exact silent rfl
    | _ =>
      cases rest <;> simp only [Firmware.tcpSendTask, reduceCtorEq] at h
      all_goals
        obtain ⟨rfl, rfl⟩ := Prod.mk.inj (Option.some.inj h)
        exact silent rfl
  | closing close =>
    cases c with
    | go => exact through true close (Option.some.inj h)
    | oom =>
      cases close <;> simp only [Firmware.tcpSendTask, reduceCtorEq] at h
      exact through false .push (Option.some.inj h)
    | _ => simp [Firmware.tcpSendTask] at h

theorem tcpRxTask_usb {m m' : Mgr} {pc pc' : Firmware.RxPc} {c : Firmware.RxChoice}
    (fits : ∀ data, pc = .push data → data.length ≤ protoMaxPayload)
    (h : Firmware.tcpRxTask m pc c = some (m', pc')) :
    (∃ out, m'.usb = m.usb ++ out ∧ ∀ o ∈ out, Pushed o) ∧
      ∀ data, pc' = .push data → data.length ≤ protoMaxPayload := by
  have silent : m'.usb = m.usb → ∃ out, m'.usb = m.usb ++ out ∧ ∀ o ∈ out, Pushed o :=
    fun same => ⟨[], by simp [same], by simp⟩
  have through : ∀ malloc close, Firmware.tcpRxTask.afterClose (Firmware.closeRelay m malloc close) =
      (m', pc') → (∃ out, m'.usb = m.usb ++ out ∧ ∀ o ∈ out, Pushed o) ∧
        ∀ data, pc' = .push data → data.length ≤ protoMaxPayload := by
    intro malloc close eq
    cases closed : Firmware.closeRelay m malloc close with
    | mk mgr next =>
      rw [closed] at eq
      cases next <;> obtain ⟨rfl, rfl⟩ := Prod.mk.inj eq <;> exact ⟨closeRelay_usb closed, by simp⟩
  cases pc with
  | top =>
    cases c <;> simp only [Firmware.tcpRxTask, reduceCtorEq] at h
    split at h <;> obtain ⟨rfl, rfl⟩ := Prod.mk.inj (Option.some.inj h) <;>
      exact ⟨silent rfl, by simp⟩
  | select fd =>
    cases c <;> simp only [Firmware.tcpRxTask, reduceCtorEq] at h <;>
      obtain ⟨rfl, rfl⟩ := Prod.mk.inj (Option.some.inj h) <;> exact ⟨silent rfl, by simp⟩
  | recv fd =>
    cases c with
    | data len =>
      simp only [Firmware.tcpRxTask] at h
      split_ifs at h with short
      obtain ⟨⟨piece, net⟩, received, eq⟩ := Option.map_eq_some_iff.mp h
      obtain ⟨rfl, rfl⟩ := Prod.mk.inj eq
      refine ⟨silent rfl, fun data push => ?_⟩
      obtain rfl := Firmware.RxPc.push.inj push
      simp only [Firmware.Net.recv, Option.bind_eq_bind, Option.bind_eq_some_iff] at received
      obtain ⟨k, -, s, -, taken⟩ := received
      split_ifs at taken
      obtain ⟨rfl, -⟩ := Prod.mk.inj (Option.some.inj taken)
      exact (List.length_take_le len s.inbox).trans short
    | eof =>
      simp only [Firmware.tcpRxTask] at h
      split_ifs at h
      obtain ⟨rfl, rfl⟩ := Prod.mk.inj (Option.some.inj h)
      exact ⟨silent rfl, by simp⟩
    | _ =>
      simp only [Firmware.tcpRxTask, reduceCtorEq] at h
      all_goals
        obtain ⟨rfl, rfl⟩ := Prod.mk.inj (Option.some.inj h)
        exact ⟨silent rfl, by simp⟩
  | push data =>
    have push : Pushed (.push Firmware.cmdProxyDataPush (some data) Firmware.pushBufSize) :=
      pushed_push (by decide) (fits data rfl)
    cases c <;> simp only [Firmware.tcpRxTask, reduceCtorEq] at h <;>
      obtain ⟨rfl, rfl⟩ := Prod.mk.inj (Option.some.inj h)
    · exact ⟨⟨_, rfl, by simpa using push⟩, by simp⟩
    · exact ⟨⟨[], by simp [Mgr.cdcSendPush], by simp⟩, by simp⟩
  | closing close =>
    cases c with
    | go => exact through true close (Option.some.inj h)
    | oom =>
      cases close <;> simp only [Firmware.tcpRxTask, reduceCtorEq] at h
      exact through false .push (Option.some.inj h)
    | _ => simp [Firmware.tcpRxTask] at h

/-! ## What a step of the device does to its requests -/

inductive Serves (d d' : Firmware.Device) : Prop where
  /-- Nothing is answered; pushes may be written. -/
  | quiet (out : List DeviceFrame) (usb : d'.mgr.usb = d.mgr.usb ++ out) (pushed : ∀ o ∈ out, Pushed o)
    (same : answered (inbound d') = answered (inbound d)) (still : inbound d' ⊆ inbound d)
  | answer (f : ProtoFrame) (a : Firmware.Answer) (first : inbound d = f :: inbound d')
    (asked : f.cmd ≠ Firmware.cmdProxySend)
    (usb : d'.mgr.usb = d.mgr.usb ++ [.response f.seq f.cmd a.status a.data Firmware.respBufSize])
  | restart (after : d' = d.restart)

theorem Serves.of_same {d d' : Firmware.Device} {out : List DeviceFrame}
    (usb : d'.mgr.usb = d.mgr.usb ++ out) (pushed : ∀ o ∈ out, Pushed o)
    (same : inbound d' = inbound d) : Serves d d' :=
  .quiet out usb pushed (by rw [same]) (by rw [same]; exact List.Subset.refl _)

theorem serves {d d' : Firmware.Device} {a : Firmware.Action} (proper : Proper d)
    (h : Firmware.step d a = some d') : Serves d d' ∧ Proper d' := by
  cases a with
  | send c =>
    obtain ⟨⟨mgr, send⟩, taken, rfl⟩ := Option.map_eq_some_iff.mp h
    obtain ⟨out, usb, pushed⟩ := tcpSendTask_usb taken
    exact ⟨.of_same usb pushed rfl, ⟨proper.piece, proper.owes⟩⟩
  | rx c =>
    obtain ⟨⟨mgr, rx⟩, taken, rfl⟩ := Option.map_eq_some_iff.mp h
    obtain ⟨⟨out, usb, pushed⟩, piece⟩ := tcpRxTask_usb proper.piece taken
    exact ⟨.of_same usb pushed rfl, ⟨piece, proper.owes⟩⟩
  | cmd c =>
    replace h : Firmware.cmdTask d c = some d' := h
    by_cases restarts : d.cmd = .restart
    · simp only [Firmware.cmdTask, restarts, Option.some.injEq] at h
      subst h
      exact ⟨.restart rfl, ⟨by simp [Firmware.Device.restart, Firmware.boot],
        by simp [Firmware.Device.restart, Firmware.boot, owed]⟩⟩
    by_cases idle : d.cmd = .idle
    · simp only [Firmware.cmdTask, idle] at h
      split at h
      case h_1 f calls queue =>
        obtain rfl := Option.some.inj h
        have parts : inbound d = [f] ++ (calls ++
            (deviceParser.feed d.parser (d.chunk ++ d.serial)).2) := by
          simp [inbound, idle, owed, Tunnel.pendingFrames, queue]
        refine ⟨.quiet [] (by simp) (by simp) ?_ ?_, ⟨proper.piece, ?_⟩⟩
        · rw [parts, inbound, owed_onFrame, answered_append, answered_answered, ← answered_append]
          rfl
        · intro g mem
          rw [parts]
          rw [inbound, owed_onFrame] at mem
          rcases List.mem_append.mp mem with owes | waits
          · exact List.mem_append_left _ (List.mem_of_mem_filter owes)
          · exact List.mem_append_right _ waits
        · intro g mem
          rw [owed_onFrame] at mem
          simpa using List.of_mem_filter mem
      case h_2 b chunk calls fed =>
        obtain rfl := Option.some.inj h
        refine ⟨.of_same (List.append_nil _).symm (by simp) ?_, ⟨proper.piece, by simp [owed]⟩⟩
        simp only [inbound, idle, Tunnel.pendingFrames, calls, fed, List.cons_append,
          Transducer.feed_cons, List.nil_append]
        rfl
      case h_3 n calls empty =>
        split_ifs at h
        obtain rfl := Option.some.inj h
        refine ⟨.of_same (List.append_nil _).symm (by simp) ?_, ⟨proper.piece, by simp [owed]⟩⟩
        simp [inbound, idle, Tunnel.pendingFrames, empty]
      case h_4 => cases h
    · rw [Firmware.cmdTask_eq_handlerStep idle restarts] at h
      obtain ⟨⟨mgr, cmd⟩, taken, rfl⟩ := Option.map_eq_some_iff.mp h
      rcases handlerStep_owed taken with ⟨same, out, usb, pushed⟩ | ⟨f, a, owes, done, rfl⟩
      · exact ⟨.of_same usb pushed (by simp [inbound, same, Tunnel.pendingFrames]),
          ⟨proper.piece, by simpa only [same] using proper.owes⟩⟩
      · refine ⟨.answer f a ?_ ?_ rfl, ⟨proper.piece, by simp [done]⟩⟩
        · simp [inbound, owes, done, Tunnel.pendingFrames]
        · exact proper.owes f (by simp [owes])

/-! ## The host -/

section Host

variable {t : Host.Device}

@[simp] theorem hostPart_calls_getElem? (t : Host.Device) (j : ℕ) :
    (hostPart t).calls[j]? = (t.calls[j]?).map SendCall.unnamed := by
  simp [hostPart]

/-- The host part after a step, with what the step has written. -/
def written (t t' : Host.Device) : Host.Device :=
  { hostPart t' with requests := t'.requests.drop t.requests.length }

theorem advance_part (t : Host.Device) (j : ℕ) :
    Host.Device.advance (hostPart t) j = (Host.Device.advance t j).map (written t) := by
  cases call : t.calls[j]? with
  | none => simp [Host.Device.advance, call]
  | some c =>
    have here : (hostPart t).calls[j]? = some (SendCall.unnamed c) := by simp [call]
    cases pc : c.pc with
    | start | insert | write | deferred result =>
      simp [Host.Device.advance, call, pc, written, hostPart, setCall, setPending, putRequest,
        SendCall.unnamed, SendPc.unnamed, List.map_set, Host.Device.nextSeq]
    | select =>
      cases ch : c.ch with
      | some r =>
        simp [Host.Device.advance, call, pc, ch, written, hostPart, setCall, SendCall.unnamed,
          SendPc.unnamed, SendResult.unnamed, List.map_set]
      | none =>
        cases closed : c.closed <;>
          simp [Host.Device.advance, call, pc, ch, closed, written, hostPart, setCall,
            SendCall.unnamed, SendPc.unnamed, SendResult.unnamed, List.map_set]
    | returned result => simp [Host.Device.advance, call, pc, SendCall.unnamed, SendPc.unnamed]

theorem writeFail_part (t : Host.Device) (j : ℕ) (out : Bool) :
    Host.Device.writeFail (hostPart t) j out = (Host.Device.writeFail t j out).map (written t) := by
  cases call : t.calls[j]? with
  | none => simp [Host.Device.writeFail, call]
  | some c =>
    cases pc : c.pc <;> cases out <;>
      simp [Host.Device.writeFail, call, pc, written, hostPart, setCall, putRequest,
        SendCall.unnamed, SendPc.unnamed, SendResult.unnamed, List.map_set]

theorem giveUp_part (t : Host.Device) (j : ℕ) {result : SendResult}
    (same : SendResult.unnamed result = result) :
    Host.Device.giveUp (hostPart t) j result = (Host.Device.giveUp t j result).map (written t) := by
  cases call : t.calls[j]? with
  | none => simp [Host.Device.giveUp, call]
  | some c =>
    cases pc : c.pc <;>
      simp [Host.Device.giveUp, call, pc, written, hostPart, setCall,
        SendCall.unnamed, SendPc.unnamed, same, List.map_set]

theorem deliver_part (t : Host.Device) :
    Host.Device.deliver (hostPart t) = (Host.Device.deliver t).map (written t) := by
  cases reader : t.reader with
  | idle | exited => simp [Host.Device.deliver, reader, hostPart, ReaderPc.unnamed]
  | deliver j r =>
    cases call : t.calls[j]? with
    | none => simp [Host.Device.deliver, reader, hostPart, ReaderPc.unnamed, call]
    | some c =>
      cases ch : c.ch <;>
        simp [Host.Device.deliver, reader, hostPart, ReaderPc.unnamed, call, written, setCall,
          SendCall.unnamed, ch, List.map_set]

theorem step_part (t : Host.Device) {a : SendAction} (mine : own a = true) :
    Host.Device.step (hostPart t) a = (Host.Device.step t a).map (written t) := by
  cases a with
  | send cmd payload =>
    cases port : t.port <;>
      simp [Host.Device.step, written, hostPart, port, SendCall.unnamed, SendPc.unnamed,
        SendResult.unnamed]
  | advance j => exact advance_part t j
  | writeFail j out => exact writeFail_part t j out
  | timeout j | cancelled j => exact giveUp_part t j rfl
  | disconnected j =>
    have part := giveUp_part t j (rfl : SendResult.unnamed .notConnected = .notConnected)
    cases done : t.ctxDone with
    | true =>
      have done' : (hostPart t).ctxDone = true := done
      simpa only [Host.Device.step, done, done', if_true] using part
    | false =>
      have done' : (hostPart t).ctxDone = false := done
      simp [Host.Device.step, done, done']
  | deliver => exact deliver_part t
  | close => simp [Host.Device.step, written, hostPart]
  | readerExit =>
    cases reader : t.reader <;>
      simp [Host.Device.step, written, hostPart, reader, ReaderPc.unnamed]
  | drain =>
    have calls : (t.calls.map SendCall.unnamed).mapIdx
        (fun j c => if t.pending c.seq = some j then { c with closed := true } else c) =
        (t.calls.mapIdx fun j c =>
          if t.pending c.seq = some j then { c with closed := true } else c).map
            SendCall.unnamed := by
      refine List.ext_getElem (by simp) fun j _ _ => ?_
      simp only [List.getElem_mapIdx, List.getElem_map]
      split_ifs with mine other other
      · rfl
      · exact absurd mine other
      · exact absurd other mine
      · rfl
    cases reader : t.reader <;> cases done : t.ctxDone <;>
      simp [Host.Device.step, written, hostPart, reader, done, ReaderPc.unnamed, calls]
  | answer | skip | lookup => simp [own] at mine

/-- A response that the reader takes from the stream is looked up by what the stream says. -/
theorem lookup_part {r : Response} {responses : List Response} (queue : t.responses = r :: responses) :
    Host.Device.lookup { hostPart t with responses := [⟨0, r.frame⟩] } =
      (Host.Device.lookup t).map hostPart := by
  cases reader : t.reader with
  | deliver j r' | exited =>
    simp [Host.Device.lookup, hostPart, reader, ReaderPc.unnamed]
  | idle =>
    cases entry : t.pending r.frame.seq <;>
      simp [Host.Device.lookup, hostPart, reader, ReaderPc.unnamed, queue, entry, setPending,
        Response.unnamed]

theorem lookup_queues {t' : Host.Device} {r : Response} {responses : List Response}
    (queue : t.responses = r :: responses) (h : Host.Device.lookup t = some t') :
    t'.requests = t.requests ∧ t'.responses = responses ∧ t'.calls = t.calls := by
  simp only [Host.Device.lookup, queue] at h
  split at h
  · rename_i reader first
    obtain ⟨rfl, rfl⟩ := List.cons.inj first
    split at h <;> obtain rfl := Option.some.inj h <;> exact ⟨rfl, rfl, rfl⟩
  · cases h

/-- A step of the host writes what one of its calls asks for. -/
theorem own_queues {t' : Host.Device} {a : SendAction} (mine : own a = true) (h : Steps t a t') :
    (∃ qs, t'.requests = t.requests ++ qs ∧
      ∀ q ∈ qs, ∃ c ∈ t.calls, q.cmd = c.cmd ∧ q.payload = c.payload) ∧
      t'.responses = t.responses := by
  cases h with
  | write a call pc next =>
    refine ⟨⟨_, rfl, ?_⟩, rfl⟩
    intro q mem
    obtain rfl := List.mem_singleton.mp mem
    exact ⟨_, List.mem_of_getElem? call, rfl, rfl⟩
  | answer | skip | found | unknown => simp [own] at mine
  | _ => exact ⟨⟨[], by simp [setCall, setPending], by simp⟩, rfl⟩

/-- What holds of what the callers ask for holds of what the calls keep of it. -/
theorem calls_keep {t' : Host.Device} {a : SendAction} {P : Byte → Bytes → Prop}
    (asked : ∀ cmd payload, a = .send cmd payload → P cmd payload) (h : Steps t a t')
    (before : ∀ c ∈ t.calls, P c.cmd c.payload) : ∀ c ∈ t'.calls, P c.cmd c.payload := by
  have set : ∀ {calls : List SendCall} {j : ℕ} {c c' : SendCall}, (∀ u ∈ calls, P u.cmd u.payload) →
      t.calls[j]? = some c → c'.cmd = c.cmd → c'.payload = c.payload →
      ∀ u ∈ calls.set j c', P u.cmd u.payload := by
    intro calls j c c' all call cmd payload u mem
    rcases List.mem_or_eq_of_mem_set mem with old | rfl
    · exact all u old
    · rw [cmd, payload]
      exact before c (List.mem_of_getElem? call)
  cases h with
  | send cmd payload begins =>
    intro c mem
    rcases List.mem_append.mp mem with old | new
    · exact before c old
    · obtain rfl := List.mem_singleton.mp new
      exact asked cmd payload rfl
  | start call | insert call | write _ call | receive call | giveUp _ call | deferred call
  | deliver _ call => exact set before call rfl rfl
  | drain =>
    intro c mem
    obtain ⟨j, bound, rfl⟩ := List.mem_mapIdx.mp mem
    have kept := before _ (List.getElem_mem bound)
    split_ifs <;> exact kept
  | _ => exact before

end Host

/-! ## The two levels -/

/-- The abstract device of `t` has exactly the requests that `s` has still to answer, and the
responses that `s` has still to read. -/
structure Related (s : System) (t : Host.Device) : Prop where
  host : s.host = hostPart t
  requests : t.requests.map frame = answered (inbound s.device)
  responses : t.responses.map Response.frame = (Host.pendingFrames s.reader).filter Frame.isResp
  device : DeviceIdle s.device
  reader : HostIdle s.reader
  plain : ∀ f ∈ inbound s.device, f.cmd < 0x80
  proper : Proper s.device
  calls : ∀ c ∈ t.calls,
    c.cmd < 0x80 ∧ c.cmd ≠ Firmware.cmdProxySend ∧ c.payload.length ≤ protoMaxPayload

theorem inbound_arrive {d : Firmware.Device} {fs : List ProtoFrame} (idle : DeviceIdle d)
    (fits : ∀ f ∈ fs, f.payload.length ≤ protoMaxPayload) :
    inbound (arrive (fs.flatMap ProtoFrame.request) d) = inbound d ++ fs ∧
      DeviceIdle (arrive (fs.flatMap ProtoFrame.request) d) := by
  induction fs generalizing d with
  | nil => simpa [arrive] using idle
  | cons f fs ih =>
    obtain ⟨behind, idle'⟩ := Stack.pendingFrames_arrive idle (fits f List.mem_cons_self)
    obtain ⟨rest, idle''⟩ := ih idle' fun g mem => fits g (List.mem_cons_of_mem _ mem)
    have split : arrive ((f :: fs).flatMap ProtoFrame.request) d =
        arrive (fs.flatMap ProtoFrame.request) (arrive f.request d) := by
      simp [arrive]
    have first : inbound (arrive f.request d) = inbound d ++ [f] := by
      rw [inbound, behind, inbound, ← List.append_assoc]
      rfl
    rw [split]
    exact ⟨by simp [rest, first], idle''⟩

theorem hostFrames_filter {out : List DeviceFrame} (pushed : ∀ o ∈ out, Pushed o) :
    (hostFrames out).filter Frame.isResp = [] := by
  refine List.filter_eq_nil_iff.mpr fun f mem => ?_
  obtain ⟨o, ho, rfl⟩ := List.mem_map.mp mem
  rw [(pushed o ho).1.hostView_eq, (pushed o ho).2]
  simp

section Steps

variable {s s' : System} {t : Host.Device}

/-- What the writes of the host do on the way to the device. -/
theorem Related.arrive {t' h : Host.Device} (related : Related s t) (fs : List ProtoFrame)
    (host : h = hostPart t')
    (requests : t'.requests.map frame = t.requests.map frame ++ answered fs)
    (responses : t'.responses = t.responses)
    (calls : ∀ c ∈ t'.calls,
      c.cmd < 0x80 ∧ c.cmd ≠ Firmware.cmdProxySend ∧ c.payload.length ≤ protoMaxPayload)
    (plain : ∀ f ∈ fs, f.cmd < 0x80) (fits : ∀ f ∈ fs, f.payload.length ≤ protoMaxPayload) :
    Related { s with
      host := h
      device := arrive (fs.flatMap ProtoFrame.request) s.device } t' := by
  obtain ⟨behind, idle⟩ := inbound_arrive related.device fits
  refine ⟨host, ?_, by rw [responses]; exact related.responses, idle, related.reader, ?_,
    ⟨related.proper.piece, related.proper.owes⟩, calls⟩
  · rw [requests, related.requests, behind, answered_append]
  · intro f mem
    rw [behind] at mem
    rcases List.mem_append.mp mem with old | new
    · exact related.plain f old
    · exact plain f new

theorem host_step {a : SendAction} (related : Related s t) (sound : Sound (.host a))
    (h : step s (.host a) = some s') : ∃ t', Host.Device.step t a = some t' ∧ Related s' t' := by
  simp only [step] at h
  split_ifs at h with mine
  rw [related.host, step_part t mine, Option.map_map] at h
  obtain ⟨t', taken, rfl⟩ := Option.map_eq_some_iff.mp h
  have steps := step_steps taken
  obtain ⟨⟨qs, requests, asked⟩, responses⟩ := own_queues mine steps
  have calls := calls_keep (P := fun cmd payload =>
    cmd < 0x80 ∧ cmd ≠ Firmware.cmdProxySend ∧ payload.length ≤ protoMaxPayload)
    (fun cmd payload eq => by simpa [eq, Sound] using sound) steps related.calls
  have wanted : ∀ f ∈ qs.map frame,
      f.cmd < 0x80 ∧ f.cmd ≠ Firmware.cmdProxySend ∧ f.payload.length ≤ protoMaxPayload := by
    intro f mem
    obtain ⟨q, hq, rfl⟩ := List.mem_map.mp mem
    obtain ⟨c, hc, cmd, payload⟩ := asked q hq
    simpa only [frame, cmd, payload] using related.calls c hc
  have new : t'.requests.drop t.requests.length = qs := by rw [requests, List.drop_left]
  refine ⟨t', taken, ?_⟩
  have queued : t'.requests.map frame = t.requests.map frame ++ answered (qs.map frame) := by
    rw [requests, List.map_append, answered, List.filter_eq_self.mpr]
    exact fun f mem => by simpa using (wanted f mem).2.1
  have after := related.arrive (h := { hostPart t' with requests := [] }) (qs.map frame) rfl queued
    responses calls (fun f mem => (wanted f mem).1) fun f mem => (wanted f mem).2.2
  simpa only [Function.comp_apply, written, new, List.flatMap_map] using after

theorem relay_step {chunk : Bytes} (related : Related s t) (sound : Sound (.relay chunk))
    (h : step s (.relay chunk) = some s') : Related s' t := by
  obtain rfl := Option.some.inj h
  have fits : chunk.length ≤ protoMaxPayload := sound
  have after := related.arrive [Tunnel.sendRequest chunk] related.host
    (by simp [answered, Tunnel.sendRequest]) rfl related.calls
    (by simp [Tunnel.sendRequest, Firmware.cmdProxySend]) (by simpa [Tunnel.sendRequest] using fits)
  simpa using after

/-- What the device writes lies before the reader. -/
theorem Related.onUsb {t' : Host.Device} {d : Firmware.Device} {out : List DeviceFrame}
    (related : Related s t) (usb : d.mgr.usb = s.device.mgr.usb ++ out)
    (wellFormed : ∀ o ∈ out, o.WellFormed) (host : hostPart t' = hostPart t)
    (requests : t'.requests.map frame = answered (inbound d))
    (responses : t'.responses.map Response.frame =
      t.responses.map Response.frame ++ (hostFrames out).filter Frame.isResp)
    (idle : DeviceIdle d) (still : inbound d ⊆ inbound s.device) (proper : Proper d)
    (calls : t'.calls = t.calls) :
    Related { s with
      device := d
      reader := Stack.onUsb (d.mgr.usb.drop s.device.mgr.usb.length) s.reader } t' := by
  have new : d.mgr.usb.drop s.device.mgr.usb.length = out := by rw [usb, List.drop_left]
  obtain ⟨behind, read⟩ := Stack.pendingFrames_onUsb related.reader
    fun o mem => ⟨(wellFormed o mem).fits, (wellFormed o mem).build_eq⟩
  rw [new]
  refine ⟨related.host.trans host.symm, requests, ?_, idle, read,
    fun f mem => related.plain f (still mem), proper, by rw [calls]; exact related.calls⟩
  rw [responses, related.responses, behind, List.filter_append]

/-- All requests are lost. -/
theorem skip_all (t : Host.Device) :
    Schedule.exec Host.Device.step t (List.replicate t.requests.length .skip) =
      some { t with requests := [] } := by
  generalize queue : t.requests = qs
  induction qs generalizing t with
  | nil => exact congrArg some (by rw [← queue])
  | cons q qs ih =>
    rw [List.length_cons, List.replicate_succ]
    refine Schedule.exec_cons.mpr ⟨{ t with requests := qs }, ?_, ih _ rfl⟩
    simp [Host.Device.step, queue]

theorem device_step {a : Firmware.Action} (related : Related s t)
    (h : step s (.device a) = some s') :
    ∃ bs t', Seen (.device a) bs ∧ Schedule.exec Host.Device.step t bs = some t' ∧
      Related s' t' := by
  obtain ⟨d, taken, rfl⟩ := Option.map_eq_some_iff.mp h
  obtain ⟨served, proper⟩ := serves related.proper taken
  cases served with
  | quiet out usb pushed same still =>
    refine ⟨[], t, .nothing _ (by simp), rfl, ?_⟩
    refine related.onUsb usb (fun o mem => (pushed o mem).1) rfl ?_ ?_
      (Stack.deviceIdle_step related.device taken) still proper rfl
    · rw [same, related.requests]
    · rw [hostFrames_filter pushed, List.append_nil]
  | answer f ans first other usb =>
    have plain : f.cmd < 0x80 := related.plain f (by simp [first])
    have wellFormed := wellFormed_response plain ans
    have asked : t.requests.map frame = answered (f :: inbound d) := by rw [related.requests, first]
    obtain ⟨q, qs, queue, rfl, rest⟩ : ∃ q qs, t.requests = q :: qs ∧ frame q = f ∧
        qs.map frame = answered (inbound d) := by
      have parts : answered (f :: inbound d) = f :: answered (inbound d) := by
        simp [answered, other]
      rw [parts] at asked
      exact List.map_eq_cons_iff.mp asked
    refine ⟨[.answer ans.status (ans.data.getD [])], _, .answer _ _ _,
      Schedule.exec_cons.mpr ⟨_, by simp only [Host.Device.step, queue]; rfl, rfl⟩, ?_⟩
    refine related.onUsb usb (by simpa using wellFormed) rfl rest ?_
      (Stack.deviceIdle_step related.device taken) (by simp [first]) proper rfl
    simp only [hostFrames, List.map_cons, List.map_nil, wellFormed.hostView_eq, List.map_append]
    rfl
  | restart after =>
    subst after
    refine ⟨_, _, .lost _ t.requests.length, skip_all t, ?_⟩
    have empty : inbound s.device.restart = [] := rfl
    refine related.onUsb (List.append_nil _).symm (by simp) rfl ?_ ?_
      (Stack.deviceIdle_step related.device taken) ?_ proper rfl
    · rw [empty]
      rfl
    · simp [hostFrames]
    · simp [empty]

/-- The reader passes a response on and keeps a push to itself. -/
theorem callback_step (related : Related s t) (h : step s .callback = some s') :
    ∃ bs t', Seen .callback bs ∧ Schedule.exec Host.Device.step t bs = some t' ∧
      Related s' t' := by
  cases calls : s.reader.calls with
  | nil => simp [step, calls] at h
  | cons f rest =>
    simp only [step, calls, Option.bind_eq_bind, Option.bind_eq_some_iff] at h
    obtain ⟨reader, taken, h⟩ := h
    obtain ⟨idle, frames⟩ := Stack.host_reads related.reader taken
    obtain ⟨g, first, behind⟩ : ∃ g, s.reader.calls = g :: reader.calls ∧
        Host.pendingFrames s.reader = g :: Host.pendingFrames reader := by
      rcases frames with ⟨-, other⟩ | ⟨-, found⟩
      · exact absurd rfl other
      · exact found
    obtain rfl : g = f := (List.cons.inj (first.symm.trans calls)).1
    have responses := related.responses
    rw [behind, List.filter_cons] at responses
    split_ifs at h responses with resp alone
    · obtain ⟨r, rs, queue, rfl, others⟩ := List.map_eq_cons_iff.mp responses
      obtain ⟨host, found, h⟩ := Option.bind_eq_some_iff.mp h
      obtain rfl := Option.some.inj h
      rw [related.host, lookup_part queue] at found
      obtain ⟨t', moved, rfl⟩ := Option.map_eq_some_iff.mp found
      obtain ⟨requests, remaining, same⟩ := lookup_queues queue moved
      refine ⟨[.lookup], t', .lookup, Schedule.exec_cons.mpr ⟨t', moved, rfl⟩, ?_⟩
      exact ⟨rfl, by rw [requests]; exact related.requests, by rw [remaining]; exact others,
        related.device, idle, related.plain, related.proper, by rw [same]; exact related.calls⟩
    · obtain rfl := Option.some.inj h
      exact ⟨[], t, .nothing _ (by simp), rfl, related.host, related.requests, responses,
        related.device, idle, related.plain, related.proper, related.calls⟩

/-- The serial port and the relay connection are read. -/
theorem Related.reads {reader : RelayConn} {a : Host.Action} (related : Related s t)
    (other : a ≠ .callback) (taken : Host.step s.reader a = some reader) :
    Related { s with reader } t := by
  obtain ⟨idle, frames⟩ := Stack.host_reads related.reader taken
  have same : Host.pendingFrames reader = Host.pendingFrames s.reader := by
    rcases frames with ⟨same, -⟩ | ⟨callback, -⟩
    · exact same
    · exact absurd callback other
  exact ⟨related.host, related.requests, by rw [same]; exact related.responses, related.device, idle,
    related.plain, related.proper, related.calls⟩

/-- Every step is what the calls of `Send` can see of an abstract device. -/
theorem Related.step {a : Action} (related : Related s t) (sound : Sound a)
    (h : Session.step s a = some s') :
    ∃ bs t', Seen a bs ∧ Schedule.exec Host.Device.step t bs = some t' ∧ Related s' t' := by
  cases a with
  | host a =>
    obtain ⟨t', taken, after⟩ := host_step related sound h
    exact ⟨[a], t', .host a, Schedule.exec_cons.mpr ⟨t', taken, rfl⟩, after⟩
  | relay chunk => exact ⟨[], t, .nothing _ (by simp), rfl, relay_step related sound h⟩
  | device a => exact device_step related h
  | read n =>
    simp only [Session.step] at h
    split_ifs at h
    obtain ⟨reader, taken, rfl⟩ := Option.map_eq_some_iff.mp h
    exact ⟨[], t, .nothing _ (by simp), rfl, related.reads (by simp) taken⟩
  | callback => exact callback_step related h
  | take =>
    obtain ⟨reader, taken, rfl⟩ := Option.map_eq_some_iff.mp h
    exact ⟨[], t, .nothing _ (by simp), rfl, related.reads (by simp) taken⟩

end Steps

/-! ## Runs -/

/-- The port was opened and nothing has been written; the relay may be up or not. -/
structure Start (s : System) : Prop where
  host : s.host = Host.Device.new
  reader : s.reader.parser.onFrame = true ∧ s.reader.parser.state = .magic0
  wire : s.reader.wire = []
  calls : s.reader.calls = []
  device : s.device.parser.state = .magic0
  serial : s.device.serial = []
  chunk : s.device.chunk = []
  frames : s.device.calls = []
  cmd : s.device.cmd = .idle
  rx : s.device.rx = .top

theorem Start.related {s : System} (start : Start s) : Related s Host.Device.new where
  host := start.host
  requests := by
    simp [inbound, start.cmd, owed, Tunnel.pendingFrames, start.frames, start.chunk, start.serial,
      answered, Host.Device.new]
  responses := by
    simp [Host.pendingFrames, start.calls, start.wire, Parser.feed, Host.Device.new]
  device := by simpa [DeviceIdle, start.chunk, start.serial] using start.device
  reader := by simpa [HostIdle, start.wire, Parser.feed] using start.reader
  plain := by
    simp [inbound, start.cmd, owed, Tunnel.pendingFrames, start.frames, start.chunk, start.serial]
  proper := ⟨by simp [start.rx], by simp [start.cmd, owed]⟩
  calls := by simp [Host.Device.new]

/-- Host and device refine calls of `Send` on a device that answers in order. -/
theorem refines : Schedule.Refines step (fun _ a => Sound a) Host.Device.step (fun _ _ => True) Seen
    Related where
  answers related sound taken := by
    obtain ⟨bs, t', seen, moved, after⟩ := related.step sound taken
    exact ⟨bs, t', seen, Schedule.obeys_of_forall fun _ _ _ => trivial, moved, after⟩

/-- **The device answers in order.** In every run of the host and the device, calls of `Send` see
a device that takes their requests in order, answers each under its own number and command or loses
it when it is reset, and whose responses arrive in order. -/
theorem session_refines_send {s₀ s : System} {as : List Action} (start : Start s₀)
    (sound : ∀ a ∈ as, Sound a) (run : Schedule.exec step s₀ as = some s) :
    ∃ bss t, List.Forall₂ Seen as bss ∧
      Schedule.exec Host.Device.step Host.Device.new bss.flatten = some t ∧ Related s t := by
  obtain ⟨bss, t, seen, -, moved, related⟩ :=
    refines.run start.related (Schedule.obeys_of_forall fun _ => sound) run
  exact ⟨bss, t, seen, moved, related⟩

/-- The port was just opened, and the target of the relay has sent two bytes. -/
def opened : System where
  host := Host.Device.new
  reader := ⟨[], newParser, [], true, [], false, []⟩
  device :=
    { Firmware.boot with
      mgr :=
        { Firmware.boot.mgr with
          sFd := some 3
          net := ⟨Function.update (fun _ => none) 3 (some 0), [⟨[], 11080, [], [7, 8], false⟩]⟩ } }

theorem opened_start : Start opened := ⟨rfl, ⟨rfl, rfl⟩, rfl, rfl, rfl, rfl, rfl, rfl, rfl, rfl⟩

def pong : Firmware.Answer := ⟨Firmware.statusOk, some [80], by simp⟩
def info : Firmware.Answer := ⟨Firmware.statusOk, some [4, 2], by simp⟩

/-- The device takes a request without payload to its handler. -/
def takeRequest : List Action :=
  .device (.cmd (.receive 8)) :: List.replicate 9 (.device (.cmd .go))

/-- Two calls at once, whose requests are written in the other order, and a push between the two
answers. -/
def overlappingRun : List Action := List.flatten [
  [.host (.send 1 []), .host (.send 2 []), .host (.advance 0), .host (.advance 1),
    .host (.advance 1), .host (.advance 0), .host (.advance 1), .host (.advance 0)],
  takeRequest,
  [.device (.cmd (.answer info)), .device (.rx .go), .device (.rx .go), .device (.rx (.data 2)),
    .device (.rx .go)],
  takeRequest,
  [.device (.cmd (.answer pong)), .read 31, .callback, .host .deliver, .callback, .callback,
    .host .deliver, .host (.advance 0), .host (.advance 0), .host (.advance 1),
    .host (.advance 1)]]

/-- A reset with a ping right behind it, which is lost, and a ping after the restart. -/
def resetRun : List Action := List.flatten [
  [.host (.send 3 []), .host (.send 1 []), .host (.advance 2), .host (.advance 3),
    .host (.advance 2), .host (.advance 3), .host (.advance 2), .host (.advance 3)],
  takeRequest,
  [.device (.cmd .go), .device (.cmd .go), .read 9, .callback, .host .deliver,
    .host (.advance 2), .host (.advance 2), .host (.timeout 3), .host (.advance 3),
    .host (.send 1 []), .host (.advance 4), .host (.advance 4), .host (.advance 4)],
  takeRequest,
  [.device (.cmd (.answer pong)), .read 10, .callback, .host .deliver, .host (.advance 4),
    .host (.advance 4)]]

def busyRun : List Action := overlappingRun ++ resetRun

theorem busyRun_sound : ∀ a ∈ busyRun, Sound a := by
  simp [busyRun, overlappingRun, resetRun, takeRequest, Sound, Firmware.cmdProxySend,
    protoMaxPayload]

theorem busyRun_returns :
    (Schedule.exec step opened busyRun).map (fun s => s.host.calls.map SendCall.pc) =
      some [.returned (.response ⟨0, ⟨1, 1, true, 0, [80]⟩⟩),
        .returned (.response ⟨0, ⟨2, 2, true, 0, [4, 2]⟩⟩),
        .returned (.response ⟨0, ⟨3, 3, true, 0, []⟩⟩), .returned .timeout,
        .returned (.response ⟨0, ⟨5, 1, true, 0, [80]⟩⟩)] := by
  decide +kernel

theorem session_refines_send_busy : ∃ s bss t, Schedule.exec step opened busyRun = some s ∧
    List.Forall₂ Seen busyRun bss ∧
    Schedule.exec Host.Device.step Host.Device.new bss.flatten = some t ∧ Related s t := by
  obtain ⟨s, run, -⟩ := Option.map_eq_some_iff.mp busyRun_returns
  obtain ⟨bss, t, seen, moved, related⟩ := session_refines_send opened_start busyRun_sound run
  exact ⟨s, bss, t, run, seen, moved, related⟩

end EspNetwork.Session
