import Mathlib
import EspNetwork.Firmware.CmdTask
import EspNetwork.Relay.Wire

/-!
# The way up: client, serial link, device, server

A virtual frame is serialised by `Client.writeFrame`, cut by `TCPConn.Write`, wrapped in
requests, parsed by the device, queued, sent in arbitrary pieces and read back by
`ProxyServer.Run`. None of the boundaries line up. What every stage keeps is the byte stream:
what the socket has taken, followed by what is still on its way, is the serialised sequence in
every state.
-/

namespace EspNetwork.Tunnel

open Serial Relay Firmware

/-! ## The host's side -/

/-- The loop of `TCPConn.Write`: pieces of at most `MaxPayload` bytes. -/
def splitChunks (data : Bytes) : List Bytes :=
  if 0 < data.length then
    data.take protoMaxPayload :: splitChunks (data.drop protoMaxPayload)
  else []
termination_by data.length
decreasing_by simp [protoMaxPayload]; omega

/-- `writeFrameNoReply(CmdProxySend, chunk)`: a request with sequence number 0. -/
def sendRequest (chunk : Bytes) : ProtoFrame := ⟨0, cmdProxySend, chunk⟩

/-- The requests `Client.writeFrame` makes for one virtual frame. -/
def writeFrame (f : VFrame) : List ProtoFrame := (splitChunks (frameBytes f)).map sendRequest

theorem splitChunks_flatten (data : Bytes) : (splitChunks data).flatten = data := by
  fun_induction splitChunks data with
  | case1 data pos ih => simp [ih]
  | case2 data empty =>
    have : data = [] := by simpa using empty
    simp [this]

theorem splitChunks_length {data chunk : Bytes} (h : chunk ∈ splitChunks data) :
    chunk.length ≤ protoMaxPayload := by
  fun_induction splitChunks data with
  | case1 data pos ih =>
    rcases List.mem_cons.mp h with rfl | h
    · simp
    · exact ih h
  | case2 data empty => simp at h

/-- A request that may share the serial link: it is none of the relay's own, and it neither
takes the relay down nor restarts the device. -/
def Bystander (f : ProtoFrame) : Prop :=
  f.cmd ≠ cmdProxySend ∧ f.cmd ≠ cmdProxyDisconnect ∧ f.cmd ≠ cmdReset ∧
    f.payload.length ≤ protoMaxPayload

/-- The requests on the serial link: those of the virtual frames in order, and between them
any bystanders. -/
structure Carries (wire : List ProtoFrame) (fs : List VFrame) : Prop where
  relay : wire.filter (fun f => f.cmd = cmdProxySend) = fs.flatMap writeFrame
  others : ∀ f ∈ wire, f.cmd ≠ cmdProxySend → Bystander f

/-- The bytes that the `CMD_PROXY_SEND` frames of a list ask to forward. -/
def relayPayload (fs : List ProtoFrame) : Bytes :=
  (fs.filter fun f => f.cmd = cmdProxySend).flatMap ProtoFrame.payload

theorem relayPayload_cons (f : ProtoFrame) (fs : List ProtoFrame) :
    relayPayload (f :: fs) = (if f.cmd = cmdProxySend then f.payload else []) ++ relayPayload fs := by
  by_cases h : f.cmd = cmdProxySend <;> simp [relayPayload, h]

/-- The requests carry the serialised frames. -/
theorem Carries.payload {wire : List ProtoFrame} {fs : List VFrame} (h : Carries wire fs) :
    relayPayload wire = virtualFrames.encodeAll fs := by
  rw [relayPayload, h.relay, PrefixCode.encodeAll, List.flatMap_assoc, ← List.flatMap_def]
  refine List.flatMap_congr fun f _ => ?_
  simp only [writeFrame, List.flatMap_map, sendRequest]
  exact List.flatMap_id'.trans (splitChunks_flatten _)

/-- Every request on the link fits a frame. -/
theorem Carries.fits {wire : List ProtoFrame} {fs : List VFrame} (h : Carries wire fs) :
    ∀ f ∈ wire, f.payload.length ≤ protoMaxPayload := by
  intro f hf
  by_cases relay : f.cmd = cmdProxySend
  · have mem : f ∈ fs.flatMap writeFrame := h.relay ▸ List.mem_filter.mpr ⟨hf, by simpa using relay⟩
    obtain ⟨g, -, hg⟩ := List.mem_flatMap.mp mem
    obtain ⟨chunk, hchunk, rfl⟩ := List.mem_map.mp hg
    exact splitChunks_length hchunk
  · exact (h.others f hf relay).2.2.2

/-! ## What is still on its way in the device -/

/-- The frames `on_frame` is still going to see. -/
def pendingFrames (d : Device) : List ProtoFrame :=
  d.calls ++ (deviceParser.feed d.parser (d.chunk ++ d.serial)).2

def cmdPayload : CmdPc → Bytes
  | .sendUp data | .sendAlloc data | .sendPut data => data
  | _ => []

@[simp] theorem cmdPayload_idle : cmdPayload .idle = [] := rfl

def sendPayload : SendPc → Bytes
  | .snapshot job => job
  | .sending _ rest => rest
  | _ => []

/-- Everything accepted from the host or still to be accepted, and not yet sent. -/
def inTransit (d : Device) : Bytes :=
  sendPayload d.send ++ d.mgr.sendQueue.flatten ++ cmdPayload d.cmd ++ relayPayload (pendingFrames d)

/-- The program counters of the command task between requests that leave the relay up. -/
def KeepsRelay : CmdPc → Prop
  | .idle | .other _ | .connectBusy .. | .sendUp _ | .sendAlloc _ | .sendPut _ | .getStatus _
  | .respond .. => True
  | _ => False

/-- The state of the device while the relay is connection `k` on descriptor `fd`: no task is
past the point where it takes the relay down, and sent and in-transit bytes are `total`. -/
structure Up (fd : Fd) (k : SockId) (total : Bytes) (d : Device) : Prop where
  sFd : d.mgr.sFd = some fd
  bound : d.mgr.net.fds fd = some k
  sock : ∃ s, d.mgr.net.socks[k]? = some s ∧ s.isShut = false ∧ s.sent ++ inTransit d = total
  sending : ∀ fd' rest, d.send = .sending fd' rest → fd' = fd
  notClosing : ∀ pc, d.send ≠ .closing pc
  rx : ∀ pc, d.rx = .closing pc → pc = .take
  cmd : KeepsRelay d.cmd
  requests : ∀ f ∈ pendingFrames d, f.cmd ≠ cmdProxyDisconnect ∧ f.cmd ≠ cmdReset

/-- The assumption on a step: no allocation, queue or send failure. -/
def Faultless : Action → Prop
  | .cmd .oom | .cmd .queueFull | .send .error => False
  | _ => True

/-- A step of the runs considered: it is faultless and leaves the relay connected. -/
def Clean (d : Device) (a : Action) : Prop :=
  Faultless a ∧ ∀ d', step d a = some d' → d'.mgr.sFd ≠ none

/-! ## Socket calls -/

theorem Net.send_some {n n' : Net} {fd : Fd} {k : SockId} {s : Sock} {piece : Bytes}
    (bound : n.fds fd = some k) (sock : n.socks[k]? = some s) (h : n.send fd piece = some n') :
    piece ≠ [] ∧ n'.fds = n.fds ∧ n'.socks[k]? = some { s with sent := s.sent ++ piece } := by
  simp only [Net.send, bound, sock, Option.bind_eq_bind, Option.bind_some] at h
  split at h
  case isTrue ok =>
    obtain rfl := Option.some.inj h
    exact ⟨ok.1, rfl, by simp [Net.update, sock]⟩
  case isFalse => simp at h

/-- Receiving changes nothing that was sent, on any connection. -/
theorem Net.recv_keeps {n n' : Net} {fd : Fd} {k : SockId} {s : Sock} {len : Nat} {piece : Bytes}
    (sock : n.socks[k]? = some s) (h : n.recv fd len = some (piece, n')) :
    n'.fds = n.fds ∧ ∃ s', n'.socks[k]? = some s' ∧ s'.sent = s.sent ∧ s'.isShut = s.isShut := by
  simp only [Net.recv, Option.bind_eq_bind, Option.bind_eq_some_iff] at h
  obtain ⟨j, hj, s', hs', h⟩ := h
  split at h
  case isTrue ok =>
    obtain ⟨-, rfl⟩ : _ ∧ _ := by simpa using h
    refine ⟨rfl, ?_⟩
    by_cases same : j = k
    · subst same
      exact ⟨{ s with inbox := s.inbox.drop len }, by simp [Net.update, sock], rfl, rfl⟩
    · exact ⟨s, by simp [Net.update, same, sock], rfl, rfl⟩
  case isFalse => simp at h

/-! ## One step -/

section Steps

variable {fd : Fd} {k : SockId} {total : Bytes} {d : Device}

/-- Sending moves the front of the in-transit bytes to the socket. -/
theorem Up.send_step (up : Up fd k total d) {c : SendChoice} {mgr : Mgr} {pc : SendPc}
    (nofault : c ≠ .error) (h : tcpSendTask d.mgr d.send c = some (mgr, pc)) :
    Up fd k total { d with mgr, send := pc } := by
  obtain ⟨s, sock, live, whole⟩ := up.sock
  cases hpc : d.send with
  | receive =>
    cases c <;> simp only [hpc, tcpSendTask, reduceCtorEq] at h
    cases queue : d.mgr.sendQueue with
    | nil => simp [queue] at h
    | cons job jobs =>
      obtain ⟨rfl, rfl⟩ : _ ∧ _ := by simpa [queue] using h
      refine ⟨up.sFd, up.bound, ⟨s, sock, live, ?_⟩, by simp, by simp, up.rx, up.cmd, up.requests⟩
      simpa [inTransit, pendingFrames, sendPayload, hpc, queue] using whole
  | snapshot job =>
    cases c <;> simp only [hpc, tcpSendTask, up.sFd, reduceCtorEq] at h
    obtain ⟨rfl, rfl⟩ : _ ∧ _ := by simpa using h
    refine ⟨up.sFd, up.bound, ⟨s, sock, live, ?_⟩, by simp, by simp, up.rx, up.cmd, up.requests⟩
    simpa [inTransit, pendingFrames, sendPayload, hpc] using whole
  | sending fd' rest =>
    obtain rfl := up.sending fd' rest hpc
    cases c with
    | go =>
      cases rest with
      | nil =>
        obtain ⟨rfl, rfl⟩ : _ ∧ _ := by simpa [hpc, tcpSendTask] using h
        refine ⟨up.sFd, up.bound, ⟨s, sock, live, ?_⟩, by simp, by simp, up.rx, up.cmd, up.requests⟩
        simpa [inTransit, pendingFrames, sendPayload, hpc] using whole
      | cons b rest => simp [hpc, tcpSendTask] at h
    | accept n =>
      simp only [hpc, tcpSendTask, Option.map_eq_some_iff] at h
      obtain ⟨net, hsend, heq⟩ := h
      obtain ⟨rfl, rfl⟩ : _ ∧ _ := by simpa using heq
      obtain ⟨-, hfds, hsock⟩ := Net.send_some up.bound sock hsend
      refine ⟨up.sFd, hfds ▸ up.bound, ⟨_, hsock, live, ?_⟩, ?_, by simp, up.rx, up.cmd, up.requests⟩
      · rw [← whole]
        simp [inTransit, pendingFrames, sendPayload, hpc, ← List.append_assoc (rest.take n)]
      · rintro _ _ ⟨⟩; rfl
    | error => exact absurd rfl nofault
    | oom => simp [hpc, tcpSendTask] at h
  | closing pc => exact absurd hpc (up.notClosing pc)

/-- Whatever the receive task does, the way up stays, unless the task takes the relay down. -/
theorem Up.rx_step (up : Up fd k total d) {c : RxChoice} {mgr : Mgr} {pc : RxPc}
    (stays : mgr.sFd ≠ none) (h : tcpRxTask d.mgr d.rx c = some (mgr, pc)) :
    Up fd k total { d with mgr, rx := pc } := by
  obtain ⟨s, sock, live, whole⟩ := up.sock
  -- the program counter moves and the rest stays
  have same : ∀ pc', (∀ close, pc' = .closing close → close = .take) →
      Up fd k total { d with rx := pc' } := fun pc' hrx =>
    ⟨up.sFd, up.bound, ⟨s, sock, live, whole⟩, up.sending, up.notClosing, hrx, up.cmd, up.requests⟩
  cases hpc : d.rx with
  | top =>
    cases c <;> simp only [hpc, tcpRxTask, up.sFd, reduceCtorEq] at h
    obtain ⟨rfl, rfl⟩ : _ ∧ _ := by simpa using h
    exact same _ (by simp)
  | select fd' =>
    cases c <;> simp only [hpc, tcpRxTask, reduceCtorEq] at h <;>
      obtain ⟨rfl, rfl⟩ : _ ∧ _ := by simpa using h
    all_goals exact same _ (by simp)
  | recv fd' =>
    cases c with
    | data len =>
      simp only [hpc, tcpRxTask] at h
      split at h
      · obtain ⟨⟨piece, net⟩, hrecv, heq⟩ := Option.map_eq_some_iff.mp h
        obtain ⟨rfl, rfl⟩ : _ ∧ _ := by simpa using heq
        obtain ⟨hfds, s', hsock, hsent, hshut⟩ := Net.recv_keeps sock hrecv
        exact ⟨up.sFd, hfds ▸ up.bound, ⟨s', hsock, hshut ▸ live, hsent ▸ whole⟩, up.sending,
          up.notClosing, by simp, up.cmd, up.requests⟩
      · simp at h
    | eof =>
      simp only [hpc, tcpRxTask] at h
      split at h
      · obtain ⟨rfl, rfl⟩ : _ ∧ _ := by simpa using h
        exact same _ (by simp)
      · simp at h
    | again | error =>
      obtain ⟨rfl, rfl⟩ : _ ∧ _ := by simpa [hpc, tcpRxTask] using h
      exact same _ (by simp)
    | go | oom => simp [hpc, tcpRxTask] at h
  | push data =>
    cases c <;> simp only [hpc, tcpRxTask, reduceCtorEq] at h <;>
      obtain ⟨rfl, rfl⟩ : _ ∧ _ := by simpa using h
    all_goals exact ⟨up.sFd, up.bound, ⟨s, sock, live, whole⟩, up.sending, up.notClosing,
      by simp, up.cmd, up.requests⟩
  | closing close =>
    obtain rfl := up.rx close hpc
    cases c <;> simp only [hpc, tcpRxTask, tcpRxTask.afterClose, closeRelay, up.sFd, reduceCtorEq] at h
    obtain ⟨rfl, rfl⟩ : _ ∧ _ := by simpa using h
    exact absurd rfl stays

/-- A handler that has begun keeps the relay up; `tcp_mgr_send` moves its data to the queue. -/
theorem Up.handler_step (up : Up fd k total d) {c : CmdChoice} {mgr : Mgr} {pc : CmdPc}
    (noOom : c ≠ .oom) (notFull : c ≠ .queueFull)
    (h : handlerStep d.mgr d.cmd c = some (mgr, pc)) :
    Up fd k total { d with mgr, cmd := pc } := by
  obtain ⟨s, sock, live, whole⟩ := up.sock
  have keeps := up.cmd
  -- a handler that neither queues nor drops anything
  have same : ∀ (usb : List DeviceFrame) (pc' : CmdPc), cmdPayload pc' = cmdPayload d.cmd →
      KeepsRelay pc' → Up fd k total { d with mgr := { d.mgr with usb }, cmd := pc' } := by
    intro usb pc' hpayload hkeeps
    refine ⟨up.sFd, up.bound, ⟨s, sock, live, ?_⟩, up.sending, up.notClosing, up.rx, hkeeps,
      up.requests⟩
    simpa [inTransit, pendingFrames, hpayload] using whole
  cases hpc : d.cmd with
  | idle => cases c <;> simp [hpc, handlerStep] at h
  | other f =>
    cases c <;> simp only [hpc, handlerStep, reduceCtorEq] at h
    obtain ⟨rfl, rfl⟩ : _ ∧ _ := by simpa using h
    exact same _ _ (by simp [hpc, cmdPayload]) trivial
  | connectBusy f host port =>
    cases c <;> simp only [hpc, handlerStep, up.sFd, Option.isSome_some, if_true, reduceCtorEq] at h
    obtain ⟨rfl, rfl⟩ : _ ∧ _ := by simpa using h
    exact same _ _ (by simp [hpc, cmdPayload]) trivial
  | sendUp data =>
    cases c <;> simp only [hpc, handlerStep, up.sFd, Option.isSome_some, if_true, reduceCtorEq] at h
    obtain ⟨rfl, rfl⟩ : _ ∧ _ := by simpa using h
    exact same _ _ (by simp [hpc, cmdPayload]) trivial
  | sendAlloc data =>
    cases c <;> simp only [hpc, handlerStep, reduceCtorEq] at h
    case oom => exact absurd rfl noOom
    obtain ⟨rfl, rfl⟩ : _ ∧ _ := by simpa using h
    exact same _ _ (by simp [hpc, cmdPayload]) trivial
  | sendPut data =>
    cases c <;> simp only [hpc, handlerStep, reduceCtorEq] at h
    case queueFull => exact absurd rfl notFull
    split at h
    · obtain ⟨rfl, rfl⟩ : _ ∧ _ := by simpa using h
      refine ⟨up.sFd, up.bound, ⟨s, sock, live, ?_⟩, up.sending, up.notClosing, up.rx, trivial,
        up.requests⟩
      simpa [inTransit, pendingFrames, hpc, cmdPayload] using whole
    · simp at h
  | getStatus f =>
    cases c <;> simp only [hpc, handlerStep, reduceCtorEq] at h
    obtain ⟨rfl, rfl⟩ : _ ∧ _ := by simpa using h
    exact same _ _ (by simp [hpc, cmdPayload]) trivial
  | respond f answer =>
    cases c <;> simp only [hpc, handlerStep, reduceCtorEq] at h
    obtain ⟨rfl, rfl⟩ : _ ∧ _ := by simpa using h
    exact same _ _ (by simp [hpc, cmdPayload]) trivial
  | reset | restart | connectSocket | connecting | connectFailed | connectStore | disconnect =>
    simp [hpc, KeepsRelay] at keeps

/-- Dispatching a request that leaves the relay up. -/
theorem onFrame_spec {f : ProtoFrame} (h : f.cmd ≠ cmdProxyDisconnect ∧ f.cmd ≠ cmdReset) :
    KeepsRelay (onFrame f) ∧
      cmdPayload (onFrame f) = if f.cmd = cmdProxySend then f.payload else [] := by
  obtain ⟨nodisc, noreset⟩ := h
  by_cases hsend : f.cmd = cmdProxySend
  · have other : f.cmd ≠ cmdProxyConnect := by rw [hsend]; decide
    rw [onFrame, if_neg noreset, if_neg other, if_pos hsend, if_pos hsend, handleProxySend]
    split
    · exact ⟨trivial, by simp_all [cmdPayload]⟩
    · exact ⟨trivial, rfl⟩
  · rw [onFrame, if_neg noreset, if_neg hsend, if_neg nodisc, if_neg hsend]
    split
    · rw [handleProxyConnect]
      split
      · exact ⟨trivial, rfl⟩
      · split <;> exact ⟨trivial, rfl⟩
    · split <;> exact ⟨trivial, rfl⟩

/-- The command task moves frames from the serial bytes to callbacks and handlers. -/
theorem Up.cmd_step (up : Up fd k total d) {c : CmdChoice} {d' : Device}
    (noOom : c ≠ .oom) (notFull : c ≠ .queueFull) (h : cmdTask d c = some d') :
    Up fd k total d' := by
  obtain ⟨s, sock, live, whole⟩ := up.sock
  cases hpc : d.cmd with
  | idle =>
    simp only [cmdTask, hpc] at h
    split at h
    case h_1 f calls hcalls =>
      obtain rfl := Option.some.inj h
      obtain ⟨keeps, payload⟩ := onFrame_spec (up.requests f (by simp [pendingFrames, hcalls]))
      refine ⟨up.sFd, up.bound, ⟨s, sock, live, ?_⟩, up.sending, up.notClosing, up.rx, keeps, ?_⟩
      · simpa [inTransit, pendingFrames, hcalls, hpc, relayPayload_cons, payload] using whole
      · intro g hg
        exact up.requests g (by simp [pendingFrames, hcalls] at hg ⊢; tauto)
    case h_2 b chunk hcalls hchunk =>
      obtain rfl := Option.some.inj h
      have pending : pendingFrames d = (protoParserByte d.parser b).2 ++
          (deviceParser.feed (protoParserByte d.parser b).1 (chunk ++ d.serial)).2 := by
        simp [pendingFrames, hcalls, hchunk, Transducer.feed_cons, deviceParser]
      refine ⟨up.sFd, up.bound, ⟨s, sock, live, ?_⟩, up.sending, up.notClosing, up.rx, trivial, ?_⟩
      · rwa [inTransit, pending, hpc] at whole
      · have requests := up.requests
        rwa [pending] at requests
    case h_3 n hcalls hchunk =>
      split at h
      · obtain rfl := Option.some.inj h
        have pending : pendingFrames d =
            d.calls ++ (deviceParser.feed d.parser (d.serial.take n ++ d.serial.drop n)).2 := by
          simp [pendingFrames, hchunk]
        refine ⟨up.sFd, up.bound, ⟨s, sock, live, ?_⟩, up.sending, up.notClosing, up.rx, trivial, ?_⟩
        · rwa [inTransit, pending, hpc] at whole
        · have requests := up.requests
          rwa [pending] at requests
      · simp at h
    case h_4 => simp at h
  | restart =>
    have keeps := up.cmd
    simp [hpc, KeepsRelay] at keeps
  | _ =>
    simp only [cmdTask, hpc, Option.map_eq_some_iff] at h
    obtain ⟨⟨mgr, pc⟩, hstep, rfl⟩ := h
    exact up.handler_step noOom notFull (by rw [hpc]; exact hstep)

/-- A faultless step that leaves the relay connected keeps sent and in-transit bytes. -/
theorem Up.step (up : Up fd k total d) {a : Action} {d' : Device} (clean : Clean d a)
    (h : Firmware.step d a = some d') : Up fd k total d' := by
  obtain ⟨nofault, stays⟩ := clean
  cases a with
  | cmd c =>
    refine up.cmd_step ?_ ?_ h
    · rintro rfl; exact nofault
    · rintro rfl; exact nofault
  | send c =>
    obtain ⟨⟨mgr, pc⟩, hstep, rfl⟩ := Option.map_eq_some_iff.mp h
    refine up.send_step ?_ hstep
    rintro rfl; exact nofault
  | rx c =>
    obtain ⟨⟨mgr, pc⟩, hstep, rfl⟩ := Option.map_eq_some_iff.mp h
    exact up.rx_step (stays _ h) hstep

end Steps

/-! ## Nothing gets stuck -/

/-- Nothing is left to do for the command task and the send task. -/
def Drained (d : Device) : Prop :=
  d.serial = [] ∧ d.chunk = [] ∧ d.calls = [] ∧ d.cmd = .idle ∧ d.mgr.sendQueue = [] ∧
    d.send = .receive

theorem Drained.inTransit_eq_nil {d : Device} (h : Drained d) : inTransit d = [] := by
  obtain ⟨serial, chunk, calls, cmd, queue, send⟩ := h
  simp [inTransit, pendingFrames, serial, chunk, calls, cmd, queue, send, sendPayload, relayPayload]

/-- Steps left inside a handler. -/
def cmdWork : CmdPc → Nat
  | .sendUp _ => 3
  | .sendAlloc _ | .connectBusy .. | .getStatus _ => 2
  | .sendPut _ | .respond .. | .other _ => 1
  | _ => 0

/-- A bound on the steps of the send task for what it holds and what is queued. -/
def sendWork (send : SendPc) (queue : List Bytes) : Nat :=
  (match send with
    | .snapshot job => job.length + 2
    | .sending _ rest => rest.length + 1
    | _ => 0) + (queue.map fun job => job.length + 3).sum

/-- The work left; the command task may add to the queue but uses up its own input. -/
def work (d : Device) : Nat ×ₗ Nat ×ₗ Nat ×ₗ Nat ×ₗ Nat :=
  toLex (d.serial.length, toLex (d.chunk.length, toLex (d.calls.length,
    toLex (cmdWork d.cmd, sendWork d.send d.mgr.sendQueue))))

section Progress

variable {fd : Fd} {k : SockId} {total : Bytes} {d : Device}

/-- A task with work to do can take a clean step that uses some of it up. -/
theorem Up.send_progress (up : Up fd k total d)
    (busy : d.send ≠ .receive ∨ d.mgr.sendQueue ≠ []) :
    ∃ a d', Clean d a ∧ Firmware.step d a = some d' ∧ work d' < work d := by
  obtain ⟨s, sock, live, -⟩ := up.sock
  -- a step that changes only the send task and its queue, and leaves `s_fd` alone
  have moves : ∀ c mgr pc, c ≠ .error → tcpSendTask d.mgr d.send c = some (mgr, pc) →
      mgr.sFd = d.mgr.sFd → sendWork pc mgr.sendQueue < sendWork d.send d.mgr.sendQueue →
      ∃ a d', Clean d a ∧ Firmware.step d a = some d' ∧ work d' < work d := by
    intro c mgr pc nofault hstep hfd hwork
    have taken : Firmware.step d (.send c) = some { d with mgr, send := pc } := by
      simp [Firmware.step, hstep]
    refine ⟨.send c, _, ⟨?_, ?_⟩, taken, ?_⟩
    · cases c <;> trivial
    · intro d' hd'
      obtain rfl := Option.some.inj (taken.symm.trans hd')
      simp [hfd, up.sFd]
    · simp [work, Prod.Lex.toLex_lt_toLex, hwork]
  cases hpc : d.send with
  | receive =>
    cases queue : d.mgr.sendQueue with
    | nil => simp [hpc, queue] at busy
    | cons job jobs =>
      refine moves .go { d.mgr with sendQueue := jobs } (.snapshot job) (by simp) ?_ rfl ?_
      · simp [hpc, tcpSendTask, queue]
      · simp [hpc, sendWork, queue]
  | snapshot job =>
    refine moves .go d.mgr (.sending fd job) (by simp) ?_ rfl ?_
    · simp [hpc, tcpSendTask, up.sFd]
    · simp [hpc, sendWork]
  | sending fd' rest =>
    obtain rfl := up.sending fd' rest hpc
    cases rest with
    | nil =>
      refine moves .go d.mgr .receive (by simp) (by simp [hpc, tcpSendTask]) rfl ?_
      simp [hpc, sendWork]
    | cons b rest =>
      let net := d.mgr.net.update k fun s => { s with sent := s.sent ++ b :: rest }
      have sent : d.mgr.net.send fd' (b :: rest) = some net := by
        simp [Net.send, up.bound, sock, live, net]
      refine moves (.accept (rest.length + 1)) { d.mgr with net } (.sending fd' []) (by simp) ?_ rfl ?_
      · simp [hpc, tcpSendTask, sent]
      · simp [hpc, sendWork]
  | closing pc => exact absurd hpc (up.notClosing pc)

theorem Up.cmd_progress (up : Up fd k total d) (room : d.mgr.sendQueue = [])
    (busy : d.serial ≠ [] ∨ d.chunk ≠ [] ∨ d.calls ≠ [] ∨ d.cmd ≠ .idle) :
    ∃ a d', Clean d a ∧ Firmware.step d a = some d' ∧ work d' < work d := by
  -- a step of the command task that leaves `s_fd` alone
  have moves : ∀ c d', Faultless (.cmd c) → cmdTask d c = some d' → d'.mgr.sFd = d.mgr.sFd →
      work d' < work d → ∃ a d', Clean d a ∧ Firmware.step d a = some d' ∧ work d' < work d := by
    intro c d' nofault hstep hfd hwork
    refine ⟨.cmd c, d', ⟨nofault, ?_⟩, hstep, hwork⟩
    intro e he
    obtain rfl := Option.some.inj (hstep.symm.trans he)
    simp [hfd, up.sFd]
  have handles : ∀ c mgr pc, Faultless (.cmd c) → d.cmd ≠ .idle → d.cmd ≠ .restart →
      handlerStep d.mgr d.cmd c = some (mgr, pc) → mgr.sFd = d.mgr.sFd →
      cmdWork pc < cmdWork d.cmd →
      ∃ a d', Clean d a ∧ Firmware.step d a = some d' ∧ work d' < work d := by
    intro c mgr pc nofault notIdle notRestart hstep hfd hwork
    refine moves c { d with mgr, cmd := pc } nofault ?_ hfd ?_
    · simp [cmdTask_eq_handlerStep notIdle notRestart, hstep]
    · simp [work, Prod.Lex.toLex_lt_toLex, hwork]
  have keeps := up.cmd
  cases hpc : d.cmd with
  | idle =>
    cases calls : d.calls with
    | cons f rest =>
      refine moves .go { d with cmd := onFrame f, calls := rest } trivial ?_ rfl ?_
      · simp [cmdTask, hpc, calls]
      · simp [work, Prod.Lex.toLex_lt_toLex, calls]
    | nil =>
      cases chunk : d.chunk with
      | cons b rest =>
        refine moves .go { d with
          chunk := rest
          parser := (protoParserByte d.parser b).1
          calls := (protoParserByte d.parser b).2 } trivial ?_ rfl ?_
        · simp [cmdTask, hpc, calls, chunk]
        · simp [work, Prod.Lex.toLex_lt_toLex, chunk]
      | nil =>
        have more : d.serial ≠ [] := by simpa [hpc, calls, chunk] using busy
        have pos := List.length_pos_iff.mpr more
        refine moves (.receive 1) { d with chunk := d.serial.take 1, serial := d.serial.drop 1 }
          trivial ?_ rfl ?_
        · simp [cmdTask, hpc, calls, chunk, cdcRxBufSize, more]
        · simp [work, Prod.Lex.toLex_lt_toLex]; omega
  | other f =>
    refine handles (.answer ok) (d.mgr.cdcSendResponse f ok) .idle trivial (by simp [hpc])
      (by simp [hpc]) (by simp [hpc, handlerStep]) rfl ?_
    simp [hpc, cmdWork]
  | connectBusy f host port =>
    refine handles .go d.mgr (.respond f Firmware.busy) trivial (by simp [hpc]) (by simp [hpc]) ?_ rfl ?_
    · simp [hpc, handlerStep, up.sFd]
    · simp [hpc, cmdWork]
  | sendUp data =>
    refine handles .go d.mgr (.sendAlloc data) trivial (by simp [hpc]) (by simp [hpc]) ?_ rfl ?_
    · simp [hpc, handlerStep, up.sFd]
    · simp [hpc, cmdWork]
  | sendAlloc data =>
    refine handles .go d.mgr (.sendPut data) trivial (by simp [hpc]) (by simp [hpc]) ?_ rfl ?_
    · simp [hpc, handlerStep]
    · simp [hpc, cmdWork]
  | sendPut data =>
    refine handles .go { d.mgr with sendQueue := d.mgr.sendQueue ++ [data] } .idle trivial
      (by simp [hpc]) (by simp [hpc]) ?_ rfl ?_
    · simp [hpc, handlerStep, room, sendQueueDepth]
    · simp [hpc, cmdWork]
  | getStatus f =>
    refine handles .go d.mgr _ trivial (by simp [hpc]) (by simp [hpc])
      (by rw [hpc]; rfl) rfl ?_
    simp [hpc, cmdWork]
  | respond f answer =>
    refine handles .go (d.mgr.cdcSendResponse f answer) .idle trivial (by simp [hpc])
      (by simp [hpc]) (by simp [hpc, handlerStep]) rfl ?_
    simp [hpc, cmdWork]
  | reset | restart | connectSocket | connecting | connectFailed | connectStore | disconnect =>
    simp [hpc, KeepsRelay] at keeps

/-- From every state of a clean run the rest of the stream can be delivered. -/
theorem Up.drains (up : Up fd k total d) :
    ∃ as d', Schedule.Obeys Firmware.step Clean d as ∧
      Schedule.exec Firmware.step d as = some d' ∧ Drained d' := by
  refine Schedule.exec_until work (fun d up busy => ?_) up
  have progress : ∃ a d', Clean d a ∧ Firmware.step d a = some d' ∧ work d' < work d := by
    by_cases sendBusy : d.send ≠ .receive ∨ d.mgr.sendQueue ≠ []
    · exact up.send_progress sendBusy
    · obtain ⟨hsend, hqueue⟩ : d.send = .receive ∧ d.mgr.sendQueue = [] := by
        simpa [not_or] using sendBusy
      refine up.cmd_progress hqueue ?_
      by_contra idle
      simp only [not_or, not_not] at idle
      exact busy ⟨idle.1, idle.2.1, idle.2.2.1, idle.2.2.2, hqueue, hsend⟩
  obtain ⟨a, d', clean, taken, less⟩ := progress
  exact ⟨a, d', clean, taken, up.step clean taken, less⟩

end Progress

/-! ## Whole runs -/

/-- The relay is up on a new connection `k`, nothing is queued, the parser is between frames
and the requests `wire` are about to arrive. -/
structure Start (fd : Fd) (k : SockId) (wire : List ProtoFrame) (d : Device) : Prop where
  sFd : d.mgr.sFd = some fd
  bound : d.mgr.net.fds fd = some k
  fresh : ∃ s, d.mgr.net.socks[k]? = some s ∧ s.isShut = false ∧ s.sent = []
  queue : d.mgr.sendQueue = []
  send : d.send = .receive
  rx : d.rx = .top
  cmd : d.cmd = .idle
  calls : d.calls = []
  parser : d.parser.state = .magic0
  serial : d.chunk ++ d.serial = (wire.map ProtoFrame.request).flatten

theorem Start.pending {fd : Fd} {k : SockId} {wire : List ProtoFrame} {d : Device}
    (start : Start fd k wire d) (fits : ∀ f ∈ wire, f.payload.length ≤ protoMaxPayload) :
    pendingFrames d = wire := by
  have tracked : d.parser.machine.Tracks [] := .magic0 start.parser
  rw [pendingFrames, start.calls, List.nil_append, (deviceParser_feed tracked .none _).2,
    start.serial, map_request_eq fits, ← (assembler_feed .none _).2,
    assembler_feed_encodeFrames fits]

theorem Start.up {fd : Fd} {k : SockId} {wire : List ProtoFrame} {fs : List VFrame} {d : Device}
    (start : Start fd k wire d) (carries : Carries wire fs) :
    Up fd k (virtualFrames.encodeAll fs) d where
  sFd := start.sFd
  bound := start.bound
  sock := by
    obtain ⟨s, sock, live, sent⟩ := start.fresh
    refine ⟨s, sock, live, ?_⟩
    simp [sent, inTransit, start.queue, start.send, start.cmd, sendPayload,
      start.pending carries.fits, carries.payload]
  sending := by simp [start.send]
  notClosing := by simp [start.send]
  rx := by simp [start.rx]
  cmd := by rw [start.cmd]; trivial
  requests := by
    rw [start.pending carries.fits]
    intro f hf
    by_cases relay : f.cmd = cmdProxySend
    · rw [relay]; decide
    · exact ⟨(carries.others f hf relay).2.1, (carries.others f hf relay).2.2.1⟩

/-- **The uplink is transparent.** In every clean run, however the server's stream is cut, the
server dispatches a prefix of the frames that were written; once the device has drained,
exactly these frames; and from every state reached the device can drain. -/
theorem uplink_transparent {fs : List VFrame} {wire : List ProtoFrame} {fd : Fd} {k : SockId}
    {d₀ d : Device} {as : List Action} (valid : ∀ f ∈ fs, f.data.length ≤ 65535)
    (carries : Carries wire fs) (start : Start fd k wire d₀)
    (clean : Schedule.Obeys Firmware.step Clean d₀ as)
    (run : Schedule.exec Firmware.step d₀ as = some d) :
    ∃ s, d.mgr.net.socks[k]? = some s ∧
      (∀ segs : List Bytes, segs.flatten <+: s.sent → serverRun segs <+: fs) ∧
      (Drained d → ∀ segs : List Bytes, segs.flatten = s.sent → serverRun segs = fs) ∧
      ∃ as' d', Schedule.Obeys Firmware.step Clean d as' ∧
        Schedule.exec Firmware.step d as' = some d' ∧ Drained d' := by
  have up : Up fd k (virtualFrames.encodeAll fs) d :=
    Schedule.exec_invariant_of_obeys _ (fun _ _ _ up clean taken => up.step clean taken)
      (start.up carries) clean run
  obtain ⟨s, sock, -, whole⟩ := up.sock
  refine ⟨s, sock, ?_, ?_, up.drains⟩
  · intro segs arrived
    rw [serverRun_eq_decodeAll]
    exact (virtualFrames.decodeAll_prefix valid (arrived.trans ⟨_, whole⟩)).1
  · intro drained segs arrived
    rw [drained.inTransit_eq_nil, List.append_nil] at whole
    rw [serverRun_eq_decodeAll, arrived, whole, virtualFrames.decodeAll_encodeAll valid]

/-- The device with the relay up on descriptor 3 and `wire` about to arrive. -/
def relayUp (wire : List ProtoFrame) : Device :=
  { boot with
    mgr := ⟨some 3, [], ⟨Function.update (fun _ => none) 3 (some 0), [⟨[], 11080, [], [], false⟩]⟩, []⟩
    serial := (wire.map ProtoFrame.request).flatten }

/-- A data frame of magic bytes behind a ping. -/
def pingWire : List ProtoFrame :=
  [⟨9, 1, []⟩, sendRequest (frameBytes ⟨1, 5, [0xAA, 0x55]⟩)]

/-- The device takes the bytes in two chunks, the second from the middle of the data request, and
the socket takes the payload in two pieces. -/
def pingRun : List Action := List.flatten [
  .cmd (.receive 12) :: List.replicate 9 (.cmd .go),
  .cmd (.answer ok) :: List.replicate 4 (.cmd .go),
  .cmd (.receive 13) :: List.replicate 17 (.cmd .go),
  [.send .go, .send .go, .send (.accept 4), .send (.accept 5), .send .go]]

instance : (a : Action) → Decidable (Faultless a)
  | .cmd .oom | .cmd .queueFull | .send .error => isFalse id
  | .cmd (.receive _) | .cmd .go | .cmd (.answer _) | .cmd .fail | .cmd (.socket _)
  | .cmd (.connected _) | .send .go | .send (.accept _) | .send .oom | .rx _ => isTrue trivial

instance (d : Device) (a : Action) : Decidable (Clean d a) :=
  decidable_of_iff (Faultless a ∧ ∀ d' ∈ step d a, d'.mgr.sFd ≠ none) (by simp [Clean])

instance : (pc : CmdPc) → Decidable (pc = .idle)
  | .idle => isTrue rfl
  | .other _ | .reset _ | .restart | .connectBusy .. | .connectSocket .. | .connecting ..
  | .connectFailed .. | .connectStore .. | .sendUp _ | .sendAlloc _ | .sendPut _ | .disconnect ..
  | .getStatus _ | .respond .. => isFalse nofun

instance (d : Device) : Decidable (Drained d) :=
  inferInstanceAs (Decidable (_ ∧ _ ∧ _ ∧ _ ∧ _ ∧ _))

theorem uplink_transparent_ping :
    ∃ d, Schedule.exec Firmware.step (relayUp pingWire) pingRun = some d ∧ Drained d ∧
      ∃ s, d.mgr.net.socks[0]? = some s ∧
        (∀ segs : List Bytes, segs.flatten <+: s.sent → serverRun segs <+: [⟨1, 5, [0xAA, 0x55]⟩]) ∧
        (Drained d → ∀ segs : List Bytes, segs.flatten = s.sent →
          serverRun segs = [⟨1, 5, [0xAA, 0x55]⟩]) ∧
        ∃ as' d', Schedule.Obeys Firmware.step Clean d as' ∧
          Schedule.exec Firmware.step d as' = some d' ∧ Drained d' := by
  have carries : Carries pingWire [⟨1, 5, [0xAA, 0x55]⟩] := by
    refine ⟨by decide +kernel, ?_⟩
    intro f hf other
    rcases List.mem_cons.mp hf with rfl | hf
    · exact ⟨by decide, by decide, by decide, by decide⟩
    · obtain rfl := List.mem_singleton.mp hf
      exact absurd rfl other
  have start : Start 3 0 pingWire (relayUp pingWire) :=
    ⟨rfl, rfl, ⟨_, rfl, rfl, rfl⟩, rfl, rfl, rfl, rfl, rfl, rfl, rfl⟩
  have clean : Schedule.Obeys Firmware.step Clean (relayUp pingWire) pingRun := by decide +kernel
  have ends : (Schedule.exec Firmware.step (relayUp pingWire) pingRun).map (fun d => decide (Drained d)) =
      some true := by decide +kernel
  obtain ⟨d, run, drained⟩ := Option.map_eq_some_iff.mp ends
  exact ⟨d, run, of_decide_eq_true drained, uplink_transparent (by simp) carries start clean run⟩

end EspNetwork.Tunnel
