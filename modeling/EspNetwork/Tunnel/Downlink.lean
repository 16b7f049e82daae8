import Mathlib
import EspNetwork.Firmware.CmdTask
import EspNetwork.Host.RelayConn
import EspNetwork.Relay.Writer

/-!
# The way down: server, device, serial link, client

The server's frames are batched into a stream, received by the device in pieces of up to
1024 bytes, wrapped in push frames between any responses, parsed by the host and put back
together by `relayReader`. Header and payload of a virtual frame may be cut anywhere, and a
push may hold several frames. What the stages keep is again the byte stream: what was pushed,
what the receive task holds and what the socket still has make up what the server sent.
-/

namespace EspNetwork.Tunnel

open Serial Relay Firmware
open Host (relayChunks relayChunks_mono RelayConn NoOverflow Consumed Attached)

/-! ## Frames on USB -/

/-- The frames the host sees in what the device wrote. -/
def hostFrames (usb : List DeviceFrame) : List Frame := usb.map fun o => hostView o.wireFrame

theorem hostFrames_concat (usb : List DeviceFrame) (o : DeviceFrame) :
    hostFrames (usb ++ [o]) = hostFrames usb ++ [hostView o.wireFrame] := by
  simp [hostFrames]

def usbBytes (usb : List DeviceFrame) : Bytes := (usb.map DeviceFrame.build).flatten

/-- A frame whose builder produced it whole. -/
def Whole (o : DeviceFrame) : Prop :=
  o.wireFrame.payload.length ≤ protoMaxPayload ∧ o.build = encodeFrame o.wireFrame

theorem whole_response (f : ProtoFrame) (a : Answer) :
    Whole (.response f.seq f.cmd a.status a.data respBufSize) := by
  have fits := a.fits
  constructor
  · simp only [DeviceFrame.wireFrame, List.length_cons, protoMaxPayload]
    omega
  · exact protoBuildResponse_eq_encodeFrame f.seq f.cmd a.status a.data
      (by simp only [protoMaxPayload]; omega) (by simp only [respBufSize, protoMaxPayload]; omega)

theorem whole_push (cmd : Byte) {data : Option Bytes}
    (fits : (data.getD []).length ≤ protoMaxPayload) : Whole (.push cmd data pushBufSize) :=
  ⟨fits, protoBuildPush_eq_encodeFrame cmd data fits (by simp only [pushBufSize]; omega)⟩

theorem scan_usbBytes {usb : List DeviceFrame} (whole : ∀ o ∈ usb, Whole o) :
    (scan (usbBytes usb)).map hostView = hostFrames usb := by
  have built : usb.map DeviceFrame.build = (usb.map DeviceFrame.wireFrame).map encodeFrame := by
    rw [List.map_map]
    exact List.map_congr_left fun o ho => (whole o ho).2
  have fits : ∀ f ∈ usb.map DeviceFrame.wireFrame, f.payload.length ≤ protoMaxPayload := by
    intro f hf
    obtain ⟨o, ho, rfl⟩ := List.mem_map.mp hf
    exact (whole o ho).1
  rw [usbBytes, built, ← List.nil_append (List.flatten _), ← (assembler_feed .none _).2,
    assembler_feed_encodeFrames fits, hostFrames, List.map_map]
  rfl

/-- A stream that was cut yields the first of its frames. -/
theorem scan_mono {cut stream : Bytes} (h : cut <+: stream) : scan cut <+: scan stream := by
  obtain ⟨rest, rfl⟩ := h
  have first := (assembler_feed .none cut).2
  have all := (assembler_feed .none (cut ++ rest)).2
  rw [Transducer.feed_append, List.nil_append] at all
  rw [List.nil_append] at first
  rw [← all, ← first]
  exact List.prefix_append _ _

def isClosedPush (f : Frame) : Prop := f.isResp = false ∧ f.cmd = Host.cmdProxyClosedPush

/-- Frames behind a closed push do not reach the connection. -/
theorem relayChunks_append_of_closed {fs : List Frame} (h : ∃ f ∈ fs, isClosedPush f)
    (gs : List Frame) : relayChunks (fs ++ gs) = relayChunks fs := by
  induction fs with
  | nil => simp at h
  | cons f fs ih =>
    by_cases here : isClosedPush f
    · obtain ⟨push, closes⟩ := here
      simp [relayChunks, push, closes, Host.cmdProxyClosedPush, Host.cmdProxyDataPush]
    · have later : ∃ g ∈ fs, isClosedPush g := by
        obtain ⟨g, hg, closes⟩ := h
        rcases List.mem_cons.mp hg with rfl | hg
        · exact absurd closes here
        · exact ⟨g, hg, closes⟩
      simp only [List.cons_append, relayChunks, ih later]

theorem relayChunks_append_of_open {fs : List Frame} (h : ∀ f ∈ fs, ¬ isClosedPush f)
    (gs : List Frame) : relayChunks (fs ++ gs) = relayChunks fs ++ relayChunks gs := by
  induction fs with
  | nil => rfl
  | cons f fs ih =>
    have open' := ih fun g hg => h g (by simp [hg])
    have here := h f (by simp)
    simp only [List.cons_append, relayChunks, open']
    split_ifs with resp data filled closes
    · rfl
    · rfl
    · rfl
    · exact absurd ⟨by simpa using resp, closes⟩ here
    · rfl

/-- A frame that carries no data does not change the chunks. -/
theorem relayChunks_append_empty {fs : List Frame} {f : Frame} (empty : relayChunks [f] = []) :
    relayChunks (fs ++ [f]) = relayChunks fs := by
  by_cases closed : ∃ g ∈ fs, isClosedPush g
  · exact relayChunks_append_of_closed closed [f]
  · rw [relayChunks_append_of_open (by simpa using closed), empty, List.append_nil]

theorem hostView_response (seq cmd status : Byte) (data : Option Bytes) (bufSize : Nat) :
    (hostView (DeviceFrame.response seq cmd status data bufSize).wireFrame).isResp = true := by
  rw [DeviceFrame.wireFrame, Serial.hostView_response]

/-- The host's view of the two pushes. -/
theorem hostView_push {cmd : Byte} (plain : cmd < 0x80) (data : Option Bytes) (bufSize : Nat) :
    hostView (DeviceFrame.push cmd data bufSize).wireFrame = ⟨0, cmd, false, 0, data.getD []⟩ := by
  have bare := DeviceFrame.and_plain plain
  have unflagged : ¬ 0x80 ≤ cmd := UInt8.not_le.mpr plain
  simp [hostView, DeviceFrame.wireFrame, unflagged, bare]

/-- The chunks a list of frames on USB delivers. -/
def usbChunks (usb : List DeviceFrame) : List Bytes := relayChunks (hostFrames usb)

/-- The relay was announced closed. -/
def ClosedOn (usb : List DeviceFrame) : Prop := ∃ f ∈ hostFrames usb, isClosedPush f

theorem usbChunks_response (usb : List DeviceFrame) (f : ProtoFrame) (a : Answer) :
    usbChunks (usb ++ [.response f.seq f.cmd a.status a.data respBufSize]) = usbChunks usb ∧
      (ClosedOn (usb ++ [.response f.seq f.cmd a.status a.data respBufSize]) ↔ ClosedOn usb) := by
  have resp := hostView_response f.seq f.cmd a.status a.data respBufSize
  constructor
  · rw [usbChunks, hostFrames_concat]
    exact relayChunks_append_empty (by simp [relayChunks, resp])
  · simp [ClosedOn, hostFrames_concat, isClosedPush, resp, or_and_right, exists_or]

theorem usbChunks_closedPush (usb : List DeviceFrame) :
    usbChunks (usb ++ [.push cmdProxyClosedPush none pushBufSize]) = usbChunks usb := by
  have closed := hostView_push (by decide : cmdProxyClosedPush < 0x80) none pushBufSize
  rw [usbChunks, hostFrames_concat, closed]
  exact relayChunks_append_empty (by simp [relayChunks])

theorem usbChunks_dataPush {usb : List DeviceFrame} (opened : ¬ ClosedOn usb) {data : Bytes}
    (filled : data ≠ []) :
    usbChunks (usb ++ [.push cmdProxyDataPush (some data) pushBufSize]) = usbChunks usb ++ [data] ∧
      ¬ ClosedOn (usb ++ [.push cmdProxyDataPush (some data) pushBufSize]) := by
  have view := hostView_push (by decide : cmdProxyDataPush < 0x80) (some data) pushBufSize
  have pos := List.length_pos_iff.mpr filled
  have each : ∀ f ∈ hostFrames usb, ¬ isClosedPush f := by simpa [ClosedOn] using opened
  constructor
  · rw [usbChunks, hostFrames_concat, relayChunks_append_of_open each, view]
    simp [usbChunks, relayChunks, cmdProxyDataPush, Host.cmdProxyDataPush, filled]
  · rintro ⟨f, hf, closes⟩
    rw [hostFrames_concat, view] at hf
    rcases List.mem_append.mp hf with hf | hf
    · exact each f hf closes
    · obtain rfl := List.mem_singleton.mp hf
      exact absurd closes.2 (by simp [cmdProxyDataPush, Host.cmdProxyClosedPush])

/-! ## What the network still holds -/

/-- What is still unread on a connection. -/
def Net.unread (n : Net) (k : SockId) : Option Bytes := n.socks[k]?.map Sock.inbox

theorem Net.unread_update {n : Net} {k j : SockId} {f : Sock → Sock}
    (h : ∀ s, (f s).inbox = s.inbox) : Net.unread (n.update j f) k = Net.unread n k := by
  by_cases same : j = k
  · subst same
    cases hs : n.socks[j]? <;> simp [Net.unread, Net.update, hs, h]
  · simp [Net.unread, Net.update, same]

theorem Net.unread_send {n n' : Net} {fd : Fd} {piece : Bytes} (h : n.send fd piece = some n')
    (k : SockId) : n'.fds = n.fds ∧ Net.unread n' k = Net.unread n k := by
  simp only [Net.send, Option.bind_eq_bind, Option.bind_eq_some_iff] at h
  obtain ⟨j, -, s, -, h⟩ := h
  split at h
  · obtain rfl := Option.some.inj h
    exact ⟨rfl, Net.unread_update fun _ => rfl⟩
  · simp at h

theorem Net.unread_shutdown (n : Net) (fd : Fd) (k : SockId) :
    Net.unread (n.shutdown fd) k = Net.unread n k := by
  rw [Net.shutdown]
  split
  · exact Net.unread_update fun _ => rfl
  · rfl

/-- A new socket is another connection on another descriptor. -/
theorem Net.unread_socket {n n' : Net} {fd : Fd} {host : Bytes} {port : UInt16} {k : SockId}
    {rest : Bytes} (known : Net.unread n k = some rest) (h : n.socket fd host port = some n') :
    Net.unread n' k = some rest := by
  simp only [Net.socket] at h
  split at h
  · simp at h
  · obtain rfl := Option.some.inj h
    obtain ⟨s, hs, rfl⟩ := Option.map_eq_some_iff.mp known
    simp [Net.unread, List.getElem?_append_left (List.getElem?_eq_some_iff.mp hs).1, hs]

theorem Net.recv_some {n n' : Net} {fd : Fd} {k : SockId} {rest : Bytes} {len : Nat} {piece : Bytes}
    (bound : n.fds fd = some k) (known : Net.unread n k = some rest)
    (h : n.recv fd len = some (piece, n')) :
    piece ≠ [] ∧ piece.length ≤ len ∧ n'.fds = n.fds ∧
      ∃ rest', rest = piece ++ rest' ∧ Net.unread n' k = some rest' := by
  obtain ⟨s, sock, rfl⟩ := Option.map_eq_some_iff.mp known
  simp only [Net.recv, bound, sock, Option.bind_eq_bind, Option.bind_some] at h
  split at h
  case isTrue ok =>
    obtain ⟨rfl, rfl⟩ : _ ∧ _ := by simpa using h
    refine ⟨?_, by simp, rfl, s.inbox.drop len, by simp, by simp [Net.unread, Net.update, sock]⟩
    have : s.inbox ≠ [] := by rintro none; simp [none] at ok; omega
    simp [this]; omega
  case isFalse => simp at h

/-! ## The receive task -/

def rxData : RxPc → Bytes
  | .push data => data
  | _ => []

/-- Where the receive task may be while it is the only one to take the relay down. -/
def RxOn (fd : Fd) (sFd : Option Fd) : RxPc → Prop
  | .top | .closing .take => True
  | .select fd' | .recv fd' => fd' = fd ∧ sFd = some fd
  | .push data => data ≠ [] ∧ data.length ≤ protoMaxPayload ∧ sFd = some fd
  | .closing _ => sFd = none

/-- The command task has taken nothing down and stored no new connection. -/
def CmdOff (sFd : Option Fd) : CmdPc → Prop
  | .connectStore .. => False
  | .connectSocket .. | .connecting .. | .connectFailed .. => sFd = none
  | .disconnect _ pc => pc = .take
  | _ => True

theorem CmdOff.down {sFd : Option Fd} {pc : CmdPc} (h : CmdOff sFd pc) : CmdOff none pc := by
  cases pc <;> trivial

/-- The state of the device while connection `k` on descriptor `fd` is read or has ended:
pushed, held and unread bytes are `total`. -/
structure Down (fd : Fd) (k : SockId) (total : Bytes) (d : Device) : Prop where
  bound : ∀ fd', d.mgr.sFd = some fd' → fd' = fd ∧ d.mgr.net.fds fd = some k
  stream : ∃ rest, Net.unread d.mgr.net k = some rest ∧
    (usbChunks d.mgr.usb).flatten ++ rxData d.rx ++ rest = total
  opened : d.mgr.sFd ≠ none → ¬ ClosedOn d.mgr.usb
  whole : ∀ o ∈ d.mgr.usb, Whole o
  rx : RxOn fd d.mgr.sFd d.rx
  send : ∀ pc, d.send = .closing pc → pc = .take
  cmd : CmdOff d.mgr.sFd d.cmd

/-- A step of the runs considered: push buffers are available, the relay is not connected
anew, and it goes down only when the receive task finds its end. -/
def Receives (d : Device) (a : Action) : Prop :=
  a ≠ .rx .oom ∧ (∀ stream, a ≠ .cmd (.connected stream)) ∧
    ∀ d', Firmware.step d a = some d' → d'.mgr.sFd = none → d.mgr.sFd = none ∨ ∃ c, a = .rx c

section Steps

variable {fd : Fd} {k : SockId} {total : Bytes} {d : Device}

theorem Down.rx_step (down : Down fd k total d) {c : RxChoice} {mgr : Mgr} {pc : RxPc}
    (buffers : c ≠ .oom) (h : tcpRxTask d.mgr d.rx c = some (mgr, pc)) :
    Down fd k total { d with mgr, rx := pc } := by
  obtain ⟨rest, known, whole⟩ := down.stream
  have rx := down.rx
  -- the program counter moves, nothing was held and nothing is
  have same : ∀ pc', rxData d.rx = [] → rxData pc' = [] → RxOn fd d.mgr.sFd pc' →
      Down fd k total { d with rx := pc' } := by
    intro pc' before after on
    refine ⟨down.bound, ⟨rest, known, ?_⟩, down.opened, down.whole, on, down.send, down.cmd⟩
    rwa [before, ← after] at whole
  cases hpc : d.rx with
  | top =>
    cases c <;> simp only [hpc, tcpRxTask, reduceCtorEq] at h
    cases hfd : d.mgr.sFd with
    | none =>
      obtain ⟨rfl, rfl⟩ : _ ∧ _ := by simpa [hfd] using h
      exact same .top (by simp [hpc, rxData]) rfl trivial
    | some fd' =>
      obtain ⟨rfl, rfl⟩ : _ ∧ _ := by simpa [hfd] using h
      obtain ⟨rfl, -⟩ := down.bound fd' hfd
      exact same (.select fd') (by simp [hpc, rxData]) rfl ⟨rfl, hfd⟩
  | select fd' =>
    rw [hpc] at rx
    have idle : rxData d.rx = [] := by rw [hpc]; rfl
    cases c <;> simp only [hpc, tcpRxTask, reduceCtorEq] at h <;>
      obtain ⟨rfl, rfl⟩ : _ ∧ _ := by simpa using h
    · exact same (.recv fd') idle rfl rx
    · exact same .top idle rfl trivial
    · exact same (.closing .take) idle rfl trivial
  | recv fd' =>
    rw [hpc] at rx
    obtain ⟨rfl, hfd⟩ := rx
    have idle : rxData d.rx = [] := by rw [hpc]; rfl
    cases c with
    | data len =>
      simp only [hpc, tcpRxTask] at h
      split at h
      case isFalse => simp at h
      case isTrue small =>
        obtain ⟨⟨piece, net⟩, hrecv, heq⟩ := Option.map_eq_some_iff.mp h
        obtain ⟨rfl, rfl⟩ : _ ∧ _ := by simpa using heq
        obtain ⟨filled, short, hfds, rest', hcut, known'⟩ :=
          Net.recv_some (down.bound _ hfd).2 known hrecv
        refine ⟨fun f hf => hfds ▸ down.bound f hf, ⟨rest', known', ?_⟩, down.opened, down.whole,
          ⟨filled, short.trans small, hfd⟩, down.send, down.cmd⟩
        rw [idle, hcut] at whole
        simpa [rxData] using whole
    | eof =>
      simp only [hpc, tcpRxTask] at h
      split at h
      · obtain ⟨rfl, rfl⟩ : _ ∧ _ := by simpa using h
        exact same (.closing .take) idle rfl trivial
      · simp at h
    | again =>
      obtain ⟨rfl, rfl⟩ : _ ∧ _ := by simpa [hpc, tcpRxTask] using h
      exact same .top idle rfl trivial
    | error =>
      obtain ⟨rfl, rfl⟩ : _ ∧ _ := by simpa [hpc, tcpRxTask] using h
      exact same (.closing .take) idle rfl trivial
    | go | oom => simp [hpc, tcpRxTask] at h
  | push data =>
    rw [hpc] at rx
    obtain ⟨filled, fits, hfd⟩ := rx
    cases c <;> simp only [hpc, tcpRxTask, reduceCtorEq] at h
    case oom => exact absurd rfl buffers
    obtain ⟨rfl, rfl⟩ : _ ∧ _ := by simpa using h
    obtain ⟨chunks, still⟩ := usbChunks_dataPush (down.opened (by simp [hfd])) filled
    refine ⟨down.bound, ⟨rest, known, ?_⟩, fun _ => still, ?_, trivial, down.send, down.cmd⟩
    · simp only [Mgr.cdcSendPush, if_true, chunks]
      simpa [hpc, rxData] using whole
    · intro o ho
      rcases List.mem_append.mp ho with ho | ho
      · exact down.whole o ho
      · obtain rfl := List.mem_singleton.mp ho
        exact whole_push _ fits
  | closing close =>
    rw [hpc] at rx
    have idle : rxData d.rx = [] := by rw [hpc]; rfl
    cases c <;> simp only [hpc, tcpRxTask, reduceCtorEq] at h
    case oom => exact absurd rfl buffers
    cases close with
    | take =>
      cases hfd : d.mgr.sFd with
      | none =>
        obtain ⟨rfl, rfl⟩ : _ ∧ _ := by simpa [closeRelay, hfd, tcpRxTask.afterClose] using h
        exact same .top idle rfl trivial
      | some fd' =>
        obtain ⟨rfl, rfl⟩ : _ ∧ _ := by simpa [closeRelay, hfd, tcpRxTask.afterClose] using h
        refine ⟨by simp, ⟨rest, known, ?_⟩, by simp, down.whole, rfl, down.send, down.cmd.down⟩
        rwa [idle] at whole
    | shut fd' =>
      obtain ⟨rfl, rfl⟩ : _ ∧ _ := by simpa [closeRelay, tcpRxTask.afterClose] using h
      have off : d.mgr.sFd = none := rx
      refine ⟨by simp [off], ⟨rest, ?_, ?_⟩, by simp [off], down.whole, rx, down.send, down.cmd⟩
      · rw [Net.unread_shutdown, known]
      · rwa [idle] at whole
    | close fd' =>
      obtain ⟨rfl, rfl⟩ : _ ∧ _ := by simpa [closeRelay, tcpRxTask.afterClose] using h
      have off : d.mgr.sFd = none := rx
      refine ⟨by simp [off], ⟨rest, known, ?_⟩, by simp [off], down.whole, rx, down.send, down.cmd⟩
      rwa [idle] at whole
    | push =>
      obtain ⟨rfl, rfl⟩ : _ ∧ _ := by simpa [closeRelay, tcpRxTask.afterClose] using h
      have off : d.mgr.sFd = none := rx
      refine ⟨by simp [Mgr.cdcSendPush, off], ⟨rest, known, ?_⟩, by simp [Mgr.cdcSendPush, off], ?_,
        trivial, down.send, down.cmd⟩
      · simp only [Mgr.cdcSendPush, if_true, usbChunks_closedPush]
        rwa [idle] at whole
      · intro o ho
        rcases List.mem_append.mp ho with ho | ho
        · exact down.whole o ho
        · obtain rfl := List.mem_singleton.mp ho
          exact whole_push _ (by simp [protoMaxPayload])

theorem Down.send_step (down : Down fd k total d) {c : SendChoice} {mgr : Mgr} {pc : SendPc}
    (stays : mgr.sFd = none → d.mgr.sFd = none)
    (h : tcpSendTask d.mgr d.send c = some (mgr, pc)) :
    Down fd k total { d with mgr, send := pc } := by
  obtain ⟨rest, known, whole⟩ := down.stream
  -- only the queue and the program counter change
  have same : ∀ queue pc', (∀ close, pc' = .closing close → close = .take) →
      Down fd k total { d with mgr := { d.mgr with sendQueue := queue }, send := pc' } := fun _ _ ok =>
    ⟨down.bound, ⟨rest, known, whole⟩, down.opened, down.whole, down.rx, ok, down.cmd⟩
  cases hpc : d.send with
  | receive =>
    cases c <;> simp only [hpc, tcpSendTask, reduceCtorEq] at h
    cases queue : d.mgr.sendQueue with
    | nil => simp [queue] at h
    | cons job jobs =>
      obtain ⟨rfl, rfl⟩ : _ ∧ _ := by simpa [queue] using h
      exact same _ _ (by simp)
  | snapshot job =>
    cases c <;> simp only [hpc, tcpSendTask, reduceCtorEq] at h
    cases hfd : d.mgr.sFd with
    | none =>
      obtain ⟨rfl, rfl⟩ : _ ∧ _ := by simpa [hfd] using h
      exact same _ _ (by simp)
    | some fd' =>
      obtain ⟨rfl, rfl⟩ : _ ∧ _ := by simpa [hfd] using h
      exact same _ _ (by simp)
  | sending fd' piece =>
    cases c with
    | go =>
      cases piece with
      | nil =>
        obtain ⟨rfl, rfl⟩ : _ ∧ _ := by simpa [hpc, tcpSendTask] using h
        exact same _ _ (by simp)
      | cons b piece => simp [hpc, tcpSendTask] at h
    | accept n =>
      simp only [hpc, tcpSendTask, Option.map_eq_some_iff] at h
      obtain ⟨net, hsend, heq⟩ := h
      obtain ⟨rfl, rfl⟩ : _ ∧ _ := by simpa using heq
      obtain ⟨hfds, hunread⟩ := Net.unread_send hsend k
      exact ⟨fun f hf => hfds ▸ down.bound f hf, ⟨rest, hunread ▸ known, whole⟩, down.opened,
        down.whole, down.rx, by simp, down.cmd⟩
    | error =>
      cases piece with
      | nil => simp [hpc, tcpSendTask] at h
      | cons b piece =>
        obtain ⟨rfl, rfl⟩ : _ ∧ _ := by simpa [hpc, tcpSendTask] using h
        exact same _ _ (by simp)
    | oom => simp [hpc, tcpSendTask] at h
  | closing close =>
    obtain rfl := down.send close hpc
    cases c <;> simp only [hpc, tcpSendTask, reduceCtorEq] at h
    cases hfd : d.mgr.sFd with
    | none =>
      obtain ⟨rfl, rfl⟩ : _ ∧ _ := by simpa [closeRelay, hfd, tcpSendTask.afterClose] using h
      exact same _ _ (by simp)
    | some fd' =>
      obtain ⟨rfl, rfl⟩ : _ ∧ _ := by simpa [closeRelay, hfd, tcpSendTask.afterClose] using h
      simp [hfd] at stays

/-- A response on USB does not concern the relay. -/
theorem Down.respond (down : Down fd k total d) (f : ProtoFrame) (a : Answer) {pc : CmdPc}
    (off : CmdOff d.mgr.sFd pc) :
    Down fd k total { d with mgr := d.mgr.cdcSendResponse f a, cmd := pc } := by
  obtain ⟨rest, known, whole⟩ := down.stream
  obtain ⟨chunks, closed⟩ := usbChunks_response d.mgr.usb f a
  refine ⟨down.bound, ⟨rest, known, ?_⟩, fun up => ?_, ?_, down.rx, down.send, off⟩
  · rwa [Mgr.cdcSendResponse, chunks]
  · rw [Mgr.cdcSendResponse, closed]
    exact down.opened up
  · intro o ho
    rcases List.mem_append.mp ho with ho | ho
    · exact down.whole o ho
    · obtain rfl := List.mem_singleton.mp ho
      exact whole_response f a

theorem Down.handler_step (down : Down fd k total d) {c : CmdChoice} {mgr : Mgr} {pc : CmdPc}
    (notAnew : ∀ stream, c ≠ .connected stream) (stays : mgr.sFd = none → d.mgr.sFd = none)
    (h : handlerStep d.mgr d.cmd c = some (mgr, pc)) :
    Down fd k total { d with mgr, cmd := pc } := by
  obtain ⟨rest, known, whole⟩ := down.stream
  have cmd := down.cmd
  -- only the queue and the program counter change
  have same : ∀ queue pc', CmdOff d.mgr.sFd pc' →
      Down fd k total { d with mgr := { d.mgr with sendQueue := queue }, cmd := pc' } := fun _ _ off =>
    ⟨down.bound, ⟨rest, known, whole⟩, down.opened, down.whole, down.rx, down.send, off⟩
  cases hpc : d.cmd with
  | idle => cases c <;> simp [hpc, handlerStep] at h
  | restart => cases c <;> simp [hpc, handlerStep] at h
  | connectStore f sock => simp [hpc, CmdOff] at cmd
  | other f =>
    cases c <;> simp only [hpc, handlerStep, reduceCtorEq] at h
    obtain ⟨rfl, rfl⟩ : _ ∧ _ := by simpa using h
    exact down.respond f _ trivial
  | reset f =>
    cases c <;> simp only [hpc, handlerStep, reduceCtorEq] at h
    obtain ⟨rfl, rfl⟩ : _ ∧ _ := by simpa using h
    exact down.respond f _ trivial
  | respond f answer =>
    cases c <;> simp only [hpc, handlerStep, reduceCtorEq] at h
    obtain ⟨rfl, rfl⟩ : _ ∧ _ := by simpa using h
    exact down.respond f _ trivial
  | connectBusy f host port =>
    cases c <;> simp only [hpc, handlerStep, reduceCtorEq] at h
    cases hfd : d.mgr.sFd with
    | none =>
      obtain ⟨rfl, rfl⟩ : _ ∧ _ := by simpa [hfd] using h
      exact same _ _ hfd
    | some fd' =>
      obtain ⟨rfl, rfl⟩ : _ ∧ _ := by simpa [hfd] using h
      exact same _ _ trivial
  | connectSocket f host port =>
    have off : d.mgr.sFd = none := by simpa [hpc, CmdOff] using cmd
    cases c <;> simp only [hpc, handlerStep, reduceCtorEq] at h
    case fail =>
      obtain ⟨rfl, rfl⟩ : _ ∧ _ := by simpa using h
      exact same _ _ trivial
    case socket fd' =>
      obtain ⟨net, hsocket, heq⟩ := Option.map_eq_some_iff.mp h
      obtain ⟨rfl, rfl⟩ : _ ∧ _ := by simpa using heq
      exact ⟨by simp [off], ⟨rest, Net.unread_socket known hsocket, whole⟩, down.opened, down.whole,
        down.rx, down.send, off⟩
  | connecting f sock =>
    have off : d.mgr.sFd = none := by simpa [hpc, CmdOff] using cmd
    cases c <;> simp only [hpc, handlerStep, reduceCtorEq] at h
    case fail =>
      obtain ⟨rfl, rfl⟩ : _ ∧ _ := by simpa using h
      exact same _ _ off
    case connected stream => exact absurd rfl (notAnew stream)
  | connectFailed f sock =>
    have off : d.mgr.sFd = none := by simpa [hpc, CmdOff] using cmd
    cases c <;> simp only [hpc, handlerStep, reduceCtorEq] at h
    obtain ⟨rfl, rfl⟩ : _ ∧ _ := by simpa using h
    exact ⟨by simp [off], ⟨rest, known, whole⟩, down.opened, down.whole, down.rx, down.send, trivial⟩
  | sendUp data =>
    cases c <;> simp only [hpc, handlerStep, reduceCtorEq] at h
    obtain ⟨rfl, rfl⟩ : _ ∧ _ := by simpa using h
    refine same _ _ ?_
    split <;> trivial
  | sendAlloc data =>
    cases c <;> simp only [hpc, handlerStep, reduceCtorEq] at h <;>
      obtain ⟨rfl, rfl⟩ : _ ∧ _ := by simpa using h
    all_goals exact same _ _ trivial
  | sendPut data =>
    cases c <;> simp only [hpc, handlerStep, reduceCtorEq] at h
    case go =>
      split at h
      · obtain ⟨rfl, rfl⟩ : _ ∧ _ := by simpa using h
        exact same _ _ trivial
      · simp at h
    case queueFull =>
      split at h
      · simp at h
      · obtain ⟨rfl, rfl⟩ : _ ∧ _ := by simpa using h
        exact same _ _ trivial
  | disconnect f close =>
    obtain rfl : close = .take := by simpa [hpc, CmdOff] using cmd
    cases c <;> simp only [hpc, handlerStep, reduceCtorEq] at h
    cases hfd : d.mgr.sFd with
    | none =>
      obtain ⟨rfl, rfl⟩ : _ ∧ _ := by simpa [closeRelay, hfd, handlerStep.afterClose] using h
      exact same _ _ trivial
    | some fd' =>
      obtain ⟨rfl, rfl⟩ : _ ∧ _ := by simpa [closeRelay, hfd, handlerStep.afterClose] using h
      simp [hfd] at stays
  | getStatus f =>
    cases c <;> simp only [hpc, handlerStep, reduceCtorEq] at h
    obtain ⟨rfl, rfl⟩ : _ ∧ _ := by simpa using h
    exact same _ _ trivial

theorem cmdOff_onFrame (sFd : Option Fd) (f : ProtoFrame) : CmdOff sFd (onFrame f) := by
  simp only [onFrame, handleProxyConnect, handleProxySend]
  split_ifs <;> first | trivial | rfl | (split <;> first | trivial | (split <;> trivial))

/-- Nothing is held when the relay is down. -/
theorem RxOn.idle {rx : RxPc} (h : RxOn fd none rx) : rxData rx = [] := by
  cases rx <;> simp_all [RxOn, rxData]

theorem Down.cmd_step (down : Down fd k total d) {c : CmdChoice} {d' : Device}
    (notAnew : ∀ stream, c ≠ .connected stream) (stays : d'.mgr.sFd = none → d.mgr.sFd = none)
    (h : cmdTask d c = some d') : Down fd k total d' := by
  obtain ⟨rest, known, whole⟩ := down.stream
  cases hpc : d.cmd with
  | idle =>
    have off := down.cmd
    rw [hpc] at off
    simp only [cmdTask, hpc] at h
    split at h
    case h_1 f calls hcalls =>
      obtain rfl := Option.some.inj h
      exact ⟨down.bound, ⟨rest, known, whole⟩, down.opened, down.whole, down.rx, down.send,
        cmdOff_onFrame _ f⟩
    case h_2 =>
      obtain rfl := Option.some.inj h
      exact ⟨down.bound, ⟨rest, known, whole⟩, down.opened, down.whole, down.rx, down.send, off⟩
    case h_3 =>
      split at h
      · obtain rfl := Option.some.inj h
        exact ⟨down.bound, ⟨rest, known, whole⟩, down.opened, down.whole, down.rx, down.send, off⟩
      · simp at h
    case h_4 => simp at h
  | restart =>
    simp only [cmdTask, hpc, Option.some.injEq] at h
    subst h
    have idle := RxOn.idle (stays rfl ▸ down.rx)
    refine ⟨by simp [Device.restart, boot], ⟨rest, known, ?_⟩, by simp [Device.restart, boot],
      down.whole, trivial, by simp [Device.restart, boot], trivial⟩
    rwa [idle] at whole
  | _ =>
    simp only [cmdTask, hpc, Option.map_eq_some_iff] at h
    obtain ⟨⟨mgr, pc⟩, hstep, rfl⟩ := h
    exact down.handler_step notAnew stays (by rw [hpc]; exact hstep)

/-- Pushed, held and unread bytes stay the stream of the connection. -/
theorem Down.step (down : Down fd k total d) {a : Action} {d' : Device} (receives : Receives d a)
    (h : Firmware.step d a = some d') : Down fd k total d' := by
  obtain ⟨buffers, notAnew, stays⟩ := receives
  cases a with
  | cmd c =>
    refine down.cmd_step (fun stream hc => notAnew stream (by rw [hc])) (fun off => ?_) h
    exact (stays d' h off).resolve_right (by simp)
  | send c =>
    obtain ⟨⟨mgr, pc⟩, hstep, rfl⟩ := Option.map_eq_some_iff.mp h
    exact down.send_step (fun off => (stays _ h off).resolve_right (by simp)) hstep
  | rx c =>
    obtain ⟨⟨mgr, pc⟩, hstep, rfl⟩ := Option.map_eq_some_iff.mp h
    exact down.rx_step (fun hc => buffers (by rw [hc])) hstep

end Steps

/-! ## Nothing gets stuck -/

/-- The receive task has pushed everything the connection had. -/
def Received (k : SockId) (d : Device) : Prop :=
  Net.unread d.mgr.net k = some [] ∧ rxData d.rx = []

/-- Steps the receive task needs before it can take the next piece. -/
def rxWork : RxPc → Nat
  | .push _ => 3
  | .top => 2
  | .select _ => 1
  | _ => 0

def downWork (k : SockId) (d : Device) : Nat ×ₗ Nat :=
  toLex (((Net.unread d.mgr.net k).getD []).length, rxWork d.rx)

section Progress

variable {fd : Fd} {k : SockId} {total : Bytes} {d : Device}

/-- While the relay is up and the receive task has not met an error, it can go on. -/
structure Reading (fd : Fd) (k : SockId) (total : Bytes) (d : Device) : Prop where
  down : Down fd k total d
  up : d.mgr.sFd = some fd
  going : ∀ pc, d.rx ≠ .closing pc

theorem Reading.progress (reading : Reading fd k total d) (busy : ¬ Received k d) :
    ∃ a d', Receives d a ∧ Firmware.step d a = some d' ∧ Reading fd k total d' ∧
      downWork k d' < downWork k d := by
  obtain ⟨rest, known, -⟩ := reading.down.stream
  have bound := (reading.down.bound fd reading.up).2
  have rx := reading.down.rx
  -- a step of the receive task that leaves `s_fd` alone
  have moves : ∀ c mgr pc, c ≠ .oom → tcpRxTask d.mgr d.rx c = some (mgr, pc) →
      mgr.sFd = d.mgr.sFd → (∀ close, pc ≠ .closing close) →
      downWork k { d with mgr, rx := pc } < downWork k d →
      ∃ a d', Receives d a ∧ Firmware.step d a = some d' ∧ Reading fd k total d' ∧
        downWork k d' < downWork k d := by
    intro c mgr pc buffers hstep hfd going less
    have taken : Firmware.step d (.rx c) = some { d with mgr, rx := pc } := by
      simp [Firmware.step, hstep]
    have receives : Receives d (.rx c) :=
      ⟨by simpa using buffers, by simp, fun _ _ _ => .inr ⟨c, rfl⟩⟩
    exact ⟨.rx c, _, receives, taken,
      ⟨reading.down.step receives taken, by rw [← reading.up, ← hfd], going⟩, less⟩
  cases hpc : d.rx with
  | top =>
    refine moves .go d.mgr (.select fd) (by simp) ?_ rfl (by simp) ?_
    · simp [hpc, tcpRxTask, reading.up]
    · simp [downWork, Prod.Lex.toLex_lt_toLex, hpc, rxWork]
  | select fd' =>
    refine moves .go d.mgr (.recv fd') (by simp) ?_ rfl (by simp) ?_
    · simp [hpc, tcpRxTask]
    · simp [downWork, Prod.Lex.toLex_lt_toLex, hpc, rxWork]
  | recv fd' =>
    rw [hpc] at rx
    obtain ⟨rfl, -⟩ := rx
    have more : rest ≠ [] := by
      rintro rfl
      exact busy ⟨known, by rw [hpc]; rfl⟩
    have pos := List.length_pos_iff.mpr more
    obtain ⟨s, sock, rfl⟩ := Option.map_eq_some_iff.mp known
    let net := d.mgr.net.update k fun s => { s with inbox := s.inbox.drop 1 }
    have received : d.mgr.net.recv fd' 1 = some (s.inbox.take 1, net) := by
      have enough : 1 ≤ s.inbox.length := pos
      simp [Net.recv, bound, sock, enough, net]
    refine moves (.data 1) { d.mgr with net } (.push (s.inbox.take 1)) (by simp) ?_ rfl (by simp) ?_
    · simp [hpc, tcpRxTask, received, rxBufSize, protoMaxPayload]
    · simp [downWork, Prod.Lex.toLex_lt_toLex, Net.unread, Net.update, sock, net]
      omega
  | push data =>
    refine moves .go (d.mgr.cdcSendPush cmdProxyDataPush (some data) true) .top (by simp) ?_ rfl
      (by simp) ?_
    · simp [hpc, tcpRxTask]
    · simp [downWork, Prod.Lex.toLex_lt_toLex, hpc, rxWork, Mgr.cdcSendPush]
  | closing pc => exact absurd hpc (reading.going pc)

theorem Reading.receives (reading : Reading fd k total d) :
    ∃ as d', Schedule.Obeys Firmware.step Receives d as ∧
      Schedule.exec Firmware.step d as = some d' ∧ Received k d' :=
  Schedule.exec_until (downWork k) (fun _ reading busy => reading.progress busy) reading

end Progress

/-! ## Whole runs -/

/-- The relay is up on connection `k`, whose peer sends `stream`, and nothing was pushed. -/
structure Listening (fd : Fd) (k : SockId) (stream : Bytes) (d : Device) : Prop where
  sFd : d.mgr.sFd = some fd
  bound : d.mgr.net.fds fd = some k
  unread : Net.unread d.mgr.net k = some stream
  usb : d.mgr.usb = []
  rx : d.rx = .top
  send : ∀ pc, d.send ≠ .closing pc
  cmd : d.cmd = .idle

theorem Listening.down {fd : Fd} {k : SockId} {stream : Bytes} {d : Device}
    (listening : Listening fd k stream d) : Down fd k stream d where
  bound fd' hfd := by
    obtain rfl := Option.some.inj (listening.sFd.symm.trans hfd)
    exact ⟨rfl, listening.bound⟩
  stream := ⟨stream, listening.unread, by
    simp [listening.usb, listening.rx, usbChunks, hostFrames, relayChunks, rxData]⟩
  opened := by simp [ClosedOn, listening.usb, hostFrames]
  whole := by simp [listening.usb]
  rx := by rw [listening.rx]; trivial
  send pc h := absurd h (listening.send pc)
  cmd := by rw [listening.cmd]; trivial

/-- **The downlink is transparent.** `cut` is what arrives of the stream that the server's
write loop made of `fs`. In every run of the device and of the host's goroutines,
`Client.readLoop` dispatches a prefix of `fs` that lies complete in `cut`; when everything has
passed, all of `fs` if the stream was whole, and all but the incomplete frame if it ended
inside one. Device and host can always pass on the rest. -/
theorem downlink_transparent {fs : List VFrame} {batches : List (List Bytes)} {cut : Bytes}
    {fd : Fd} {k : SockId} {d₀ d : Device} {as : List Action} {h₀ h : RelayConn}
    {bs : List Host.Action} (valid : ∀ f ∈ fs, f.data.length ≤ 65535)
    (batched : batches.flatten = fs.map frameBytes) (arrives : cut <+: (writeLoop batches).flatten)
    (listening : Listening fd k cut d₀) (receives : Schedule.Obeys Firmware.step Receives d₀ as)
    (run : Schedule.exec Firmware.step d₀ as = some d)
    (attached : Attached h₀) (wire : h₀.wire <+: usbBytes d.mgr.usb)
    (room : Schedule.Obeys Host.step NoOverflow h₀ bs)
    (hostRun : Schedule.exec Host.step h₀ bs = some h) :
    (clientReadLoop h.taken <+: fs ∧ virtualFrames.encodeAll (clientReadLoop h.taken) <+: cut) ∧
    (Received k d → h₀.wire = usbBytes d.mgr.usb → Consumed h →
      (cut = (writeLoop batches).flatten → clientReadLoop h.taken = fs) ∧
      ∀ done next rest part, fs = done ++ next :: rest → part <+: frameBytes next →
        part ≠ frameBytes next → cut = virtualFrames.encodeAll done ++ part →
        clientReadLoop h.taken = done) ∧
    (d.mgr.sFd ≠ none → (∀ pc, d.rx ≠ .closing pc) →
      ∃ as' d', Schedule.Obeys Firmware.step Receives d as' ∧
        Schedule.exec Firmware.step d as' = some d' ∧ Received k d') ∧
    ∃ bs' h', Schedule.Obeys Host.step NoOverflow h bs' ∧
      Schedule.exec Host.step h bs' = some h' ∧ Consumed h' := by
  have down : Down fd k cut d := Schedule.exec_invariant_of_obeys _
    (fun _ _ _ down receives taken => down.step receives taken) listening.down receives run
  obtain ⟨rest, known, whole⟩ := down.stream
  have stream : (writeLoop batches).flatten = virtualFrames.encodeAll fs := by
    rw [writeLoop_flatten, batched]
    rfl
  obtain ⟨first, all⟩ := Host.taken_chunks attached room hostRun
  have frames : (scan h₀.wire).map hostView <+: hostFrames d.mgr.usb := by
    rw [← scan_usbBytes down.whole]
    exact (scan_mono wire).map _
  have arrived : h.taken.flatten <+: cut := by
    have chunks : h.taken <+: usbChunks d.mgr.usb := first.trans (relayChunks_mono frames)
    obtain ⟨later, hlater⟩ := chunks
    refine ⟨later.flatten ++ rxData d.rx ++ rest, ?_⟩
    rw [← whole, ← hlater]
    simp
  rw [clientReadLoop_eq_decodeAll]
  refine ⟨?_, fun received complete consumed => ?_, fun up going => ?_, Host.consumes h⟩
  · obtain ⟨inOrder, inside⟩ :=
      virtualFrames.decodeAll_prefix valid (arrived.trans (stream ▸ arrives))
    exact ⟨inOrder, inside.trans arrived⟩
  · have everything : h.taken.flatten = cut := by
      rw [all consumed, complete, scan_usbBytes down.whole, ← whole, received.2]
      obtain rfl : rest = [] := by simpa [received.1] using known.symm
      simp [usbChunks]
    rw [everything]
    refine ⟨fun noCut => ?_, fun done next later part hfs short proper hcut => ?_⟩
    · rw [noCut, stream, virtualFrames.decodeAll_encodeAll valid]
    · rw [hcut]
      subst hfs
      exact virtualFrames.decodeAll_cut (fun b hb => valid b (by simp [hb])) (valid next (by simp))
        short proper
  · obtain ⟨fd', hfd⟩ := Option.ne_none_iff_exists'.mp up
    obtain ⟨rfl, -⟩ := down.bound fd' hfd
    exact Reading.receives ⟨down, hfd, going⟩

/-- The relay is up on descriptor 3 and its peer sends `stream`. -/
def listeningOn (stream : Bytes) : Device :=
  { boot with
    mgr := ⟨some 3, [],
      ⟨Function.update (fun _ => none) 3 (some 0), [⟨[], 11080, [], stream, false⟩]⟩, []⟩ }

/-- The first byte of an acknowledgement is pushed, then the other seven. -/
def ackRun : List Firmware.Action :=
  [.rx .go, .rx .go, .rx (.data 1), .rx .go, .rx .go, .rx .go, .rx (.data 7), .rx .go]

def ackPushes : List DeviceFrame :=
  [.push Firmware.cmdProxyDataPush (some [0]) pushBufSize,
    .push Firmware.cmdProxyDataPush (some [7, 0, 0, 0, 1, 0, 0]) pushBufSize]

/-- The relay connection of a host that has read nothing yet. -/
def attachedTo (usb : List DeviceFrame) : RelayConn :=
  ⟨usbBytes usb, newParser, [], true, [], false, []⟩

/-- The host reads the first push with the head of the second one. -/
def takeRun : List Host.Action := [.read 12, .callback, .take, .read 12, .callback, .take]

instance (h : RelayConn) (a : Host.Action) : Decidable (NoOverflow h a) :=
  decidable_of_iff (a = .callback → ∀ f ∈ h.calls.head?, f.isResp = false →
      f.cmd = Host.cmdProxyDataPush → h.recvCh.length < Host.recvChCap) <| by
    cases calls : h.calls <;> simp [NoOverflow, calls]

theorem downlink_transparent_ack :
    ∃ d h, Schedule.exec Firmware.step (listeningOn (frameBytes ⟨0, 7, [0]⟩)) ackRun = some d ∧
      Schedule.exec Host.step (attachedTo d.mgr.usb) takeRun = some h ∧
      h.taken = [[0], [7, 0, 0, 0, 1, 0, 0]] ∧ clientReadLoop h.taken = [⟨0, 7, [0]⟩] ∧
      ∃ as' d', Schedule.Obeys Firmware.step Receives d as' ∧
        Schedule.exec Firmware.step d as' = some d' ∧ Received 0 d' := by
  obtain ⟨d, run, up, rx, unread, usb⟩ : ∃ d, Schedule.exec Firmware.step
      (listeningOn (frameBytes ⟨0, 7, [0]⟩)) ackRun = some d ∧ d.mgr.sFd = some 3 ∧ d.rx = .top ∧
      Net.unread d.mgr.net 0 = some [] ∧ d.mgr.usb = ackPushes := ⟨_, rfl, rfl, rfl, rfl, rfl⟩
  have ends : (Schedule.exec Host.step (attachedTo ackPushes) takeRun).map
      (fun h => (h.wire, h.calls, h.recvCh, h.taken)) =
        some ([], [], [], [[0], [7, 0, 0, 0, 1, 0, 0]]) := by decide +kernel
  obtain ⟨h, hostRun, shape⟩ := Option.map_eq_some_iff.mp ends
  obtain ⟨wire, calls, recvCh, taken⟩ : h.wire = [] ∧ h.calls = [] ∧ h.recvCh = [] ∧
      h.taken = [[0], [7, 0, 0, 0, 1, 0, 0]] := by simpa using shape
  have valid : ∀ f ∈ ([⟨0, 7, [0]⟩] : List VFrame), f.data.length ≤ 65535 := by simp
  have batched : [[frameBytes ⟨0, 7, [0]⟩]].flatten = [⟨0, 7, [0]⟩].map frameBytes := rfl
  have sent : frameBytes ⟨0, 7, [0]⟩ = (writeLoop [[frameBytes ⟨0, 7, [0]⟩]]).flatten := by
    simp [writeLoop_flatten]
  have arrives : frameBytes ⟨0, 7, [0]⟩ <+: (writeLoop [[frameBytes ⟨0, 7, [0]⟩]]).flatten :=
    ⟨[], by rw [List.append_nil, ← sent]⟩
  have listening : Listening 3 0 (frameBytes ⟨0, 7, [0]⟩) (listeningOn (frameBytes ⟨0, 7, [0]⟩)) :=
    ⟨rfl, rfl, rfl, rfl, rfl, by simp [listeningOn, boot], rfl⟩
  have receives : Schedule.Obeys Firmware.step Receives (listeningOn (frameBytes ⟨0, 7, [0]⟩))
      ackRun := by
    simp [ackRun, Schedule.Obeys, Receives]
  have attached : Attached (attachedTo d.mgr.usb) := ⟨⟨rfl, rfl⟩, rfl, rfl, rfl, rfl⟩
  rw [← usb] at hostRun
  have room : Schedule.Obeys Host.step NoOverflow (attachedTo d.mgr.usb) takeRun := by
    rw [usb]
    decide +kernel
  have whole := downlink_transparent valid batched arrives listening receives run attached
    List.prefix_rfl room hostRun
  have received : Received 0 d := ⟨unread, by rw [rx]; rfl⟩
  exact ⟨d, h, run, hostRun, taken, (whole.2.1 received rfl ⟨wire, calls, recvCh⟩).1 sent,
    whole.2.2.1 (by simp [up]) (by simp [rx])⟩

end EspNetwork.Tunnel
