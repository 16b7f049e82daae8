import EspNetwork.Base.Refinement
import EspNetwork.Stack.System

/-!
# The stack is a relay between two sides

As long as nothing is lost, every step of the stack is a step of one of the two sides over a relay
that carries bytes, or a step that only moves bytes along. The parsers on both ends stand between
frames whenever they have read everything, so what is written behind is read behind.
-/

namespace EspNetwork.Stack

open Serial Relay
open Firmware (Device Fd SockId Traced)
open Firmware.Traced (Moves step_moves)
open Host (RelayConn NoOverflow relayChunks)
open Tunnel (Bystander Up Down Clean Receives KeepsRelay inTransit relayPayload relayPayload_cons
  rxData Net.unread usbBytes usbChunks hostFrames Whole ClosedOn isClosedPush)
open Virtual (readFrames framesBytes)

/-! ## What pushes add -/

/-- New pushes reach the channel behind those that are still to be read. -/
theorem pendingChunks_onUsb {h : RelayConn} {out : List DeviceFrame} (idle : HostIdle h)
    (whole : ∀ o ∈ out, Whole o) (current : h.current = true)
    (opened : ∀ f ∈ Host.pendingFrames h, ¬ isClosedPush f) :
    Host.pendingChunks (onUsb out h) = Host.pendingChunks h ++ relayChunks (hostFrames out) := by
  have still : (onUsb out h).current = true := current
  rw [Host.pendingChunks, Host.pendingChunks, if_pos still, if_pos current,
    (pendingFrames_onUsb idle whole).1, Tunnel.relayChunks_append_of_open opened]

theorem usbChunks_append {usb : List DeviceFrame} (opened : ¬ ClosedOn usb)
    (out : List DeviceFrame) :
    usbChunks (usb ++ out) = usbChunks usb ++ relayChunks (hostFrames out) := by
  have each : ∀ f ∈ hostFrames usb, ¬ isClosedPush f := by simpa [ClosedOn] using opened
  rw [usbChunks, hostFrames, List.map_append]
  exact Tunnel.relayChunks_append_of_open each _

/-! ## What a step of the device adds -/

theorem usb_grows {t t' : Traced} {e : Firmware.Event} (m : Moves t e t') :
    t.dev.mgr.usb <+: t'.dev.mgr.usb := by
  cases m with
  | quiet c light next mgr rx send proper usb =>
    rcases usb with same | ⟨f, a, -, same⟩
    · rw [same]
    · rw [same]
      exact List.prefix_append _ _
  | answer | rxPush => exact List.prefix_append _ _
  | closePush malloc inside =>
    simp only [Firmware.Device.setClosing_mgr, Firmware.Device.setMgr_mgr]
    unfold Firmware.Mgr.cdcSendPush
    split
    · exact List.prefix_append _ _
    · exact List.prefix_rfl
  | closeNone | closeTake | closeShut | closeClose =>
    simp
  | _ => exact List.prefix_rfl

/-- What `send` has taken on a connection. -/
theorem sentOn_update (net : Firmware.Net) (k j : SockId) {f : Firmware.Sock → Firmware.Sock}
    (grows : ∀ s, s.sent <+: (f s).sent) :
    ((net.socks[k]?).map Firmware.Sock.sent).getD [] <+:
      (((net.update j f).socks[k]?).map Firmware.Sock.sent).getD [] := by
  by_cases here : j = k
  · subst here
    cases sock : net.socks[j]? <;> simp [Firmware.Net.update, sock, grows]
  · simp [Firmware.Net.update, here]

theorem sentOn_grows {t t' : Traced} {e : Firmware.Event} (m : Moves t e t') (k : SockId) :
    sentOn k t.dev <+: sentOn k t'.dev := by
  have same : t'.dev.mgr.net.socks = t.dev.mgr.net.socks → sentOn k t.dev <+: sentOn k t'.dev :=
    fun socks => by simp [sentOn, socks]
  cases m with
  | quiet c light next mgr => exact same (by rw [mgr])
  | socket =>
    by_cases old : k < t.dev.mgr.net.socks.length
    · simp [sentOn, List.getElem?_append_left old]
    · simp [sentOn, List.getElem?_eq_none (not_lt.mp old)]
  | accept | rxData => exact sentOn_update _ _ _ (by simp)
  | connected stream cmd =>
    simp only [sentOn, Firmware.Net.connected]
    split
    · exact sentOn_update _ _ _ (by simp)
    · exact List.prefix_rfl
  | closeShut malloc inside =>
    simp only [sentOn, Firmware.Device.setClosing_mgr, Firmware.Device.setMgr_mgr,
      Firmware.Net.shutdown]
    split
    · exact sentOn_update _ _ _ (by simp)
    · exact List.prefix_rfl
  | closeNone | closeTake | closeClose | closePush => exact same (by simp [Firmware.Net.close])
  | restart | abandon => exact same rfl
  | rxPush | answer => exact same rfl
  | _ => exact same rfl

/-! ## The device undisturbed -/

section Undisturbed

variable {fd : Fd} {k : SockId} {total : Bytes} {t t' : Traced} {a : Firmware.Action}

theorem not_closing (up : Up fd k total t.dev) (going : ∀ pc, t.dev.rx ≠ .closing pc)
    (who : Firmware.Who) : t.dev.closing who = none := by
  cases who with
  | rx =>
    cases rx : t.dev.rx <;> simp [Device.closing, rx]
    exact going _ rx
  | send =>
    cases send : t.dev.send <;> simp [Device.closing, send]
    exact up.notClosing _ send
  | cmd =>
    have keeps := up.cmd
    cases cmd : t.dev.cmd <;> simp [Device.closing, cmd]
    simp [cmd, KeepsRelay] at keeps

/-- Nothing takes the relay down. -/
theorem stays_up (up : Up fd k total t.dev) (going : ∀ pc, t.dev.rx ≠ .closing pc)
    (calm : Undisturbed a) (m : Moves t (.task a) t') :
    t'.dev.mgr.sFd = t.dev.mgr.sFd ∧ ∀ pc, t'.dev.rx ≠ .closing pc := by
  have keeps := up.cmd
  cases m with
  | quiet c light next mgr rx => exact ⟨by rw [mgr], by rwa [rx]⟩
  | restart c cmd => simp [cmd, KeepsRelay] at keeps
  | store cmd => simp [cmd, KeepsRelay] at keeps
  | rxFail failure =>
    rename_i c _
    cases c <;> simp [Firmware.RxChoice.fails, Undisturbed] at failure calm
  | closeNone malloc inside | closeTake malloc inside | closeShut malloc inside
  | closeClose malloc inside | closePush malloc inside => simp [not_closing up going] at inside
  | rxSnapshot | rxReady | rxAgain | rxData | rxPush | rxLost => exact ⟨rfl, by simp⟩
  | _ => exact ⟨rfl, going⟩

end Undisturbed

theorem Undisturbed.faultless (calm : Undisturbed a) : Tunnel.Faultless a := by
  cases a with
  | cmd c => cases c <;> trivial
  | send c => cases c <;> trivial
  | rx c => trivial

section Device

variable {d d' : Device}

/-- No socket is being connected while the relay is up. -/
theorem not_connected (up : Up fd k total d) {stream : Bytes} :
    Firmware.step d (.cmd (.connected stream)) = none := by
  have keeps := up.cmd
  cases cmd : d.cmd <;> simp [Firmware.step, Firmware.cmdTask, Firmware.handlerStep, cmd]
  all_goals simp [cmd, KeepsRelay] at keeps

theorem clean_of_undisturbed (up : Up fd k total d) (going : ∀ pc, d.rx ≠ .closing pc)
    (calm : Undisturbed a) (taken : Firmware.step d a = some d') :
    Clean d a ∧ Receives d a ∧ ∀ pc, d'.rx ≠ .closing pc := by
  have moved : Moves ⟨d, .empty⟩ (.task a) ⟨d', Firmware.Ledger.empty.record d a⟩ :=
    step_moves (by simp [Traced.step, taken])
  obtain ⟨stays, going'⟩ := stays_up (t := ⟨d, .empty⟩) up going calm moved
  have same : ∀ d'', Firmware.step d a = some d'' → d''.mgr.sFd = some fd := fun d'' taken' => by
    obtain rfl := Option.some.inj (taken.symm.trans taken')
    exact stays.trans up.sFd
  refine ⟨⟨calm.faultless, fun d'' taken' => by simp [same d'' taken']⟩, ⟨?_, ?_, ?_⟩, going'⟩
  · rintro rfl
    exact calm
  · rintro stream rfl
    simp [not_connected up] at taken
  · intro d'' taken' off
    simp [same d'' taken'] at off

theorem Up.sentOn (up : Up fd k total d) : sentOn k d ++ inTransit d = total := by
  obtain ⟨s, sock, -, whole⟩ := up.sock
  simpa [Stack.sentOn, sock] using whole

theorem Down.streamOn (down : Down fd k total d) :
    (usbChunks d.mgr.usb).flatten ++ (rxData d.rx ++ (Net.unread d.mgr.net k).getD []) = total := by
  obtain ⟨rest, known, whole⟩ := down.stream
  simpa [known] using whole

end Device

/-! ## What holds in every state -/

/-- The relay is up on connection `k`, nothing has closed it, and both parsers will be through with
what they have still to read. -/
structure Inv (fd : Fd) (k : SockId) (s : System) : Prop where
  up : ∃ total, Up fd k total s.device
  down : ∃ total, Down fd k total s.device
  going : ∀ pc, s.device.rx ≠ .closing pc
  device : DeviceIdle s.device
  host : HostIdle s.host
  current : s.host.current = true
  opened : ∀ f ∈ Host.pendingFrames s.host, ¬ isClosedPush f
  chunks : ∀ f ∈ s.chunks, f.cmd = Firmware.cmdProxySend ∧ f.payload.length ≤ protoMaxPayload

section Arrive

variable {fd : Fd} {k : SockId} {total : Bytes} {d : Device} {f : ProtoFrame}

theorem inTransit_arrive (idle : DeviceIdle d) (fits : f.payload.length ≤ protoMaxPayload) :
    inTransit (arrive f.request d) = inTransit d ++ relayPayload [f] := by
  have behind := (pendingFrames_arrive idle fits).1
  simp only [inTransit, behind]
  simp [arrive, relayPayload, List.filter_append]

theorem Up.arrive (up : Up fd k total d) (idle : DeviceIdle d)
    (fits : f.payload.length ≤ protoMaxPayload)
    (harmless : f.cmd ≠ Firmware.cmdProxyDisconnect ∧ f.cmd ≠ Firmware.cmdReset) :
    Up fd k (total ++ relayPayload [f]) (arrive f.request d) where
  sFd := up.sFd
  bound := up.bound
  sock := by
    obtain ⟨s, sock, live, whole⟩ := up.sock
    exact ⟨s, sock, live, by rw [inTransit_arrive idle fits, ← List.append_assoc, whole]⟩
  sending := up.sending
  notClosing := up.notClosing
  rx := up.rx
  cmd := up.cmd
  requests g mem := by
    rw [(pendingFrames_arrive idle fits).1] at mem
    rcases List.mem_append.mp mem with before | new
    · exact up.requests g before
    · obtain rfl := List.mem_singleton.mp new
      exact harmless

theorem Down.arrive (down : Down fd k total d) (bytes : Bytes) : Down fd k total (arrive bytes d) :=
  ⟨down.bound, down.stream, down.opened, down.whole, down.rx, down.send, down.cmd⟩

end Arrive

section Deliver

variable {fd : Fd} {k : SockId} {total : Bytes} {d : Device} {bytes : Bytes}

theorem Up.deliver (up : Up fd k total d) : Up fd k total (deliver k bytes d) where
  sFd := up.sFd
  bound := up.bound
  sock := by
    obtain ⟨s, sock, live, whole⟩ := up.sock
    exact ⟨{ s with inbox := s.inbox ++ bytes }, by simp [Stack.deliver, Firmware.Net.update, sock],
      live, whole⟩
  sending := up.sending
  notClosing := up.notClosing
  rx := up.rx
  cmd := up.cmd
  requests := up.requests

theorem unread_deliver {rest : Bytes} (known : Net.unread d.mgr.net k = some rest) :
    Net.unread (deliver k bytes d).mgr.net k = some (rest ++ bytes) := by
  obtain ⟨s, sock, rfl⟩ := Option.map_eq_some_iff.mp known
  simp [Stack.deliver, Net.unread, Firmware.Net.update, sock]

theorem Down.deliver (down : Down fd k total d) : Down fd k (total ++ bytes) (deliver k bytes d) where
  bound := down.bound
  stream := by
    obtain ⟨rest, known, whole⟩ := down.stream
    exact ⟨rest ++ bytes, unread_deliver known, by rw [← List.append_assoc, ← whole]; rfl⟩
  opened := down.opened
  whole := down.whole
  rx := down.rx
  send := down.send
  cmd := down.cmd

end Deliver

/-! ## The two sides -/

theorem readFrames_append {input : List VFrame} {stream rest : Bytes} (more : Bytes)
    (h : readFrames stream input = some rest) :
    readFrames (stream ++ more) input = some (rest ++ more) := by
  induction input generalizing stream with
  | nil =>
    obtain rfl : stream = rest := by simpa [readFrames] using h
    rfl
  | cons f input ih =>
    simp only [readFrames] at h ⊢
    split at h
    case h_2 => cases h
    case h_1 g behind front =>
      rw [takeFrame_append front]
      dsimp only
      split_ifs at h ⊢
      exact ih h

theorem relayPayload_append (fs gs : List ProtoFrame) :
    relayPayload (fs ++ gs) = relayPayload fs ++ relayPayload gs := by
  simp [relayPayload, List.filter_append]

/-- The requests of virtual frames carry their bytes. -/
theorem relayPayload_writeFrames (out : List VFrame) :
    relayPayload (out.flatMap Tunnel.writeFrame) = framesBytes out := by
  have all : (out.flatMap Tunnel.writeFrame).filter (fun f => f.cmd = Firmware.cmdProxySend) =
      out.flatMap Tunnel.writeFrame := by
    refine List.filter_eq_self.mpr fun f mem => ?_
    obtain ⟨g, -, chunk⟩ := List.mem_flatMap.mp mem
    obtain ⟨bytes, -, rfl⟩ := List.mem_map.mp chunk
    exact decide_eq_true rfl
  rw [relayPayload, all, framesBytes, List.flatMap_assoc]
  refine List.flatMap_congr fun f _ => ?_
  simp only [Tunnel.writeFrame, List.flatMap_map, Tunnel.sendRequest]
  exact List.flatMap_id'.trans (Tunnel.splitChunks_flatten _)

theorem mem_writeFrames {out : List VFrame} {f : ProtoFrame}
    (mem : f ∈ out.flatMap Tunnel.writeFrame) :
    f.cmd = Firmware.cmdProxySend ∧ f.payload.length ≤ protoMaxPayload := by
  obtain ⟨g, -, chunk⟩ := List.mem_flatMap.mp mem
  obtain ⟨bytes, piece, rfl⟩ := List.mem_map.mp chunk
  exact ⟨rfl, Tunnel.splitChunks_length piece⟩

section Steps

variable {fd : Fd} {k : SockId} {s s' : System}

theorem client_step {a : Ctrl.Action} (inv : Inv fd k s) (h : step k s (.client a) = some s') :
    Inv fd k s' ∧ Virtual.step (abs k s) (.client a) = some (abs k s') := by
  simp only [step, Option.bind_eq_bind, Option.bind_eq_some_iff] at h
  obtain ⟨buf, read, ⟨client, out⟩, taken, eq⟩ := h
  obtain rfl := Option.some.inj eq
  constructor
  · refine ⟨inv.up, inv.down, inv.going, inv.device, inv.host, inv.current, inv.opened, ?_⟩
    intro f mem
    rcases List.mem_append.mp mem with before | new
    · exact inv.chunks f before
    · exact mem_writeFrames new
  · have down := readFrames_append (s.host.recvCh.flatten ++ ((Host.pendingChunks s.host).flatten ++
      (rxData s.device.rx ++ (Net.unread s.device.mgr.net k).getD []))) read
    simp [Virtual.step, abs, taken, down, relayPayload_append, relayPayload_writeFrames]

theorem server_step {a : Proxy.Action} (inv : Inv fd k s) (h : step k s (.server a) = some s') :
    Inv fd k s' ∧ Virtual.step (abs k s) (.server a) = some (abs k s') := by
  simp only [step, Option.bind_eq_bind, Option.bind_eq_some_iff] at h
  obtain ⟨socket, read, ⟨server, out⟩, taken, eq⟩ := h
  obtain rfl := Option.some.inj eq
  obtain ⟨total, up⟩ := inv.up
  obtain ⟨total', down⟩ := inv.down
  constructor
  · exact ⟨⟨total, Up.deliver up⟩, ⟨_, Down.deliver down⟩, inv.going, inv.device, inv.host,
      inv.current, inv.opened, inv.chunks⟩
  · obtain ⟨rest, known, -⟩ := down.stream
    have ups := readFrames_append (inTransit s.device ++ relayPayload s.chunks) read
    have same : inTransit (deliver k (framesBytes out) s.device) = inTransit s.device := rfl
    have behind : Net.unread (deliver k (framesBytes out) s.device).mgr.net k = _ :=
      unread_deliver known
    have rx : (deliver k (framesBytes out) s.device).rx = s.device.rx := rfl
    simp [Virtual.step, abs, taken, ups, same, behind, known, rx]

/-- The request of a `writeFrame` leaves the host. -/
theorem chunk_step (inv : Inv fd k s) (h : step k s .chunk = some s') :
    Inv fd k s' ∧ abs k s' = abs k s := by
  obtain ⟨total, up⟩ := inv.up
  obtain ⟨total', down⟩ := inv.down
  cases waiting : s.chunks with
  | nil => simp [step, waiting] at h
  | cons f chunks =>
    simp only [step, waiting, Option.some.injEq] at h
    subst h
    obtain ⟨relay, fits⟩ := inv.chunks f (by simp [waiting])
    have harmless : f.cmd ≠ Firmware.cmdProxyDisconnect ∧ f.cmd ≠ Firmware.cmdReset := by
      rw [relay]
      decide
    constructor
    · exact ⟨⟨_, Up.arrive up inv.device fits harmless⟩, ⟨_, Down.arrive down _⟩, inv.going,
        (pendingFrames_arrive inv.device fits).2, inv.host, inv.current, inv.opened,
        fun g mem => inv.chunks g (by simp [waiting, mem])⟩
    · have parts : relayPayload (f :: chunks) = relayPayload [f] ++ relayPayload chunks :=
        relayPayload_append [f] chunks
      simp only [abs, inTransit_arrive inv.device fits, waiting, parts, List.append_assoc]
      rfl

/-- A request of another call shares the serial link. -/
theorem request_step {f : ProtoFrame} (inv : Inv fd k s) (bystander : Bystander f)
    (h : step k s (.request f) = some s') : Inv fd k s' ∧ abs k s' = abs k s := by
  obtain ⟨total, up⟩ := inv.up
  obtain ⟨total', down⟩ := inv.down
  obtain ⟨other, noDisconnect, noReset, fits⟩ := bystander
  obtain rfl := Option.some.inj h
  constructor
  · exact ⟨⟨_, Up.arrive up inv.device fits ⟨noDisconnect, noReset⟩⟩, ⟨_, Down.arrive down _⟩,
      inv.going, (pendingFrames_arrive inv.device fits).2, inv.host, inv.current, inv.opened,
      inv.chunks⟩
  · have nothing : relayPayload [f] = [] := by simp [relayPayload, other]
    simp only [abs, inTransit_arrive inv.device fits, nothing, List.append_nil]
    rfl

/-- What the device takes on one side it gives on the other. -/
theorem device_step {a : Firmware.Action} (inv : Inv fd k s) (calm : Undisturbed a)
    (h : step k s (.device a) = some s') : Inv fd k s' ∧ abs k s' = abs k s := by
  obtain ⟨total, up⟩ := inv.up
  obtain ⟨total', down⟩ := inv.down
  simp only [step, Option.bind_eq_bind, Option.bind_eq_some_iff] at h
  obtain ⟨device, taken, eq⟩ := h
  obtain rfl := Option.some.inj eq
  have moved : Moves ⟨s.device, .empty⟩ (.task a) ⟨device, Firmware.Ledger.empty.record s.device a⟩ :=
    step_moves (by simp [Traced.step, taken])
  obtain ⟨clean, receives, going⟩ := clean_of_undisturbed up inv.going calm taken
  have up' := up.step clean taken
  have down' := down.step receives taken
  obtain ⟨piece, sent⟩ := sentOn_grows moved k
  obtain ⟨out, pushed⟩ := usb_grows moved
  have usb : device.mgr.usb = s.device.mgr.usb ++ out := pushed.symm
  have new : device.mgr.usb.drop s.device.mgr.usb.length = out := by rw [usb, List.drop_left]
  have piece' : (sentOn k device).drop (sentOn k s.device).length = piece := by
    rw [show sentOn k device = sentOn k s.device ++ piece from sent.symm, List.drop_left]
  have whole : ∀ o ∈ out, Whole o := fun o mem => down'.whole o (by simp [usb, mem])
  have unclosed : ¬ ClosedOn device.mgr.usb := down'.opened (by simp [up'.sFd])
  obtain ⟨behind, idle⟩ := pendingFrames_onUsb inv.host whole
  rw [new, piece']
  constructor
  · refine ⟨⟨_, up'⟩, ⟨_, down'⟩, going, deviceIdle_step inv.device taken, idle, inv.current,
      ?_, inv.chunks⟩
    rw [behind]
    intro f mem
    rcases List.mem_append.mp mem with before | new
    · exact inv.opened f before
    · refine fun closed => unclosed ⟨f, ?_, closed⟩
      rw [usb, hostFrames, List.map_append]
      exact List.mem_append_right _ new
  · have ups : piece ++ inTransit device = inTransit s.device := by
      have before := Up.sentOn up
      rw [← Up.sentOn up', ← sent, List.append_assoc] at before
      exact (List.append_cancel_left before).symm
    have downs : (relayChunks (hostFrames out)).flatten ++
        (rxData device.rx ++ (Net.unread device.mgr.net k).getD []) =
        rxData s.device.rx ++ (Net.unread s.device.mgr.net k).getD [] := by
      have before := Down.streamOn down
      rw [← Down.streamOn down', usb, usbChunks_append (down.opened (by simp [up.sFd])),
        List.flatten_append, List.append_assoc] at before
      exact (List.append_cancel_left before).symm
    have chunks := pendingChunks_onUsb inv.host whole inv.current inv.opened
    have recvCh : (onUsb out s.host).recvCh = s.host.recvCh := rfl
    simp only [abs, chunks, recvCh, List.flatten_append, List.append_assoc, downs]
    rw [← List.append_assoc piece, ups]

/-- A callback that is no closed push leaves the connection current. -/
theorem dispatchPush_current {h : RelayConn} {f : Frame} (current : h.current = true)
    (opened : f.cmd ≠ Host.cmdProxyClosedPush) :
    (Host.dispatchPush h f).current = true ∧ (Host.dispatchPush h f).taken = h.taken := by
  unfold Host.dispatchPush
  split_ifs <;> simp [current]

/-- What stays of the connection, and what `Read` returns. -/
theorem host_keeps {h h' : RelayConn} {a : Host.Action} (idle : HostIdle h)
    (current : h.current = true) (opened : ∀ f ∈ Host.pendingFrames h, ¬ isClosedPush f)
    (taken : Host.step h a = some h') :
    HostIdle h' ∧ h'.current = true ∧ (∀ f ∈ Host.pendingFrames h', ¬ isClosedPush f) ∧
      h.taken <+: h'.taken := by
  obtain ⟨idle', frames⟩ := host_reads idle taken
  have opened' : ∀ f ∈ Host.pendingFrames h', ¬ isClosedPush f := by
    intro f mem
    rcases frames with ⟨same, -⟩ | ⟨-, g, -, first⟩
    · exact opened f (same ▸ mem)
    · exact opened f (first ▸ List.mem_cons_of_mem _ mem)
  suffices keeps : h'.current = true ∧ h.taken <+: h'.taken from
    ⟨idle', keeps.1, opened', keeps.2⟩
  cases a with
  | read n =>
    simp only [Host.step] at taken
    split_ifs at taken
    obtain rfl := Option.some.inj taken
    exact ⟨current, List.prefix_rfl⟩
  | callback =>
    cases calls : h.calls with
    | nil => simp [Host.step, calls] at taken
    | cons f rest =>
      simp only [Host.step, calls, Option.some.injEq] at taken
      subst taken
      split_ifs with resp
      · exact ⟨current, List.prefix_rfl⟩
      · have push : f.cmd ≠ Host.cmdProxyClosedPush := fun closes =>
          opened f (by simp [Host.pendingFrames, calls]) ⟨by simpa using resp, closes⟩
        obtain ⟨still, same⟩ := dispatchPush_current (h := { h with calls := rest }) current push
        exact ⟨still, by rw [same]⟩
  | take =>
    cases queue : h.recvCh with
    | nil => simp [Host.step, queue] at taken
    | cons data recvCh =>
      simp only [Host.step, queue, Option.some.injEq] at taken
      subst taken
      exact ⟨current, List.prefix_append _ _⟩

/-- The host passes on what it has received. -/
theorem host_step {a : Host.Action} (inv : Inv fd k s) (room : NoOverflow s.host a)
    (h : step k s (.host a) = some s') : Inv fd k s' ∧ abs k s' = abs k s := by
  simp only [step, Option.bind_eq_bind, Option.bind_eq_some_iff] at h
  obtain ⟨host, taken, eq⟩ := h
  obtain rfl := Option.some.inj eq
  obtain ⟨idle, current, opened, new, grows⟩ :=
    host_keeps inv.host inv.current inv.opened taken
  constructor
  · exact ⟨inv.up, inv.down, inv.going, inv.device, idle, current, opened, inv.chunks⟩
  · have chunks : new ++ (host.recvCh ++ Host.pendingChunks host) =
        s.host.recvCh ++ Host.pendingChunks s.host := by
      have all := Host.step_chunks room taken
      rw [← grows, List.append_assoc, List.append_assoc, List.append_assoc] at all
      exact List.append_cancel_left all
    have bytes := congrArg List.flatten chunks
    simp only [List.flatten_append] at bytes
    have returned : host.taken.drop s.host.taken.length = new := by rw [← grows, List.drop_left]
    simp only [abs, returned, List.append_assoc]
    rw [← List.append_assoc host.recvCh.flatten, ← List.append_assoc new.flatten, bytes,
      List.append_assoc]

/-- Every step of the stack is a step of one side or of none. -/
theorem Inv.step {a : Action} (inv : Inv fd k s) (lossless : Lossless s a)
    (h : step k s a = some s') : Inv fd k s' ∧
      Schedule.Obeys Virtual.step Virtual.Promised (abs k s) (answer a) ∧
      Schedule.exec Virtual.step (abs k s) (answer a) = some (abs k s') := by
  have stutters : answer a = [] → Inv fd k s' ∧ abs k s' = abs k s → Inv fd k s' ∧
      Schedule.Obeys Virtual.step Virtual.Promised (abs k s) (answer a) ∧
      Schedule.exec Virtual.step (abs k s) (answer a) = some (abs k s') := by
    rintro silent ⟨after, same⟩
    rw [silent, same]
    exact ⟨after, trivial, rfl⟩
  cases a with
  | client a =>
    obtain ⟨after, moved⟩ := client_step inv h
    exact ⟨after, ⟨lossless, fun _ _ => trivial⟩, Schedule.exec_cons.mpr ⟨_, moved, rfl⟩⟩
  | server a =>
    obtain ⟨after, moved⟩ := server_step inv h
    exact ⟨after, ⟨trivial, fun _ _ => trivial⟩, Schedule.exec_cons.mpr ⟨_, moved, rfl⟩⟩
  | chunk => exact stutters rfl (chunk_step inv h)
  | request f => exact stutters rfl (request_step inv lossless h)
  | device a => exact stutters rfl (device_step inv lossless h)
  | host a => exact stutters rfl (host_step inv lossless h)

end Steps

/-! ## Whole runs -/

/-- The device has just connected to the server, and nothing has been sent. -/
structure Start (fd : Fd) (k : SockId) (s : System) : Prop where
  client : s.client = Ctrl.newClient
  server : s.server = Proxy.newServer
  chunks : s.chunks = []
  socket : s.socket = []
  buf : s.buf = []
  device : Tunnel.Start fd k [] s.device
  unread : Net.unread s.device.mgr.net k = some []
  usb : s.device.mgr.usb = []
  host : Host.Attached s.host
  wire : s.host.wire = []

section Start

variable {fd : Fd} {k : SockId} {s : System}

theorem Start.pending (start : Start fd k s) : Host.pendingFrames s.host = [] := by
  rw [start.host.pending, start.wire, scan_eq_nil rfl]
  rfl

theorem Start.inv (start : Start fd k s) : Inv fd k s where
  up := ⟨_, start.device.up (show Tunnel.Carries [] [] from ⟨rfl, by simp⟩)⟩
  down := ⟨_, Tunnel.Listening.down ⟨start.device.sFd, start.device.bound, start.unread, start.usb,
    start.device.rx, by simp [start.device.send], start.device.cmd⟩⟩
  going := by simp [start.device.rx]
  device := by
    have fed := start.device.serial
    simp only [List.map_nil, List.flatten_nil] at fed
    rw [DeviceIdle, fed]
    exact start.device.parser
  host := by
    rw [HostIdle, start.wire]
    exact start.host.parser
  current := start.host.current
  opened := by simp [start.pending]
  chunks := by simp [start.chunks]

theorem Start.abs (start : Start fd k s) : abs k s = Virtual.System.new := by
  have pending : Tunnel.pendingFrames s.device = [] := start.device.pending (by simp)
  simp [Stack.abs, Virtual.System.new, start.client, start.server, start.socket, start.buf,
    start.chunks, inTransit, pending, start.device.send, start.device.queue, start.device.cmd,
    start.host.recvCh, Host.pendingChunks, start.pending, start.device.rx, start.unread,
    Tunnel.sendPayload, relayPayload, relayChunks, rxData]

end Start

/-- The stack refines two sides over a relay that carries bytes. -/
theorem refines (fd : Fd) (k : SockId) :
    Schedule.Refines (step k) Lossless Virtual.step Virtual.Promised (fun a vs => vs = answer a)
      fun s v => Inv fd k s ∧ v = abs k s where
  answers := by
    rintro s _ a s' ⟨inv, rfl⟩ lossless taken
    obtain ⟨after, obeys, moved⟩ := inv.step lossless taken
    exact ⟨_, abs k s', rfl, obeys, moved, after, rfl⟩

/-- A run from any state on is answered by what the two sides do in it. -/
theorem Inv.run {fd : Fd} {k : SockId} {s s' : System} {as : List Action} (inv : Inv fd k s)
    (lossless : Schedule.Obeys (Stack.step k) Lossless s as)
    (run : Schedule.exec (Stack.step k) s as = some s') :
    Schedule.Obeys Virtual.step Virtual.Promised (abs k s) (as.flatMap answer) ∧
      Schedule.exec Virtual.step (abs k s) (as.flatMap answer) = some (abs k s') := by
  obtain ⟨vss, v, answers, obeys, moved, -, rfl⟩ := (refines fd k).run ⟨inv, rfl⟩ lossless run
  rw [Schedule.flatten_of_answers answers] at obeys moved
  exact ⟨obeys, moved⟩

/-- **Every run of the stack that loses nothing is a run of client and server over a faithful
relay.** What the two sides do is the same, in the same order, and what is between them is what
the layers of the stack hold. -/
theorem stack_is_relay {fd : Fd} {k : SockId} {s₀ s : System} {as : List Action}
    (start : Start fd k s₀) (lossless : Schedule.Obeys (step k) Lossless s₀ as)
    (run : Schedule.exec (step k) s₀ as = some s) :
    Schedule.Obeys Virtual.step Virtual.Promised Virtual.System.new (as.flatMap answer) ∧
      Schedule.exec Virtual.step Virtual.System.new (as.flatMap answer) = some (abs k s) := by
  rw [← start.abs]
  exact start.inv.run lossless run

/-- The relay is up on descriptor 3, and nobody has said anything. -/
def fresh : System where
  client := Ctrl.newClient
  chunks := []
  device := Tunnel.relayUp []
  socket := []
  server := Proxy.newServer
  host := ⟨[], newParser, [], true, [], false, []⟩
  buf := []

theorem fresh_start : Start 3 0 fresh where
  client := rfl
  server := rfl
  chunks := rfl
  socket := rfl
  buf := rfl
  device := ⟨rfl, rfl, ⟨_, rfl, rfl, rfl⟩, rfl, rfl, rfl, rfl, rfl, rfl, rfl⟩
  unread := rfl
  usb := rfl
  host := ⟨⟨rfl, rfl⟩, rfl, rfl, rfl, rfl⟩
  wire := rfl

/-- A connect frame goes through every layer of the device and lies before the server. -/
def connectRun : List Action :=
  [.client (.call 0), .client .loop, .chunk, .device (.cmd (.receive 19))] ++
    List.replicate 23 (.device (.cmd .go)) ++
    [.device (.send .go), .device (.send .go), .device (.send (.accept 11)), .server .run]

theorem connectRun_arrives :
    (Schedule.exec (step 0) fresh (.client (.connect [104] 80) :: connectRun)).map System.socket =
      some (frameBytes ⟨Ctrl.cmdConnect, 0, Ctrl.connectPayload [104] 80⟩) := by
  decide +kernel

theorem connectRun_lossless :
    Schedule.Obeys (step 0) Lossless fresh (.client (.connect [104] 80) :: connectRun) := by
  refine ⟨⟨?_, by simp [Ctrl.Client.Sized]⟩, fun _ _ => ?_⟩
  · simp [fresh, Ctrl.newClient, Ctrl.Client.Counts]
  · refine Schedule.obeys_of_forall fun s a mem => ?_
    revert a
    simp [connectRun, Lossless, Ctrl.Client.Counts, Ctrl.Client.Sized, Undisturbed]

theorem stack_is_relay_connect : ∃ s,
    Schedule.exec (step 0) fresh (.client (.connect [104] 80) :: connectRun) = some s ∧
    s.socket = frameBytes ⟨Ctrl.cmdConnect, 0, Ctrl.connectPayload [104] 80⟩ ∧
    Schedule.exec Virtual.step Virtual.System.new
      [.client (.connect [104] 80), .client (.call 0), .client .loop, .server .run] =
        some (abs 0 s) := by
  obtain ⟨s, run, socket⟩ := Option.map_eq_some_iff.mp connectRun_arrives
  exact ⟨s, run, socket, (stack_is_relay fresh_start connectRun_lossless run).2⟩

end EspNetwork.Stack
