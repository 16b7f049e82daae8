import EspNetwork.Firmware.Ledger
import EspNetwork.Tunnel.Downlink
import EspNetwork.Tunnel.Uplink

/-!
# Behind what a parser has still to read

Both ends of the serial link read from a stream that the other end keeps writing to. Their parsers
stand between frames whenever they have read everything, so a frame that is written behind the
others is read behind the others, whatever has been read so far.
-/

namespace EspNetwork.Stack

open Serial
open Firmware (Device)
open Host (RelayConn)
open Tunnel (usbBytes hostFrames Whole)

/-! ## Host to device -/

/-- `CMD_STREAM_SIZE`. -/
def cmdStreamSize : ℕ := 8192

/-- Bytes that were written to the serial port, as `usb_cdc_rx_callback` passes them on while
`s_cmd_stream` has room for them. -/
def arrive (bytes : Bytes) (d : Device) : Device := { d with serial := d.serial ++ bytes }

/-- The device's parser will stand between frames. -/
def DeviceIdle (d : Device) : Prop :=
  (deviceParser.feed d.parser (d.chunk ++ d.serial)).1.state = .magic0

/-- A request that arrives is seen behind everything else. -/
theorem pendingFrames_arrive {d : Device} {f : ProtoFrame} (idle : DeviceIdle d)
    (fits : f.payload.length ≤ protoMaxPayload) :
    Tunnel.pendingFrames (arrive f.request d) = Tunnel.pendingFrames d ++ [f] ∧
      DeviceIdle (arrive f.request d) := by
  have bytes : f.request = encodeFrame f := buildRequest_eq_encodeFrame f.seq f.cmd fits
  have tracked : (deviceParser.feed d.parser (d.chunk ++ d.serial)).1.machine.Tracks [] :=
    .magic0 idle
  have consumed := assembler_feed_encodeFrame fits
  obtain ⟨between, frames⟩ := deviceParser_feed tracked .none (encodeFrame f)
  rw [← (assembler_feed .none _).2, consumed] at frames
  rw [consumed] at between
  constructor
  · simp only [Tunnel.pendingFrames, arrive, ← List.append_assoc, Transducer.feed_append, bytes]
    rw [Transducer.feed_append] at frames
    simp [frames]
  · simp only [DeviceIdle, arrive, ← List.append_assoc, bytes, Transducer.feed_append]
    rw [Transducer.feed_append] at between
    exact between.state_of_nil

/-- What the parser is still to be fed with does not change where it ends. -/
theorem deviceIdle_step {d d' : Device} {a : Firmware.Action} (idle : DeviceIdle d)
    (taken : Firmware.step d a = some d') : DeviceIdle d' := by
  cases a with
  | send c | rx c =>
    obtain ⟨_, -, rfl⟩ := Option.map_eq_some_iff.mp taken
    exact idle
  | cmd c =>
    replace taken : Firmware.cmdTask d c = some d' := taken
    by_cases handler : d.cmd = .idle
    · simp only [Firmware.cmdTask, handler] at taken
      split at taken
      case h_1 =>
        obtain rfl := Option.some.inj taken
        exact idle
      case h_2 b chunk calls fed =>
        obtain rfl := Option.some.inj taken
        rwa [DeviceIdle, fed, List.cons_append, Transducer.feed_cons] at idle
      case h_3 n calls empty =>
        split_ifs at taken
        obtain rfl := Option.some.inj taken
        rw [DeviceIdle, empty, List.nil_append] at idle
        rwa [DeviceIdle, List.take_append_drop]
      case h_4 => cases taken
    by_cases restarts : d.cmd = .restart
    · simp only [Firmware.cmdTask, restarts, Option.some.injEq] at taken
      subst taken
      rfl
    · rw [Firmware.cmdTask_eq_handlerStep handler restarts] at taken
      obtain ⟨_, -, rfl⟩ := Option.map_eq_some_iff.mp taken
      exact idle

/-! ## Device to host -/

/-- What the device writes to USB. -/
def onUsb (out : List DeviceFrame) (h : RelayConn) : RelayConn :=
  { h with wire := h.wire ++ usbBytes out }

/-- The host's parser will stand between frames. -/
def HostIdle (h : RelayConn) : Prop :=
  (h.parser.feed h.wire).1.onFrame = true ∧ (h.parser.feed h.wire).1.state = .magic0

theorem pendingFrames_onUsb {h : RelayConn} {out : List DeviceFrame} (idle : HostIdle h)
    (whole : ∀ o ∈ out, Whole o) :
    Host.pendingFrames (onUsb out h) = Host.pendingFrames h ++ hostFrames out ∧
      HostIdle (onUsb out h) := by
  have tracked : (hostParser.feed h.parser h.wire).1.Tracks [] :=
    ⟨idle.1, .magic0 idle.2, by
      have between : (hostParser.feed h.parser h.wire).1.state = .magic0 := idle.2
      simp [between]⟩
  have consumed : assembler.feed [] (usbBytes out) = ([], out.map DeviceFrame.wireFrame) := by
    have built : out.map DeviceFrame.build = (out.map DeviceFrame.wireFrame).map encodeFrame := by
      rw [List.map_map]
      exact List.map_congr_left fun o ho => (whole o ho).2
    rw [usbBytes, built]
    refine assembler_feed_encodeFrames fun f hf => ?_
    obtain ⟨o, ho, rfl⟩ := List.mem_map.mp hf
    exact (whole o ho).1
  obtain ⟨between, frames⟩ := hostParser_feed tracked .none (usbBytes out)
  rw [← (assembler_feed .none _).2, consumed] at frames
  rw [consumed] at between
  constructor
  · simp only [Host.pendingFrames, onUsb, Parser.feed, Transducer.feed_append, frames, hostFrames,
      List.map_map, List.append_assoc]
    rfl
  · simp only [HostIdle, onUsb, Parser.feed, Transducer.feed_append]
    exact ⟨between.on, between.fields.state_of_nil⟩

theorem dispatchPush_reader (h : RelayConn) (f : Frame) :
    (Host.dispatchPush h f).wire = h.wire ∧ (Host.dispatchPush h f).parser = h.parser ∧
      (Host.dispatchPush h f).calls = h.calls := by
  unfold Host.dispatchPush
  split_ifs <;> exact ⟨rfl, rfl, rfl⟩

/-- Only a callback takes a frame, the next one. -/
theorem host_reads {h h' : RelayConn} {a : Host.Action} (idle : HostIdle h)
    (taken : Host.step h a = some h') :
    HostIdle h' ∧ (Host.pendingFrames h' = Host.pendingFrames h ∧ a ≠ .callback ∨
      a = .callback ∧ ∃ f, h.calls = f :: h'.calls ∧
        Host.pendingFrames h = f :: Host.pendingFrames h') := by
  cases a with
  | read n =>
    simp only [Host.step] at taken
    split_ifs at taken with ok
    obtain rfl := Option.some.inj taken
    have whole : (h.parser.feed h.wire) = (h.parser.feed (h.wire.take n ++ h.wire.drop n)) := by
      rw [List.take_append_drop]
    simp only [Parser.feed, Transducer.feed_append] at whole
    refine ⟨?_, .inl ⟨?_, by simp⟩⟩
    · simpa only [HostIdle, Parser.feed, whole] using idle
    · simp only [Host.pendingFrames, ok.1, List.nil_append, Parser.feed, whole]
  | callback =>
    cases calls : h.calls with
    | nil => simp [Host.step, calls] at taken
    | cons f rest =>
      simp only [Host.step, calls, Option.some.injEq] at taken
      subst taken
      obtain ⟨wire, parser, same⟩ := dispatchPush_reader { h with calls := rest } f
      split_ifs with resp
      · exact ⟨idle, .inr ⟨rfl, f, rfl, by simp [Host.pendingFrames, calls]⟩⟩
      · refine ⟨?_, .inr ⟨rfl, f, by rw [same], ?_⟩⟩
        · simpa only [HostIdle, wire, parser] using idle
        · simp [Host.pendingFrames, calls, wire, parser, same]
  | take =>
    cases queue : h.recvCh with
    | nil => simp [Host.step, queue] at taken
    | cons data recvCh =>
      simp only [Host.step, queue, Option.some.injEq] at taken
      subst taken
      exact ⟨idle, .inl ⟨rfl, by simp⟩⟩

end EspNetwork.Stack
