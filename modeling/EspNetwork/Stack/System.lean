import EspNetwork.Stack.Boundary
import EspNetwork.Virtual.System

/-!
# The whole stack

Client, serial link, device, relay socket and server put together from their own models. A virtual
frame is cut into requests, which share the serial link with those of other calls of `Send`; the
device queues their payloads and sends them on its socket, and wraps what it receives in pushes,
which share USB with its responses. Everything between the two sides is one stream of bytes in each
direction.
-/

namespace EspNetwork.Stack

open Serial Relay
open Firmware (Device Fd SockId)
open Host (RelayConn NoOverflow)
open Tunnel (Bystander Up Down Clean Receives inTransit relayPayload rxData Net.unread usbBytes
  hostFrames Whole isClosedPush)
open Virtual (readFrames framesBytes)

/-- The parties and what is on its way between them. -/
structure System where
  client : Ctrl.Client
  /-- The requests that calls of `writeFrame` have still to write. -/
  chunks : List ProtoFrame
  device : Device
  /-- What the device has sent to the server and the server has not read. There is no bound on it,
  nor on what the server has sent and the device has not received. -/
  socket : Bytes
  server : Proxy.Server
  host : RelayConn
  /-- What `TCPConn.Read` has returned and `readLoop` has not taken as a frame. -/
  buf : Bytes

inductive Action where
  | client (a : Ctrl.Action)
  | server (a : Proxy.Action)
  /-- The next request of a `writeFrame` is written to the serial port. -/
  | chunk
  /-- Another call of `Send` writes its request. -/
  | request (f : ProtoFrame)
  | device (a : Firmware.Action)
  | host (a : Host.Action)

/-- Bytes from the peer of a connection. -/
def deliver (k : SockId) (bytes : Bytes) (d : Device) : Device :=
  { d with mgr := { d.mgr with net := d.mgr.net.update k fun s => { s with inbox := s.inbox ++ bytes } } }

def sentOn (k : SockId) (d : Device) : Bytes := ((d.mgr.net.socks[k]?).map Firmware.Sock.sent).getD []

/-- The server is the peer of connection `k`. -/
def step (k : SockId) (s : System) : Action → Option System
  | .client a => do
    let buf ← readFrames s.buf a.input
    let (client, out) ← s.client.step a
    return { s with client, buf, chunks := s.chunks ++ out.flatMap Tunnel.writeFrame }
  | .server a => do
    let socket ← readFrames s.socket a.input
    let (server, out) ← s.server.step a
    return { s with server, socket, device := deliver k (framesBytes out) s.device }
  | .chunk =>
    match s.chunks with
    | [] => none
    | f :: chunks => some { s with chunks, device := arrive f.request s.device }
  | .request f => some { s with device := arrive f.request s.device }
  | .device a => do
    let device ← Firmware.step s.device a
    return { s with
      device
      socket := s.socket ++ (sentOn k device).drop (sentOn k s.device).length
      host := onUsb (device.mgr.usb.drop s.device.mgr.usb.length) s.host }
  | .host a => do
    let host ← Host.step s.host a
    return { s with host, buf := s.buf ++ (host.taken.drop s.host.taken.length).flatten }

/-- Nothing fails inside the device, and neither side ends the connection. -/
def Undisturbed : Firmware.Action → Prop
  | .cmd .oom | .cmd .queueFull | .send .error | .rx .oom | .rx .error | .rx .eof => False
  | _ => True

/-- A step that loses nothing: the users of the client keep their promises, other requests leave
the relay alone, no channel overflows and the device works undisturbed. -/
def Lossless (s : System) : Action → Prop
  | .client a => Ctrl.Client.Counts s.client a ∧ Ctrl.Client.Sized a
  | .request f => Bystander f
  | .device a => Undisturbed a
  | .host a => NoOverflow s.host a
  | .server _ | .chunk => True

/-- `s_cmd_stream` has room for the request behind everything that `cmd_task` has not taken, so
`usb_cdc_rx_callback` drops nothing of it. -/
def Room (s : System) : Action → Prop
  | .chunk => ∀ f ∈ s.chunks.head?, s.device.serial.length + f.request.length ≤ cmdStreamSize
  | .request f => s.device.serial.length + f.request.length ≤ cmdStreamSize
  | .client _ | .server _ | .device _ | .host _ => True

/-- The stack as two sides and the bytes between them. -/
def abs (k : SockId) (s : System) : Virtual.System where
  client := s.client
  server := s.server
  up := s.socket ++ inTransit s.device ++ relayPayload s.chunks
  down := s.buf ++ s.host.recvCh.flatten ++ (Host.pendingChunks s.host).flatten ++
    rxData s.device.rx ++ (Net.unread s.device.mgr.net k).getD []

/-- What the two sides see of a step. -/
def answer : Action → List Virtual.Action
  | .client a => [.client a]
  | .server a => [.server a]
  | _ => []

end EspNetwork.Stack
