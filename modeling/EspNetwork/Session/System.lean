import EspNetwork.Host.Matching
import EspNetwork.Stack.Boundary

/-!
# Requests and responses over the serial link

Calls of `Device.Send`, the serial reader of the host and the device, put together from their own
models with the bytes between them. The writes of the relay share the serial port with the requests,
and its pushes share USB with the responses. Nothing on the way carries the number of a call.

No bytes are lost on the serial link: the device's stream buffer has room for what arrives, and no
flush fails, so every frame reaches USB whole. The device is reset by `CMD_RESET` only, behind its
answer.
-/

namespace EspNetwork.Session

open Serial
open Host (RelayConn Request Response SendAction SendResult SendPc SendCall ReaderPc)
open Stack (arrive onUsb)

/-- The queues of `host` stay empty: requests and responses are bytes here. `reader` is the other half
of the serial reader, which feeds the parser and serves the relay connection. -/
structure System where
  host : Host.Device
  reader : RelayConn
  device : Firmware.Device

inductive Action where
  | host (a : SendAction)
  /-- `TCPConn.Write` writes one of its chunks. -/
  | relay (chunk : Bytes)
  | device (a : Firmware.Action)
  | read (n : Nat)
  | callback
  | take

/-- Steps of the host itself. The remaining ones stand for the device and for the frames it sends. -/
def own : SendAction → Bool
  | .answer .. | .skip | .lookup => false
  | _ => true

/-- What a call writes. -/
def frame (q : Request) : ProtoFrame := ⟨q.seq, q.cmd, q.payload⟩

def step (s : System) : Action → Option System
  | .host a =>
    if own a then
      (Host.Device.step s.host a).map fun host =>
        { s with
          host := { host with requests := [] }
          device := arrive (host.requests.flatMap fun q => (frame q).request) s.device }
    else none
  | .relay chunk => some { s with device := arrive (Tunnel.sendRequest chunk).request s.device }
  | .device a =>
    (Firmware.step s.device a).map fun device =>
      { s with device, reader := onUsb (device.mgr.usb.drop s.device.mgr.usb.length) s.reader }
  | .read n =>
    if s.host.reader = .idle then
      (Host.step s.reader (.read n)).map fun reader => { s with reader }
    else none
  | .callback =>
    match s.reader.calls with
    | [] => none
    | f :: _ => do
      let reader ← Host.step s.reader .callback
      if f.isResp then
        let host ← Host.Device.lookup { s.host with responses := [⟨0, f⟩] }
        return { s with host := { host with responses := [] }, reader }
      else if s.host.reader = .idle then return { s with reader }
      else none
  | .take => (Host.step s.reader .take).map fun reader => { s with reader }

/-- What the callers write: plain commands, of which only the relay's is not answered, within the
limit of the protocol. -/
def Sound : Action → Prop
  | .host (.send cmd payload) =>
    cmd < 0x80 ∧ cmd ≠ Firmware.cmdProxySend ∧ payload.length ≤ protoMaxPayload
  | .relay chunk => chunk.length ≤ protoMaxPayload
  | _ => True

/-- What the calls of `Send` see of a step: their own steps, a response that is looked up, and the
device, which takes requests in order and answers them or loses them. -/
inductive Seen : Action → List SendAction → Prop where
  | host (a : SendAction) : Seen (.host a) [a]
  | lookup : Seen .callback [.lookup]
  | answer (a : Firmware.Action) (status : Byte) (payload : Bytes) :
    Seen (.device a) [.answer status payload]
  | lost (a : Firmware.Action) (n : Nat) : Seen (.device a) (List.replicate n .skip)
  | nothing (a : Action) : (∀ b, a ≠ .host b) → Seen a []

/-! ## Without the numbers of the calls -/

def Response.unnamed (r : Response) : Response := { r with call := 0 }

def SendResult.unnamed : SendResult → SendResult
  | .response r => .response (Response.unnamed r)
  | result => result

def SendPc.unnamed : SendPc → SendPc
  | .deferred result => .deferred (SendResult.unnamed result)
  | .returned result => .returned (SendResult.unnamed result)
  | pc => pc

def SendCall.unnamed (c : SendCall) : SendCall :=
  { c with pc := SendPc.unnamed c.pc, ch := c.ch.map Response.unnamed }

def ReaderPc.unnamed : ReaderPc → ReaderPc
  | .deliver j r => .deliver j (Response.unnamed r)
  | pc => pc

/-- The host without what is in transit, and without the record of where a response belongs. -/
def hostPart (t : Host.Device) : Host.Device :=
  { t with
    calls := t.calls.map SendCall.unnamed
    reader := ReaderPc.unnamed t.reader
    requests := []
    responses := [] }

end EspNetwork.Session
