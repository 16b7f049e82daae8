import EspNetwork.Ctrl.Client
import EspNetwork.Tunnel.Uplink

/-!
# Writes of any size

`ProxyConn.Write` puts its whole argument into one virtual frame, whose length field has 16
bits. Up to 65535 bytes the server reads that frame back. Of a longer write it reads the low 16
bits' worth, and takes what follows for the headers of further frames.
-/

namespace EspNetwork.Tunnel

open Serial Relay Firmware
open Ctrl (Client cmdData)

/-! ## A write on an open connection -/

/-- `ConnectRemote` returned the connection, and neither it nor the relay was shut down. -/
structure OpenSlot (c : Client) (j : ℕ) (s : Ctrl.Slot) : Prop where
  slot : c.slots[j]? = some s
  call : s.call = .ok
  up : c.connCtxDone s = false

/-- The frames that `Write(p)` on the `j`-th connection makes. -/
def connWrite (c : Client) (j : ℕ) (p : Bytes) : Option (List VFrame) := do
  let (called, out) ← c.step (.write j p)
  let (checked, out') ← called.step (.task c.tasks.length)
  let (_, out'') ← checked.step (.task c.tasks.length)
  return out ++ out' ++ out''

/-- The bytes that reach the server. -/
def relayBytes (fs : List VFrame) : Bytes := relayPayload (fs.flatMap writeFrame)

/-- The server reads the bytes as data of the connection, all of it and nothing else, and stops
at the end of a frame. -/
structure Honoured (id : UInt32) (p : Bytes) (segs : List Bytes) : Prop where
  frames : ∀ f ∈ serverRun segs, f.cmd = cmdData ∧ f.connID = id
  payload : ((serverRun segs).map VFrame.data).flatten = p
  boundary : tcpReader.content (readLoopEnd tcpReader segs) = []

/-- The write arrives, in whatever segments the server's connection delivers it. -/
def WriteHonoured (c : Client) (j : ℕ) (s : Ctrl.Slot) (p : Bytes) : Prop :=
  ∃ out, connWrite c j p = some out ∧
    ∀ segs : List Bytes, segs.flatten = relayBytes out → Honoured s.conn.id p segs

variable {c : Client} {j : ℕ} {s : Ctrl.Slot} {id : UInt32} {p : Bytes} {segs : List Bytes}

/-- The write is one frame. -/
theorem OpenSlot.connWrite (h : OpenSlot c j s) (p : Bytes) :
    connWrite c j p = some [⟨cmdData, s.conn.id, p⟩] := by
  obtain ⟨slot, call, up⟩ := h
  have usable : c.usable j = true := by simp [Client.usable, slot, call]
  have up' : Client.connCtxDone { c with tasks := c.tasks ++ [.writeCheck j p] } s = false := up
  simp [Tunnel.connWrite, Client.step, Client.taskStep, Client.setTask, usable, slot, up']

theorem relayBytes_singleton (f : VFrame) : relayBytes [f] = frameBytes f := by
  have carried : Carries ([f].flatMap writeFrame) [f] := by
    have relay : ∀ g ∈ [f].flatMap writeFrame, g.cmd = cmdProxySend := by
      simp [writeFrame, sendRequest]
    exact ⟨List.filter_eq_self.mpr (by simpa using relay), fun g hg other => absurd (relay g hg) other⟩
  rw [relayBytes, carried.payload, PrefixCode.encodeAll_cons, PrefixCode.encodeAll_nil,
    List.append_nil]
  rfl

/-! ## What the server reads -/

theorem content_serverEnd (segs : List Bytes) :
    tcpReader.content (readLoopEnd tcpReader segs) = virtualFrames.rest segs.flatten :=
  content_readLoopEnd tcpReader segs

theorem honoured_of_le (short : p.length ≤ 65535)
    (wire : segs.flatten = frameBytes ⟨cmdData, id, p⟩) : Honoured id p segs := by
  have taken : takeFrame segs.flatten = some (⟨cmdData, id, p⟩, []) := by
    rw [wire, ← List.append_nil (frameBytes _)]
    exact takeFrame_frameBytes short []
  have read : serverRun segs = [⟨cmdData, id, p⟩] := by
    rw [serverRun_eq_decodeAll, virtualFrames.decodeAll_of_some taken,
      virtualFrames.decodeAll_of_none virtualFrames.decode_nil]
  constructor
  · simp [read]
  · simp [read]
  · rw [content_serverEnd, virtualFrames.rest_of_some taken,
      virtualFrames.rest_of_none virtualFrames.decode_nil]

/-- There is one header on the stream, so there is room for one frame. -/
theorem Honoured.length_le (h : Honoured id p segs)
    (wire : segs.flatten = frameBytes ⟨cmdData, id, p⟩) : p.length ≤ 65535 := by
  have size := length_decodeAll segs.flatten
  have boundary := h.boundary
  have payload := h.payload
  rw [content_serverEnd] at boundary
  rw [serverRun_eq_decodeAll] at payload
  have total : segs.flatten.length = 7 + p.length := by rw [wire, length_frameBytes]; rfl
  rw [payload, boundary, total, frameHdrLen, List.length_nil] at size
  have single : (virtualFrames.decodeAll segs.flatten).length = 1 := by omega
  have first := takeFrame_truncated ⟨cmdData, id, p⟩ []
  rw [List.append_nil, ← wire] at first
  have decoded := virtualFrames.decodeAll_of_some first
  rw [decoded, List.length_cons, Nat.add_eq_right, List.length_eq_zero_iff] at single
  rw [decoded, single] at payload
  have cut : (p.take (p.length % 65536)).length = p.length := by simpa using congrArg List.length payload
  rw [List.length_take] at cut
  have := Nat.mod_lt p.length (show 0 < 65536 by decide)
  omega

/-- A write on an open connection arrives exactly when its length fits the length field. -/
theorem writeHonoured_iff (h : OpenSlot c j s) (p : Bytes) :
    WriteHonoured c j s p ↔ p.length ≤ 65535 := by
  constructor
  · rintro ⟨out, written, arrives⟩
    obtain rfl : [⟨cmdData, s.conn.id, p⟩] = out := Option.some.inj ((h.connWrite p).symm.trans written)
    have wire : [frameBytes ⟨cmdData, s.conn.id, p⟩].flatten = frameBytes ⟨cmdData, s.conn.id, p⟩ := by
      simp
    exact (arrives _ (wire.trans (relayBytes_singleton _).symm)).length_le wire
  · intro short
    refine ⟨_, h.connWrite p, fun segs wire => ?_⟩
    exact honoured_of_le short (wire.trans (relayBytes_singleton _))

/-- A client with one open connection. -/
def oneOpen : Client :=
  { Ctrl.newClient with slots := [⟨Ctrl.ProxyConn.new 0, [104], 80, .ok, none, [], []⟩] }

theorem openSlot_oneOpen :
    OpenSlot oneOpen 0 ⟨Ctrl.ProxyConn.new 0, [104], 80, .ok, none, [], []⟩ := ⟨rfl, rfl, rfl⟩

theorem writeHonoured_hello :
    WriteHonoured oneOpen 0 ⟨Ctrl.ProxyConn.new 0, [104], 80, .ok, none, [], []⟩
      [0x68, 0x65, 0x6C, 0x6C, 0x6F] :=
  (writeHonoured_iff openSlot_oneOpen _).mpr (by decide)

/-- Zeros read as frame headers are connect requests. -/
theorem decode_zeros (n : ℕ) :
    virtualFrames.decode (List.replicate (n + 7) 0) =
      some (⟨Ctrl.cmdConnect, 0, []⟩, List.replicate n 0) := by
  simp [virtualFrames, List.replicate_succ, takeFrame, uint16, uint32, Ctrl.cmdConnect]

/-- 65536 zeros arrive as an empty frame, and behind it as a connect request for connection 0. -/
theorem write_cut :
    let p : Bytes := List.replicate 65536 0
    ¬ WriteHonoured oneOpen 0 ⟨Ctrl.ProxyConn.new 0, [104], 80, .ok, none, [], []⟩ p ∧
      (serverRun [relayBytes [⟨cmdData, 0, p⟩]]).take 2 =
        [⟨cmdData, 0, []⟩, ⟨Ctrl.cmdConnect, 0, []⟩] := by
  intro p
  have len : p.length = 65536 := List.length_replicate
  constructor
  · rintro ⟨out, written, arrives⟩
    obtain rfl := Option.some.inj ((openSlot_oneOpen.connWrite p).symm.trans written)
    have wire : [frameBytes ⟨cmdData, 0, p⟩].flatten = frameBytes ⟨cmdData, 0, p⟩ := by simp
    have le := (arrives _ (wire.trans (relayBytes_singleton _).symm)).length_le wire
    omega
  · have first : virtualFrames.decode (frameBytes ⟨cmdData, 0, p⟩) =
        some (⟨cmdData, 0, []⟩, p) := by
      have cut : p.length % 65536 = 0 := by omega
      have taken := takeFrame_truncated ⟨cmdData, 0, p⟩ []
      dsimp only at taken
      rwa [cut, List.take_zero, List.drop_zero, List.append_nil, List.append_nil] at taken
    have second : virtualFrames.decode p =
        some (⟨Ctrl.cmdConnect, 0, []⟩, List.replicate 65529 0) := by
      have shape : p = List.replicate (65529 + 7) 0 := by congr
      rw [shape, decode_zeros]
    rw [serverRun_eq_decodeAll, relayBytes_singleton, List.flatten_singleton,
      virtualFrames.decodeAll_of_some first, virtualFrames.decodeAll_of_some second]
    rfl

end EspNetwork.Tunnel
