import Mathlib
import EspNetwork.Base.Schedule
import EspNetwork.Serial.Codec

/-!
# The relay connection on the host

`Device.readLoop` of `ctrl/device/device.go` feeds serial chunks to the parser and runs its
callback for every frame; `dispatchPush` passes data pushes to the channel of the relay
connection, from which `TCPConn.Read` takes them. The serial reader and the reader of the
connection are two goroutines that share the channel.
-/

namespace EspNetwork.Host

open Serial

def cmdProxyDataPush : Byte := 0x40
def cmdProxyClosedPush : Byte := 0x41
def recvChCap : Nat := 64
def readBufSize : Nat := 512

/-- The serial reader with the callbacks of the chunk it is in, `relayConn` (is the relay
connection still the current one), its channel, and the chunks `Read` has returned. -/
structure RelayConn where
  wire : Bytes
  parser : Parser
  calls : List Frame
  current : Bool
  recvCh : List Bytes
  closed : Bool
  taken : List Bytes

/-- `dispatchPush`: a data push goes into the channel if there is room, a closed push shuts
the connection down. -/
def dispatchPush (h : RelayConn) (f : Frame) : RelayConn :=
  if f.cmd = cmdProxyDataPush then
    if h.current = true ∧ 0 < f.payload.length ∧ h.recvCh.length < recvChCap then
      { h with recvCh := h.recvCh ++ [f.payload] }
    else h
  else if f.cmd = cmdProxyClosedPush then
    if h.current = true then { h with current := false, closed := true } else h
  else h

inductive Action where
  /-- `port.Read` returns `n` bytes and the parser is fed with them. -/
  | read (n : Nat)
  | callback
  /-- `TCPConn.Read` returns the next chunk. -/
  | take
  deriving DecidableEq

def step (h : RelayConn) : Action → Option RelayConn
  | .read n =>
    if h.calls = [] ∧ 0 < n ∧ n ≤ readBufSize ∧ n ≤ h.wire.length then
      some { h with
        wire := h.wire.drop n
        parser := (h.parser.feed (h.wire.take n)).1
        calls := (h.parser.feed (h.wire.take n)).2 }
    else none
  | .callback =>
    match h.calls with
    | [] => none
    -- a response is matched with its request and does not concern the relay
    | f :: calls => some (if f.isResp then { h with calls } else dispatchPush { h with calls } f)
  | .take =>
    match h.recvCh with
    | [] => none
    | data :: recvCh => some { h with recvCh, taken := h.taken ++ [data] }

/-! ## The chunks a list of frames stands for -/

/-- The payloads that pushes put on the channel before the first closed push. -/
def relayChunks : List Frame → List Bytes
  | [] => []
  | f :: fs =>
    if f.isResp then relayChunks fs
    else if f.cmd = cmdProxyDataPush then
      if 0 < f.payload.length then f.payload :: relayChunks fs else relayChunks fs
    else if f.cmd = cmdProxyClosedPush then []
    else relayChunks fs

theorem relayChunks_mono {fs gs : List Frame} (h : fs <+: gs) :
    relayChunks fs <+: relayChunks gs := by
  induction fs generalizing gs with
  | nil => exact List.nil_prefix
  | cons f fs ih =>
    cases gs with
    | nil => simp at h
    | cons g gs =>
      obtain ⟨rfl, rest⟩ := List.cons_prefix_cons.mp h
      simp only [relayChunks]
      split_ifs
      · exact ih rest
      · exact List.cons_prefix_cons.mpr ⟨rfl, ih rest⟩
      · exact ih rest
      · exact List.prefix_rfl
      · exact ih rest

/-- The frames whose callbacks are still to come. -/
def pendingFrames (h : RelayConn) : List Frame := h.calls ++ (h.parser.feed h.wire).2

/-- The chunks still to come, none once the connection was shut down. -/
def pendingChunks (h : RelayConn) : List Bytes :=
  if h.current then relayChunks (pendingFrames h) else []

/-- The assumption on a step: no data push finds the channel full. -/
def NoOverflow (h : RelayConn) (a : Action) : Prop :=
  a = .callback → ∀ f calls, h.calls = f :: calls → f.isResp = false →
    f.cmd = cmdProxyDataPush → h.recvCh.length < recvChCap

/-- A push whose callback runs moves its chunk from the pending ones to the channel. -/
theorem dispatchPush_chunks {h : RelayConn} {f : Frame} (push : f.isResp = false)
    (room : f.cmd = cmdProxyDataPush → h.recvCh.length < recvChCap) :
    (dispatchPush h f).taken ++ (dispatchPush h f).recvCh ++ pendingChunks (dispatchPush h f) =
      h.taken ++ h.recvCh ++ (if h.current then relayChunks (f :: pendingFrames h) else []) := by
  by_cases data : f.cmd = cmdProxyDataPush
  · cases current : h.current <;> by_cases filled : 0 < f.payload.length <;>
      simp [dispatchPush, relayChunks, pendingChunks, pendingFrames, push, data, room data, filled,
        current]
  · by_cases closes : f.cmd = cmdProxyClosedPush
    · rw [dispatchPush, if_neg data, if_pos closes]
      cases current : h.current <;>
        simp [relayChunks, pendingChunks, push, if_neg data, if_pos closes, current]
    · simp [dispatchPush, relayChunks, pendingChunks, push, data, closes]

/-- The chunks taken, queued and still to come are the same before and after every step. -/
theorem step_chunks {h h' : RelayConn} {a : Action} (room : NoOverflow h a)
    (taken : step h a = some h') :
    h'.taken ++ h'.recvCh ++ pendingChunks h' = h.taken ++ h.recvCh ++ pendingChunks h := by
  cases a with
  | read n =>
    simp only [step] at taken
    split at taken
    case isFalse => simp at taken
    case isTrue ok =>
      obtain rfl := Option.some.inj taken
      have same : pendingFrames h = (h.parser.feed (h.wire.take n)).2 ++
          ((h.parser.feed (h.wire.take n)).1.feed (h.wire.drop n)).2 := by
        rw [pendingFrames, ok.1, List.nil_append]
        conv_lhs => rw [← List.take_append_drop n h.wire]
        simp only [Parser.feed, Transducer.feed_append]
      simp only [pendingChunks, same]
      rfl
  | callback =>
    cases hcalls : h.calls with
    | nil => simp [step, hcalls] at taken
    | cons f calls =>
      simp only [step, hcalls, Option.some.injEq] at taken
      subst taken
      have same : pendingChunks h =
          if h.current then relayChunks (f :: pendingFrames { h with calls }) else [] := by
        simp [pendingChunks, pendingFrames, hcalls]
      by_cases resp : f.isResp
      · rw [if_pos resp, same]
        simp [relayChunks, pendingChunks, resp]
      · have push : f.isResp = false := by simpa using resp
        rw [if_neg resp, same]
        exact dispatchPush_chunks push (room rfl f calls hcalls push)
  | take =>
    cases queue : h.recvCh with
    | nil => simp [step, queue] at taken
    | cons data recvCh =>
      simp only [step, queue, Option.some.injEq] at taken
      subst taken
      simp [pendingChunks, pendingFrames]

/-! ## Whole runs -/

/-- Everything was read, called back and taken. -/
def Consumed (h : RelayConn) : Prop := h.wire = [] ∧ h.calls = [] ∧ h.recvCh = []

/-- The connection is current and empty, and the parser is between frames. -/
structure Attached (h : RelayConn) : Prop where
  parser : h.parser.onFrame = true ∧ h.parser.state = .magic0
  calls : h.calls = []
  current : h.current = true
  recvCh : h.recvCh = []
  taken : h.taken = []

/-- The frames the bytes to come stand for. -/
theorem Attached.pending {h : RelayConn} (attached : Attached h) :
    pendingFrames h = (scan h.wire).map hostView := by
  have tracked : h.parser.Tracks [] :=
    ⟨attached.parser.1, .magic0 attached.parser.2, by simp [attached.parser.2]⟩
  rw [pendingFrames, attached.calls, List.nil_append]
  exact (hostParser_feed tracked .none h.wire).2

/-- In every run without overflow the chunks taken are the first ones of the pushes, and all
of them once everything is consumed. -/
theorem taken_chunks {h₀ h : RelayConn} {as : List Action} (attached : Attached h₀)
    (room : Schedule.Obeys step NoOverflow h₀ as) (run : Schedule.exec step h₀ as = some h) :
    h.taken <+: relayChunks ((scan h₀.wire).map hostView) ∧
      (Consumed h → h.taken = relayChunks ((scan h₀.wire).map hostView)) := by
  have kept : h.taken ++ h.recvCh ++ pendingChunks h = relayChunks ((scan h₀.wire).map hostView) := by
    refine Schedule.exec_invariant_of_obeys
      (fun h => h.taken ++ h.recvCh ++ pendingChunks h = relayChunks ((scan h₀.wire).map hostView))
      (fun _ _ _ kept room taken => (step_chunks room taken).trans kept) ?_ room run
    simp [attached.taken, attached.recvCh, pendingChunks, attached.current, attached.pending]
  refine ⟨⟨_, by rw [← List.append_assoc]; exact kept⟩, ?_⟩
  rintro ⟨wire, calls, recvCh⟩
  have none_left : pendingChunks h = [] := by
    simp [pendingChunks, pendingFrames, wire, calls, Parser.feed, relayChunks]
  simpa [none_left, recvCh] using kept

/-- What the two goroutines have left to do. -/
def work (h : RelayConn) : Nat ×ₗ Nat ×ₗ Nat :=
  toLex (h.wire.length, toLex (h.calls.length, h.recvCh.length))

theorem progress {h : RelayConn} (busy : ¬ Consumed h) :
    ∃ a h', NoOverflow h a ∧ step h a = some h' ∧ work h' < work h := by
  cases queue : h.recvCh with
  | cons data recvCh =>
    refine ⟨.take, { h with recvCh, taken := h.taken ++ [data] }, by simp [NoOverflow],
      by simp [step, queue], ?_⟩
    simp [work, Prod.Lex.toLex_lt_toLex, queue]
  | nil =>
    cases hcalls : h.calls with
    | cons f calls =>
      refine ⟨.callback, _, by simp [NoOverflow, queue, recvChCap],
        by simp only [step, hcalls]; rfl, ?_⟩
      simp only [dispatchPush, work]
      split_ifs <;> simp [Prod.Lex.toLex_lt_toLex, hcalls]
    | nil =>
      have more : h.wire ≠ [] := fun wire => busy ⟨wire, hcalls, queue⟩
      have pos := List.length_pos_iff.mpr more
      refine ⟨.read 1, { h with
        wire := h.wire.drop 1
        parser := (h.parser.feed (h.wire.take 1)).1
        calls := (h.parser.feed (h.wire.take 1)).2 }, by simp [NoOverflow], ?_, ?_⟩
      · simp [step, hcalls, readBufSize, more]
      · simp [work, Prod.Lex.toLex_lt_toLex]; omega

/-- The two goroutines can always consume what is there. -/
theorem consumes (h : RelayConn) : ∃ as h', Schedule.Obeys step NoOverflow h as ∧
    Schedule.exec step h as = some h' ∧ Consumed h' := by
  refine Schedule.exec_until work (P := fun _ => True) (fun h _ busy => ?_) trivial
  obtain ⟨a, h', room, taken, less⟩ := progress busy
  exact ⟨a, h', room, taken, trivial, less⟩

end EspNetwork.Host
