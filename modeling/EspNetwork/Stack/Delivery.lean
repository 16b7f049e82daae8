import EspNetwork.Stack.Refinement

/-!
# The stack gets everything across

Between two steps of the sides the layers of the stack can always pass on all that is on its way:
the device drains its stream buffer and its queue into the socket, the next request goes out when
that is done, the socket is drained into pushes, and the host takes the pushes. So whatever client
and server can do over a faithful relay they can do over the stack, without a request that finds
the stream buffer full.
-/

namespace EspNetwork.Stack

open Serial Relay
open Firmware (Device Fd SockId)
open Host (RelayConn NoOverflow)
open Tunnel (Up Down Clean Drained Received Reading downWork inTransit relayPayload rxData)
open Virtual (readFrames)

/-! ## The work of one layer -/

section Device

variable {fd : Fd} {k : SockId} {total : Bytes} {d d' : Device}

/-- The receive task leaves the way up alone. -/
theorem rx_work {c : Firmware.RxChoice} (going : ∀ pc, d.rx ≠ .closing pc)
    (h : Firmware.step d (.rx c) = some d') : Tunnel.work d' = Tunnel.work d := by
  obtain ⟨⟨mgr, rx⟩, taken, rfl⟩ := Option.map_eq_some_iff.mp h
  have queue : mgr.sendQueue = d.mgr.sendQueue := by
    cases pc : d.rx with
    | closing close => exact absurd pc (going close)
    | top =>
      cases c <;> simp only [pc, Firmware.tcpRxTask, reduceCtorEq] at taken
      split at taken <;> obtain ⟨rfl, -⟩ := Prod.mk.inj (Option.some.inj taken) <;> rfl
    | select fd' =>
      cases c <;> simp only [pc, Firmware.tcpRxTask, reduceCtorEq] at taken <;>
        obtain ⟨rfl, -⟩ := Prod.mk.inj (Option.some.inj taken) <;> rfl
    | recv fd' =>
      cases c <;> simp only [pc, Firmware.tcpRxTask, reduceCtorEq] at taken
      case data len =>
        split at taken
        · obtain ⟨⟨piece, net⟩, -, eq⟩ := Option.map_eq_some_iff.mp taken
          obtain ⟨rfl, -⟩ := Prod.mk.inj eq
          rfl
        · cases taken
      case eof =>
        split at taken
        · obtain ⟨rfl, -⟩ := Prod.mk.inj (Option.some.inj taken)
          rfl
        · cases taken
      all_goals
        obtain ⟨rfl, -⟩ := Prod.mk.inj (Option.some.inj taken)
        rfl
    | push data =>
      cases c <;> simp only [pc, Firmware.tcpRxTask, reduceCtorEq] at taken <;>
        obtain ⟨rfl, -⟩ := Prod.mk.inj (Option.some.inj taken) <;> simp
  simp [Tunnel.work, queue]

/-- With work to do on the way up, a task can do some of it undisturbed. -/
theorem up_progress (up : Up fd k total d) (going : ∀ pc, d.rx ≠ .closing pc)
    (busy : ¬ Drained d) :
    ∃ a d', Undisturbed a ∧ Firmware.step d a = some d' ∧ Tunnel.work d' < Tunnel.work d := by
  have progress : ∃ a d', Clean d a ∧ Firmware.step d a = some d' ∧
      Tunnel.work d' < Tunnel.work d := by
    by_cases sending : d.send ≠ .receive ∨ d.mgr.sendQueue ≠ []
    · exact up.send_progress sending
    · obtain ⟨send, queue⟩ : d.send = .receive ∧ d.mgr.sendQueue = [] := by
        simpa [not_or] using sending
      refine up.cmd_progress queue ?_
      by_contra idle
      simp only [not_or, not_not] at idle
      exact busy ⟨idle.1, idle.2.1, idle.2.2.1, idle.2.2.2, queue, send⟩
  obtain ⟨a, d', clean, taken, less⟩ := progress
  refine ⟨a, d', ?_, taken, less⟩
  cases a with
  | rx c => exact absurd (rx_work going taken) less.ne
  | cmd c => cases c <;> first | trivial | exact clean.1
  | send c => cases c <;> first | trivial | exact clean.1

/-- With nothing left on the way up, the receive task can take the next piece or push it. -/
theorem down_progress (reading : Reading fd k total d) (drained : Drained d)
    (busy : ¬ Received k d) :
    ∃ c d', Undisturbed (.rx c) ∧ Firmware.step d (.rx c) = some d' ∧
      downWork k d' < downWork k d := by
  obtain ⟨a, d', receives, taken, after, less⟩ := reading.progress busy
  obtain ⟨serial, chunk, calls, cmd, queue, send⟩ := drained
  have failed : ∀ c, c = .error ∨ c = .eof → ∀ e, Firmware.step d (.rx c) = some e →
      e.rx = .closing .take := by
    intro c failure e moved
    obtain ⟨⟨mgr, rx⟩, taken, rfl⟩ := Option.map_eq_some_iff.mp moved
    cases pc : d.rx <;> rcases failure with rfl | rfl <;> simp [Firmware.tcpRxTask, pc] at taken
    all_goals simp [taken]
  cases a with
  | cmd c =>
    cases c <;> simp [Firmware.step, Firmware.cmdTask, cmd, calls, chunk, serial] at taken
    omega
  | send c =>
    cases c <;> simp [Firmware.step, Firmware.tcpSendTask, send, queue] at taken
  | rx c =>
    refine ⟨c, d', ?_, taken, less⟩
    cases c with
    | oom => exact receives.1 rfl
    | error => exact after.going _ (failed .error (.inl rfl) d' taken)
    | eof => exact after.going _ (failed .eof (.inr rfl) d' taken)
    | _ => trivial

end Device

/-! ## All layers -/

/-- Everything has arrived. -/
def Delivered (k : SockId) (s : System) : Prop :=
  s.chunks = [] ∧ Drained s.device ∧ Received k s.device ∧ Host.Consumed s.host

/-- The layers from the top; each gives work only to those below it. -/
def stackWork (k : SockId) (s : System) :
    Nat ×ₗ (Nat ×ₗ Nat ×ₗ Nat ×ₗ Nat ×ₗ Nat) ×ₗ (Nat ×ₗ Nat) ×ₗ (Nat ×ₗ Nat ×ₗ Nat) :=
  toLex (s.chunks.length, toLex (Tunnel.work s.device, toLex (downWork k s.device,
    Host.work s.host)))

/-- A step that loses nothing, in the stream buffer neither. -/
def Fits (s : System) (a : Action) : Prop := Lossless s a ∧ Room s a

/-- A step that neither side takes. -/
def Internal (s : System) (a : Action) : Prop := Fits s a ∧ answer a = []

section Layers

variable {fd : Fd} {k : SockId} {s : System}

/-- What has arrived is all that was on its way. -/
theorem Delivered.abs (delivered : Delivered k s) :
    (abs k s).up = s.socket ∧ (abs k s).down = s.buf := by
  obtain ⟨chunks, drained, received, consumed⟩ := delivered
  obtain ⟨wire, calls, recvCh⟩ := consumed
  have pending : Host.pendingChunks s.host = [] := by
    simp [Host.pendingChunks, Host.pendingFrames, wire, calls, Parser.feed, Host.relayChunks]
  constructor
  · simp [Stack.abs, chunks, drained.inTransit_eq_nil, relayPayload]
  · simp [Stack.abs, recvCh, pending, received.1, received.2]

/-- Once the device has taken everything, its stream buffer has room for any request. -/
theorem room_chunk (inv : Inv fd k s) (drained : Drained s.device) : Room s .chunk := by
  intro f next
  have fits := (inv.chunks f (List.mem_of_mem_head? next)).2
  have request := length_request fits
  rw [drained.1, List.length_nil, request]
  unfold cmdStreamSize
  unfold protoMaxPayload at fits
  omega

theorem progress (inv : Inv fd k s) (busy : ¬ Delivered k s) :
    ∃ a s', Internal s a ∧ step k s a = some s' ∧ Inv fd k s' ∧ stackWork k s' < stackWork k s := by
  -- an internal step that lowers the work of some layer
  have moves : ∀ a s', Fits s a → answer a = [] → step k s a = some s' →
      stackWork k s' < stackWork k s →
      ∃ a s', Internal s a ∧ step k s a = some s' ∧ Inv fd k s' ∧ stackWork k s' < stackWork k s :=
    fun a s' fits silent taken less =>
      ⟨a, s', ⟨fits, silent⟩, taken, (inv.step fits.1 taken).1, less⟩
  obtain ⟨total, up⟩ := inv.up
  obtain ⟨total', down⟩ := inv.down
  by_cases drained : Drained s.device
  swap
  · obtain ⟨a, device, calm, taken, less⟩ := up_progress up inv.going drained
    refine moves (.device a) _ ⟨calm, trivial⟩ rfl (by simp only [step, taken]; rfl) ?_
    simp [stackWork, Prod.Lex.toLex_lt_toLex, less]
  cases waiting : s.chunks with
  | cons f chunks =>
    refine moves .chunk _ ⟨trivial, room_chunk inv drained⟩ rfl
      (by simp only [step, waiting]; rfl) ?_
    simp [stackWork, Prod.Lex.toLex_lt_toLex, waiting]
  | nil =>
    by_cases received : Received k s.device
    · obtain ⟨a, host, room, taken, less⟩ :=
        Host.progress fun consumed => busy ⟨waiting, drained, received, consumed⟩
      refine moves (.host a) _ ⟨room, trivial⟩ rfl (by simp only [step, taken]; rfl) ?_
      simp [stackWork, Prod.Lex.toLex_lt_toLex, less]
    · obtain ⟨c, device, calm, taken, less⟩ :=
        down_progress ⟨down, up.sFd, inv.going⟩ drained received
      refine moves (.device (.rx c)) _ ⟨calm, trivial⟩ rfl (by simp only [step, taken]; rfl) ?_
      simp [stackWork, Prod.Lex.toLex_lt_toLex, rx_work inv.going taken, less]

/-- From every state the layers can pass on all that is on its way. -/
theorem delivers (inv : Inv fd k s) :
    ∃ as s', Schedule.Obeys (step k) Internal s as ∧ Schedule.exec (step k) s as = some s' ∧
      Inv fd k s' ∧ Delivered k s' := by
  obtain ⟨as, s', obeys, run, delivered⟩ :=
    Schedule.exec_until (stackWork k) (fun _ inv busy => progress inv busy) inv
  refine ⟨as, s', obeys, run, ?_, delivered⟩
  exact Schedule.exec_invariant_of_obeys (Inv fd k)
    (fun _ _ _ inv internal taken => (inv.step internal.1.1 taken).1) inv obeys run

/-- What the layers do among themselves neither side sees. -/
theorem silent_of_internal {as : List Action} {s' : System}
    (obeys : Schedule.Obeys (step k) Internal s as) (run : Schedule.exec (step k) s as = some s') :
    as.flatMap answer = [] := by
  induction as generalizing s with
  | nil => rfl
  | cons a as ih =>
    obtain ⟨u, hu, rest⟩ := Schedule.exec_cons.mp run
    rw [List.flatMap_cons, obeys.1.2, ih (obeys.2 u hu) rest]
    rfl

/-- Once everything has arrived, the sides can take every step they can take over a relay. -/
theorem Delivered.step {a : Virtual.Action} {v : Virtual.System} (delivered : Delivered k s)
    (promised : Virtual.Promised (Stack.abs k s) a)
    (h : Virtual.step (Stack.abs k s) a = some v) :
    ∃ b s', Fits s b ∧ answer b = [a] ∧ Stack.step k s b = some s' := by
  obtain ⟨up, down⟩ := delivered.abs
  cases a with
  | client a =>
    simp only [Virtual.step, Option.bind_eq_bind, Option.bind_eq_some_iff] at h
    obtain ⟨rest, read, ⟨client, out⟩, taken, -⟩ := h
    rw [down] at read
    have taken' : s.client.step a = some (client, out) := taken
    exact ⟨.client a, _, ⟨promised, trivial⟩, rfl, by simp only [Stack.step, read, taken']; rfl⟩
  | server a =>
    simp only [Virtual.step, Option.bind_eq_bind, Option.bind_eq_some_iff] at h
    obtain ⟨rest, read, ⟨server, out⟩, taken, -⟩ := h
    rw [up] at read
    have taken' : s.server.step a = some (server, out) := taken
    exact ⟨.server a, _, ⟨trivial, trivial⟩, rfl, by simp only [Stack.step, read, taken']; rfl⟩

/-- From every state the layers can bring everything across, which is no step of the relay. -/
theorem settles (inv : Inv fd k s) :
    ∃ as s', Schedule.Obeys (step k) Fits s as ∧ Schedule.exec (step k) s as = some s' ∧
      as.flatMap answer = [] ∧ Inv fd k s' ∧ Delivered k s' ∧ abs k s' = abs k s := by
  obtain ⟨as, s', internal, delivering, inv', delivered⟩ := delivers inv
  have fits := internal.mono fun _ _ => And.left
  have silent := silent_of_internal internal delivering
  have moved := (inv.run (fits.mono fun _ _ => And.left) delivering).2
  rw [silent] at moved
  exact ⟨as, s', fits, delivering, silent, inv', delivered, (Option.some.inj moved).symm⟩

/-- From every state the sides can go on as they could over a relay. -/
theorem answers_relay {vs : List Virtual.Action} {v : Virtual.System} (inv : Inv fd k s)
    (promised : Schedule.Obeys Virtual.step Virtual.Promised (abs k s) vs)
    (run : Schedule.exec Virtual.step (abs k s) vs = some v) :
    ∃ as s', Schedule.Obeys (step k) Fits s as ∧ Schedule.exec (step k) s as = some s' ∧
      as.flatMap answer = vs ∧ Delivered k s' ∧ abs k s' = v := by
  induction vs generalizing s with
  | nil =>
    obtain rfl : abs k s = v := by simpa using run
    obtain ⟨as, s', fits, settling, silent, -, delivered, same⟩ := settles inv
    exact ⟨as, s', fits, settling, silent, delivered, same⟩
  | cons a vs ih =>
    obtain ⟨u, hu, rest⟩ := Schedule.exec_cons.mp run
    obtain ⟨as, s₁, fits, settling, silent, inv₁, delivered, same⟩ := settles inv
    rw [← same] at hu promised
    obtain ⟨b, s₂, allowed, seen, moved⟩ := delivered.step promised.1 hu
    obtain ⟨inv₂, -, answered⟩ := inv₁.step allowed.1 moved
    obtain rfl : abs k s₂ = u := by
      rw [seen] at answered
      obtain ⟨w, hw, eq⟩ := Schedule.exec_cons.mp answered
      obtain rfl := Option.some.inj (hu.symm.trans hw)
      exact (Option.some.inj eq).symm
    obtain ⟨bs, s', later, run', trace, done⟩ := ih inv₂ (promised.2 _ hu) rest
    refine ⟨as ++ b :: bs, s', ?_, ?_, ?_, done⟩
    · exact fits.append settling (Schedule.obeys_cons allowed moved later)
    · exact Schedule.exec_append.mpr ⟨s₁, settling, Schedule.exec_cons.mpr ⟨s₂, moved, run'⟩⟩
    · simp [silent, seen, trace]

end Layers

/-- **Whatever client and server can do over a faithful relay they can do over the stack.** Every
run of the two sides from the start is what they do in some run of the stack that loses nothing,
where every request finds room in the stream buffer, and at its end everything has arrived. -/
theorem relay_is_stack {fd : Fd} {k : SockId} {s₀ : System} {vs : List Virtual.Action}
    {v : Virtual.System} (start : Start fd k s₀)
    (promised : Schedule.Obeys Virtual.step Virtual.Promised Virtual.System.new vs)
    (run : Schedule.exec Virtual.step Virtual.System.new vs = some v) :
    ∃ as s, Schedule.Obeys (step k) Fits s₀ as ∧ Schedule.exec (step k) s₀ as = some s ∧
      as.flatMap answer = vs ∧ Delivered k s ∧ abs k s = v := by
  rw [← start.abs] at promised run
  exact answers_relay start.inv promised run

theorem relay_is_stack_exchange : ∃ as s, Schedule.Obeys (step 0) Fits fresh as ∧
    Schedule.exec (step 0) fresh as = some s ∧
    as.flatMap answer = .client (.connect [104] 80) :: Virtual.exchange ∧ Delivered 0 s := by
  obtain ⟨as, s, fits, run, trace, delivered, -⟩ :=
    relay_is_stack fresh_start Virtual.exchange_promised rfl
  exact ⟨as, s, fits, run, trace, delivered⟩

end EspNetwork.Stack
