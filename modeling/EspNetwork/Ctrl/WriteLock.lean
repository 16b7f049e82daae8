import Mathlib
import EspNetwork.Base.Schedule
import EspNetwork.Relay.Wire

/-!
# Frames under `wLock`

`Client.writeFrame` of `ctrl/proxy/client.go` with the chunks of `TCPConn.Write`. A call waits
for `wLock`, a channel of one place, or for the end of the client; inside it writes its frame
chunk by chunk, and a chunk that fails ends the client before the lock is free again. A call that
still waits then has both cases of its select ready. If it takes the lock, its frame goes out
behind the torso of the one before; as long as no call does that, only whole frames go up, one
after the other, but for the last.
-/

namespace EspNetwork.Ctrl

open Serial (Byte Bytes)
open Relay (VFrame frameBytes frameHdrLen length_frameBytes)
open Schedule

/-- `proto.MaxPayload`, the longest chunk of `TCPConn.Write`. -/
def maxChunk : Nat := 1024

/-- Where a call of `writeFrame` stands. -/
inductive WritePc where
  | select
  /-- In `TCPConn.Write`; `rest` is what of the frame has not been written. -/
  | writing (rest : Bytes)
  | cancel
  | unlock
  | returned
  deriving DecidableEq, Repr

structure WriteCall where
  frame : VFrame
  pc : WritePc
  deriving DecidableEq, Repr

/-- The call has the lock. -/
def WriteCall.inside (c : WriteCall) : Bool :=
  match c.pc with
  | .writing _ | .cancel | .unlock => true
  | .select | .returned => false

/-- The calls of `writeFrame` with what they share, and the payloads that were written. For the
record: the calls that have written something, and what the last of them has not written yet. -/
structure WriteLock where
  ctxDone : Bool
  wLock : Bool
  calls : List WriteCall
  written : Bytes
  order : List Nat
  missing : Bytes
  deriving DecidableEq, Repr

inductive WriteAction where
  | call (f : VFrame)
  /-- The call takes the `wLock` case of its select. -/
  | lock (i : Nat)
  /-- The call takes the `ctx.Done()` case. -/
  | done (i : Nat)
  | chunk (i : Nat)
  /-- `writeFrameNoReply` fails. -/
  | fail (i : Nat)
  | advance (i : Nat)
  /-- The context ends for another reason. -/
  | cancelled
  deriving DecidableEq, Repr

namespace WriteLock

def new : WriteLock := ⟨false, false, [], [], [], []⟩

def setCall (s : WriteLock) (i : Nat) (c : WriteCall) : WriteLock := { s with calls := s.calls.set i c }

/-- A chunk goes out. -/
def writeChunk (s : WriteLock) (i : Nat) (c : WriteCall) (rest : Bytes) : WriteLock :=
  { s.setCall i { c with pc := .writing (rest.drop maxChunk) } with
    written := s.written ++ rest.take maxChunk
    order := if rest = frameBytes c.frame then s.order ++ [i] else s.order
    missing := rest.drop maxChunk }

def step (s : WriteLock) : WriteAction → Option WriteLock
  | .call f => some { s with calls := s.calls ++ [⟨f, .select⟩] }
  | .lock i => do
    let c ← s.calls[i]?
    if c.pc = .select ∧ s.wLock = false then
      return { s.setCall i { c with pc := .writing (frameBytes c.frame) } with wLock := true }
    else none
  | .done i => do
    let c ← s.calls[i]?
    if c.pc = .select ∧ s.ctxDone = true then return s.setCall i { c with pc := .returned } else none
  | .chunk i => do
    let c ← s.calls[i]?
    match c.pc with
    | .writing rest => if 0 < rest.length then return s.writeChunk i c rest else none
    | _ => none
  | .fail i => do
    let c ← s.calls[i]?
    match c.pc with
    | .writing rest => if 0 < rest.length then return s.setCall i { c with pc := .cancel } else none
    | _ => none
  | .advance i => do
    let c ← s.calls[i]?
    match c.pc with
    | .writing [] => return s.setCall i { c with pc := .unlock }
    | .cancel => return { s.setCall i { c with pc := .unlock } with ctxDone := true }
    | .unlock => return { s.setCall i { c with pc := .returned } with wLock := false }
    | _ => none
  | .cancelled => some { s with ctxDone := true }

/-! ## What a step can do -/

/-- The transitions one by one. -/
inductive Moves (s : WriteLock) : WriteAction → WriteLock → Prop where
  | call (f : VFrame) : Moves s (.call f) { s with calls := s.calls ++ [⟨f, .select⟩] }
  | lock {i : Nat} {c : WriteCall} (call : s.calls[i]? = some c) (pc : c.pc = .select)
    (free : s.wLock = false) :
    Moves s (.lock i)
      { s.setCall i { c with pc := .writing (frameBytes c.frame) } with wLock := true }
  | chunk {i : Nat} {c : WriteCall} {rest : Bytes} (call : s.calls[i]? = some c)
    (pc : c.pc = .writing rest) (more : 0 < rest.length) : Moves s (.chunk i) (s.writeChunk i c rest)
  | leave {i : Nat} {c : WriteCall} {pc' : WritePc} (a : WriteAction) (ctxDone : Bool)
    (call : s.calls[i]? = some c)
    (next : (pc' = .returned ∧ c.pc = .select) ∨ ((pc' = .cancel ∨ pc' = .unlock) ∧ c.inside)) :
    Moves s a { s.setCall i { c with pc := pc' } with ctxDone }
  | unlock {i : Nat} {c : WriteCall} (call : s.calls[i]? = some c) (pc : c.pc = .unlock) :
    Moves s (.advance i) { s.setCall i { c with pc := .returned } with wLock := false }
  | cancelled : Moves s .cancelled { s with ctxDone := true }

theorem step_moves {s s' : WriteLock} {a : WriteAction} (h : s.step a = some s') : Moves s a s' := by
  cases a with
  | call f =>
    obtain rfl := Option.some.inj h
    exact .call f
  | lock i =>
    obtain ⟨c, call, h⟩ := Option.bind_eq_some_iff.mp h
    split at h
    case isTrue enabled =>
      obtain rfl := Option.some.inj h
      exact .lock call enabled.1 enabled.2
    case isFalse => simp at h
  | done i =>
    obtain ⟨c, call, h⟩ := Option.bind_eq_some_iff.mp h
    split at h
    case isTrue enabled =>
      obtain rfl := Option.some.inj h
      exact .leave _ s.ctxDone call (.inl ⟨rfl, enabled.1⟩)
    case isFalse => simp at h
  | chunk i =>
    obtain ⟨c, call, h⟩ := Option.bind_eq_some_iff.mp h
    split at h
    · split at h
      · obtain rfl := Option.some.inj h
        exact .chunk call ‹_› ‹_›
      · simp at h
    · simp at h
  | fail i =>
    obtain ⟨c, call, h⟩ := Option.bind_eq_some_iff.mp h
    split at h
    case h_1 rest pc =>
      split at h
      · obtain rfl := Option.some.inj h
        exact .leave _ s.ctxDone call (.inr ⟨.inl rfl, by simp [WriteCall.inside, pc]⟩)
      · simp at h
    case h_2 => simp at h
  | advance i =>
    obtain ⟨c, call, h⟩ := Option.bind_eq_some_iff.mp h
    split at h
    case h_1 pc =>
      obtain rfl := Option.some.inj h
      exact .leave _ s.ctxDone call (.inr ⟨.inr rfl, by simp [WriteCall.inside, pc]⟩)
    case h_2 pc =>
      obtain rfl := Option.some.inj h
      exact .leave _ true call (.inr ⟨.inr rfl, by simp [WriteCall.inside, pc]⟩)
    case h_3 pc =>
      obtain rfl := Option.some.inj h
      exact .unlock call pc
    case h_4 => simp at h
  | cancelled =>
    obtain rfl := Option.some.inj h
    exact .cancelled

theorem setCall_call {s : WriteLock} {i : Nat} {c : WriteCall} (call : s.calls[i]? = some c)
    (c' : WriteCall) (j : Nat) :
    (s.setCall i c').calls[j]? = if j = i then some c' else s.calls[j]? := by
  have lt := (List.getElem?_eq_some_iff.mp call).1
  by_cases same : j = i
  · subst same
    simp [setCall, lt]
  · simp [setCall, same, Ne.symm same]

/-! ## The bytes on the relay -/

/-- The serialised frame of a call. -/
def bytesOf (s : WriteLock) (i : Nat) : Bytes :=
  match s.calls[i]? with
  | some c => frameBytes c.frame
  | none => []

/-- What was written begins a sequence of whole frames, each of a call of its own. -/
def WholeFrames (s : WriteLock) : Prop :=
  ∃ order : List Nat, order.Nodup ∧ (∀ i ∈ order, i < s.calls.length) ∧
    s.written <+: order.flatMap s.bytesOf

/-- The condition on a step: no call takes the lock while the last frame is not whole. -/
def NotCut (s : WriteLock) : WriteAction → Prop
  | .lock _ => s.missing = []
  | _ => True

instance (s : WriteLock) : (a : WriteAction) → Decidable (NotCut s a)
  | .lock _ => inferInstanceAs (Decidable (_ = _))
  | .call _ | .done _ | .chunk _ | .fail _ | .advance _ | .cancelled => isTrue trivial

structure Inv (s : WriteLock) : Prop where
  /-- Whoever is inside has the lock, and is there alone. -/
  locked : ∀ (i : Nat) (c : WriteCall), s.calls[i]? = some c → c.inside → s.wLock = true
  alone : ∀ (i j : Nat) (c d : WriteCall), s.calls[i]? = some c → s.calls[j]? = some d →
    c.inside → d.inside → i = j
  /-- A call inside has its whole frame before it, or what is missing of the last one. -/
  rest : ∀ (i : Nat) (c : WriteCall) (rest : Bytes), s.calls[i]? = some c → c.pc = .writing rest →
    (rest = frameBytes c.frame ∧ s.missing = [] ∧ i ∉ s.order) ∨
      (rest = s.missing ∧ rest.length < (frameBytes c.frame).length)
  unbegun : ∀ (i : Nat) (c : WriteCall), s.calls[i]? = some c → c.pc = .select → i ∉ s.order
  known : ∀ i ∈ s.order, i < s.calls.length
  nodup : s.order.Nodup
  bytes : s.written ++ s.missing = s.order.flatMap s.bytesOf

theorem bytesOf_setCall {s : WriteLock} {i : Nat} {c : WriteCall} (call : s.calls[i]? = some c)
    (pc : WritePc) : (s.setCall i { c with pc }).bytesOf = s.bytesOf := by
  funext j
  unfold bytesOf
  rw [setCall_call call]
  by_cases same : j = i
  · simp [same, call]
  · simp [same]

theorem Inv.call {s : WriteLock} (inv : Inv s) (f : VFrame) :
    Inv { s with calls := s.calls ++ [⟨f, .select⟩] } := by
  have old : ∀ (i : Nat) (c : WriteCall), (s.calls ++ [(⟨f, .select⟩ : WriteCall)])[i]? = some c →
      s.calls[i]? = some c ∨ (i = s.calls.length ∧ c = ⟨f, .select⟩) := by
    intro i c call
    rcases Nat.lt_trichotomy i s.calls.length with lt | rfl | gt
    · rw [List.getElem?_append_left lt] at call
      exact .inl call
    · rw [List.getElem?_concat_length] at call
      exact .inr ⟨rfl, (Option.some.inj call).symm⟩
    · rw [List.getElem?_eq_none (by simp; omega)] at call
      cases call
  have same : ∀ i ∈ s.order, bytesOf { s with calls := s.calls ++ [⟨f, .select⟩] } i = s.bytesOf i := by
    intro i mem
    simp [bytesOf, List.getElem?_append_left (inv.known i mem)]
  refine ⟨fun i c call inside => ?_, fun i j c d ci dj ic id => ?_, fun i c rest call pc => ?_,
    fun i c call pc => ?_, fun i mem => ?_, inv.nodup, ?_⟩
  · rcases old i c call with call | ⟨-, rfl⟩
    · exact inv.locked i c call inside
    · cases inside
  · rcases old i c ci with ci | ⟨-, rfl⟩
    · rcases old j d dj with dj | ⟨-, rfl⟩
      · exact inv.alone i j c d ci dj ic id
      · cases id
    · cases ic
  · rcases old i c call with call | ⟨-, rfl⟩
    · exact inv.rest i c rest call pc
    · cases pc
  · rcases old i c call with call | ⟨rfl, -⟩
    · exact inv.unbegun i c call pc
    · exact fun mem => absurd (inv.known _ mem) (lt_irrefl _)
  · simpa using Nat.lt_succ_of_lt (inv.known i mem)
  · rw [List.flatMap_congr same]
    exact inv.bytes

theorem of_setCall {s : WriteLock} {i j : Nat} {c c' d : WriteCall} (call : s.calls[i]? = some c)
    (after : (s.setCall i c').calls[j]? = some d) :
    (j = i ∧ d = c') ∨ (j ≠ i ∧ s.calls[j]? = some d) := by
  rw [setCall_call call] at after
  split at after
  case isTrue same => exact .inl ⟨same, (Option.some.inj after).symm⟩
  case isFalse other => exact .inr ⟨other, after⟩

theorem Inv.lock {s : WriteLock} {i : Nat} {c : WriteCall} (inv : Inv s) (whole : s.missing = [])
    (call : s.calls[i]? = some c) (pc : c.pc = .select) (free : s.wLock = false) :
    Inv { s.setCall i { c with pc := .writing (frameBytes c.frame) } with wLock := true } := by
  have outside : ∀ (j : Nat) (d : WriteCall), s.calls[j]? = some d → ¬ d.inside := by
    intro j d at_j inside
    rw [inv.locked j d at_j inside] at free
    cases free
  refine ⟨fun _ _ _ _ => rfl, fun j k d e at_j at_k dj ek => ?_, fun j d rest at_j writing => ?_,
    fun j d at_j select => ?_, fun j mem => ?_, inv.nodup, ?_⟩
  · rcases of_setCall call at_j with ⟨rfl, -⟩ | ⟨-, at_j⟩
    · rcases of_setCall call at_k with ⟨rfl, -⟩ | ⟨-, at_k⟩
      · rfl
      · exact absurd ek (outside k e at_k)
    · exact absurd dj (outside j d at_j)
  · rcases of_setCall call at_j with ⟨rfl, rfl⟩ | ⟨-, at_j⟩
    · obtain rfl := WritePc.writing.inj writing
      exact .inl ⟨rfl, whole, inv.unbegun j c call pc⟩
    · exact absurd (by simp [WriteCall.inside, writing]) (outside j d at_j)
  · rcases of_setCall call at_j with ⟨rfl, rfl⟩ | ⟨-, at_j⟩
    · cases select
    · exact inv.unbegun j d at_j select
  · simpa [setCall] using inv.known j mem
  · have same := bytesOf_setCall call (.writing (frameBytes c.frame))
    exact inv.bytes.trans (congrArg s.order.flatMap same.symm)

theorem Inv.chunk {s : WriteLock} {i : Nat} {c : WriteCall} {rest : Bytes} (inv : Inv s)
    (call : s.calls[i]? = some c) (pc : c.pc = .writing rest) (more : 0 < rest.length) :
    Inv (s.writeChunk i c rest) := by
  have inside : c.inside := by simp [WriteCall.inside, pc]
  have only : ∀ (j : Nat) (d : WriteCall), s.calls[j]? = some d → d.inside → j = i :=
    fun j d at_j dj => inv.alone j i d c at_j call dj inside
  have same : (s.writeChunk i c rest).bytesOf = s.bytesOf :=
    bytesOf_setCall call (.writing (rest.drop maxChunk))
  have here : s.bytesOf i = frameBytes c.frame := by simp [bytesOf, call]
  have short : rest.length ≤ (frameBytes c.frame).length := by
    rcases inv.rest i c rest call pc with ⟨rfl, -, -⟩ | ⟨-, less⟩
    · exact le_rfl
    · exact less.le
  have begun : ∀ j, j ∈ (s.writeChunk i c rest).order → j ∈ s.order ∨ j = i := by
    intro j mem
    simp only [writeChunk] at mem
    split at mem
    · simpa using mem
    · exact .inl mem
  refine ⟨fun j d at_j dj => inv.locked i c call inside, fun j k d e at_j at_k dj ek => ?_,
    fun j d rest' at_j writing => ?_, fun j d at_j select => ?_, fun j mem => ?_, ?_, ?_⟩
  · have one : ∀ (j : Nat) (d : WriteCall), (s.writeChunk i c rest).calls[j]? = some d →
        d.inside → j = i := by
      intro j d at_j dj
      rcases of_setCall call at_j with ⟨same, -⟩ | ⟨-, at_j⟩
      · exact same
      · exact only j d at_j dj
    exact (one j d at_j dj).trans (one k e at_k ek).symm
  · rcases of_setCall call at_j with ⟨rfl, rfl⟩ | ⟨other, at_j⟩
    · obtain rfl := WritePc.writing.inj writing
      refine .inr ⟨rfl, ?_⟩
      simp only [List.length_drop, maxChunk]
      omega
    · exact absurd (only j d at_j (by simp [WriteCall.inside, writing])) other
  · rcases of_setCall call at_j with ⟨rfl, rfl⟩ | ⟨other, at_j⟩
    · cases select
    · intro mem
      rcases begun j mem with old | rfl
      · exact inv.unbegun j d at_j select old
      · exact other rfl
  · have lt : j < s.calls.length := by
      rcases begun j mem with old | rfl
      · exact inv.known j old
      · exact (List.getElem?_eq_some_iff.mp call).1
    simpa [writeChunk, setCall] using lt
  · simp only [writeChunk]
    split
    case isTrue whole =>
      have new : i ∉ s.order := by
        rcases inv.rest i c rest call pc with ⟨-, -, new⟩ | ⟨-, less⟩
        · exact new
        · rw [whole] at less
          exact absurd less (lt_irrefl _)
      simpa using List.Nodup.concat new inv.nodup
    case isFalse => exact inv.nodup
  · rw [same]
    simp only [writeChunk]
    rw [List.append_assoc, List.take_append_drop]
    rcases inv.rest i c rest call pc with ⟨rfl, done, -⟩ | ⟨rfl, less⟩
    · have before := inv.bytes
      rw [done, List.append_nil] at before
      simp [before, here]
    · have part : s.missing ≠ frameBytes c.frame := by
        intro whole
        rw [whole] at less
        exact absurd less (lt_irrefl _)
      rw [if_neg part]
      exact inv.bytes

theorem Inv.leave {s s' : WriteLock} {i : Nat} {c : WriteCall} {pc' : WritePc} (inv : Inv s)
    (call : s.calls[i]? = some c) (calls : s'.calls = (s.setCall i { c with pc := pc' }).calls)
    (same : s'.written = s.written ∧ s'.order = s.order ∧ s'.missing = s.missing)
    (next : (pc' = .returned ∧ (s'.wLock = s.wLock ∨ c.inside)) ∨
      ((pc' = .cancel ∨ pc' = .unlock) ∧ c.inside ∧ s'.wLock = s.wLock)) : Inv s' := by
  obtain ⟨written, order, missing⟩ := same
  have after : ∀ {j : Nat} {d : WriteCall}, s'.calls[j]? = some d →
      (j = i ∧ d = { c with pc := pc' }) ∨ (j ≠ i ∧ s.calls[j]? = some d) := by
    intro j d at_j
    rw [calls] at at_j
    exact of_setCall call at_j
  have still : ∀ {j : Nat} {d : WriteCall}, s'.calls[j]? = some d → d.inside →
      ∃ e, s.calls[j]? = some e ∧ e.inside ∧ s'.wLock = s.wLock := by
    intro j d at_j dj
    rcases after at_j with ⟨rfl, rfl⟩ | ⟨other, before⟩
    · rcases next with ⟨rfl, -⟩ | ⟨-, inside, wLock⟩
      · cases dj
      · exact ⟨c, call, inside, wLock⟩
    · refine ⟨d, before, dj, ?_⟩
      rcases next with ⟨-, wLock | inside⟩ | ⟨-, -, wLock⟩
      · exact wLock
      · exact absurd (inv.alone j i d c before call dj inside) other
      · exact wLock
  refine ⟨fun j d at_j dj => ?_, fun j k d e at_j at_k dj ek => ?_, fun j d rest at_j writing => ?_,
    fun j d at_j select => ?_, fun j mem => ?_, order ▸ inv.nodup, ?_⟩
  · obtain ⟨e, before, inside, wLock⟩ := still at_j dj
    rw [wLock]
    exact inv.locked j e before inside
  · obtain ⟨d', before, inside, -⟩ := still at_j dj
    obtain ⟨e', before', inside', -⟩ := still at_k ek
    exact inv.alone j k d' e' before before' inside inside'
  · rw [missing, order]
    rcases after at_j with ⟨-, rfl⟩ | ⟨-, before⟩
    · rcases next with ⟨rfl, -⟩ | ⟨rfl | rfl, -⟩ <;> cases writing
    · exact inv.rest j d rest before writing
  · rw [order]
    rcases after at_j with ⟨-, rfl⟩ | ⟨-, before⟩
    · rcases next with ⟨rfl, -⟩ | ⟨rfl | rfl, -⟩ <;> cases select
    · exact inv.unbegun j d before select
  · rw [calls]
    simpa [setCall] using inv.known j (order ▸ mem)
  · have bytes : s'.bytesOf = s.bytesOf := by
      rw [← bytesOf_setCall call pc']
      funext j
      simp only [bytesOf, calls]
    rw [written, missing, order, bytes]
    exact inv.bytes

theorem Inv.step {s s' : WriteLock} {a : WriteAction} (inv : Inv s) (notCut : NotCut s a)
    (m : Moves s a s') : Inv s' := by
  cases m with
  | call f => exact inv.call f
  | lock call pc free => exact inv.lock notCut call pc free
  | chunk call pc more => exact inv.chunk call pc more
  | leave _ ctxDone call next =>
    refine inv.leave call rfl ⟨rfl, rfl, rfl⟩ ?_
    rcases next with ⟨returned, -⟩ | ⟨later, inside⟩
    · exact .inl ⟨returned, .inl rfl⟩
    · exact .inr ⟨later, inside, rfl⟩
  | unlock call pc =>
    exact inv.leave call rfl ⟨rfl, rfl, rfl⟩ (.inl ⟨rfl, .inr (by simp [WriteCall.inside, pc])⟩)
  | cancelled => exact ⟨inv.locked, inv.alone, inv.rest, inv.unbegun, inv.known, inv.nodup, inv.bytes⟩

/-- If no call takes the lock behind a frame that was cut by a failed chunk, only whole frames go
up, but for the last. -/
theorem write_frames_whole {as : List WriteAction} {s : WriteLock}
    (notCut : Obeys step NotCut new as) (run : exec step new as = some s) : WholeFrames s := by
  have inv := exec_invariant_of_obeys Inv (fun s a t inv notCut taken => inv.step notCut (step_moves taken))
    (by constructor <;> simp [new]) notCut run
  exact ⟨s.order, inv.nodup, inv.known, ⟨s.missing, inv.bytes⟩⟩

/-- A call takes the lock and writes a frame of one chunk. -/
def writes (i : Nat) : List WriteAction := [.lock i, .chunk i, .advance i, .advance i]

def ping : VFrame := ⟨3, 0, []⟩

/-- A call takes the lock, and the second chunk of its frame fails. -/
def fails (i : Nat) : List WriteAction := [.lock i, .chunk i, .fail i, .advance i, .advance i]

/-- A ping goes up and a data frame is cut. The ping that comes then finds the client ended. -/
def endedRun : List WriteAction :=
  .call ping :: .call ⟨1, 0, List.replicate 2000 0⟩ :: writes 0 ++ fails 1 ++ [.call ping, .done 2]

theorem write_frames_whole_two : ∃ s, exec step new endedRun = some s ∧
    s.order = [0, 1] ∧ s.missing.length = 983 ∧ WholeFrames s := by
  have ends : (exec step new endedRun).map (fun s => (s.order, s.missing.length)) =
      some ([0, 1], 983) := by
    decide +kernel
  have notCut : Obeys step NotCut new endedRun := by decide +kernel
  obtain ⟨s, run, shape⟩ := Option.map_eq_some_iff.mp ends
  obtain ⟨order, missing⟩ : s.order = [0, 1] ∧ s.missing.length = 983 := by simpa using shape
  exact ⟨s, run, order, missing, write_frames_whole notCut run⟩

/-- A ping that was called before comes to its select behind the unlock, and takes the lock. -/
def cutRun : List WriteAction :=
  .call ⟨1, 0, List.replicate 2000 0⟩ :: .call ping :: fails 0 ++ writes 1

theorem write_frames_cut : ∃ s, exec step new cutRun = some s ∧ ¬ WholeFrames s := by
  have ends : (exec step new cutRun).map (fun s => ((s.calls.length, s.written.length),
      [s.written[0]?, s.written[maxChunk]?, (s.bytesOf 0)[maxChunk]?, (s.bytesOf 1)[0]?])) =
      some ((2, 1031), [some 1, some 3, some 0, some 3]) := by
    decide +kernel
  obtain ⟨s, run, seen⟩ := Option.map_eq_some_iff.mp ends
  simp only [Prod.mk.injEq, List.cons.injEq, and_true] at seen
  obtain ⟨⟨calls, length⟩, first, behind, data, ping⟩ := seen
  refine ⟨s, run, ?_⟩
  rintro ⟨order, nodup, known, rest, all⟩
  have at_n : ∀ n, n < 1031 → (order.flatMap s.bytesOf)[n]? = s.written[n]? := by
    intro n lt
    rw [← all, List.getElem?_append_left (by omega)]
  cases order with
  | nil =>
    have := at_n 0 (by decide)
    rw [first] at this
    cases this
  | cons i order =>
    have two : i < 2 := calls ▸ known i List.mem_cons_self
    rw [List.flatMap_cons] at at_n
    interval_cases i
    · -- behind the first chunk the frame goes on, where the command of the ping was written
      have := at_n maxChunk (by decide)
      rw [behind, List.getElem?_append_left (List.getElem?_eq_some_iff.mp data).1, data] at this
      simp at this
    · have := at_n 0 (by decide)
      rw [first, List.getElem?_append_left (List.getElem?_eq_some_iff.mp ping).1, ping] at this
      simp at this

end WriteLock

end EspNetwork.Ctrl
