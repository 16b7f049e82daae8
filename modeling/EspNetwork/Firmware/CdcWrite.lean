import EspNetwork.Base.Winding
import EspNetwork.Firmware.CmdTask
import EspNetwork.Serial.Cut

/-!
# Writing to USB under `s_cdc_mu`

`cdc_write_locked` of `main/esp32-network.c` with its callers. A frame goes to the driver in pieces,
each no longer than what the driver's buffer has room for; when the buffer is full it is flushed, and
a flush that fails gives the rest of the frame up. The mutex keeps the pieces of a frame together, so
the driver has the frames one behind the other in the order in which their callers took it, and all
of them whole as long as no flush inside the loop fails. So a call may as well write its frame in one
step, as the calls of `Mgr` do.
-/

namespace EspNetwork.Firmware

open Serial
open Schedule

/-- Where a call of `cdc_send_response` or `cdc_send_push` stands; `sent` is the variable of
`cdc_write_locked`. -/
inductive CdcPc where
  | take
  | loop (sent : ℕ)
  | flush (sent : ℕ)
  | lastFlush (sent : ℕ)
  | store (sent : ℕ)
  | give (sent : ℕ)
  | returned (sent : ℕ)
  deriving DecidableEq, Repr

/-- A call with the arguments of its builder. -/
structure CdcCall where
  frame : DeviceFrame
  pc : CdcPc

/-- What the builder has put into the buffer. -/
def CdcCall.buf (c : CdcCall) : Bytes := c.frame.build

/-- The mutex, the calls, the bytes the driver was given and the flag of the LED. For the record:
the calls that took the mutex, in that order. -/
structure Cdc where
  mu : Bool
  calls : List CdcCall
  fifo : Bytes
  dataActive : Bool
  order : List ℕ

inductive CdcAction where
  /-- A task has a frame to send; a builder that fails leaves nothing to write. -/
  | send (frame : DeviceFrame)
  | lock (i : ℕ)
  /-- The loop goes on: `available` is what `tud_cdc_n_write_available` returns. -/
  | write (i available : ℕ)
  | flushed (i : ℕ)
  | flushFailed (i : ℕ)
  | advance (i : ℕ)

namespace Cdc

def new : Cdc := ⟨false, [], [], false, []⟩

def setCall (s : Cdc) (i : ℕ) (c : CdcCall) : Cdc := { s with calls := s.calls.set i c }

/-- One round of the loop. -/
def writeRound (s : Cdc) (i available : ℕ) (c : CdcCall) (sent : ℕ) : Cdc :=
  if sent < c.buf.length then
    if available = 0 then s.setCall i { c with pc := .flush sent }
    else
      let chunk := min (c.buf.length - sent) available
      { s.setCall i { c with pc := .loop (sent + chunk) } with
        fifo := s.fifo ++ (c.buf.drop sent).take chunk }
  else s.setCall i { c with pc := .lastFlush sent }

def step (s : Cdc) : CdcAction → Option Cdc
  | .send frame =>
    some { s with
      calls := s.calls ++ [⟨frame, if frame.build.length = 0 then .returned 0 else .take⟩] }
  | .lock i => do
    let c ← s.calls[i]?
    if c.pc = .take ∧ s.mu = false then
      return { s.setCall i { c with pc := .loop 0 } with mu := true, order := s.order ++ [i] }
    else none
  | .write i available => do
    let c ← s.calls[i]?
    match c.pc with
    | .loop sent => return s.writeRound i available c sent
    | _ => none
  | .flushed i => do
    let c ← s.calls[i]?
    match c.pc with
    | .flush sent => return s.setCall i { c with pc := .loop sent }
    | _ => none
  | .flushFailed i => do
    let c ← s.calls[i]?
    match c.pc with
    | .flush sent => return s.setCall i { c with pc := .lastFlush sent }
    | _ => none
  | .advance i => do
    let c ← s.calls[i]?
    match c.pc with
    -- the last flush may fail too; nobody looks at its result
    | .lastFlush sent => return s.setCall i { c with pc := .store sent }
    | .store sent => return { s.setCall i { c with pc := .give sent } with dataActive := true }
    | .give sent => return { s.setCall i { c with pc := .returned sent } with mu := false }
    | _ => none

end Cdc

namespace CdcPc

/-- What the driver was given of the frame. -/
def sent : CdcPc → ℕ
  | .take => 0
  | .loop n | .flush n | .lastFlush n | .store n | .give n | .returned n => n

/-- Between the mutex being taken and given. -/
def inside : CdcPc → Bool
  | .take | .returned _ => false
  | _ => true

/-- The loop was left. -/
def left : CdcPc → Bool
  | .take | .loop _ | .flush _ => false
  | _ => true

end CdcPc

namespace Cdc

/-! ## What a step can do -/

/-- The transitions one by one. `finish` are those behind the loop. -/
inductive Moves (s : Cdc) : CdcAction → Cdc → Prop where
  | send (frame : DeviceFrame) : Moves s (.send frame) { s with
      calls := s.calls ++ [⟨frame, if frame.build.length = 0 then .returned 0 else .take⟩] }
  | lock {i : ℕ} {c : CdcCall} (call : s.calls[i]? = some c) (pc : c.pc = .take)
    (free : s.mu = false) :
    Moves s (.lock i)
      { s.setCall i { c with pc := .loop 0 } with mu := true, order := s.order ++ [i] }
  | full {i : ℕ} {c : CdcCall} {n : ℕ} (call : s.calls[i]? = some c) (pc : c.pc = .loop n)
    (more : n < c.buf.length) : Moves s (.write i 0) (s.setCall i { c with pc := .flush n })
  | write {i available : ℕ} {c : CdcCall} {n chunk : ℕ} (call : s.calls[i]? = some c)
    (pc : c.pc = .loop n) (room : chunk ≤ available) (rest : n + chunk ≤ c.buf.length) :
    Moves s (.write i available) { s.setCall i { c with pc := .loop (n + chunk) } with
      fifo := s.fifo ++ (c.buf.drop n).take chunk }
  | leave {i available : ℕ} {c : CdcCall} {n : ℕ} (call : s.calls[i]? = some c) (pc : c.pc = .loop n)
    (all : c.buf.length ≤ n) :
    Moves s (.write i available) (s.setCall i { c with pc := .lastFlush n })
  | flushed {i : ℕ} {c : CdcCall} {n : ℕ} (call : s.calls[i]? = some c) (pc : c.pc = .flush n) :
    Moves s (.flushed i) (s.setCall i { c with pc := .loop n })
  | flushFailed {i : ℕ} {c : CdcCall} {n : ℕ} (call : s.calls[i]? = some c) (pc : c.pc = .flush n) :
    Moves s (.flushFailed i) (s.setCall i { c with pc := .lastFlush n })
  | finish {i : ℕ} {c : CdcCall} {pc' : CdcPc} (dataActive : Bool) (call : s.calls[i]? = some c)
    (left : c.pc.left = true ∧ c.pc.inside = true)
    (same : pc'.left = true ∧ pc'.inside = true ∧ pc'.sent = c.pc.sent) :
    Moves s (.advance i) { s.setCall i { c with pc := pc' } with dataActive }
  | give {i : ℕ} {c : CdcCall} {n : ℕ} (call : s.calls[i]? = some c) (pc : c.pc = .give n) :
    Moves s (.advance i) { s.setCall i { c with pc := .returned n } with mu := false }

theorem step_moves {s s' : Cdc} {a : CdcAction} (h : s.step a = some s') : Moves s a s' := by
  cases a with
  | send frame =>
    obtain rfl := Option.some.inj h
    exact .send frame
  | lock i =>
    obtain ⟨c, call, h⟩ := Option.bind_eq_some_iff.mp h
    split_ifs at h with enabled
    obtain rfl := Option.some.inj h
    exact .lock call enabled.1 enabled.2
  | write i available =>
    obtain ⟨c, call, h⟩ := Option.bind_eq_some_iff.mp h
    cases pc : c.pc <;> simp only [pc, reduceCtorEq] at h
    case loop n =>
      obtain rfl := Option.some.inj h
      unfold writeRound
      split_ifs with more empty
      · subst empty
        exact .full call pc more
      · exact .write call pc (by omega) (by omega)
      · exact .leave call pc (by omega)
  | flushed i =>
    obtain ⟨c, call, h⟩ := Option.bind_eq_some_iff.mp h
    cases pc : c.pc <;> simp only [pc, reduceCtorEq] at h
    obtain rfl := Option.some.inj h
    exact .flushed call pc
  | flushFailed i =>
    obtain ⟨c, call, h⟩ := Option.bind_eq_some_iff.mp h
    cases pc : c.pc <;> simp only [pc, reduceCtorEq] at h
    obtain rfl := Option.some.inj h
    exact .flushFailed call pc
  | advance i =>
    obtain ⟨c, call, h⟩ := Option.bind_eq_some_iff.mp h
    cases pc : c.pc <;> simp only [pc, reduceCtorEq] at h
    case lastFlush n =>
      obtain rfl := Option.some.inj h
      exact .finish s.dataActive call (by simp [pc, CdcPc.left, CdcPc.inside])
        (by simp [pc, CdcPc.left, CdcPc.inside, CdcPc.sent])
    case store n =>
      obtain rfl := Option.some.inj h
      exact .finish true call (by simp [pc, CdcPc.left, CdcPc.inside])
        (by simp [pc, CdcPc.left, CdcPc.inside, CdcPc.sent])
    case give n =>
      obtain rfl := Option.some.inj h
      exact .give call pc

/-! ## The invariant -/

theorem setCall_call {s : Cdc} {i : ℕ} {c : CdcCall} (call : s.calls[i]? = some c) (c' : CdcCall)
    (j : ℕ) : (s.setCall i c').calls[j]? = if j = i then some c' else s.calls[j]? := by
  obtain ⟨bound, -⟩ := List.getElem?_eq_some_iff.mp call
  by_cases here : i = j
  · subst here
    simp [setCall, bound]
  · simp [setCall, here, Ne.symm here]

/-- What the driver was given by a call. -/
def bytesOf (s : Cdc) (i : ℕ) : Bytes :=
  match s.calls[i]? with
  | some c => c.buf.take c.pc.sent
  | none => []

structure Inv (s : Cdc) : Prop where
  holder : ∀ (i : ℕ) (c : CdcCall), s.calls[i]? = some c → c.pc.inside = true →
    s.mu = true ∧ s.order.getLast? = some i
  bound : ∀ c ∈ s.calls, c.pc.sent ≤ c.buf.length
  flushing : ∀ c ∈ s.calls, ∀ n, c.pc = .flush n → n < c.buf.length
  nodup : s.order.Nodup
  known : ∀ i ∈ s.order, ∃ c, s.calls[i]? = some c ∧ c.pc ≠ .take
  listed : ∀ (i : ℕ) (c : CdcCall), s.calls[i]? = some c → c.pc ≠ .take → c.buf ≠ [] → i ∈ s.order
  held : s.mu = true → ∃ (i : ℕ) (c : CdcCall), s.calls[i]? = some c ∧ c.pc.inside = true
  fifo : s.fifo = s.order.flatMap s.bytesOf

theorem bytesOf_setCall {s : Cdc} {i : ℕ} {c : CdcCall} (call : s.calls[i]? = some c)
    (c' : CdcCall) (j : ℕ) :
    (s.setCall i c').bytesOf j = if j = i then c'.buf.take c'.pc.sent else s.bytesOf j := by
  unfold bytesOf
  rw [setCall_call call]
  split_ifs <;> rfl

theorem mem_setCall {s : Cdc} {i : ℕ} {c' d : CdcCall} (mem : d ∈ (s.setCall i c').calls) :
    d ∈ s.calls ∨ d = c' := by
  rcases List.mem_or_eq_of_mem_set mem with old | new
  · exact .inl old
  · exact .inr new

/-- Only one call is inside. -/
theorem Inv.alone {s : Cdc} (inv : Inv s) {i j : ℕ} {c d : CdcCall} (call : s.calls[i]? = some c)
    (call' : s.calls[j]? = some d) (inside : c.pc.inside = true) (inside' : d.pc.inside = true) :
    i = j :=
  Option.some.inj ((inv.holder i c call inside).2.symm.trans (inv.holder j d call' inside').2)

theorem inside_ne_take {pc : CdcPc} (inside : pc.inside = true) : pc ≠ .take := by
  rintro rfl
  simp [CdcPc.inside] at inside

/-- A call that is inside goes on or leaves; nothing is given to the driver. -/
theorem Inv.update {s : Cdc} (inv : Inv s) {i : ℕ} {c : CdcCall} {pc' : CdcPc} {mu dataActive : Bool}
    (call : s.calls[i]? = some c) (inside : c.pc.inside = true) (sent : pc'.sent = c.pc.sent)
    (taken : pc' ≠ .take) (flush : ∀ n, pc' = .flush n → n < c.buf.length)
    (held : mu = pc'.inside) :
    Inv { s.setCall i { c with pc := pc' } with mu, dataActive } := by
  have mine := inv.holder i c call inside
  refine ⟨fun j d at_j inside' => ?_, fun d mem => ?_, fun d mem n pc => ?_, inv.nodup,
    fun j mem => ?_, fun j d at_j started filled => ?_, fun still => ?_, ?_⟩
  · change (s.setCall i _).calls[j]? = some d at at_j
    rw [setCall_call call] at at_j
    split_ifs at at_j with here
    · obtain rfl := Option.some.inj at_j
      exact ⟨held.trans inside', here ▸ mine.2⟩
    · exact absurd (inv.alone call at_j inside inside').symm here
  · rcases mem_setCall mem with old | rfl
    · exact inv.bound d old
    · exact sent.trans_le (inv.bound c (List.mem_of_getElem? call))
  · rcases mem_setCall mem with old | rfl
    · exact inv.flushing d old n pc
    · exact flush n pc
  · obtain ⟨d, at_j, pc⟩ := inv.known j mem
    change ∃ e, (s.setCall i _).calls[j]? = some e ∧ _
    rw [setCall_call call]
    split_ifs
    · exact ⟨_, rfl, taken⟩
    · exact ⟨d, at_j, pc⟩
  · change (s.setCall i _).calls[j]? = some d at at_j
    rw [setCall_call call] at at_j
    split_ifs at at_j with here
    · subst here
      exact List.mem_of_getLast? mine.2
    · exact inv.listed j d at_j started filled
  · refine ⟨i, { c with pc := pc' }, ?_, held.symm.trans still⟩
    exact (setCall_call call _ i).trans (if_pos rfl)
  · refine inv.fifo.trans (List.flatMap_congr fun j _ => ?_)
    change s.bytesOf j = (s.setCall i _).bytesOf j
    rw [bytesOf_setCall call]
    split_ifs with here
    · simp only [here, bytesOf, call, sent, CdcCall.buf]
    · rfl

theorem Inv.send {s : Cdc} (inv : Inv s) (frame : DeviceFrame) :
    Inv { s with
      calls := s.calls ++ [⟨frame, if frame.build.length = 0 then .returned 0 else .take⟩] } := by
  have old : ∀ {j : ℕ} {d : CdcCall}, s.calls[j]? = some d →
      (s.calls ++ [⟨frame, if frame.build.length = 0 then .returned 0 else .take⟩])[j]? =
        some d := by
    intro j d at_j
    obtain ⟨bound, -⟩ := List.getElem?_eq_some_iff.mp at_j
    rw [List.getElem?_append_left bound, at_j]
  have cases : ∀ {j : ℕ} {d : CdcCall},
      (s.calls ++ [⟨frame, if frame.build.length = 0 then .returned 0 else .take⟩])[j]? =
        some d → s.calls[j]? = some d ∨
          d = ⟨frame, if frame.build.length = 0 then .returned 0 else .take⟩ := by
    intro j d at_j
    by_cases within : j < s.calls.length
    · rw [List.getElem?_append_left within] at at_j
      exact .inl at_j
    · rw [List.getElem?_append_right (not_lt.mp within)] at at_j
      exact .inr (List.mem_singleton.mp (List.mem_of_getElem? at_j))
  refine ⟨fun j d at_j inside => ?_, fun d mem => ?_, fun d mem n pc => ?_, inv.nodup,
    fun j mem => ?_, fun j d at_j started filled => ?_, fun still => ?_, ?_⟩
  · rcases cases at_j with before | rfl
    · exact inv.holder j d before inside
    · simp only at inside
      split_ifs at inside <;> simp [CdcPc.inside] at inside
  · rcases List.mem_append.mp mem with before | new
    · exact inv.bound d before
    · obtain rfl := List.mem_singleton.mp new
      simp only
      split_ifs <;> simp [CdcPc.sent]
  · rcases List.mem_append.mp mem with before | new
    · exact inv.flushing d before n pc
    · obtain rfl := List.mem_singleton.mp new
      simp only at pc
      split_ifs at pc
  · obtain ⟨d, at_j, pc⟩ := inv.known j mem
    exact ⟨d, old at_j, pc⟩
  · rcases cases at_j with before | rfl
    · exact inv.listed j d before started filled
    · simp only at started
      split_ifs at started with empty
      · exact absurd (List.length_eq_zero_iff.mp empty) filled
      · exact absurd rfl started
  · obtain ⟨j, d, at_j, inside⟩ := inv.held still
    exact ⟨j, d, old at_j, inside⟩
  · refine inv.fifo.trans (List.flatMap_congr fun j mem => ?_)
    obtain ⟨d, at_j, -⟩ := inv.known j mem
    simp only [bytesOf, at_j, old at_j]

theorem Inv.lock {s : Cdc} (inv : Inv s) {i : ℕ} {c : CdcCall} (call : s.calls[i]? = some c)
    (pc : c.pc = .take) (free : s.mu = false) :
    Inv { s.setCall i { c with pc := .loop 0 } with mu := true, order := s.order ++ [i] } := by
  have outside : ∀ (j : ℕ) (d : CdcCall), s.calls[j]? = some d → d.pc.inside ≠ true := by
    intro j d at_j inside
    have held := (inv.holder j d at_j inside).1
    simp [free] at held
  have new : i ∉ s.order := fun mem => by
    obtain ⟨d, at_i, taken⟩ := inv.known i mem
    obtain rfl := Option.some.inj (call.symm.trans at_i)
    exact taken pc
  refine ⟨fun j d at_j inside => ?_, fun d mem => ?_, fun d mem n flush => ?_, ?_, fun j mem => ?_,
    fun j d at_j started filled => ?_, fun _ => ?_, ?_⟩
  · change (s.setCall i _).calls[j]? = some d at at_j
    rw [setCall_call call] at at_j
    split_ifs at at_j with here
    · exact ⟨rfl, by simp [here]⟩
    · exact absurd inside (outside j d at_j)
  · rcases mem_setCall mem with old | rfl
    · exact inv.bound d old
    · simp [CdcPc.sent]
  · rcases mem_setCall mem with old | rfl
    · exact inv.flushing d old n flush
    · simp at flush
  · refine List.nodup_append.mpr ⟨inv.nodup, by simp, fun j mem k last => ?_⟩
    obtain rfl := List.mem_singleton.mp last
    rintro rfl
    exact new mem
  · change ∃ e, (s.setCall i _).calls[j]? = some e ∧ _
    rw [setCall_call call]
    split_ifs with here
    · exact ⟨_, rfl, by simp⟩
    · rcases List.mem_append.mp mem with old | last
      · exact inv.known j old
      · exact absurd (List.mem_singleton.mp last) here
  · change (s.setCall i _).calls[j]? = _ at at_j
    rw [setCall_call call] at at_j
    split_ifs at at_j with here
    · simp [here]
    · exact List.mem_append_left _ (inv.listed j d at_j started filled)
  · exact ⟨i, _, (setCall_call call _ i).trans (if_pos rfl), rfl⟩
  · have same : ∀ j ∈ s.order, s.bytesOf j =
        (s.setCall i { c with pc := .loop 0 }).bytesOf j := fun j mem => by
      rw [bytesOf_setCall call, if_neg]
      rintro rfl
      exact new mem
    have nothing : (s.setCall i { c with pc := .loop 0 }).bytesOf i = [] := by
      rw [bytesOf_setCall call, if_pos rfl]
      rfl
    change s.fifo = (s.order ++ [i]).flatMap (s.setCall i { c with pc := .loop 0 }).bytesOf
    rw [List.flatMap_append, List.flatMap_singleton, nothing, List.append_nil, inv.fifo]
    exact List.flatMap_congr same

/-- A piece goes to the driver behind everything else: the call is the last one to take the mutex. -/
theorem Inv.write {s : Cdc} (inv : Inv s) {i n chunk : ℕ} {c : CdcCall}
    (call : s.calls[i]? = some c) (pc : c.pc = .loop n) (rest : n + chunk ≤ c.buf.length) :
    Inv { s.setCall i { c with pc := .loop (n + chunk) } with
      fifo := s.fifo ++ (c.buf.drop n).take chunk } := by
  have inside : c.pc.inside = true := by rw [pc]; rfl
  have mine := inv.holder i c call inside
  refine ⟨fun j d at_j inside' => ?_, fun d mem => ?_, fun d mem m flush => ?_, inv.nodup,
    fun j mem => ?_, fun j d at_j started filled => ?_, fun _ => ?_, ?_⟩
  · change (s.setCall i _).calls[j]? = some d at at_j
    rw [setCall_call call] at at_j
    split_ifs at at_j with here
    · exact here ▸ mine
    · exact absurd (inv.alone call at_j inside inside').symm here
  · rcases mem_setCall mem with old | rfl
    · exact inv.bound d old
    · exact rest
  · rcases mem_setCall mem with old | rfl
    · exact inv.flushing d old m flush
    · simp at flush
  · obtain ⟨d, at_j, taken⟩ := inv.known j mem
    change ∃ e, (s.setCall i _).calls[j]? = some e ∧ _
    rw [setCall_call call]
    split_ifs
    · exact ⟨_, rfl, by simp⟩
    · exact ⟨d, at_j, taken⟩
  · change (s.setCall i _).calls[j]? = _ at at_j
    rw [setCall_call call] at at_j
    split_ifs at at_j with here
    · subst here
      exact List.mem_of_getLast? mine.2
    · exact inv.listed j d at_j started filled
  · exact ⟨i, _, (setCall_call call _ i).trans (if_pos rfl), rfl⟩
  · obtain ⟨front, order⟩ := List.getLast?_eq_some_iff.mp mine.2
    have fresh : i ∉ front := by
      have nodup := inv.nodup
      rw [order, List.nodup_append] at nodup
      exact fun mem => nodup.2.2 i mem i (by simp) rfl
    have same : ∀ j ∈ front, s.bytesOf j =
        (s.setCall i { c with pc := .loop (n + chunk) }).bytesOf j := fun j mem => by
      rw [bytesOf_setCall call, if_neg]
      rintro rfl
      exact fresh mem
    have before : s.bytesOf i = c.buf.take n := by simp only [bytesOf, call, pc, CdcPc.sent]
    have after : (s.setCall i { c with pc := .loop (n + chunk) }).bytesOf i =
        c.buf.take n ++ (c.buf.drop n).take chunk := by
      rw [bytesOf_setCall call, if_pos rfl, ← List.take_add]
      rfl
    have fifo := inv.fifo
    rw [order, List.flatMap_append, List.flatMap_singleton, before] at fifo
    change s.fifo ++ (c.buf.drop n).take chunk =
      s.order.flatMap (s.setCall i { c with pc := .loop (n + chunk) }).bytesOf
    rw [order, List.flatMap_append, List.flatMap_singleton, after, fifo, List.append_assoc]
    exact congrArg (· ++ _) (List.flatMap_congr same)

theorem inv_new : Inv new := by
  constructor <;> simp [new]

theorem Inv.step {s s' : Cdc} {a : CdcAction} (inv : Inv s) (h : Moves s a s') : Inv s' := by
  cases h with
  | send frame => exact inv.send frame
  | lock call pc free => exact inv.lock call pc free
  | full call pc more =>
    refine inv.update call (by rw [pc]; rfl) (by rw [pc]; rfl) (by simp) ?_
      (inv.holder _ _ call (by rw [pc]; rfl)).1
    rintro m flush
    obtain rfl := CdcPc.flush.inj flush
    exact more
  | write call pc room rest => exact inv.write call pc rest
  | leave call pc all | flushed call pc | flushFailed call pc =>
    exact inv.update call (by rw [pc]; rfl) (by rw [pc]; rfl) (by simp) (by simp)
      (inv.holder _ _ call (by rw [pc]; rfl)).1
  | finish dataActive call left same =>
    obtain ⟨left', inside, sent⟩ := same
    refine inv.update call left.2 sent (inside_ne_take inside) ?_
      ((inv.holder _ _ call left.2).1.trans inside.symm)
    rintro m rfl
    simp [CdcPc.left] at left'
  | give call pc =>
    exact inv.update call (by rw [pc]; rfl) (by rw [pc]; rfl) (by simp) (by simp) rfl

/-! ## Whole frames -/

/-- Every call that is through with its loop has given its whole frame to the driver. -/
def WholeFrames (s : Cdc) : Prop :=
  ∀ (i : ℕ) (c : CdcCall), s.calls[i]? = some c → c.pc.left = true → c.pc.sent = c.buf.length

theorem WholeFrames.update {s s' : Cdc} {i : ℕ} {c c' : CdcCall} (call : s.calls[i]? = some c)
    (calls : s'.calls = s.calls.set i c')
    (same : (c'.pc.left = true → c'.pc.sent = c'.buf.length) ↔
      (c.pc.left = true → c.pc.sent = c.buf.length)) : WholeFrames s' ↔ WholeFrames s := by
  have at_j : ∀ j : ℕ, s'.calls[j]? = if j = i then some c' else s.calls[j]? := by
    intro j
    rw [calls]
    exact setCall_call call c' j
  constructor
  · intro whole j d call' left
    by_cases here : j = i
    · subst here
      obtain rfl := Option.some.inj (call.symm.trans call')
      exact same.mp (whole j c' (by rw [at_j, if_pos rfl])) left
    · exact whole j d (by rw [at_j, if_neg here, call']) left
  · intro whole j d call' left
    rw [at_j] at call'
    split_ifs at call' with here
    · obtain rfl := Option.some.inj call'
      exact same.mpr (whole i c call) left
    · exact whole j d call' left

/-- A flush that fails in the loop gives a frame up, and nothing else does. -/
theorem wholeFrames_step {s s' : Cdc} {a : CdcAction} (inv : Inv s) (h : Moves s a s') :
    WholeFrames s' ↔ WholeFrames s ∧ ∀ i, a ≠ .flushFailed i := by
  suffices keeps : (∀ i, a ≠ .flushFailed i) → (WholeFrames s' ↔ WholeFrames s) by
    by_cases failed : ∃ i, a = .flushFailed i
    · obtain ⟨i, rfl⟩ := failed
      refine iff_of_false (fun whole => ?_) fun both => both.2 i rfl
      cases h with
      | flushFailed call pc =>
        rename_i c n
        have all := whole i { c with pc := .lastFlush n } ((setCall_call call _ i).trans (if_pos rfl))
          rfl
        exact absurd all (inv.flushing c (List.mem_of_getElem? call) n pc).ne
    · have other : ∀ i, a ≠ .flushFailed i := fun i eq => failed ⟨i, eq⟩
      rw [keeps other, and_iff_left other]
  intro other
  cases h with
  | send frame =>
    constructor
    · intro whole i c call left
      obtain ⟨bound, -⟩ := List.getElem?_eq_some_iff.mp call
      exact whole i c (by rw [List.getElem?_append_left bound, call]) left
    · intro whole i c call left
      by_cases within : i < s.calls.length
      · rw [List.getElem?_append_left within] at call
        exact whole i c call left
      · rw [List.getElem?_append_right (not_lt.mp within)] at call
        obtain rfl := List.mem_singleton.mp (List.mem_of_getElem? call)
        simp only at left ⊢
        split_ifs at left ⊢ with empty
        · exact empty.symm
        · simp [CdcPc.left] at left
  | lock call pc =>
    refine WholeFrames.update call rfl ?_
    simp [pc, CdcPc.left]
  | full call pc | write call pc | flushed call pc =>
    refine WholeFrames.update call rfl ?_
    simp [pc, CdcPc.left]
  | leave call pc all =>
    refine WholeFrames.update call rfl ?_
    have bound := inv.bound _ (List.mem_of_getElem? call)
    rw [pc] at bound
    exact iff_of_true (fun _ => le_antisymm bound all) (by simp [pc, CdcPc.left])
  | flushFailed => exact absurd rfl (other _)
  | finish dataActive call left same =>
    refine WholeFrames.update call rfl ?_
    simp only [same.1, same.2.2, left.1]
    rfl
  | give call pc =>
    refine WholeFrames.update call rfl ?_
    simp only [pc]
    rfl

/-! ## What the driver was given -/

/-- The frames that the driver has completely, in the order in which their calls took the mutex. -/
def written (s : Cdc) : List DeviceFrame :=
  s.order.filterMap fun i => (s.calls[i]?).bind fun c =>
    if c.pc.sent = c.buf.length then some c.frame else none

/-- The driver was given whole frames, and behind them the beginning of at most one more. -/
theorem Inv.split {s : Cdc} (inv : Inv s) (whole : WholeFrames s) :
    ∃ torso, s.fifo = (s.written.map DeviceFrame.build).flatten ++ torso ∧
      (torso = [] ∨ ∃ c ∈ s.calls, torso <+: c.buf ∧ torso ≠ c.buf) := by
  have through : ∀ i ∈ s.order, s.order.getLast? ≠ some i →
      ∃ c, s.calls[i]? = some c ∧ c.pc.sent = c.buf.length := by
    intro i mem before
    obtain ⟨c, call, taken⟩ := inv.known i mem
    have outside : c.pc.inside ≠ true := fun inside => before (inv.holder i c call inside).2
    refine ⟨c, call, whole i c call ?_⟩
    cases pc : c.pc <;> simp [pc, CdcPc.inside, CdcPc.left] at taken outside ⊢
  have frames : ∀ is : List ℕ, (∀ i ∈ is, ∃ c, s.calls[i]? = some c ∧ c.pc.sent = c.buf.length) →
      is.flatMap s.bytesOf = ((is.filterMap fun i => (s.calls[i]?).bind fun c =>
        if c.pc.sent = c.buf.length then some c.frame else none).map DeviceFrame.build).flatten := by
    intro is
    induction is with
    | nil => intro _; rfl
    | cons i is ih =>
      intro all
      obtain ⟨c, call, sent⟩ := all i List.mem_cons_self
      have rest := ih fun j mem => all j (List.mem_cons_of_mem _ mem)
      rw [List.flatMap_cons, rest]
      simp only [bytesOf, call, sent, List.take_length, Option.bind_some, if_true,
        List.filterMap_cons, List.map_cons, List.flatten_cons]
      rfl
  cases last : s.order.getLast? with
  | none =>
    have empty : s.order = [] := List.getLast?_eq_none_iff.mp last
    exact ⟨[], by simp [inv.fifo, written, empty], .inl rfl⟩
  | some i =>
    obtain ⟨front, order⟩ := List.getLast?_eq_some_iff.mp last
    have nodup := inv.nodup
    rw [order, List.nodup_append] at nodup
    have before := frames front fun j mem => by
      refine through j (by simp [order, mem]) fun same => ?_
      obtain rfl : i = j := by simpa [order] using same
      exact nodup.2.2 i mem i (by simp) rfl
    obtain ⟨c, call, -⟩ := inv.known i (by simp [order])
    have fifo := inv.fifo
    rw [order, List.flatMap_append, List.flatMap_singleton, before] at fifo
    by_cases all : c.pc.sent = c.buf.length
    · refine ⟨[], ?_, .inl rfl⟩
      rw [fifo, written, order, List.filterMap_append]
      simp [bytesOf, call, all]
      rfl
    · refine ⟨c.buf.take c.pc.sent, ?_, .inr ⟨c, List.mem_of_getElem? call, List.take_prefix _ _,
        fun same => all ?_⟩⟩
      · rw [fifo, written, order, List.filterMap_append]
        simp [bytesOf, call, all]
      · have length := congrArg List.length same
        have bound := inv.bound c (List.mem_of_getElem? call)
        rw [List.length_take] at length
        omega

theorem inv_of_exec {as : List CdcAction} {s : Cdc} (run : exec step new as = some s) : Inv s :=
  exec_invariant Inv (fun _ _ _ inv taken => inv.step (step_moves taken)) inv_new run

theorem mem_written {s : Cdc} {o : DeviceFrame} (mem : o ∈ s.written) : ∃ c ∈ s.calls, c.frame = o := by
  obtain ⟨i, -, found⟩ := List.mem_filterMap.mp mem
  obtain ⟨c, call, own⟩ := Option.bind_eq_some_iff.mp found
  split_ifs at own
  exact ⟨c, List.mem_of_getElem? call, Option.some.inj own⟩

/-- A frame that its call is through with is among those the driver has. -/
theorem Inv.mem_written {s : Cdc} (inv : Inv s) (whole : WholeFrames s) {c : CdcCall}
    (mem : c ∈ s.calls) (filled : c.buf ≠ []) (left : c.pc.left = true) : c.frame ∈ s.written := by
  obtain ⟨i, call⟩ := List.mem_iff_getElem?.mp mem
  have started : c.pc ≠ .take := by
    rintro pc
    simp [pc, CdcPc.left] at left
  refine List.mem_filterMap.mpr ⟨i, inv.listed i c call started filled, ?_⟩
  rw [call, Option.bind_some, if_pos (whole i c call left)]

/-! ## A write in one step -/

/-- The last call to take the mutex comes last. -/
theorem written_append {s : Cdc} {front : List ℕ} {i : ℕ} {c : CdcCall}
    (order : s.order = front ++ [i]) (call : s.calls[i]? = some c) :
    s.written = (front.filterMap fun j => (s.calls[j]?).bind fun c =>
      if c.pc.sent = c.buf.length then some c.frame else none) ++
        if c.pc.sent = c.buf.length then [c.frame] else [] := by
  rw [written, order, List.filterMap_append]
  split_ifs with all <;> simp [call, all]

/-- That call moves, and the others stay. -/
theorem written_set {s s' : Cdc} {front : List ℕ} {i : ℕ} {c c' : CdcCall}
    (call : s.calls[i]? = some c) (new : i ∉ front) (order : s'.order = front ++ [i])
    (calls : s'.calls = s.calls.set i c') (frame : c'.frame = c.frame) :
    s'.written = (front.filterMap fun j => (s.calls[j]?).bind fun c =>
      if c.pc.sent = c.buf.length then some c.frame else none) ++
        if c'.pc.sent = c.buf.length then [c.frame] else [] := by
  have at_j : ∀ j : ℕ, s'.calls[j]? = if j = i then some c' else s.calls[j]? := by
    intro j
    rw [calls]
    exact setCall_call call c' j
  have buf : c'.buf = c.buf := congrArg DeviceFrame.build frame
  rw [written_append order (by rw [at_j, if_pos rfl]), buf, frame]
  refine congrArg (· ++ _) (List.filterMap_congr fun j mem => ?_)
  rw [at_j, if_neg]
  rintro rfl
  exact new mem

/-- The driver has one more whole frame after a step, or none. -/
theorem Inv.written_step {s s' : Cdc} {a : CdcAction} (inv : Inv s) (h : Moves s a s') :
    s'.written = s.written ∨ ∃ c ∈ s.calls, s'.written = s.written ++ [c.frame] := by
  have goes : ∀ {i : ℕ} {c c' : CdcCall}, s.calls[i]? = some c → c.pc.inside = true →
      s'.order = s.order → s'.calls = s.calls.set i c' → c'.frame = c.frame →
      (c.pc.sent = c.buf.length → c'.pc.sent = c.buf.length) →
      s'.written = s.written ∨ ∃ c ∈ s.calls, s'.written = s.written ++ [c.frame] := by
    intro i c c' call inside order calls frame stays
    obtain ⟨front, last⟩ := List.getLast?_eq_some_iff.mp (inv.holder i c call inside).2
    have nodup := inv.nodup
    rw [last, List.nodup_append] at nodup
    have new : i ∉ front := fun mem => nodup.2.2 i mem i (by simp) rfl
    rw [written_set call new (order.trans last) calls frame, written_append last call]
    by_cases all : c.pc.sent = c.buf.length
    · rw [if_pos all, if_pos (stays all)]
      exact .inl rfl
    · rw [if_neg all, List.append_nil]
      split_ifs
      · exact .inr ⟨c, List.mem_of_getElem? call, rfl⟩
      · exact .inl (List.append_nil _)
  cases h with
  | send frame =>
    refine .inl (List.filterMap_congr fun j mem => ?_)
    obtain ⟨d, at_j, -⟩ := inv.known j mem
    obtain ⟨bound, -⟩ := List.getElem?_eq_some_iff.mp at_j
    rw [List.getElem?_append_left bound]
  | @lock i c call pc free =>
    have new : i ∉ s.order := fun mem => by
      obtain ⟨d, at_i, taken⟩ := inv.known i mem
      obtain rfl := Option.some.inj (call.symm.trans at_i)
      exact taken pc
    have more : ({ s.setCall i { c with pc := .loop 0 } with
        mu := true, order := s.order ++ [i] } : Cdc).written = s.written ++ _ :=
      written_set call new rfl rfl rfl
    rw [more]
    split_ifs
    · exact .inr ⟨c, List.mem_of_getElem? call, rfl⟩
    · exact .inl (List.append_nil _)
  | full call pc | flushed call pc | flushFailed call pc | leave call pc | give call pc =>
    exact goes call (by rw [pc]; rfl) rfl rfl rfl (by rw [pc]; exact id)
  | write call pc room rest =>
    refine goes call (by rw [pc]; rfl) rfl rfl rfl fun all => ?_
    simp only [pc, CdcPc.sent] at all ⊢
    omega
  | finish dataActive call left same =>
    exact goes call left.2 rfl rfl rfl (by rw [same.2.2]; exact id)

/-- What the tasks send: the response of a handler, or a push. -/
inductive CdcSend where
  | response (f : ProtoFrame) (a : Answer)
  | push (cmd : Byte) (data : Option Bytes)

def CdcSend.frame : CdcSend → DeviceFrame
  | .response f a => .response f.seq f.cmd a.status a.data respBufSize
  | .push cmd data => .push cmd data pushBufSize

/-- The call in one step. -/
def CdcSend.write (m : Mgr) : CdcSend → Mgr
  | .response f a => m.cdcSendResponse f a
  | .push cmd data => m.cdcSendPush cmd data true

theorem CdcSend.write_usb (m : Mgr) (w : CdcSend) : (w.write m).usb = m.usb ++ [w.frame] := by
  cases w <;> simp [write, frame, Mgr.cdcSendResponse, Mgr.cdcSendPush]

/-- The frames that are sent are those of the tasks. -/
def Made : CdcAction → Prop
  | .send frame => ∃ w : CdcSend, w.frame = frame
  | _ => True

theorem made_step {s s' : Cdc} {a : CdcAction} (made : ∀ c ∈ s.calls, ∃ w : CdcSend, w.frame = c.frame)
    (sends : Made a) (h : Moves s a s') : ∀ c ∈ s'.calls, ∃ w : CdcSend, w.frame = c.frame := by
  have goes : ∀ {i : ℕ} {c c' : CdcCall}, s.calls[i]? = some c → c'.frame = c.frame →
      ∀ d ∈ s.calls.set i c', ∃ w : CdcSend, w.frame = d.frame := by
    intro i c c' call frame d mem
    rcases List.mem_or_eq_of_mem_set mem with old | rfl
    · exact made d old
    · rw [frame]
      exact made c (List.mem_of_getElem? call)
  cases h with
  | send frame =>
    intro d mem
    rcases List.mem_append.mp mem with old | new
    · exact made d old
    · obtain rfl := List.mem_singleton.mp new
      exact sends
  | lock call | full call | write call | leave call | flushed call | flushFailed call
  | finish _ call | give call =>
    exact goes call rfl

/-- **The loop writes what one step would write.** In every run the frames that the driver has whole
are what the same calls in one step each make of USB, and as long as no frame was given up the driver
has nothing else, but for the beginning of one more. -/
theorem written_one_step {as : List CdcAction} {s : Cdc} {m : Mgr} (fresh : m.usb = [])
    (sends : Obeys step (fun _ a => Made a) new as) (run : exec step new as = some s) :
    ∃ ws : List CdcSend, (ws.foldl CdcSend.write m).usb = s.written ∧
      (WholeFrames s → ∃ torso,
        s.fifo = ((ws.foldl CdcSend.write m).usb.map DeviceFrame.build).flatten ++ torso ∧
        (torso = [] ∨ ∃ c ∈ s.calls, torso <+: c.buf ∧ torso ≠ c.buf)) := by
  have all := exec_invariant_of_obeys
    (fun s => Inv s ∧ (∀ c ∈ s.calls, ∃ w : CdcSend, w.frame = c.frame) ∧
      ∃ ws : List CdcSend, (ws.foldl CdcSend.write m).usb = s.written) ?_
    ⟨inv_new, by simp [new], [], by simpa [written, new] using fresh⟩ sends run
  · obtain ⟨inv, -, ws, same⟩ := all
    refine ⟨ws, same, fun whole => ?_⟩
    rw [same]
    exact inv.split whole
  · rintro s a t ⟨inv, made, ws, same⟩ sends taken
    have moves := step_moves taken
    refine ⟨inv.step moves, made_step made sends moves, ?_⟩
    rcases inv.written_step moves with still | ⟨c, mem, more⟩
    · exact ⟨ws, same.trans still.symm⟩
    · obtain ⟨w, frame⟩ := made c mem
      refine ⟨ws ++ [w], ?_⟩
      rw [List.foldl_append, List.foldl_cons, List.foldl_nil, CdcSend.write_usb, same, frame, more]

/-! ## No call waits forever -/

/-- How far a call is from its return. -/
def roundsLeft (c : CdcCall) : ℕ :=
  match c.pc with
  | .take => 7
  | .flush _ => 6
  | .loop n => if n < c.buf.length then 5 else 4
  | .lastFlush _ => 3
  | .store _ => 2
  | .give _ => 1
  | .returned _ => 0

def work (s : Cdc) : ℕ := (s.calls.map roundsLeft).sum

theorem work_setCall {calls : List CdcCall} {i : ℕ} {c c' : CdcCall} (call : calls[i]? = some c)
    (less : roundsLeft c' < roundsLeft c) :
    ((calls.set i c').map roundsLeft).sum < (calls.map roundsLeft).sum := by
  have sum := sum_map_set roundsLeft call c'
  omega

/-- The call that has the mutex can go on; if none has it, one that waits for it can take it. -/
theorem Inv.progress {s : Cdc} (inv : Inv s) (busy : ¬ ∀ c ∈ s.calls, ∃ n, c.pc = .returned n) :
    ∃ a s', (∀ i, a ≠ .flushFailed i) ∧ s.step a = some s' ∧ Inv s' ∧ s'.work < s.work := by
  have goes : ∀ a s', (∀ i, a ≠ .flushFailed i) → s.step a = some s' → s'.work < s.work →
      ∃ a s', (∀ i, a ≠ .flushFailed i) ∧ s.step a = some s' ∧ Inv s' ∧ s'.work < s.work :=
    fun a s' calm taken less => ⟨a, s', calm, taken, inv.step (step_moves taken), less⟩
  cases mu : s.mu with
  | false =>
    push Not at busy
    obtain ⟨c, mem, running⟩ := busy
    obtain ⟨i, call⟩ := List.mem_iff_getElem?.mp mem
    have waits : c.pc = .take := by
      have outside : c.pc.inside ≠ true := fun inside => by
        have held := (inv.holder i c call inside).1
        simp [mu] at held
      cases pc : c.pc <;> simp [pc, CdcPc.inside] at running outside ⊢
    refine goes (.lock i) _ (by simp) (by simp [Cdc.step, call, waits, mu]; rfl) ?_
    exact work_setCall call (by simp only [roundsLeft, waits]; split <;> omega)
  | true =>
    obtain ⟨i, c, call, inside⟩ := inv.held mu
    cases pc : c.pc with
    | take | returned n => simp [pc, CdcPc.inside] at inside
    | loop n =>
      have bound := inv.bound c (List.mem_of_getElem? call)
      simp only [pc, CdcPc.sent] at bound
      by_cases more : n < c.buf.length
      · refine goes (.write i c.buf.length) (s.writeRound i c.buf.length c n) (by simp)
          (by simp only [Cdc.step, call, Option.bind_eq_bind, Option.bind_some, pc]; rfl) ?_
        have filled : c.buf.length ≠ 0 := by omega
        have all : n + min (c.buf.length - n) c.buf.length = c.buf.length := by omega
        rw [writeRound, if_pos more, if_neg filled]
        refine work_setCall call ?_
        have before : roundsLeft c = 5 := by simp only [roundsLeft, pc, if_pos more]
        have after : roundsLeft { c with pc := .loop c.buf.length } = 4 := by
          simp only [roundsLeft, CdcCall.buf, lt_irrefl, if_false]
        rw [all, before, after]
        omega
      · refine goes (.write i 0) (s.writeRound i 0 c n) (by simp)
          (by simp only [Cdc.step, call, Option.bind_eq_bind, Option.bind_some, pc]; rfl) ?_
        rw [writeRound, if_neg more]
        refine work_setCall call ?_
        simp only [roundsLeft, pc, if_neg more]
        omega
    | flush n =>
      refine goes (.flushed i) _ (by simp)
        (by simp only [Cdc.step, call, Option.bind_eq_bind, Option.bind_some, pc]; rfl) ?_
      refine work_setCall call ?_
      simp only [roundsLeft, pc]
      split <;> omega
    | lastFlush n | store n | give n =>
      refine goes (.advance i) _ (by simp)
        (by simp only [Cdc.step, call, Option.bind_eq_bind, Option.bind_some, pc]; rfl) ?_
      exact work_setCall call (by simp only [roundsLeft, pc]; omega)

/-! ## Runs -/

/-- **The frames the device writes reach the driver whole and one after the other.** In every run, no
frame was given up exactly if no flush failed while a frame was not through. Then the driver has the
frames of all calls that are through, in the order in which they took the mutex, with the beginning of
at most one more behind them, and whatever the host has read of them, in any chunks, it has parsed as
these frames. And no call waits forever. -/
theorem cdc_frames_whole {as : List CdcAction} {s : Cdc} (run : exec step new as = some s) :
    (WholeFrames s ↔ Obeys step (fun _ a => ∀ i, a ≠ .flushFailed i) new as) ∧
    (WholeFrames s → ∃ torso, s.fifo = (s.written.map DeviceFrame.build).flatten ++ torso ∧
      (torso = [] ∨ ∃ c ∈ s.calls, torso <+: c.buf ∧ torso ≠ c.buf)) ∧
    (WholeFrames s → (∀ c ∈ s.calls, c.frame.WellFormed) →
      (∀ c ∈ s.calls, c.pc.left = true → c.frame ∈ s.written) ∧
      ∀ chunks : List Bytes, chunks.flatten <+: s.fifo →
        (newParser.feedAll chunks).2 <+: s.written.map DeviceFrame.hostFrame ∧
        (chunks.flatten = s.fifo →
          (newParser.feedAll chunks).2 = s.written.map DeviceFrame.hostFrame)) ∧
    ∃ as' s', Obeys step (fun _ a => ∀ i, a ≠ .flushFailed i) s as' ∧ exec step s as' = some s' ∧
      ∀ c ∈ s'.calls, ∃ n, c.pc = .returned n := by
  have inv := inv_of_exec run
  refine ⟨?_, inv.split, fun whole wellFormed => ⟨fun c mem left => ?_, fun chunks read => ?_⟩, ?_⟩
  · have exact_run := iff_obeys (G := fun _ a => ∀ i, a ≠ .flushFailed i) Inv WholeFrames
      (fun _ _ _ inv taken => inv.step (step_moves taken))
      (fun _ _ _ inv taken => wholeFrames_step inv (step_moves taken)) inv_new run
    rw [exact_run, and_iff_right]
    simp [WholeFrames, new]
  · refine inv.mem_written whole mem ?_ left
    rw [CdcCall.buf, (wellFormed c mem).build_eq]
    simp [encodeFrame, sealFrame]
  · have each : ∀ o ∈ s.written, o.WellFormed := fun o mem => by
      obtain ⟨c, known, rfl⟩ := mem_written mem
      exact wellFormed c known
    have built : s.written.map DeviceFrame.build =
        (s.written.map DeviceFrame.wireFrame).map encodeFrame := by
      rw [List.map_map]
      exact List.map_congr_left fun o mem => (each o mem).build_eq
    have seen : (s.written.map DeviceFrame.wireFrame).map hostView =
        s.written.map DeviceFrame.hostFrame := by
      rw [List.map_map]
      exact List.map_congr_left fun o mem => (each o mem).hostView_eq
    have fits : ∀ f ∈ s.written.map DeviceFrame.wireFrame, f.payload.length ≤ protoMaxPayload := by
      intro f mem
      obtain ⟨o, ho, rfl⟩ := List.mem_map.mp mem
      exact (each o ho).fits
    obtain ⟨torso, fifo, rest⟩ := inv.split whole
    rw [built] at fifo
    rw [fifo] at read ⊢
    rw [← seen]
    obtain ⟨f, fits', cut, short⟩ : ∃ f : ProtoFrame, f.payload.length ≤ protoMaxPayload ∧
        torso <+: encodeFrame f ∧ torso ≠ encodeFrame f := by
      rcases rest with rfl | ⟨c, mem, cut, short⟩
      · refine ⟨⟨0, 0, []⟩, by simp, List.nil_prefix, ?_⟩
        simp [encodeFrame, sealFrame]
      · have wf := wellFormed c mem
        rw [CdcCall.buf, wf.build_eq] at cut short
        exact ⟨_, wf.fits, cut, short⟩
    exact feedAll_cut fits fits' cut short read
  · exact exec_until work (fun _ inv busy => inv.progress busy) inv

deriving instance DecidableEq for DeviceFrame

/-- Two tasks at once: a response and `CMD_PROXY_DATA_PUSH`, which has to wait for room in the
driver's buffer. -/
def twoTasks : List CdcAction :=
  [.send (.response 7 1 0 (some [80]) 64), .send (.push 0x40 (some [1, 2]) 64), .lock 1, .write 1 4,
    .write 1 0, .flushed 1, .write 1 64, .write 1 64, .advance 1, .advance 1, .advance 1, .lock 0,
    .write 0 64]

theorem twoTasks_calm : Obeys step (fun _ a => ∀ i, a ≠ .flushFailed i) new twoTasks := by
  refine obeys_of_forall fun _ a mem i same => ?_
  subst same
  simp [twoTasks] at mem

theorem cdc_frames_whole_two_tasks : ∃ s, exec step new twoTasks = some s ∧
    (newParser.feedAll [s.fifo]).2 = s.written.map DeviceFrame.hostFrame ∧
    s.written = [.push 0x40 (some [1, 2]) 64, .response 7 1 0 (some [80]) 64] := by
  have frames : (exec step new twoTasks).map (fun s => (s.calls.map CdcCall.frame, s.written)) =
      some ([.response 7 1 0 (some [80]) 64, .push 0x40 (some [1, 2]) 64],
        [.push 0x40 (some [1, 2]) 64, .response 7 1 0 (some [80]) 64]) := by
    decide +kernel
  obtain ⟨s, run, both⟩ := Option.map_eq_some_iff.mp frames
  obtain ⟨calls, written⟩ := Prod.mk.inj both
  obtain ⟨whole, -, parsed, -⟩ := cdc_frames_whole run
  have wellFormed : ∀ c ∈ s.calls, c.frame.WellFormed := by
    intro c mem
    have known := List.mem_map_of_mem (f := CdcCall.frame) mem
    rw [calls] at known
    simp only [List.mem_cons, List.not_mem_nil, or_false] at known
    rcases known with eq | eq <;> rw [eq] <;> simp only [DeviceFrame.WellFormed] <;> decide
  refine ⟨s, run, ?_, written⟩
  exact ((parsed (whole.mpr twoTasks_calm) wellFormed).2 [s.fifo] (by simp)).2 (by simp)

end Cdc

end EspNetwork.Firmware
