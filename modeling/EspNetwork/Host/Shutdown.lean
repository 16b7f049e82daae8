import EspNetwork.Host.Slot

/-!
# The end of a relay connection

Four places shut a relay connection down: `TCPConn.Close`, `TCPConnect` when it replaces one,
`dispatchPush` on a closed push, and the end of `Device.Close`. `closeOnce` keeps the channel
from being closed twice. Nothing keeps `dispatchPush` from sending on it afterwards, and nothing
but `Device.Close` shuts it down when the reader is gone.
-/

namespace EspNetwork.Host.Slot

open Serial (Byte Bytes Frame)
open Schedule

/-- The channel of this connection is closed. -/
def Closed (s : Slot) (k : Nat) : Prop := ∃ c, s.conns[k]? = some c ∧ c.closed = true

theorem closed_iff {s : Slot} {k : Nat} : Closed s k ↔ (s.conns[k]?).any TCPConn.closed = true := by
  unfold Closed
  cases s.conns[k]? <;> simp

instance (s : Slot) (k : Nat) : Decidable (Closed s k) := decidable_of_iff _ closed_iff.symm

/-- The connection whose `shutdown` a step calls. -/
def shutdowns (s : Slot) : SlotAction → Option Nat
  | .dispatched => match s.reader with | .shutting k => some k | _ => none
  | .connect i =>
    match (s.connects[i]?).map Connect.pc with
    | some (.install _) => s.relayConn
    | _ => none
  | .close k => some k
  | .wake => if s.waking then s.relayConn else none
  | _ => none

/-- The channels a step closes: `closeOnce` runs its function only the first time. -/
def closesNow (s : Slot) (a : SlotAction) : List Nat :=
  match s.shutdowns a with
  | some k => if Closed s k then [] else [k]
  | none => []

/-- The channels a schedule closes, in order. -/
def closeLog (s : Slot) : List SlotAction → List Nat
  | [] => []
  | a :: as =>
    match s.step a with
    | none => []
    | some t => s.closesNow a ++ t.closeLog as

/-! ## Closed channels stay closed -/

theorem Closed.update {s : Slot} {k : Nat} (h : Closed s k) (i : Nat) {f : TCPConn → TCPConn}
    (keeps : ∀ c : TCPConn, c.closed = true → (f c).closed = true) : Closed (s.update i f) k := by
  obtain ⟨c, conn, closed⟩ := h
  refine ⟨if k = i then f c else c, by rw [update_conn, conn]; split <;> rfl, ?_⟩
  split
  · exact keeps c closed
  · exact closed

theorem closed_update_self {s : Slot} {k : Nat} (known : k < s.conns.length)
    {f : TCPConn → TCPConn} (closes : ∀ c, (f c).closed = true) : Closed (s.update k f) k := by
  refine ⟨f s.conns[k], ?_, closes _⟩
  rw [update_conn, if_pos rfl, List.getElem?_eq_getElem known]
  rfl

/-- What `install` leaves of the old connections. -/
theorem install_old {s : Slot} {i j k : Nat} {c : Connect} (known : k < s.conns.length) :
    (s.install i c j).conns[k]? = s.evicted[k]? :=
  List.getElem?_append_left (by rwa [length_evicted])

theorem Closed.install {s : Slot} {k : Nat} (h : Closed s k) (i j : Nat) (c : Connect) :
    Closed (s.install i c j) k := by
  obtain ⟨conn, old, closed⟩ := h
  refine ⟨if s.relayConn = some k then conn.release else conn, ?_, ?_⟩
  · rw [install_old (List.getElem?_eq_some_iff.mp old).1, evicted_conn, old]
    split <;> rfl
  · split
    · rfl
    · exact closed

theorem Closed.step {s s' : Slot} {a : SlotAction} {k : Nat} (h : Closed s k)
    (m : Moves s a s') : Closed s' k := by
  cases m with
  | dev | deliver | push | closedPush | ignored | crash | dropped | begin | goOn | accepted |
    clear | closeSend | sleep => exact h
  | dataPush | sent | read | eof => exact h.update _ fun _ closed => closed
  | shut | close | wake => exact h.update _ fun _ _ => rfl
  | install => exact h.install _ _ _

theorem closed_install {s : Slot} {k : Nat} (known : k < s.conns.length) (up : s.relayConn = some k)
    (i j : Nat) (c : Connect) : Closed (s.install i c j) k := by
  refine ⟨s.conns[k].release, ?_, rfl⟩
  rw [install_old known, evicted_conn, if_pos up, List.getElem?_eq_getElem known]
  rfl

/-- A step that calls `shutdown` leaves the channel closed. -/
theorem closed_of_shutdowns {s s' : Slot} {a : SlotAction} {k : Nat} (known : Known s)
    (taken : s.step a = some s') (shuts : s.shutdowns a = some k) : Closed s' k := by
  have alive : s.crashed = false := by
    by_contra dead
    simp [step, dead] at taken
  simp only [step, alive, Bool.false_eq_true, if_false] at taken
  cases a with
  | dispatched =>
    simp only [shutdowns] at shuts
    split at shuts
    case h_1 i reader =>
      obtain rfl := Option.some.inj shuts
      simp only [dispatched, reader] at taken
      obtain rfl := Option.some.inj taken
      exact closed_update_self (known.shutting _ reader) fun _ => rfl
    case h_2 => cases shuts
  | connect i =>
    simp only [shutdowns] at shuts
    split at shuts
    case h_1 j at_install =>
      obtain ⟨c, connect, pc⟩ := Option.map_eq_some_iff.mp at_install
      simp only [advanceConnect, connect, pc, Option.bind_eq_bind, Option.bind_some] at taken
      obtain rfl := Option.some.inj taken
      exact closed_install (known.relayConn k shuts) shuts _ _ _
    case h_2 => cases shuts
  | close i =>
    obtain rfl := Option.some.inj shuts
    simp only at taken
    split at taken
    case isTrue inside =>
      obtain rfl := Option.some.inj taken
      exact closed_update_self inside fun _ => rfl
    case isFalse => cases taken
  | wake =>
    simp only [shutdowns] at shuts
    split at shuts
    case isTrue waking =>
      simp only [waking, if_true, shuts] at taken
      obtain rfl := Option.some.inj taken
      exact closed_update_self (known.relayConn k shuts) fun _ => rfl
    case isFalse => cases shuts
  | _ => cases shuts

/-- No channel is closed a second time. -/
theorem closeLog_nodup {s : Slot} (known : Known s) (as : List SlotAction) :
    (s.closeLog as).Nodup ∧ ∀ k ∈ s.closeLog as, ¬ Closed s k := by
  induction as generalizing s with
  | nil => simp [closeLog]
  | cons a as ih =>
    rw [closeLog]
    split
    · simp
    case h_2 t taken =>
      obtain ⟨later, fresh⟩ := ih (known.step (step_moves taken))
      have stays : ∀ k ∈ t.closeLog as, ¬ Closed s k := fun k mem closed =>
        fresh k mem (closed.step (step_moves taken))
      unfold closesNow
      split
      case h_1 k shuts =>
        split
        · exact ⟨later, stays⟩
        case isFalse open_ =>
          have shut := closed_of_shutdowns known taken shuts
          refine ⟨List.nodup_cons.mpr ⟨fun mem => fresh k mem shut, later⟩, ?_⟩
          rintro i (_ | ⟨_, mem⟩)
          · exact open_
          · exact stays i mem
      case h_2 => exact ⟨later, stays⟩

/-! ## Sends on a closed channel -/

/-- The process has not panicked, and the push in the reader's hands goes to an open channel. -/
structure Safe (s : Slot) : Prop where
  alive : s.crashed = false
  pending : ∀ k data, s.reader = .sending k data → ¬ Closed s k

/-- The next push carries data. -/
def dataNext (s : Slot) : Bool :=
  match s.incoming with
  | .push f :: _ => f.cmd = cmdProxyDataPush ∧ 0 < f.payload.length
  | _ => false

/-- The condition on a step: no connection is shut down between the lookup and the send, and the
lookup finds none that `TCPConn.Close` has shut down and not yet taken out of the slot. -/
structure Exclusive (s : Slot) (a : SlotAction) : Prop where
  shut : ∀ k data, s.reader = .sending k data → s.shutdowns a ≠ some k
  lookup : a = .dispatch → s.dataNext = true → ∀ k, s.relayConn = some k → ¬ Closed s k

theorem Closed.of_update {s : Slot} {k i : Nat} {f : TCPConn → TCPConn} (h : Closed (s.update i f) k)
    (opens : k = i → ∀ c : TCPConn, (f c).closed = true → c.closed = true) : Closed s k := by
  obtain ⟨c', conn', closed⟩ := h
  obtain ⟨c, conn, rfl⟩ := of_update_conn conn'
  refine ⟨c, conn, ?_⟩
  split at closed
  case isTrue same => exact opens same c closed
  case isFalse => exact closed

/-- A step whose shutdown concerns another connection leaves a channel open. -/
theorem closed_of_step {s s' : Slot} {a : SlotAction} {k : Nat} (known : k < s.conns.length)
    (taken : s.step a = some s') (closed : Closed s' k) (other : s.shutdowns a ≠ some k) :
    Closed s k := by
  cases step_moves taken with
  | dev | deliver | push | closedPush | ignored | crash | dropped | begin | goOn | accepted |
    clear | closeSend | sleep => exact closed
  | dataPush | sent | read | eof =>
    exact Closed.of_update (s := s) closed fun _ _ closed => closed
  | shut reader =>
    refine Closed.of_update (s := s) closed fun same => absurd ?_ other
    simp [shutdowns, reader, same]
  | close =>
    refine Closed.of_update (s := s) closed fun same => absurd ?_ other
    simp [shutdowns, same]
  | wake up =>
    have waking : s.waking = true := by
      by_contra asleep
      simp [step, asleep] at taken
    refine Closed.of_update (s := s) closed fun same => absurd ?_ other
    simp [shutdowns, waking, up, same]
  | install connect pc =>
    obtain ⟨c, conn, closed⟩ := closed
    have kept : s.relayConn ≠ some k := by simpa [shutdowns, connect, pc] using other
    rw [install_old known, evicted_conn, if_neg kept] at conn
    exact ⟨c, conn, closed⟩

/-- A push in the reader's hands stays there while another goroutine shuts a connection down. -/
theorem reader_of_shutdowns {s s' : Slot} {a : SlotAction} {k i : Nat} {data : Bytes}
    (taken : s.step a = some s') (reader : s.reader = .sending k data)
    (shuts : s.shutdowns a = some i) : s'.reader = .sending k data := by
  cases step_moves taken with
  | dataPush idle | closedPush idle | shut idle => rw [reader] at idle; cases idle
  | sent | dropped => simp [shutdowns, reader] at shuts
  | _ => exact reader

/-- What the lookup does with a data push. -/
theorem dispatch_data {s s' : Slot} {k : Nat} (taken : s.step .dispatch = some s')
    (data : s.dataNext = true) (up : s.relayConn = some k) :
    ∃ payload, s'.reader = .sending k payload ∧ (Closed s k → Closed s' k) := by
  have alive : s.crashed = false := by
    by_contra dead
    simp [step, dead] at taken
  simp only [step, alive, Bool.false_eq_true, if_false] at taken
  split at taken
  case h_2 => cases taken
  case h_1 f incoming reader idle next =>
    obtain ⟨cmd, filled⟩ : f.cmd = cmdProxyDataPush ∧ 0 < f.payload.length := by
      simpa [dataNext, next] using data
    simp only [dispatchPush, if_pos cmd, up, if_pos filled] at taken
    obtain rfl := Option.some.inj taken
    exact ⟨f.payload, rfl, fun closed => Closed.update (s := s) closed k fun _ closed => closed⟩

/-- Exactly the exclusive steps keep the process safe. -/
theorem Safe.step_iff {s s' : Slot} {a : SlotAction} (known : Known s) (safe : Safe s)
    (taken : s.step a = some s') : Safe s' ↔ Exclusive s a := by
  constructor
  · intro safe'
    constructor
    · intro k data reader shuts
      exact safe'.pending k data (reader_of_shutdowns taken reader shuts)
        (closed_of_shutdowns known taken shuts)
    · rintro rfl data k up closed
      obtain ⟨payload, reader, stays⟩ := dispatch_data taken data up
      exact safe'.pending k payload reader (stays closed)
  · intro exclusive
    have kept : s'.reader = s.reader → ∀ k data, s'.reader = .sending k data → ¬ Closed s' k := by
      intro same k data reader closed
      rw [same] at reader
      exact safe.pending k data reader (closed_of_step (known.sending k data reader) taken closed
        (exclusive.shut k data reader))
    cases step_moves taken with
    | crash reader conn closed => exact absurd ⟨_, conn, closed⟩ (safe.pending _ _ reader)
    | dataPush reader next data up filled =>
      refine ⟨safe.alive, fun k payload reader closed => ?_⟩
      obtain ⟨rfl, -⟩ := PushPc.sending.inj reader
      refine exclusive.lookup rfl (by simp [dataNext, next, data, filled]) _ up ?_
      exact Closed.of_update (s := s) closed fun _ _ closed => closed
    | closedPush | sent | dropped | shut => exact ⟨safe.alive, by simp⟩
    | _ => exact ⟨safe.alive, kept rfl⟩

theorem known_new : Known new := ⟨by simp [new], by simp [new], by simp [new]⟩

/-- **Sends on closed channels, exactly.** A run in which the process never panics, nor comes to
hold a push for a closed channel, is one whose steps are exclusive; and no run closes a channel
twice. -/
theorem relay_sends_only_open {as : List SlotAction} {s : Slot} (run : exec step new as = some s) :
    ((∀ bs u, bs <+: as → exec step new bs = some u → Safe u) ↔ Obeys step Exclusive new as) ∧
      (new.closeLog as).Nodup := by
  refine ⟨ obeys_iff_forall_prefix Known Safe
    (fun _ _ _ known taken => known.step (step_moves taken))
    (fun _ _ _ known safe taken => safe.step_iff known taken) known_new ⟨rfl, by simp [new]⟩ run,
    (closeLog_nodup known_new as).1⟩

/-- A push is looked up, the connection is closed, and the reader sends. -/
def lateSend : List SlotAction :=
  accepted ++ installed ++
    [.push ⟨0, cmdProxyDataPush, false, 0, [1]⟩, .dispatch, .close 0, .dispatched]

theorem relay_sends_late : ∃ s, exec step new lateSend = some s ∧ s.crashed = true := by
  obtain ⟨s, run, crashed⟩ := Option.map_eq_some_iff.mp
    (show (exec step new lateSend).map Slot.crashed = some true by decide +kernel)
  exact ⟨s, run, crashed⟩

/-- The connection the reader has a push for. -/
def pushTarget (s : Slot) : Option Nat :=
  match s.reader with
  | .sending k _ => some k
  | _ => none

theorem pushTarget_eq_some {s : Slot} {k : Nat} :
    s.pushTarget = some k ↔ ∃ data, s.reader = .sending k data := by
  unfold pushTarget
  split <;> simp_all

theorem exclusive_iff {s : Slot} {a : SlotAction} :
    Exclusive s a ↔ (∀ k ∈ s.pushTarget, s.shutdowns a ≠ some k) ∧
      (a = .dispatch → s.dataNext = true → ∀ k ∈ s.relayConn, ¬ Closed s k) := by
  constructor
  · rintro ⟨shut, lookup⟩
    refine ⟨fun k mem => ?_, lookup⟩
    obtain ⟨data, reader⟩ := pushTarget_eq_some.mp mem
    exact shut k data reader
  · rintro ⟨shut, lookup⟩
    exact ⟨fun k data reader => shut k (pushTarget_eq_some.mpr ⟨data, reader⟩), lookup⟩

instance (s : Slot) (a : SlotAction) : Decidable (Exclusive s a) :=
  decidable_of_iff _ exclusive_iff.symm

/-- A push is sent, the connection is closed and taken out of the slot, and another push comes. -/
def timelySend : List SlotAction :=
  accepted ++ installed ++ pushed [1] ++ [.close 0, .closing 0] ++
    [.push ⟨0, cmdProxyDataPush, false, 0, [2]⟩, .dispatch]

/-- The first run is not exclusive; its one connection is closed once. The other one is safe. -/
theorem relay_sends_only_open_late :
    ¬ Obeys step Exclusive new lateSend ∧ (new.closeLog lateSend).Nodup ∧
      ∃ s, exec step new timelySend = some s ∧ s.log.length = 2 ∧ Safe s := by
  obtain ⟨s, run, crashed⟩ := Option.map_eq_some_iff.mp
    (show (exec step new lateSend).map Slot.crashed = some true by decide +kernel)
  obtain ⟨exactly, once⟩ := relay_sends_only_open run
  refine ⟨fun obeys => ?_, once, ?_⟩
  · have safe := exactly.mpr obeys lateSend s List.prefix_rfl run
    rw [safe.alive] at crashed
    cases crashed
  · obtain ⟨s, run, dispatched⟩ := Option.map_eq_some_iff.mp
      (show (exec step new timelySend).map (fun s => s.log.length) = some 2 by decide +kernel)
    have obeys : Obeys step Exclusive new timelySend := by decide +kernel
    exact ⟨s, run, dispatched,
      (relay_sends_only_open run).1.mpr obeys timelySend s List.prefix_rfl run⟩

/-! ## Losing the serial port -/

/-- No push can arrive for the connection in the slot, or it is closed. -/
def RelayShut (s : Slot) : Prop := ∀ k, s.relayConn = some k → Closed s k

/-- `TCPConnect` is about to put its connection into the slot. -/
def installs (s : Slot) (i : Nat) : Bool :=
  match (s.connects[i]?).map Connect.pc with
  | some (.install _) => true
  | _ => false

theorem RelayShut.step {s s' : Slot} {a : SlotAction} (shut : RelayShut s) (m : Moves s a s')
    (other : ∀ i, a = .connect i → s.installs i = false) : RelayShut s' := by
  have kept : s'.relayConn = s.relayConn → RelayShut s' := fun same k up =>
    (shut k (same ▸ up)).step m
  cases m with
  | closedPush | wake => simp [RelayShut]
  | clear =>
    intro k up
    simp only at up
    split at up
    · cases up
    · exact shut k up
  | install connect pc =>
    have := other _ rfl
    simp [installs, connect, pc] at this
  | _ => exact kept rfl

/-- Every connection is closed, in the slot, or in the reader's hands to be shut down. -/
structure Held (s : Slot) : Prop where
  conns : ∀ k, k < s.conns.length → Closed s k ∨ s.relayConn = some k ∨ s.reader = .shutting k
  closes : ∀ c ∈ s.closes, Closed s c.conn

theorem Held.step {s s' : Slot} {a : SlotAction} (known : Known s) (held : Held s)
    (m : Moves s a s') : Held s' := by
  have closes : s'.closes = s.closes → ∀ c ∈ s'.closes, Closed s' c.conn :=
    fun same c mem => (held.closes c (same ▸ mem)).step m
  have kept : s'.conns.length = s.conns.length → s'.relayConn = s.relayConn →
      s'.reader = s.reader →
      ∀ k, k < s'.conns.length → Closed s' k ∨ s'.relayConn = some k ∨ s'.reader = .shutting k := by
    intro len slot reader k inside
    rw [slot, reader]
    exact (held.conns k (len ▸ inside)).imp_left fun closed => closed.step m
  have free : s'.conns.length = s.conns.length → s'.relayConn = s.relayConn →
      (∀ k, s.reader = .shutting k → Closed s' k) →
      ∀ k, k < s'.conns.length → Closed s' k ∨ s'.relayConn = some k ∨ s'.reader = .shutting k := by
    intro len slot shuts k inside
    rcases held.conns k (len ▸ inside) with closed | up | shutting
    · exact .inl (closed.step m)
    · exact .inr (.inl (slot ▸ up))
    · exact .inl (shuts k shutting)
  cases m with
  | dev | deliver | push | ignored | crash | begin | goOn | accepted | sleep =>
    exact ⟨kept rfl rfl rfl, closes rfl⟩
  | read | eof => exact ⟨kept (by simp [update]) rfl rfl, closes rfl⟩
  | dataPush reader =>
    exact ⟨free (by simp [update]) rfl (by simp [reader]), closes rfl⟩
  | sent reader => exact ⟨free (by simp [update]) rfl (by simp [reader]), closes rfl⟩
  | dropped reader => exact ⟨free rfl rfl (by simp [reader]), closes rfl⟩
  | shut reader =>
    refine ⟨free (by simp [update]) rfl fun k shutting => ?_, closes rfl⟩
    obtain rfl := PushPc.shutting.inj (reader.symm.trans shutting)
    exact closed_update_self (s := s) (known.shutting _ reader) fun _ => rfl
  | closedPush reader next data up =>
    refine ⟨fun k inside => ?_, closes rfl⟩
    rcases held.conns k inside with closed | same | shutting
    · exact .inl closed
    · obtain rfl := Option.some.inj (up.symm.trans same)
      exact .inr (.inr rfl)
    · rw [reader] at shutting
      cases shutting
  | install =>
    refine ⟨fun k inside => ?_, closes rfl⟩
    simp only [install, List.length_append, length_evicted, List.length_singleton] at inside
    rcases Nat.lt_succ_iff_lt_or_eq.mp inside with old | rfl
    · rcases held.conns k old with closed | up | shutting
      · exact .inl (closed.install _ _ _)
      · exact .inl (closed_install old up _ _ _)
      · exact .inr (.inr shutting)
    · exact .inr (.inl rfl)
  | close known =>
    refine ⟨kept (by simp [update]) rfl rfl, fun c mem => ?_⟩
    rcases List.mem_append.mp mem with old | fresh
    · exact Closed.update (s := s) (held.closes c old) _ fun _ _ => rfl
    · obtain rfl := List.mem_singleton.mp fresh
      exact closed_update_self (s := s) known fun _ => rfl
  | clear close =>
    rename_i i c
    have shut := held.closes c (List.mem_of_getElem? close)
    refine ⟨fun k inside => ?_, fun c' mem => ?_⟩
    · rcases held.conns k inside with closed | up | shutting
      · exact .inl closed
      · by_cases same : s.relayConn = some c.conn
        · obtain rfl := Option.some.inj (up.symm.trans same)
          exact .inl shut
        · exact .inr (.inl (by simpa [same] using up))
      · exact .inr (.inr shutting)
    · rcases List.mem_or_eq_of_mem_set mem with old | rfl
      · exact held.closes c' old
      · exact shut
  | closeSend close =>
    rename_i i c dev cmd payload taken
    refine ⟨kept rfl rfl rfl, fun c' mem => ?_⟩
    rcases List.mem_or_eq_of_mem_set mem with old | rfl
    · exact held.closes c' old
    · exact held.closes c (List.mem_of_getElem? close)
  | wake up =>
    refine ⟨fun k inside => ?_, closes rfl⟩
    rcases held.conns k (by simpa [update] using inside) with closed | same | shutting
    · exact .inl (Closed.update (s := s) closed _ fun _ _ => rfl)
    · obtain rfl := Option.some.inj (up.symm.trans same)
      exact .inl (closed_update_self (s := s) (known.relayConn _ up) fun _ => rfl)
    · exact .inr (.inr shutting)

/-- The reader only exits by its own step. -/
theorem exited_of_step {d d' : Device} {a : SendAction} (taken : d.step a = some d')
    (exited : d'.reader = .exited) : d.reader = .exited ∨ a = .readerExit := by
  cases Device.step_steps taken with
  | found | deliver => cases exited
  | readerExit => exact .inr rfl
  | _ => exact .inl exited

theorem alive_of_step {s s' : Slot} {a : SlotAction} (taken : s.step a = some s') :
    s.crashed = false := by
  by_contra dead
  simp [step, dead] at taken

/-- A push is dispatched by a reader that has not exited. -/
theorem dispatch_reader {s s' : Slot} (taken : s.step .dispatch = some s') :
    s.dev.reader = .idle := by
  simp only [step, alive_of_step taken, Bool.false_eq_true, if_false] at taken
  split at taken
  · assumption
  · cases taken

/-- The reader exits between two callbacks. -/
theorem readerExit_reader {s s' : Slot} (taken : s.step (.dev .readerExit) = some s') :
    s'.reader = .idle := by
  simp only [step, alive_of_step taken, Bool.false_eq_true, if_false, devStep] at taken
  obtain ⟨dev, -, taken⟩ := Option.bind_eq_some_iff.mp taken
  split at taken
  · obtain rfl := Option.some.inj taken
    assumption
  · cases taken

/-- A reader that is gone has gone before, or goes now. -/
theorem reader_gone {s s' : Slot} {a : SlotAction} (taken : s.step a = some s')
    (exited : s'.dev.reader = .exited) :
    (s.dev.reader = .exited ∧ (s.reader = .idle → s'.reader = .idle)) ∨ a = .dev .readerExit := by
  have calls : ∀ dev : Device,
      dev = s.dev ∨ (∃ cmd payload, s.dev.step (.send cmd payload) = some dev) →
      dev.reader = .exited → s.dev.reader = .exited := by
    rintro dev (rfl | ⟨cmd, payload, called⟩) gone
    · exact gone
    · exact (exited_of_step called gone).resolve_right nofun
  cases step_moves taken with
  | dev waking moved =>
    rcases exited_of_step moved exited with gone | rfl
    · exact .inl ⟨gone, id⟩
    · exact .inr rfl
  | deliver reader moved =>
    exact .inl ⟨(exited_of_step moved exited).resolve_right nofun, id⟩
  | dataPush | closedPush | ignored =>
    have gone : s.dev.reader = .exited := exited
    rw [dispatch_reader taken] at gone
    cases gone
  | begin a c called | goOn connect called => exact .inl ⟨calls _ called exited, id⟩
  | closeSend close called => exact .inl ⟨calls _ (.inr ⟨_, _, called⟩) exited, id⟩
  | sent | dropped | shut => exact .inl ⟨exited, fun _ => rfl⟩
  | _ => exact .inl ⟨exited, id⟩

/-- The slot, and whether `Device.Close` is under way. -/
structure Watched where
  slot : Slot
  closing : Bool

/-- `Close` is under way from its first statement to its last critical section. -/
def closingAfter (closing : Bool) : SlotAction → Bool
  | .dev .close => true
  | .wake => false
  | _ => closing

def Watched.new : Watched := ⟨Slot.new, false⟩

def Watched.step (w : Watched) (a : SlotAction) : Option Watched :=
  (w.slot.step a).map fun slot => ⟨slot, closingAfter w.closing a⟩

/-- The condition on a step: the reader exits only when `Device.Close` is under way or the relay
is shut, and `TCPConnect` installs a connection only while the reader runs or `Close` will still
shut it down. -/
structure Attended (w : Watched) (a : SlotAction) : Prop where
  exit : a = .dev .readerExit → w.closing = true ∨ RelayShut w.slot
  install : ∀ i, a = .connect i → w.slot.installs i = true →
    w.slot.dev.reader ≠ .exited ∨ w.closing = true

instance (s : Slot) : Decidable (RelayShut s) :=
  inferInstanceAs (Decidable (∀ k ∈ s.relayConn, Closed s k))

/-- The call of `TCPConnect` an action advances. -/
def advances : SlotAction → Option Nat
  | .connect i => some i
  | _ => none

instance (w : Watched) (a : SlotAction) : Decidable (Attended w a) :=
  decidable_of_iff ((a = .dev .readerExit → w.closing = true ∨ RelayShut w.slot) ∧
      ∀ i ∈ advances a, w.slot.installs i = true → w.slot.dev.reader ≠ .exited ∨ w.closing = true)
    ⟨fun h => ⟨h.1, fun i here => h.2 i (by simp [here, advances])⟩,
      fun h => ⟨h.exit, fun i here => h.install i (by cases a <;> simp_all [advances])⟩⟩

/-- What holds of the slot in the runs whose steps are attended. -/
structure Settled (w : Watched) : Prop where
  known : Known w.slot
  held : Held w.slot
  idle : w.slot.dev.reader = .exited → w.slot.reader = .idle
  shut : w.slot.dev.reader = .exited → w.closing = true ∨ RelayShut w.slot

theorem wake_shut {s s' : Slot} (taken : s.step .wake = some s') : RelayShut s' := by
  simp only [step, alive_of_step taken, Bool.false_eq_true, if_false] at taken
  split at taken
  case isFalse => cases taken
  case isTrue =>
    split at taken
    · obtain rfl := Option.some.inj taken
      simp [RelayShut]
    case h_2 none =>
      obtain rfl := Option.some.inj taken
      simp [RelayShut, none]

theorem Settled.step {w w' : Watched} {a : SlotAction} (settled : Settled w)
    (attended : Attended w a) (taken : w.step a = some w') : Settled w' := by
  obtain ⟨s', moved, rfl⟩ := Option.map_eq_some_iff.mp taken
  have m := step_moves moved
  refine ⟨settled.known.step m, settled.held.step settled.known m, fun exited => ?_,
    fun exited => ?_⟩
  · rcases reader_gone moved exited with ⟨gone, stays⟩ | rfl
    · exact stays (settled.idle gone)
    · exact readerExit_reader moved
  · by_cases wakes : a = .wake
    · subst wakes
      exact .inr (wake_shut moved)
    have goes : w.closing = true → closingAfter w.closing a = true := by
      intro closing
      unfold closingAfter
      split
      · rfl
      · exact absurd rfl wakes
      · exact closing
    rcases reader_gone moved exited with ⟨gone, -⟩ | rfl
    · rcases settled.shut gone with closing | shut
      · exact .inl (goes closing)
      · by_cases fills : ∃ i, a = .connect i ∧ w.slot.installs i = true
        · obtain ⟨i, here, fills⟩ := fills
          exact .inl (goes ((attended.install i here fills).resolve_left (absurd gone)))
        · refine .inr (shut.step m fun i here => ?_)
          by_contra installs
          exact fills ⟨i, here, by simpa using installs⟩
    · exact (attended.exit rfl).imp goes fun shut => shut.step m nofun

/-- A closed connection is read to its end: the chunks it still has, then `io.EOF`. -/
theorem read_to_end {s : Slot} (alive : s.crashed = false) {k : Nat} {c : TCPConn}
    (conn : s.conns[k]? = some c) (closed : c.closed = true) :
    ∃ t c', exec step s (List.replicate (c.recvCh.length + 1) (.read k)) = some t ∧
      t.conns[k]? = some c' ∧ c'.eof = true ∧ c'.reads = c.reads ++ c.recvCh := by
  induction queue : c.recvCh generalizing s c with
  | nil =>
    refine ⟨s.update k fun c => { c with eof := true }, { c with eof := true },
      exec_cons.mpr ⟨_, ?_, rfl⟩, ?_, rfl, by simp⟩
    · simp [step, alive, read, conn, queue, closed]
    · simp [update_conn, conn]
  | cons data recvCh ih =>
    let s₁ := s.update k fun c => { c with recvCh, reads := c.reads ++ [data] }
    have taken : s.step (.read k) = some s₁ := by simp [step, alive, read, conn, queue, s₁]
    have conn₁ : s₁.conns[k]? = some { c with recvCh, reads := c.reads ++ [data] } := by
      simp [s₁, update_conn, conn]
    obtain ⟨t, c', run, conn', eof, reads⟩ := ih (s := s₁) alive conn₁ closed rfl
    exact ⟨t, c', exec_cons.mpr ⟨s₁, taken, run⟩, conn', eof, by simpa using reads⟩

/-- The call of `Send` has returned. -/
def sendEnded (c : SendCall) : Bool := match c.pc with | .returned _ => true | _ => false

/-- The call of `TCPConnect` has returned. -/
def connectEnded (c : Connect) : Bool := match c.pc with | .returned _ => true | _ => false

/-- No operation of the device is in progress. -/
structure AtRest (w : Watched) : Prop where
  closed : w.closing = false
  calls : ∀ c ∈ w.slot.dev.calls, sendEnded c = true
  connects : ∀ c ∈ w.slot.connects, connectEnded c = true
  closes : ∀ c ∈ w.slot.closes, c.pc = .sent

instance (w : Watched) : Decidable (AtRest w) :=
  decidable_of_iff (w.closing = false ∧ (∀ c ∈ w.slot.dev.calls, sendEnded c = true) ∧
      (∀ c ∈ w.slot.connects, connectEnded c = true) ∧ ∀ c ∈ w.slot.closes, c.pc = .sent)
    ⟨fun h => ⟨h.1, h.2.1, h.2.2.1, h.2.2.2⟩, fun h => ⟨h.closed, h.calls, h.connects, h.closes⟩⟩

/-- The relay ends with the serial port: the connection in the slot is closed, and every
connection there ever was is read to `io.EOF`, which ends `Client.readLoop` and lets `manage`
go on. -/
structure RelayEnds (s : Slot) : Prop where
  shut : RelayShut s
  reads : s.crashed = false → ∀ k c, s.conns[k]? = some c →
    ∃ n t c', exec step s (List.replicate n (.read k)) = some t ∧ t.conns[k]? = some c' ∧
      c'.eof = true

theorem Settled.ends {w : Watched} (settled : Settled w) (exited : w.slot.dev.reader = .exited)
    (rest : AtRest w) : RelayEnds w.slot := by
  have shut : RelayShut w.slot := by
    refine (settled.shut exited).resolve_left fun closing => ?_
    rw [rest.closed] at closing
    cases closing
  refine ⟨shut, fun alive k c conn => ?_⟩
  have known := (List.getElem?_eq_some_iff.mp conn).1
  have closed : Closed w.slot k := by
    rcases settled.held.conns k known with closed | up | shutting
    · exact closed
    · exact shut k up
    · rw [settled.idle exited] at shutting
      cases shutting
  obtain ⟨c₀, conn₀, closed⟩ := closed
  obtain rfl := Option.some.inj (conn.symm.trans conn₀)
  obtain ⟨t, c', run, conn', eof, -⟩ := read_to_end alive conn closed
  exact ⟨_, t, c', run, conn', eof⟩

theorem settled_new : Settled Watched.new :=
  ⟨known_new, ⟨by simp [Watched.new, new], by simp [Watched.new, new]⟩,
    by simp [Watched.new, new, Device.new], by simp [Watched.new, new, Device.new]⟩

/-- **Losing the serial port ends the relay** in the runs whose steps are attended: in every
state with the reader gone and no operation in progress. -/
theorem port_loss_ends_relay {as : List SlotAction} {w : Watched}
    (obeys : Obeys Watched.step Attended Watched.new as)
    (run : exec Watched.step Watched.new as = some w)
    (exited : w.slot.dev.reader = .exited) (rest : AtRest w) : RelayEnds w.slot :=
  (exec_invariant_of_obeys Settled (fun _ _ _ settled attended taken => settled.step attended taken)
    settled_new obeys run).ends exited rest

/-- `Close` while a connection is up. -/
def closedPort : List SlotAction :=
  accepted ++ installed ++ [.dev .close, .dev .readerExit, .dev .drain, .wake]

theorem port_loss_ends_relay_closed : ∃ w, exec Watched.step Watched.new closedPort = some w ∧
    w.slot.conns.length = 1 ∧ RelayEnds w.slot := by
  obtain ⟨w, run, holds⟩ := Option.map_eq_some_iff.mp
    (show (exec Watched.step Watched.new closedPort).map (fun w => decide
      (w.slot.dev.reader = .exited ∧ AtRest w ∧ w.slot.conns.length = 1)) = some true by
        decide +kernel)
  obtain ⟨exited, rest, conns⟩ := of_decide_eq_true holds
  exact ⟨w, run, conns, port_loss_ends_relay (by decide +kernel) run exited rest⟩

/-- The port fails while a connection is up. -/
def failedPort : List SlotAction := accepted ++ installed ++ [.dev .readerExit]

/-- Nothing is in progress any more, the relay is open, and `Read` waits. -/
theorem port_loss_leaves_relay : ∃ w, exec Watched.step Watched.new failedPort = some w ∧
    w.slot.dev.reader = .exited ∧ AtRest w ∧ ¬ RelayShut w.slot ∧
    (w.slot.read 0).isNone = true := by
  obtain ⟨w, run, holds⟩ := Option.map_eq_some_iff.mp
    (show (exec Watched.step Watched.new failedPort).map (fun w => decide
      (w.slot.dev.reader = .exited ∧ AtRest w ∧ ¬ RelayShut w.slot ∧
        (w.slot.read 0).isNone = true)) = some true by decide +kernel)
  exact ⟨w, run, of_decide_eq_true holds⟩

end EspNetwork.Host.Slot
