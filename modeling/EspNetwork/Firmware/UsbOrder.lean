import Mathlib
import EspNetwork.Firmware.Jobs

/-!
# The order of the frames on USB

A push carries no connection: the host attributes it by its place between the OK responses and
the closed pushes. Three tasks write to USB, each when its turn comes, so the order the host
relies on is kept by nobody. It holds if the OK of a connection is written before
`tcp_rx_task` receives from it, its CLOSED push after the last piece was pushed, and the OK of
the next one after all that.
-/

namespace EspNetwork.Firmware

open Serial
open Schedule

/-- One frame may be written after another. -/
def Note.Follows : Note → Note → Prop
  | .closed k, .data l => k ≠ l
  | .ok k, .data l | .ok k, .closed l => k ≤ l
  | _, _ => True

/-- The OK of a connection is before its DATA pushes, no DATA push is behind the CLOSED push, and
both are before the OK of any later connection. -/
structure UsbOrder (notes : List Note) : Prop where
  answered : ∀ before k after, notes = before ++ .data k :: after → .ok k ∈ before
  order : notes.Pairwise Note.Follows

/-- What may be written next. -/
def Note.Fits (notes : List Note) (n : Note) : Prop :=
  (∀ k, n = .data k → .ok k ∈ notes) ∧ ∀ m ∈ notes, Note.Follows m n

theorem UsbOrder.concat {notes : List Note} {n : Note} (o : UsbOrder notes) (fits : n.Fits notes) :
    UsbOrder (notes ++ [n]) := by
  refine ⟨fun before k after split => ?_, ?_⟩
  · rcases List.append_eq_append_iff.mp split with ⟨more, rfl, rest⟩ | ⟨more, rfl, rest⟩
    · cases more with
      | nil =>
        obtain ⟨rfl, -⟩ := List.cons.inj (by simpa using rest)
        simpa using fits.1 k rfl
      | cons m more => simp at rest
    · cases more with
      | nil =>
        obtain ⟨rfl, -⟩ := List.cons.inj (by simpa using rest)
        simpa using fits.1 k rfl
      | cons m more =>
        obtain ⟨rfl, -⟩ := List.cons.inj (by simpa using rest)
        exact o.answered before k more rfl
  · refine List.pairwise_append.mpr ⟨o.order, List.pairwise_singleton _ _, ?_⟩
    intro m mem n' last
    obtain rfl := List.mem_singleton.mp last
    exact fits.2 m mem

namespace Traced

/-- The connection of the piece `tcp_rx_task` is about to push. -/
def pending (t : Traced) : Option SockId :=
  match t.dev.rx with
  | .push _ => t.ledger.piece
  | _ => none

/-- The connection a task has in its hands inside `close_relay`. -/
def held (t : Traced) (who : Who) : Option SockId :=
  if (t.dev.holds who).isSome then t.ledger.holding who else none

/-- The connection `tcp_rx_task` is about to receive from. -/
def receiving (t : Traced) : Option SockId :=
  match t.dev.rx with
  | .recv fd => t.dev.mgr.net.fds fd
  | _ => none

/-- The condition on a step. `tcp_rx_task` receives from a connection whose OK was written; the
CLOSED push of a connection is written when no piece of it is waiting; an OK is written when
nothing of an earlier connection is. -/
def Attributable (t : Traced) : Event → Prop
  | .task (.rx (.data _)) => ∀ k ∈ t.receiving, .ok k ∈ t.ledger.notes
  | .task (.send _) => t.dev.closing .send = some .push → t.pending ≠ t.ledger.holding .send
  | .task (.cmd _) => (t.dev.closing .cmd = some .push → t.pending ≠ t.ledger.holding .cmd) ∧
    ∀ l ∈ t.ledger.fresh, (∀ k ∈ t.pending, l ≤ k) ∧ (∀ k ∈ t.held .rx, l ≤ k) ∧
      ∀ k ∈ t.held .send, l ≤ k
  | _ => True

instance (t : Traced) : (e : Event) → Decidable (Attributable t e)
  | .task (.rx (.data _)) => inferInstanceAs (Decidable (∀ k ∈ t.receiving, _))
  | .task (.send _) => inferInstanceAs (Decidable (_ → _))
  | .task (.cmd _) => inferInstanceAs (Decidable (_ ∧ _))
  | .task (.rx .go) | .task (.rx .again) | .task (.rx .eof) | .task (.rx .error)
  | .task (.rx .oom) | .host _ => isTrue trivial

/-- No OK of a later connection has been written. -/
def Latest (t : Traced) (k : SockId) : Prop := ∀ l, .ok l ∈ t.ledger.notes → l ≤ k

structure UsbInv (t : Traced) : Prop where
  ordered : UsbOrder t.ledger.notes
  piece : ∀ k ∈ t.pending, .ok k ∈ t.ledger.notes ∧ .closed k ∉ t.ledger.notes ∧ t.Latest k
  taken : ∀ k ∈ t.ledger.takes.map Take.conn, k ∉ t.ledger.pushed → t.Latest k
  live : ∀ fd k, t.dev.mgr.net.fds fd = some k → k ∈ t.ledger.opened ∧ t.Latest k
  reported : ∀ k, .closed k ∈ t.ledger.notes → k ∈ t.ledger.pushed
  old : ∀ l, .ok l ∈ t.ledger.notes → l < t.dev.mgr.net.socks.length
  fresh : ∀ l ∈ t.ledger.fresh, l < t.dev.mgr.net.socks.length ∧ t.Holds (some l) ∧
    ∃ f, t.dev.cmd = .respond f ok

/-! ## What is written -/

/-- The frames of the relay a step writes. -/
inductive Writes (t t' : Traced) : Event → Prop where
  | nothing {e : Event} (notes : t'.ledger.notes = t.ledger.notes) : Writes t t' e
  | restart {e : Event} (ledger : t'.ledger = .empty) : Writes t t' e
  | ok {l : SockId} {f : ProtoFrame} {a : Answer} (fresh : t.ledger.fresh = some l)
    (cmd : t.dev.cmd = .respond f a) (notes : t'.ledger.notes = t.ledger.notes ++ [.ok l]) :
    Writes t t' (.task (.cmd .go))
  | data {k : SockId} {data : Bytes} (rx : t.dev.rx = .push data) (piece : t.ledger.piece = some k)
    (notes : t'.ledger.notes = t.ledger.notes ++ [.data k]) : Writes t t' (.task (.rx .go))
  | closed {who : Who} {k : SockId} (inside : t.dev.closing who = some .push)
    (holding : t.ledger.holding who = some k)
    (notes : t'.ledger.notes = t.ledger.notes ++ [.closed k]) :
    Writes t t' (.task (closeAction who true))

theorem writes_of_moves {t t' : Traced} {e : Event} (m : Moves t e t') : Writes t t' e := by
  cases m with
  | restart => exact .restart rfl
  | answer cmd =>
    cases fresh : t.ledger.fresh with
    | none => exact .nothing (by simp)
    | some l => exact .ok fresh cmd (by simp)
  | rxPush rx =>
    cases piece : t.ledger.piece with
    | none => exact .nothing (by simp)
    | some k => exact .data rx piece (by simp)
  | closePush malloc inside =>
    cases malloc with
    | false => exact .nothing rfl
    | true =>
      rename_i who
      cases holding : t.ledger.holding who with
      | none => exact .nothing (by simp)
      | some k => exact .closed inside holding (by simp)
  | receive => cases tags : t.ledger.tags <;> exact .nothing (by simp)
  | _ => exact .nothing rfl

/-- OKs are written one at a time, by the command task. -/
theorem Writes.ok_mem {t t' : Traced} {e : Event} (w : Writes t t' e) {l : SockId}
    (mem : .ok l ∈ t'.ledger.notes) : .ok l ∈ t.ledger.notes ∨
      (t.ledger.fresh = some l ∧ ∃ c, e = .task (.cmd c)) := by
  cases w with
  | nothing notes => exact .inl (notes ▸ mem)
  | restart ledger => simp [ledger, Ledger.empty] at mem
  | ok fresh _ notes =>
    rw [notes] at mem
    rcases List.mem_append.mp mem with old | new
    · exact .inl old
    · obtain rfl : l = _ := by simpa using new
      exact .inr ⟨fresh, _, rfl⟩
  | data _ _ notes | closed _ _ notes =>
    rw [notes] at mem
    exact .inl (by simpa using mem)

theorem Latest.step {t t' : Traced} {e : Event} {k : SockId} (latest : t.Latest k)
    (w : Writes t t' e) (fresh : ∀ l ∈ t.ledger.fresh, (∃ c, e = .task (.cmd c)) → l ≤ k) :
    t'.Latest k := by
  intro l mem
  rcases w.ok_mem mem with old | ⟨new, cmd⟩
  · exact latest l old
  · exact fresh l new cmd

/-! ## Where a connection is -/

theorem mem_held_of_inHand {t : Traced} {stage : ClosePc → Bool} {who : Who} {k : SockId}
    (counts : t.inHand stage who k ≠ 0) : k ∈ t.held who := by
  unfold inHand at counts
  split at counts
  case isTrue here =>
    obtain ⟨pc, holds, -⟩ := (Option.any_eq_true _ _).mp here.1
    simp [held, holds, here.2]
  case isFalse => simp at counts

/-- A connection that was taken and not reported yet is in the hands of a task. -/
theorem Stations.held_of_taken {t : Traced} (s : Stations t) {k : SockId}
    (mem : k ∈ t.ledger.takes.map Take.conn) (unreported : k ∉ t.ledger.pushed) :
    ∃ who, k ∈ t.held who := by
  have pos := List.count_pos_iff.mpr mem
  have zero := List.count_eq_zero.mpr unreported
  have taken := s.taken k
  have shut := s.shut k
  have closed := s.closed k
  by_contra nowhere
  push Not at nowhere
  have none : ∀ stage, t.inHands stage k = 0 := by
    intro stage
    have each : ∀ who, t.inHand stage who k = 0 := by
      intro who
      by_contra counts
      exact nowhere who (mem_held_of_inHand counts)
    simp [inHands, each]
  simp only [none] at taken shut closed
  omega

/-- A connection with a descriptor is being connected, open, or taken and not reported yet. -/
theorem Stations.place_of_live {t : Traced} (s : Stations t) {k : SockId} {fd : Fd}
    (opened : k ∈ t.ledger.opened) (live : t.dev.mgr.net.fds fd = some k) :
    t.connAt .connect = some k ∨ t.connAt .store = some k ∨
      (k ∈ t.ledger.takes.map Take.conn ∧ k ∉ t.ledger.pushed) := by
  have pos := List.count_pos_iff.mpr opened
  have unclosed : t.ledger.closed.count k = 0 :=
    List.count_eq_zero.mpr fun mem => s.gone k (.inl mem) fd live
  have kept : t.ledger.abandoned.count k = 0 :=
    List.count_eq_zero.mpr fun mem => s.gone k (.inr mem) fd live
  have balance := s.opened k
  have stored := s.stored k
  have closed := s.closed k
  by_cases connecting : t.connAt .connect = some k
  · exact .inl connecting
  by_cases open' : t.connAt .store = some k
  · exact .inr (.inl open')
  refine .inr (.inr ⟨?_, ?_⟩)
  · rw [if_neg connecting] at balance
    rw [if_neg open'] at stored
    exact List.count_pos_iff.mp (by omega)
  · exact List.count_eq_zero.mp (by omega)

/-- The connection a task reports was taken, closed and not reported before. -/
theorem Owned.reporting {t : Traced} (o : Owned t) {who : Who} {k : SockId}
    (inside : t.dev.closing who = some .push) (holding : t.ledger.holding who = some k) :
    k ∈ t.ledger.takes.map Take.conn ∧ k ∉ t.ledger.pushed := by
  have held := Device.holds_of_past inside (by simp)
  have here : t.inHand toPush who k = 1 := by simp [inHand, held, holding, toPush]
  have some : 1 ≤ t.inHands toPush k := by
    unfold inHands
    cases who <;> omega
  have taken := o.stations.taken k
  have shut := o.stations.shut k
  have closed := o.stations.closed k
  have stored := o.stations.stored k
  have few := o.stations.stored_le k
  constructor
  · exact List.count_pos_iff.mp (by omega)
  · exact List.count_eq_zero.mp (by omega)

/-- A connection that was reported has no descriptor. -/
theorem Owned.dead {t : Traced} (o : Owned t) {k : SockId} {fd : Fd} (reported : k ∈ t.ledger.pushed) :
    t.dev.mgr.net.fds fd ≠ some k := by
  have pos := List.count_pos_iff.mpr reported
  have closed := o.stations.closed k
  exact o.stations.gone k (.inl (List.count_pos_iff.mp (by omega))) fd

/-! ## Steps -/

/-- When the command task writes an OK, nothing of an earlier connection is left. -/
theorem UsbInv.fresh_le {t : Traced} {c : CmdChoice} (inv : UsbInv t) (o : Owned t)
    (fine : Attributable t (.task (.cmd c))) {l : SockId} (fresh : l ∈ t.ledger.fresh) :
    (∀ k ∈ t.pending, l ≤ k) ∧
    (∀ k ∈ t.ledger.takes.map Take.conn, k ∉ t.ledger.pushed → l ≤ k) ∧
    ∀ fd k, t.dev.mgr.net.fds fd = some k → l ≤ k := by
  obtain ⟨pending, rx, send⟩ := fine.2 l fresh
  obtain ⟨-, holds, f, cmd⟩ := inv.fresh l fresh
  have taken : ∀ k ∈ t.ledger.takes.map Take.conn, k ∉ t.ledger.pushed → l ≤ k := by
    intro k mem unreported
    obtain ⟨who, held⟩ := o.stations.held_of_taken mem unreported
    cases who with
    | rx => exact rx k held
    | send => exact send k held
    | cmd => simp [Traced.held, Device.holds, Device.closing, cmd] at held
  refine ⟨pending, taken, fun fd k live => ?_⟩
  rcases o.stations.place_of_live (inv.live fd k live).1 live with connect | store | ⟨mem, unreported⟩
  · simp [connAt, Device.fdAt, cmd, CmdPc.fd] at connect
  · rcases holds with empty | here
    · simp [connAt, Device.fdAt, empty] at store
    · exact (Option.some.inj (here.symm.trans store)).le
  · exact taken k mem unreported

theorem UsbInv.ordered_step {t t' : Traced} {e : Event} (inv : UsbInv t) (o : Owned t)
    (w : Writes t t' e) : UsbOrder t'.ledger.notes := by
  cases w with
  | nothing notes => exact notes ▸ inv.ordered
  | restart ledger => exact ledger ▸ ⟨by simp [Ledger.empty], by simp [Ledger.empty]⟩
  | ok _ _ notes =>
    rw [notes]
    refine inv.ordered.concat ⟨by simp, fun m _ => ?_⟩
    cases m <;> trivial
  | data rx piece notes =>
    rename_i k data
    rw [notes]
    obtain ⟨answered, open', latest⟩ := inv.piece k (by simp [pending, rx, piece])
    refine inv.ordered.concat ⟨fun k' same => ?_, fun m mem => ?_⟩
    · obtain rfl := Note.data.inj same
      exact answered
    · cases m with
      | ok l => exact latest l mem
      | data => trivial
      | closed j =>
        rintro rfl
        exact open' mem
  | closed inside holding notes =>
    rw [notes]
    obtain ⟨taken, unreported⟩ := o.reporting inside holding
    have latest := inv.taken _ taken unreported
    refine inv.ordered.concat ⟨by simp, fun m mem => ?_⟩
    cases m with
    | ok l => exact latest l mem
    | data | closed => trivial

/-- A piece is received by `tcp_rx_task` or was there before. -/
theorem push_step {t t' : Traced} {e : Event} (m : Moves t e t') {data : Bytes}
    (after : t'.dev.rx = .push data) :
    (t.dev.rx = .push data ∧ t'.ledger.piece = t.ledger.piece) ∨
      ∃ len fd k, e = .task (.rx (.data len)) ∧ t.dev.rx = .recv fd ∧
        t.dev.mgr.net.fds fd = some k ∧ t'.ledger.piece = some k ∧
        t'.ledger.notes = t.ledger.notes := by
  have same : t'.dev.rx = t.dev.rx → t'.ledger.piece = t.ledger.piece →
      t.dev.rx = .push data ∧ t'.ledger.piece = t.ledger.piece := by
    intro rx piece
    exact ⟨rx.symm.trans after, piece⟩
  have closes : ∀ {who : Who} (mgr : Mgr) (next : Option ClosePc),
      t'.dev.rx = ((t.dev.setMgr mgr).setClosing who next).rx →
      t'.ledger.piece = t.ledger.piece →
      t.dev.rx = .push data ∧ t'.ledger.piece = t.ledger.piece := by
    intro who mgr next rx piece
    cases who with
    | rx => cases next <;> simp [rx, Device.setClosing] at after
    | send => cases next <;> exact same rx piece
    | cmd =>
      refine same (rx.trans ?_) piece
      simp only [Device.setClosing]
      split <;> rfl
  cases m with
  | rxData rx conn sock => exact .inr ⟨_, _, _, rfl, rx, conn, rfl, rfl⟩
  | quiet c light next mgr rx => exact .inl (same rx rfl)
  | receive => exact .inl (same rfl (by cases t.ledger.tags <;> rfl))
  | restart | rxSnapshot | rxReady | rxAgain | rxFail | rxPush | rxLost => cases after
  | closeNone => exact .inl (closes t.dev.mgr none rfl rfl)
  | closeTake | closeShut | closeClose | closePush => exact .inl (closes _ _ rfl rfl)
  | _ => exact .inl (same rfl rfl)

theorem mem_pending {t : Traced} {k : SockId} :
    k ∈ t.pending ↔ ∃ data, t.dev.rx = .push data ∧ t.ledger.piece = some k := by
  cases rx : t.dev.rx <;> simp [pending, rx]

/-- The CLOSED push of a connection is not written while a piece of it is waiting. -/
theorem Attributable.unclosed {t : Traced} {who : Who} {k : SockId}
    (fine : Attributable t (.task (closeAction who true))) (inside : t.dev.closing who = some .push)
    (waiting : k ∈ t.pending) : t.ledger.holding who ≠ some k := by
  intro holding
  cases who with
  | rx =>
    rw [Device.closing_rx] at inside
    simp [pending, inside] at waiting
  | send => exact fine inside (waiting.trans holding.symm)
  | cmd => exact fine.1 inside (waiting.trans holding.symm)

theorem UsbInv.latest_step {t t' : Traced} {e : Event} {k : SockId} (inv : UsbInv t) (o : Owned t)
    (fine : Attributable t e) (w : Writes t t' e) (latest : t.Latest k)
    (there : k ∈ t.pending ∨ (k ∈ t.ledger.takes.map Take.conn ∧ k ∉ t.ledger.pushed) ∨
      ∃ fd, t.dev.mgr.net.fds fd = some k) : t'.Latest k := by
  refine latest.step w fun l fresh cmd => ?_
  obtain ⟨c, rfl⟩ := cmd
  obtain ⟨pending, taken, live⟩ := inv.fresh_le o fine fresh
  rcases there with waiting | ⟨mem, unreported⟩ | ⟨fd, conn⟩
  · exact pending k waiting
  · exact taken k mem unreported
  · exact live fd k conn

theorem UsbInv.piece_step {t t' : Traced} {e : Event} (inv : UsbInv t) (o : Owned t)
    (fine : Attributable t e) (m : Moves t e t') (k : SockId) (after : k ∈ t'.pending) :
    .ok k ∈ t'.ledger.notes ∧ .closed k ∉ t'.ledger.notes ∧ t'.Latest k := by
  have w := writes_of_moves m
  obtain ⟨data, rx', piece'⟩ := mem_pending.mp after
  rcases push_step m rx' with ⟨rx, piece⟩ | ⟨len, fd, k', rfl, rx, conn, piece, notes⟩
  · have before : k ∈ t.pending := mem_pending.mpr ⟨data, rx, piece.symm.trans piece'⟩
    obtain ⟨answered, open', latest⟩ := inv.piece k before
    have latest' := inv.latest_step o fine w latest (.inl before)
    cases w with
    | nothing notes =>
      rw [notes]
      exact ⟨answered, open', latest'⟩
    | restart ledger =>
      have none : t'.pending = none := by
        unfold pending
        rw [ledger]
        split <;> rfl
      rw [none] at after
      cases after
    | ok _ _ notes =>
      rw [notes]
      exact ⟨List.mem_append_left _ answered, by simpa using open', latest'⟩
    | data rx piece notes =>
      rw [notes]
      exact ⟨List.mem_append_left _ answered, by simpa using open', latest'⟩
    | closed inside holding notes =>
      rw [notes]
      refine ⟨List.mem_append_left _ answered, ?_, latest'⟩
      simp only [List.mem_append, List.mem_singleton, Note.closed.injEq, not_or]
      refine ⟨open', ?_⟩
      rintro rfl
      exact fine.unclosed inside before holding
  · obtain rfl := Option.some.inj (piece'.symm.trans piece)
    rw [Latest, notes]
    refine ⟨fine k (by simp [receiving, rx, conn]), fun closed => ?_, (inv.live fd k conn).2⟩
    exact o.dead (inv.reported k closed) conn

theorem UsbInv.taken_step {t t' : Traced} {e : Event} (inv : UsbInv t) (o : Owned t)
    (fine : Attributable t e) (m : Moves t e t') (k : SockId)
    (mem : k ∈ t'.ledger.takes.map Take.conn) (unreported : k ∉ t'.ledger.pushed) :
    t'.Latest k := by
  have w := writes_of_moves m
  have same : t'.ledger.takes = t.ledger.takes → t.ledger.pushed ⊆ t'.ledger.pushed →
      t'.Latest k := by
    intro takes pushed
    rw [takes] at mem
    have before : k ∉ t.ledger.pushed := fun h => unreported (pushed h)
    exact inv.latest_step o fine w (inv.taken k mem before) (.inr (.inl ⟨mem, before⟩))
  cases m with
  | closeTake malloc inside up =>
    rename_i who fd
    simp only [List.map_append, List.mem_append] at mem
    rcases mem with old | new
    · exact inv.latest_step o fine w (inv.taken k old unreported) (.inr (.inl ⟨old, unreported⟩))
    · have conn : t.dev.mgr.net.fds fd = some k := by simpa using new
      exact inv.latest_step o fine w (inv.live fd k conn).2 (.inr (.inr ⟨fd, conn⟩))
  | closePush => exact same rfl (List.subset_append_left _ _)
  | restart => simp [Ledger.empty] at mem
  | receive => exact same (by cases t.ledger.tags <;> rfl) (by cases t.ledger.tags <;> simp)
  | _ => exact same rfl (List.Subset.refl _)

theorem opened_step {t t' : Traced} {e : Event} (m : Moves t e t') :
    (∀ fd, t'.dev.mgr.net.fds fd = none) ∨ t.ledger.opened ⊆ t'.ledger.opened := by
  cases m with
  | restart => exact .inl fun _ => rfl
  | socket => exact .inr (List.subset_append_left _ _)
  | receive => exact .inr (by cases t.ledger.tags <;> simp)
  | _ => exact .inr (List.Subset.refl _)

theorem UsbInv.live_step {t t' : Traced} {e : Event} (inv : UsbInv t) (o : Owned t)
    (fine : Attributable t e) (m : Moves t e t') (fd : Fd) (k : SockId)
    (live : t'.dev.mgr.net.fds fd = some k) : k ∈ t'.ledger.opened ∧ t'.Latest k := by
  have w := writes_of_moves m
  have more : t.ledger.opened ⊆ t'.ledger.opened := by
    rcases opened_step m with gone | more
    · rw [gone] at live
      cases live
    · exact more
  rcases fds_step m fd with same | gone | ⟨cmd, new⟩
  · rw [same] at live
    obtain ⟨opened, latest⟩ := inv.live fd k live
    exact ⟨more opened, inv.latest_step o fine w latest (.inr (.inr ⟨fd, live⟩))⟩
  · rw [gone] at live
    cases live
  · obtain ⟨fds, opened, notes⟩ := new
    obtain rfl : t.dev.mgr.net.socks.length = k := Option.some.inj (fds.symm.trans live)
    refine ⟨by rw [opened]; simp, fun l mem => ?_⟩
    rw [notes] at mem
    exact (inv.old l mem).le

theorem UsbInv.reported_step {t t' : Traced} {e : Event} (inv : UsbInv t) (m : Moves t e t')
    (k : SockId) (mem : .closed k ∈ t'.ledger.notes) : k ∈ t'.ledger.pushed := by
  have same : t'.ledger.pushed = t.ledger.pushed → .closed k ∈ t.ledger.notes →
      k ∈ t'.ledger.pushed := by
    intro pushed old
    rw [pushed]
    exact inv.reported k old
  cases m with
  | closePush malloc inside =>
    simp only at mem ⊢
    split at mem
    · rcases List.mem_append.mp mem with old | new
      · exact List.mem_append_left _ (inv.reported k old)
      · exact List.mem_append_right _ (by simpa using new)
    · exact List.mem_append_left _ (inv.reported k mem)
  | answer | rxPush => exact same rfl (by simpa using mem)
  | restart => simp [Ledger.empty] at mem
  | receive =>
    refine same (by cases t.ledger.tags <;> rfl) ?_
    cases tags : t.ledger.tags <;> simpa [tags] using mem
  | _ => exact same rfl mem

theorem socks_step {t t' : Traced} {e : Event} (m : Moves t e t') :
    t.dev.mgr.net.socks.length ≤ t'.dev.mgr.net.socks.length := by
  cases m with
  | socket => simp
  | quiet c light next mgr => rw [mgr]
  | connected => simp
  | restart => simp [Device.restart]
  | abandon | closeClose => simp [Net.close]
  | accept | rxData => simp
  | closeShut => simp
  | closeNone | closeTake | closePush => simp
  | _ => exact le_rfl

theorem setClosing_respond {d : Device} {who : Who} {pc : ClosePc} {f : ProtoFrame} {a : Answer}
    (inside : d.closing who = some pc) (cmd : d.cmd = .respond f a) (m : Mgr)
    (next : Option ClosePc) : ((d.setMgr m).setClosing who next).cmd = .respond f a := by
  cases who with
  | rx => cases next <;> exact cmd
  | send => cases next <;> exact cmd
  | cmd => simp [Device.closing, cmd] at inside

/-- The OK of a connection is due when it is stored, until the command task writes it. -/
theorem fresh_step {t t' : Traced} {e : Event} (m : Moves t e t') {l : SockId}
    (fresh : l ∈ t'.ledger.fresh) :
    (∃ f sock, t.dev.cmd = .connectStore f sock ∧ t.dev.mgr.net.fds sock = some l ∧
      t'.dev.cmd = .respond f ok ∧ t'.connAt .store = some l) ∨
    (l ∈ t.ledger.fresh ∧ ∀ f, t.dev.cmd = .respond f ok → t'.dev.cmd = .respond f ok) := by
  cases m with
  | store cmd =>
    rename_i f sock
    replace fresh : t.dev.mgr.net.fds sock = some l := fresh
    exact .inl ⟨f, sock, cmd, fresh, rfl, by simpa [connAt, Device.fdAt] using fresh⟩
  | answer | restart => cases fresh
  | quiet c light =>
    refine .inr ⟨fresh, fun f cmd => ?_⟩
    rw [cmd] at light
    cases light
  | free cmd | noSocket cmd | socket cmd | connectFail cmd | connected _ cmd | abandon cmd
  | request cmd | alloc cmd | put cmd | oom cmd | queueFull cmd =>
    refine .inr ⟨fresh, fun f respond => ?_⟩
    rw [cmd] at respond
    cases respond
  | receive =>
    refine .inr ⟨?_, fun _ => id⟩
    cases tags : t.ledger.tags <;> simpa [tags] using fresh
  | closeNone malloc inside =>
    exact .inr ⟨fresh, fun _ cmd => setClosing_respond inside cmd t.dev.mgr none⟩
  | closeTake malloc inside | closeShut malloc inside | closeClose malloc inside
  | closePush malloc inside => exact .inr ⟨fresh, fun _ cmd => setClosing_respond inside cmd _ _⟩
  | _ => exact .inr ⟨fresh, fun _ => id⟩

theorem UsbInv.fresh_step {t t' : Traced} {e : Event} (inv : UsbInv t) (o : Owned t)
    (m : Moves t e t') (l : SockId) (fresh : l ∈ t'.ledger.fresh) :
    l < t'.dev.mgr.net.socks.length ∧ t'.Holds (some l) ∧ ∃ f, t'.dev.cmd = .respond f ok := by
  rcases Traced.fresh_step m fresh with ⟨f, sock, -, conn, cmd, store⟩ | ⟨before, stays⟩
  · exact ⟨(o.hands.known sock l conn).trans_le (socks_step m), .inr store, f, cmd⟩
  · obtain ⟨known, holds, f, cmd⟩ := inv.fresh l before
    refine ⟨known.trans_le (socks_step m), holds.step o m fun _ _ => ?_, f, stays f cmd⟩
    simp [cmd, CmdPc.stores]

theorem usbInv_boot : UsbInv boot where
  ordered := ⟨by simp [boot, Ledger.empty], by simp [boot, Ledger.empty]⟩
  piece := by simp [boot, Firmware.boot, pending]
  taken := by simp [boot, Ledger.empty]
  live := by simp [boot, Firmware.boot]
  reported := by simp [boot, Ledger.empty]
  old := by simp [boot, Ledger.empty]
  fresh := by simp [boot, Ledger.empty]

theorem UsbInv.step {t t' : Traced} {e : Event} (inv : UsbInv t) (o : Owned t)
    (fine : Attributable t e) (m : Moves t e t') : UsbInv t' where
  ordered := inv.ordered_step o (writes_of_moves m)
  piece := inv.piece_step o fine m
  taken := inv.taken_step o fine m
  live := inv.live_step o fine m
  reported := inv.reported_step m
  old l mem := by
    refine lt_of_lt_of_le ?_ (socks_step m)
    rcases (writes_of_moves m).ok_mem mem with old | ⟨fresh, -⟩
    · exact inv.old l old
    · exact (inv.fresh l fresh).1
  fresh := inv.fresh_step o m

/-! ## The frames themselves -/

/-- What the host can tell of a frame of the relay. -/
inductive Kind where
  | ok
  | data
  | closed
  deriving DecidableEq, Repr

def noteKind : Note → Kind
  | .ok _ => .ok
  | .data _ => .data
  | .closed _ => .closed

def frameKind : DeviceFrame → Option Kind
  | .push cmd _ _ =>
    if cmd = cmdProxyDataPush then some .data
    else if cmd = cmdProxyClosedPush then some .closed else none
  | .response _ cmd status _ _ =>
    if cmd = cmdProxyConnect ∧ status = statusOk then some .ok else none

/-- The notes are the frames of the relay written since the device started. -/
structure Noted (t : Traced) : Prop where
  usb : ∃ before written, t.dev.mgr.usb = before ++ written ∧
    written.filterMap frameKind = t.ledger.notes.map noteKind
  piece : ∀ data, t.dev.rx = .push data → t.ledger.piece.isSome
  proper : t.ledger.fresh = none → t.dev.cmd.Proper
  stored : t.ledger.fresh ≠ none → ∃ f, t.dev.cmd = .respond f ok ∧ f.cmd = cmdProxyConnect

theorem Noted.usb_same {t t' : Traced} (n : Noted t) (usb : t'.dev.mgr.usb = t.dev.mgr.usb)
    (notes : t'.ledger.notes = t.ledger.notes) : ∃ before written,
    t'.dev.mgr.usb = before ++ written ∧ written.filterMap frameKind = t'.ledger.notes.map noteKind := by
  rw [usb, notes]
  exact n.usb

theorem Noted.usb_concat {t t' : Traced} {o : DeviceFrame} (n : Noted t) (notes : List Note)
    (usb : t'.dev.mgr.usb = t.dev.mgr.usb ++ [o])
    (written : t'.ledger.notes = t.ledger.notes ++ notes)
    (kind : (frameKind o).toList = notes.map noteKind) : ∃ before written,
    t'.dev.mgr.usb = before ++ written ∧ written.filterMap frameKind = t'.ledger.notes.map noteKind := by
  obtain ⟨before, frames, split, kinds⟩ := n.usb
  refine ⟨before, frames ++ [o], by rw [usb, split, List.append_assoc], ?_⟩
  rw [List.filterMap_append, kinds, written, List.map_append, ← kind]
  cases frame : frameKind o <;> simp [frame]

/-- Before its answer is due, a handler has the frame it is for. -/
theorem Noted.proper_of {t : Traced} (n : Noted t) (undue : ∀ f a, t.dev.cmd ≠ .respond f a) :
    t.dev.cmd.Proper := by
  by_cases fresh : t.ledger.fresh = none
  · exact n.proper fresh
  · obtain ⟨f, cmd, -⟩ := n.stored fresh
    exact absurd cmd (undue f ok)

theorem Noted.usb_step {t t' : Traced} {e : Event} (n : Noted t) (o : Owned t) (m : Moves t e t') :
    ∃ before written, t'.dev.mgr.usb = before ++ written ∧
      written.filterMap frameKind = t'.ledger.notes.map noteKind := by
  cases m with
  | quiet c light next mgr rx send proper usb =>
    rcases usb with same | ⟨f, a, handler, written⟩
    · exact n.usb_same same rfl
    · have other : f.cmd ≠ cmdProxyConnect := by
        have before := n.proper_of (by rcases handler with h | h <;> simp [h])
        rcases handler with h | h <;> simpa [h, CmdPc.Proper] using before
      refine n.usb_concat [] (by rw [written]; rfl) (by simp) ?_
      simp [frameKind, other]
  | restart => exact ⟨t.dev.mgr.usb, [], by simp [Device.restart], rfl⟩
  | answer cmd =>
    refine n.usb_concat _ rfl rfl ?_
    cases fresh : t.ledger.fresh with
    | none =>
      have proper := n.proper fresh
      rw [cmd] at proper
      simp [frameKind, show ¬ _ from proper]
    | some l =>
      obtain ⟨f, respond, connect⟩ := n.stored (by simp [fresh])
      obtain ⟨rfl, rfl⟩ := CmdPc.respond.inj (cmd.symm.trans respond)
      simp [frameKind, connect, ok, noteKind]
  | rxPush rx =>
    refine n.usb_concat _ (by simp [Mgr.cdcSendPush]; rfl) rfl ?_
    obtain ⟨k, piece⟩ := Option.isSome_iff_exists.mp (n.piece _ rx)
    simp [frameKind, piece, noteKind]
  | closePush malloc inside =>
    cases malloc with
    | false => exact n.usb_same (by simp [Mgr.cdcSendPush]) rfl
    | true =>
      obtain ⟨k, holding, -⟩ := o.hands.named _ _ (Device.holds_of_past inside (by simp))
      refine n.usb_concat _ (by simp [Mgr.cdcSendPush]; rfl) rfl ?_
      simp [frameKind, holding, noteKind, cmdProxyClosedPush, cmdProxyDataPush]
  | receive => exact n.usb_same rfl (by cases t.ledger.tags <;> rfl)
  | closeNone | closeTake | closeShut | closeClose => exact n.usb_same (by simp) rfl
  | _ => exact n.usb_same rfl rfl

theorem setClosing_proper {d : Device} {who : Who} {pc : ClosePc} (inside : d.closing who = some pc)
    (proper : d.cmd.Proper) (m : Mgr) (next : Option ClosePc) :
    ((d.setMgr m).setClosing who next).cmd.Proper := by
  cases who with
  | rx => cases next <;> exact proper
  | send => cases next <;> exact proper
  | cmd =>
    simp only [Device.setClosing]
    split
    case h_1 f pc cmd =>
      replace cmd : d.cmd = .disconnect f pc := cmd
      rw [cmd] at proper
      cases next with
      | some pc => exact proper
      | none => exact fun connect => proper connect.1
    case h_2 => exact proper

theorem Noted.proper_step {t t' : Traced} {e : Event} (n : Noted t) (o : Owned t) (m : Moves t e t')
    (fresh : t'.ledger.fresh = none) : t'.dev.cmd.Proper := by
  cases m with
  | quiet c light next mgr rx send proper =>
    refine proper (n.proper_of fun f a cmd => ?_)
    rw [cmd] at light
    cases light
  | restart | answer | put | oom | queueFull => trivial
  | free cmd | connectFail cmd | connected _ cmd | socket cmd | request cmd | alloc cmd =>
    have before := n.proper_of (by simp [cmd])
    rw [cmd] at before
    exact before
  | noSocket cmd | abandon cmd => simp [CmdPc.Proper, error, statusError, statusOk]
  | store cmd =>
    obtain ⟨k, conn⟩ := o.hands.live .connect _ (by rw [Device.fdAt, cmd]; rfl)
    exact absurd (conn.symm.trans fresh) (by simp)
  | receive => exact n.proper (by cases tags : t.ledger.tags <;> simpa [tags] using fresh)
  | closeNone malloc inside => exact setClosing_proper inside (n.proper fresh) t.dev.mgr none
  | closeTake malloc inside | closeShut malloc inside | closeClose malloc inside
  | closePush malloc inside => exact setClosing_proper inside (n.proper fresh) _ _
  | _ => exact n.proper fresh

theorem noted_boot : Noted boot :=
  ⟨⟨[], [], rfl, rfl⟩, by simp [boot, Firmware.boot], fun _ => trivial, by simp [boot, Ledger.empty]⟩

theorem Noted.step {t t' : Traced} {e : Event} (n : Noted t) (o : Owned t) (m : Moves t e t') :
    Noted t' where
  usb := n.usb_step o m
  piece data rx' := by
    rcases push_step m rx' with ⟨rx, piece⟩ | ⟨len, fd, k, -, -, -, piece, -⟩
    · rw [piece]
      exact n.piece data rx
    · simp [piece]
  proper := n.proper_step o m
  stored fresh' := by
    obtain ⟨l, fresh'⟩ := Option.ne_none_iff_exists'.mp fresh'
    rcases fresh_step m fresh' with ⟨f, sock, cmd, -, cmd', -⟩ | ⟨fresh, stays⟩
    · have before := n.proper_of (by simp [cmd])
      rw [cmd] at before
      exact ⟨f, cmd', before⟩
    · obtain ⟨f, cmd, connect⟩ := n.stored (Option.ne_none_iff_exists'.mpr ⟨l, fresh⟩)
      exact ⟨f, stays f cmd, connect⟩

/-- If `tcp_rx_task` receives from a connection only after its OK was written, the CLOSED push of a
connection is written only when no piece of it is waiting, and an OK only when nothing of an
earlier connection is, then the frames on USB can be attributed by their order. -/
theorem usb_frames_ordered {es : List Event} {t : Traced} (fine : Obeys step Attributable boot es)
    (run : exec step boot es = some t) : UsbOrder t.ledger.notes ∧
    ∃ before written, t.dev.mgr.usb = before ++ written ∧
      written.filterMap frameKind = t.ledger.notes.map noteKind := by
  have inv := exec_invariant_of_obeys (fun t => Owned t ∧ UsbInv t ∧ Noted t) ?_
    ⟨owned_boot, usbInv_boot, noted_boot⟩ fine run
  · exact ⟨inv.2.1.ordered, inv.2.2.usb⟩
  · rintro t e u ⟨o, inv, noted⟩ fine taken
    have m := step_moves taken
    exact ⟨o.step m, inv.step o fine m, noted.step o m⟩

/-- `tcp_rx_task` pushes a piece of `n` bytes. -/
def pushPiece (n : Nat) : List Event :=
  [.task (.rx .go), .task (.rx .go), .task (.rx (.data n)), .task (.rx .go)]

/-- A piece is pushed, and another one when the host has taken the relay down and up again. -/
def orderedRun : List Event :=
  connect 3 [7] ++ .task (.cmd .go) :: pushPiece 1 ++ disconnect ++
    .task (.cmd .go) :: connect 3 [8] ++ .task (.cmd .go) :: pushPiece 1

theorem usb_frames_ordered_one : ∃ t, exec step boot orderedRun = some t ∧
    t.ledger.notes = [.ok 0, .data 0, .closed 0, .ok 1, .data 1] ∧ UsbOrder t.ledger.notes ∧
    ∃ before written, t.dev.mgr.usb = before ++ written ∧
      written.filterMap frameKind = t.ledger.notes.map noteKind := by
  have ends : (exec step boot orderedRun).map (fun t => t.ledger.notes) =
      some [.ok 0, .data 0, .closed 0, .ok 1, .data 1] := by
    decide +kernel
  have fine : Obeys step Attributable boot orderedRun := by decide +kernel
  obtain ⟨t, run, notes⟩ := Option.map_eq_some_iff.mp ends
  exact ⟨t, run, notes, usb_frames_ordered fine run⟩

/-- `tcp_rx_task` finds the connection in `s_fd` before the command task answers. -/
theorem usb_data_before_ok : ∃ t, exec step boot (connect 3 [7] ++ pushPiece 1) = some t ∧
    t.dev.mgr.usb.map frameKind = [some .data] ∧
    t.ledger.notes = [.data 0] ∧ ¬ UsbOrder t.ledger.notes := by
  have ends : (exec step boot (connect 3 [7] ++ pushPiece 1)).map
      (fun t => (t.dev.mgr.usb.map frameKind, t.ledger.notes)) = some ([some .data], [.data 0]) := by
    decide +kernel
  obtain ⟨t, run, seen⟩ := Option.map_eq_some_iff.mp ends
  obtain ⟨usb, notes⟩ := Prod.mk.inj seen
  refine ⟨t, run, usb, notes, fun order => ?_⟩
  simpa using order.answered [] 0 [] (by rw [notes]; rfl)

end Traced

end EspNetwork.Firmware
