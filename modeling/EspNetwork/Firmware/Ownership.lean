import Mathlib
import EspNetwork.Firmware.Ledger

/-!
# Who owns a relay socket

A descriptor is in one hand at a time: in those of `tcp_mgr_connect` until it is stored, in
`s_fd`, or in those of the task that took it out of `s_fd`. Its connection goes through the
same stations once: opened, stored, taken, shut down, closed and reported, or opened and
abandoned.
-/

namespace EspNetwork.Firmware

open Serial
open Schedule

namespace Device

/-- Where a task stands inside `close_relay` with a connection in its hands. -/
def holds (d : Device) (who : Who) : Option ClosePc :=
  match d.closing who with
  | some .take => none
  | pc => pc

@[simp] theorem setMgr_holds (d : Device) (m : Mgr) (who : Who) : (d.setMgr m).holds who = d.holds who :=
  rfl

theorem closing_setClosing {d : Device} {who : Who} {pc : ClosePc} (inside : d.closing who = some pc)
    (next : Option ClosePc) (w : Who) :
    (d.setClosing who next).closing w = if w = who then next else d.closing w := by
  cases who with
  | rx => cases next <;> cases w <;> rfl
  | send => cases next <;> cases w <;> rfl
  | cmd =>
    simp only [closing] at inside
    split at inside
    · rename_i cmd
      cases next <;> cases w <;> simp [setClosing, cmd, closing]
    · cases inside

theorem holds_setClosing {d : Device} {who : Who} {pc : ClosePc} (inside : d.closing who = some pc)
    {next : Option ClosePc} (past : next ≠ some .take) (w : Who) :
    (d.setClosing who next).holds w = if w = who then next else d.holds w := by
  unfold holds
  rw [closing_setClosing inside]
  by_cases same : w = who
  · simp only [same, if_true]
  · simp only [same, if_false]

/-- A task before its critical section holds nothing. -/
theorem holds_of_take {d : Device} {who : Who} (inside : d.closing who = some .take) :
    d.holds who = none := by
  simp [holds, inside]

theorem holds_of_past {d : Device} {who : Who} {pc : ClosePc} (inside : d.closing who = some pc)
    (past : pc ≠ .take) : d.holds who = some pc := by
  cases pc <;> simp [holds, inside] at past ⊢

end Device

/-- The descriptor a task is to close. -/
def ClosePc.fd : ClosePc → Option Fd
  | .shut fd | .close fd => some fd
  | .take | .push => none

/-- The descriptor in the hands of `tcp_mgr_connect`. -/
def CmdPc.fd : CmdPc → Option Fd
  | .connecting _ sock | .connectFailed _ sock | .connectStore _ sock => some sock
  | _ => none

/-- `tcp_mgr_connect` is past its busy check and has not stored a connection yet. -/
def CmdPc.Connecting : CmdPc → Prop
  | .connectSocket .. | .connecting .. | .connectFailed .. | .connectStore .. => True
  | _ => False

theorem CmdPc.Light.no_fd {cmd : CmdPc} (light : cmd.Light) : cmd.fd = none ∧ ¬ cmd.Connecting := by
  cases cmd <;> simp [Light, fd, Connecting] at *

theorem CmdPc.Light.unstored {cmd : CmdPc} (light : cmd.Light) : ¬ cmd.stores := by
  cases cmd <;> simp [Light, stores] at *

theorem setClosing_cmd {d : Device} {who : Who} {pc : ClosePc} (inside : d.closing who = some pc)
    (next : Option ClosePc) : (d.setClosing who next).cmd.fd = d.cmd.fd ∧
      ((d.setClosing who next).cmd.Connecting ↔ d.cmd.Connecting) := by
  cases who with
  | rx => cases next <;> exact ⟨rfl, Iff.rfl⟩
  | send => cases next <;> exact ⟨rfl, Iff.rfl⟩
  | cmd =>
    simp only [Device.closing] at inside
    split at inside
    · rename_i cmd
      cases next <;> simp [Device.setClosing, cmd, CmdPc.fd, CmdPc.Connecting]
    · cases inside

namespace Net

@[simp] theorem update_length (n : Net) (k : SockId) (f : Sock → Sock) :
    (n.update k f).socks.length = n.socks.length := List.length_modify ..

@[simp] theorem connected_fds (n : Net) (fd : Fd) (stream : Bytes) :
    (n.connected fd stream).fds = n.fds := by
  unfold connected
  split <;> rfl

@[simp] theorem connected_length (n : Net) (fd : Fd) (stream : Bytes) :
    (n.connected fd stream).socks.length = n.socks.length := by
  unfold connected
  split <;> simp

@[simp] theorem shutdown_fds (n : Net) (fd : Fd) : (n.shutdown fd).fds = n.fds := by
  unfold shutdown
  split <;> rfl

@[simp] theorem shutdown_length (n : Net) (fd : Fd) :
    (n.shutdown fd).socks.length = n.socks.length := by
  unfold shutdown
  split <;> simp

end Net

/-- The hands a descriptor may be in. -/
inductive Place where
  | store
  | closing (who : Who)
  | connect
  deriving DecidableEq, Repr

def Device.fdAt (d : Device) : Place → Option Fd
  | .store => d.mgr.sFd
  | .closing who => (d.holds who).bind ClosePc.fd
  | .connect => d.cmd.fd

namespace Traced

/-- The connection at a place. -/
def connAt (t : Traced) (p : Place) : Option SockId := (t.dev.fdAt p).bind t.dev.mgr.net.fds

/-- Whether a task is at a stage of `close_relay` with this connection. -/
def inHand (t : Traced) (stage : ClosePc → Bool) (who : Who) (k : SockId) : Nat :=
  if (t.dev.holds who).any stage ∧ t.ledger.holding who = some k then 1 else 0

/-- How many tasks are. -/
def inHands (t : Traced) (stage : ClosePc → Bool) (k : SockId) : Nat :=
  t.inHand stage .rx k + t.inHand stage .send k + t.inHand stage .cmd k

def toShut : ClosePc → Bool | .shut _ => true | _ => false
def toClose : ClosePc → Bool | .close _ => true | _ => false
def toPush : ClosePc → Bool | .push => true | _ => false

/-- One descriptor, one hand, and the descriptors name connections. -/
structure Hands (t : Traced) : Prop where
  live : ∀ p fd, t.dev.fdAt p = some fd → ∃ k, t.dev.mgr.net.fds fd = some k
  one : ∀ p q fd, t.dev.fdAt p = some fd → t.dev.fdAt q = some fd → p = q
  table : ∀ a b k, t.dev.mgr.net.fds a = some k → t.dev.mgr.net.fds b = some k → a = b
  known : ∀ fd k, t.dev.mgr.net.fds fd = some k → k < t.dev.mgr.net.socks.length
  empty : t.dev.cmd.Connecting → t.dev.mgr.sFd = none
  named : ∀ who pc, t.dev.holds who = some pc →
    ∃ k, t.ledger.holding who = some k ∧ ∀ fd, pc.fd = some fd → t.dev.mgr.net.fds fd = some k

/-- The stations of a connection, counted. -/
structure Stations (t : Traced) : Prop where
  fresh : ∀ k ∈ t.ledger.opened, k < t.dev.mgr.net.socks.length
  nodup : t.ledger.opened.Nodup
  opened : ∀ k, t.ledger.opened.count k = t.ledger.stored.count k + t.ledger.abandoned.count k +
    if t.connAt .connect = some k then 1 else 0
  stored : ∀ k, t.ledger.stored.count k = (t.ledger.takes.map Take.conn).count k +
    if t.connAt .store = some k then 1 else 0
  taken : ∀ k, (t.ledger.takes.map Take.conn).count k = t.ledger.shut.count k + t.inHands toShut k
  shut : ∀ k, t.ledger.shut.count k = t.ledger.closed.count k + t.inHands toClose k
  closed : ∀ k, t.ledger.closed.count k = t.ledger.pushed.count k + t.inHands toPush k
  gone : ∀ k, k ∈ t.ledger.closed ∨ k ∈ t.ledger.abandoned → ∀ fd, t.dev.mgr.net.fds fd ≠ some k

/-! ## Steps that move no descriptor -/

/-- The hands, the descriptors and the stations are the same. -/
structure Same (t t' : Traced) : Prop where
  sFd : t'.dev.mgr.sFd = t.dev.mgr.sFd
  fds : t'.dev.mgr.net.fds = t.dev.mgr.net.fds
  socks : t'.dev.mgr.net.socks.length = t.dev.mgr.net.socks.length
  holds : ∀ who, t'.dev.holds who = t.dev.holds who
  fd : t'.dev.cmd.fd = t.dev.cmd.fd
  connecting : t'.dev.cmd.Connecting → t.dev.cmd.Connecting ∨ t.dev.mgr.sFd = none
  holding : t'.ledger.holding = t.ledger.holding
  stations : t'.ledger.opened = t.ledger.opened ∧ t'.ledger.abandoned = t.ledger.abandoned ∧
    t'.ledger.stored = t.ledger.stored ∧ t'.ledger.takes = t.ledger.takes ∧
    t'.ledger.shut = t.ledger.shut ∧ t'.ledger.closed = t.ledger.closed ∧
    t'.ledger.pushed = t.ledger.pushed

theorem Same.fdAt {t t' : Traced} (same : Same t t') (p : Place) :
    t'.dev.fdAt p = t.dev.fdAt p := by
  cases p with
  | store => exact same.sFd
  | closing who => simp [Device.fdAt, same.holds]
  | connect => exact same.fd

theorem Hands.of_fdAt {t t' : Traced} (h : Hands t) (fdAt : ∀ p, t'.dev.fdAt p = t.dev.fdAt p)
    (fds : t'.dev.mgr.net.fds = t.dev.mgr.net.fds)
    (socks : t'.dev.mgr.net.socks.length = t.dev.mgr.net.socks.length)
    (connecting : t'.dev.cmd.Connecting → t.dev.cmd.Connecting ∨ t.dev.mgr.sFd = none)
    (named : ∀ who pc, t'.dev.holds who = some pc → ∃ k, t'.ledger.holding who = some k ∧
      ∀ fd, pc.fd = some fd → t.dev.mgr.net.fds fd = some k) : Hands t' where
  live p fd at_p := by
    rw [fds]
    exact h.live p fd (fdAt p ▸ at_p)
  one p q fd at_p at_q := h.one p q fd (fdAt p ▸ at_p) (fdAt q ▸ at_q)
  table := fds ▸ h.table
  known fd k := by
    rw [fds, socks]
    exact h.known fd k
  empty inside := by
    have store : t'.dev.mgr.sFd = t.dev.mgr.sFd := fdAt .store
    rw [store]
    rcases connecting inside with before | empty
    · exact h.empty before
    · exact empty
  named := fds ▸ named

theorem Hands.congr {t t' : Traced} (h : Hands t) (same : Same t t') : Hands t' := by
  refine h.of_fdAt same.fdAt same.fds same.socks same.connecting fun who pc held => ?_
  rw [same.holds] at held
  rw [same.holding]
  exact h.named who pc held

theorem Same.connAt {t t' : Traced} (same : Same t t') (p : Place) : t'.connAt p = t.connAt p := by
  rw [Traced.connAt, Traced.connAt, same.fdAt, same.fds]

theorem Same.inHands {t t' : Traced} (same : Same t t') (stage : ClosePc → Bool) (k : SockId) :
    t'.inHands stage k = t.inHands stage k := by
  simp only [Traced.inHands, Traced.inHand, same.holds, same.holding]

theorem Stations.congr {t t' : Traced} (h : Stations t) (same : Same t t') : Stations t' := by
  obtain ⟨opened, abandoned, stored, takes, shut, closed, pushed⟩ := same.stations
  refine ⟨?_, ?_, fun k => ?_, fun k => ?_, fun k => ?_, fun k => ?_, fun k => ?_, ?_⟩
  · rw [opened, same.socks]
    exact h.fresh
  · rw [opened]
    exact h.nodup
  · rw [opened, stored, abandoned, same.connAt]
    exact h.opened k
  · rw [stored, takes, same.connAt]
    exact h.stored k
  · rw [takes, shut, same.inHands]
    exact h.taken k
  · rw [shut, closed, same.inHands]
    exact h.shut k
  · rw [closed, pushed, same.inHands]
    exact h.closed k
  · rw [closed, abandoned, same.fds]
    exact h.gone

/-! ## Steps that move one -/

/-- `socket`: a new descriptor in the hands of `tcp_mgr_connect`. -/
theorem Hands.socket {t t' : Traced} (h : Hands t) {fd : Fd} (unused : t.dev.mgr.net.fds fd = none)
    (sFd : t'.dev.mgr.sFd = t.dev.mgr.sFd)
    (fds : t'.dev.mgr.net.fds = Function.update t.dev.mgr.net.fds fd (some t.dev.mgr.net.socks.length))
    (socks : t'.dev.mgr.net.socks.length = t.dev.mgr.net.socks.length + 1)
    (holds : ∀ who, t'.dev.holds who = t.dev.holds who)
    (connecting : t.dev.cmd.Connecting) (cmd : t'.dev.cmd.fd = some fd)
    (holding : t'.ledger.holding = t.ledger.holding) : Hands t' := by
  have old : ∀ p g, t'.dev.fdAt p = some g → (p = .connect ∧ g = fd) ∨
      (p ≠ .connect ∧ g ≠ fd ∧ t.dev.fdAt p = some g) := by
    intro p g at_p
    have earlier : p ≠ .connect → t.dev.fdAt p = some g := by
      intro other
      cases p with
      | store => exact sFd.symm.trans at_p
      | closing who => simpa [Device.fdAt, holds] using at_p
      | connect => exact absurd rfl other
    by_cases here : p = .connect
    · subst here
      exact .inl ⟨rfl, (Option.some.inj (cmd.symm.trans at_p)).symm⟩
    · refine .inr ⟨here, ?_, earlier here⟩
      rintro rfl
      obtain ⟨k, at_g⟩ := h.live p g (earlier here)
      rw [unused] at at_g
      cases at_g
  refine ⟨fun p g at_p => ?_, fun p q g at_p at_q => ?_, fun a b k at_a at_b => ?_,
    fun g k at_g => ?_, fun _ => ?_, fun who pc held => ?_⟩
  · rw [fds]
    rcases old p g at_p with ⟨rfl, rfl⟩ | ⟨-, other, before⟩
    · exact ⟨_, Function.update_self ..⟩
    · obtain ⟨k, at_g⟩ := h.live p g before
      exact ⟨k, by simp [other, at_g]⟩
  · rcases old p g at_p with ⟨rfl, rfl⟩ | ⟨-, other, before⟩ <;>
      rcases old q _ at_q with ⟨rfl, same⟩ | ⟨-, other', before'⟩
    · rfl
    · exact absurd rfl other'
    · exact absurd same other
    · exact h.one p q g before before'
  · have new : ∀ c, t'.dev.mgr.net.fds c = some k → (c = fd ∧ k = t.dev.mgr.net.socks.length) ∨
        (c ≠ fd ∧ t.dev.mgr.net.fds c = some k) := by
      intro c at_c
      rw [fds] at at_c
      by_cases here : c = fd
      · subst here
        exact .inl ⟨rfl, by simpa [eq_comm] using at_c⟩
      · exact .inr ⟨here, by simpa [here] using at_c⟩
    rcases new a at_a with ⟨rfl, rfl⟩ | ⟨-, olda⟩ <;> rcases new b at_b with ⟨rfl, same⟩ | ⟨-, oldb⟩
    · rfl
    · exact absurd (h.known b _ oldb) (lt_irrefl _)
    · subst same
      exact absurd (h.known a _ olda) (lt_irrefl _)
    · exact h.table a b k olda oldb
  · rw [fds] at at_g
    rw [socks]
    by_cases here : g = fd
    · subst here
      obtain rfl : t.dev.mgr.net.socks.length = k := by simpa using at_g
      exact Nat.lt_succ_self _
    · exact Nat.lt_succ_of_lt (h.known g k (by simpa [here] using at_g))
  · rw [sFd]
    exact h.empty connecting
  · rw [holds] at held
    obtain ⟨k, own, named⟩ := h.named who pc held
    refine ⟨k, holding ▸ own, fun g at_g => ?_⟩
    have at_k := named g at_g
    have other : g ≠ fd := by
      rintro rfl
      rw [unused] at at_k
      cases at_k
    rw [fds]
    simpa [other] using at_k

/-- A descriptor is closed by the hands it is in. -/
theorem Hands.close {t t' : Traced} (h : Hands t) {p : Place} {fd : Fd}
    (at_p : t.dev.fdAt p = some fd) (fdAt : ∀ q, t'.dev.fdAt q = if q = p then none else t.dev.fdAt q)
    (fds : t'.dev.mgr.net.fds = Function.update t.dev.mgr.net.fds fd none)
    (socks : t'.dev.mgr.net.socks = t.dev.mgr.net.socks)
    (connecting : t'.dev.cmd.Connecting → t.dev.cmd.Connecting)
    (holding : t'.ledger.holding = t.ledger.holding)
    (holds : ∀ who pc, t'.dev.holds who = some pc → t.dev.holds who = some pc ∨
      (p = .closing who ∧ pc = .push)) : Hands t' := by
  have old : ∀ q g, t'.dev.fdAt q = some g → q ≠ p ∧ g ≠ fd ∧ t.dev.fdAt q = some g := by
    intro q g at_q
    rw [fdAt] at at_q
    split at at_q
    · cases at_q
    · refine ⟨‹_›, ?_, at_q⟩
      rintro rfl
      exact absurd (h.one q p g at_q at_p) ‹_›
  have kept : ∀ g k, t'.dev.mgr.net.fds g = some k → t.dev.mgr.net.fds g = some k := by
    intro g k at_g
    rw [fds] at at_g
    by_cases here : g = fd
    · simp [here] at at_g
    · simpa [here] using at_g
  refine ⟨fun q g at_q => ?_, fun q r g at_q at_r => ?_, fun a b k at_a at_b => ?_,
    fun g k at_g => ?_, fun inside => ?_, fun who pc held => ?_⟩
  · obtain ⟨-, other, before⟩ := old q g at_q
    obtain ⟨k, at_g⟩ := h.live q g before
    exact ⟨k, by simp [fds, other, at_g]⟩
  · exact h.one q r g (old q g at_q).2.2 (old r g at_r).2.2
  · exact h.table a b k (kept a k at_a) (kept b k at_b)
  · rw [socks]
    exact h.known g k (kept g k at_g)
  · have empty := h.empty (connecting inside)
    have := fdAt .store
    simp only [Device.fdAt] at this
    rw [this]
    split
    · rfl
    · exact empty
  · rcases holds who pc held with before | ⟨rfl, rfl⟩
    · obtain ⟨k, own, named⟩ := h.named who pc before
      refine ⟨k, holding ▸ own, fun g at_g => ?_⟩
      have now : t'.dev.fdAt (.closing who) = some g := by simp [Device.fdAt, held, at_g]
      rw [fds]
      simpa [(old _ g now).2.1] using named g at_g
    · simp only [Device.fdAt, Option.bind_eq_some_iff] at at_p
      obtain ⟨pc, before, -⟩ := at_p
      obtain ⟨k, own, -⟩ := h.named who pc before
      exact ⟨k, holding ▸ own, by simp [ClosePc.fd]⟩

/-- A descriptor passes from one hand to another. -/
theorem Hands.pass {t t' : Traced} (h : Hands t) (src dst : Place) {fd : Fd}
    (at_src : t.dev.fdAt src = some fd) (differ : dst ≠ src)
    (fdAt : ∀ q, t'.dev.fdAt q = if q = dst then some fd else if q = src then none else t.dev.fdAt q)
    (net : t'.dev.mgr.net = t.dev.mgr.net)
    (empty : t'.dev.cmd.Connecting → t'.dev.mgr.sFd = none)
    (named : ∀ who pc, t'.dev.holds who = some pc → (t.dev.holds who = some pc ∧
        t'.ledger.holding who = t.ledger.holding who) ∨
      (dst = .closing who ∧ t'.ledger.holding who = t.dev.mgr.net.fds fd)) : Hands t' := by
  have old : ∀ q g, t'.dev.fdAt q = some g → (q = dst ∧ g = fd) ∨ (q ≠ src ∧ t.dev.fdAt q = some g) := by
    intro q g at_q
    rw [fdAt] at at_q
    split_ifs at at_q with here there
    · exact .inl ⟨here, (Option.some.inj at_q).symm⟩
    · exact .inr ⟨there, at_q⟩
  refine ⟨fun q g at_q => ?_, fun q r g at_q at_r => ?_, net ▸ h.table, net ▸ h.known, empty,
    fun who pc held => ?_⟩
  · rw [net]
    rcases old q g at_q with ⟨rfl, rfl⟩ | ⟨-, before⟩
    · exact h.live src _ at_src
    · exact h.live q g before
  · rcases old q g at_q with ⟨rfl, rfl⟩ | ⟨other, before⟩ <;>
      rcases old r _ at_r with ⟨rfl, same⟩ | ⟨other', before'⟩
    · rfl
    · exact absurd (h.one r src _ before' at_src) other'
    · subst same
      exact absurd (h.one q src _ before at_src) other
    · exact h.one q r g before before'
  · rw [net]
    rcases named who pc held with ⟨before, same⟩ | ⟨rfl, own⟩
    · rw [same]
      exact h.named who pc before
    · obtain ⟨k, at_fd⟩ := h.live src fd at_src
      refine ⟨k, own.trans at_fd, fun g at_g => ?_⟩
      have now : t'.dev.fdAt (.closing who) = some g := by simp [Device.fdAt, held, at_g]
      rw [fdAt, if_pos rfl] at now
      obtain rfl := Option.some.inj now
      exact at_fd

/-! ## The stations, step by step -/

/-- One task moves on inside `close_relay`. -/
theorem inHands_move {t t' : Traced} {who : Who} (stage : ClosePc → Bool) (k : SockId)
    (others : ∀ w, w ≠ who → t'.dev.holds w = t.dev.holds w ∧
      t'.ledger.holding w = t.ledger.holding w) :
    t'.inHands stage k + t.inHand stage who k = t.inHands stage k + t'.inHand stage who k := by
  have same : ∀ w, w ≠ who → t'.inHand stage w k = t.inHand stage w k := by
    intro w other
    rw [inHand, inHand, (others w other).1, (others w other).2]
  unfold inHands
  cases who with
  | rx => rw [same .send (by decide), same .cmd (by decide)]; omega
  | send => rw [same .rx (by decide), same .cmd (by decide)]; omega
  | cmd => rw [same .rx (by decide), same .send (by decide)]; omega

theorem count_toList {o : Option SockId} (k : SockId) :
    o.toList.count k = if o = some k then 1 else 0 := by
  cases o with
  | none => simp
  | some j => by_cases same : j = k <;> simp [same]

theorem Stations.count_le {t : Traced} (h : Stations t) (k : SockId) :
    t.ledger.closed.count k + t.ledger.abandoned.count k ≤ t.ledger.opened.count k := by
  have := h.opened k
  have := h.stored k
  have := h.taken k
  have := h.shut k
  omega

theorem Stations.old {t : Traced} (h : Stations t) {k : SockId}
    (mem : k ∈ t.ledger.closed ∨ k ∈ t.ledger.abandoned) : k < t.dev.mgr.net.socks.length := by
  refine h.fresh k (List.count_pos_iff.mp (lt_of_lt_of_le ?_ (h.count_le k)))
  rcases mem with mem | mem
  · exact Nat.add_pos_left (List.count_pos_iff.mpr mem) _
  · exact Nat.add_pos_right _ (List.count_pos_iff.mpr mem)

/-- The hands inside `close_relay` stay, so only the first stations move. -/
theorem Stations.begin {t t' : Traced} (h : Stations t)
    (holds : ∀ who, t'.dev.holds who = t.dev.holds who)
    (holding : t'.ledger.holding = t.ledger.holding)
    (same : t'.ledger.takes = t.ledger.takes ∧ t'.ledger.shut = t.ledger.shut ∧
      t'.ledger.closed = t.ledger.closed ∧ t'.ledger.pushed = t.ledger.pushed)
    (fresh : ∀ k ∈ t'.ledger.opened, k < t'.dev.mgr.net.socks.length)
    (nodup : t'.ledger.opened.Nodup)
    (opened : ∀ k, t'.ledger.opened.count k = t'.ledger.stored.count k +
      t'.ledger.abandoned.count k + if t'.connAt .connect = some k then 1 else 0)
    (stored : ∀ k, t'.ledger.stored.count k + (if t.connAt .store = some k then 1 else 0) =
      t.ledger.stored.count k + if t'.connAt .store = some k then 1 else 0)
    (gone : ∀ k, k ∈ t.ledger.closed ∨ k ∈ t'.ledger.abandoned →
      ∀ fd, t'.dev.mgr.net.fds fd ≠ some k) : Stations t' := by
  obtain ⟨takes, shut, closed, pushed⟩ := same
  have hands : ∀ stage k, t'.inHands stage k = t.inHands stage k := by
    intro stage k
    simp only [inHands, inHand, holds, holding]
  refine ⟨fresh, nodup, opened, fun k => ?_, fun k => ?_, fun k => ?_, fun k => ?_, closed ▸ gone⟩
  · have := stored k
    have := h.stored k
    rw [takes]
    omega
  · rw [takes, shut, hands]
    exact h.taken k
  · rw [shut, closed, hands]
    exact h.shut k
  · rw [closed, pushed, hands]
    exact h.closed k

/-- One task goes on inside `close_relay`. What it carries from station to station balances. -/
theorem Stations.advance {t t' : Traced} (h : Stations t) (who : Who)
    (others : ∀ w, w ≠ who → t'.dev.holds w = t.dev.holds w ∧
      t'.ledger.holding w = t.ledger.holding w)
    (same : t'.ledger.opened = t.ledger.opened ∧ t'.ledger.abandoned = t.ledger.abandoned ∧
      t'.ledger.stored = t.ledger.stored)
    (socks : t'.dev.mgr.net.socks.length = t.dev.mgr.net.socks.length)
    (connect : t'.connAt .connect = t.connAt .connect)
    (stored : ∀ k, (t'.ledger.takes.map Take.conn).count k + (if t'.connAt .store = some k then 1 else 0) =
      (t.ledger.takes.map Take.conn).count k + if t.connAt .store = some k then 1 else 0)
    (taken : ∀ k, t'.ledger.shut.count k + t'.inHand toShut who k +
        (t.ledger.takes.map Take.conn).count k =
      t.ledger.shut.count k + t.inHand toShut who k + (t'.ledger.takes.map Take.conn).count k)
    (shut : ∀ k, t'.ledger.closed.count k + t'.inHand toClose who k + t.ledger.shut.count k =
      t.ledger.closed.count k + t.inHand toClose who k + t'.ledger.shut.count k)
    (closed : ∀ k, t'.ledger.pushed.count k + t'.inHand toPush who k + t.ledger.closed.count k =
      t.ledger.pushed.count k + t.inHand toPush who k + t'.ledger.closed.count k)
    (gone : ∀ k, k ∈ t'.ledger.closed ∨ k ∈ t.ledger.abandoned →
      ∀ fd, t'.dev.mgr.net.fds fd ≠ some k) : Stations t' := by
  obtain ⟨opened, abandoned, stores⟩ := same
  refine ⟨?_, ?_, fun k => ?_, fun k => ?_, fun k => ?_, fun k => ?_, fun k => ?_, abandoned ▸ gone⟩
  · rw [opened, socks]
    exact h.fresh
  · rw [opened]
    exact h.nodup
  · rw [opened, abandoned, stores, connect]
    exact h.opened k
  · have := stored k
    have := h.stored k
    rw [stores]
    omega
  · have := inHands_move toShut k others
    have := taken k
    have := h.taken k
    omega
  · have := inHands_move toClose k others
    have := shut k
    have := h.shut k
    omega
  · have := inHands_move toPush k others
    have := closed k
    have := h.closed k
    omega

/-- Only the command task moves, outside `close_relay`. -/
theorem holds_of_cmd {d d' : Device} (rx : d'.rx = d.rx) (send : d'.send = d.send)
    (before : d.holds .cmd = none) (after : d'.holds .cmd = none) (who : Who) :
    d'.holds who = d.holds who := by
  cases who with
  | rx => simp [Device.holds, Device.closing, rx]
  | send => simp [Device.holds, Device.closing, send]
  | cmd => rw [before, after]

theorem CmdPc.Light.holds {d : Device} (light : d.cmd.Light ∨ ∃ f a, d.cmd = .respond f a) :
    d.holds .cmd = none := by
  rcases light with light | ⟨f, a, cmd⟩
  · cases cmd : d.cmd with
    | disconnect f pc => cases pc <;> simp [CmdPc.Light, cmd, Device.holds, Device.closing] at light ⊢
    | _ => simp [Device.holds, Device.closing, cmd]
  · simp [Device.holds, Device.closing, cmd]

/-- A step that changes no descriptor, no hand and no station. -/
theorem same_of_moves {t t' : Traced} (mgr : t'.dev.mgr.sFd = t.dev.mgr.sFd)
    (fds : t'.dev.mgr.net.fds = t.dev.mgr.net.fds)
    (socks : t'.dev.mgr.net.socks.length = t.dev.mgr.net.socks.length)
    (holds : ∀ who, t'.dev.holds who = t.dev.holds who) (fd : t'.dev.cmd.fd = t.dev.cmd.fd)
    (connecting : t'.dev.cmd.Connecting → t.dev.cmd.Connecting ∨ t.dev.mgr.sFd = none)
    (ledger : t'.ledger = { t.ledger with
      notes := t'.ledger.notes, requests := t'.ledger.requests
      accepted := t'.ledger.accepted, sent := t'.ledger.sent
      rxConn := t'.ledger.rxConn, piece := t'.ledger.piece, sendConn := t'.ledger.sendConn
      tag := t'.ledger.tag, tags := t'.ledger.tags, asked := t'.ledger.asked
      fresh := t'.ledger.fresh }) : Same t t' := by
  refine ⟨mgr, fds, socks, holds, fd, connecting, ?_, ?_, ?_, ?_, ?_, ?_, ?_, ?_⟩ <;> rw [ledger]

structure Owned (t : Traced) : Prop where
  hands : Hands t
  stations : Stations t

theorem Owned.congr {t t' : Traced} (o : Owned t) (same : Same t t') : Owned t' :=
  ⟨o.hands.congr same, o.stations.congr same⟩

/-- Nothing is open. -/
theorem owned_idle {d : Device} (sFd : d.mgr.sFd = none) (fds : d.mgr.net.fds = fun _ => none)
    (rx : d.rx = .top) (send : d.send = .receive) (cmd : d.cmd = .idle) : Owned ⟨d, .empty⟩ := by
  have free : ∀ who, d.holds who = none := by
    intro who
    cases who <;> simp [Device.holds, Device.closing, rx, send, cmd]
  have nowhere : ∀ p, d.fdAt p = none := by
    intro p
    cases p <;> simp [Device.fdAt, sFd, free, cmd, CmdPc.fd]
  refine ⟨⟨?_, ?_, ?_, ?_, ?_, ?_⟩, ⟨?_, ?_, ?_, ?_, ?_, ?_, ?_, ?_⟩⟩
  all_goals
    simp [nowhere, fds, cmd, CmdPc.Connecting, free, Ledger.empty, connAt, inHands, inHand]

theorem owned_boot : Owned boot := owned_idle rfl rfl rfl rfl rfl

theorem Owned.socket {t t' : Traced} (o : Owned t) {f : ProtoFrame} {host : Bytes} {port : UInt16}
    {fd : Fd} (cmd : t.dev.cmd = .connectSocket f host port) (unused : t.dev.mgr.net.fds fd = none)
    (mgr : t'.dev.mgr = { t.dev.mgr with
      net :=
        { fds := Function.update t.dev.mgr.net.fds fd (some t.dev.mgr.net.socks.length)
          socks := t.dev.mgr.net.socks ++ [⟨host, port, [], [], false⟩] } })
    (cmd' : t'.dev.cmd = .connecting f fd)
    (holds : ∀ who, t'.dev.holds who = t.dev.holds who)
    (ledger : t'.ledger = { t.ledger with
      opened := t.ledger.opened ++ [t.dev.mgr.net.socks.length] }) : Owned t' := by
  have connecting : t.dev.cmd.Connecting := by
    rw [cmd]
    trivial
  have empty := o.hands.empty connecting
  have new : t.dev.mgr.net.socks.length ∉ t.ledger.opened :=
    fun mem => lt_irrefl _ (o.stations.fresh _ mem)
  have at_connect : t'.connAt .connect = some t.dev.mgr.net.socks.length := by
    simp [connAt, Device.fdAt, cmd', CmdPc.fd, mgr]
  have before : t.connAt .connect = none := by simp [connAt, Device.fdAt, cmd, CmdPc.fd]
  refine ⟨o.hands.socket unused ?_ ?_ ?_ holds connecting ?_ ?_,
    o.stations.begin holds ?_ ?_ (fun k mem => ?_) ?_ (fun k => ?_) (fun k => ?_) fun k mem g => ?_⟩
  · rw [mgr]
  · rw [mgr]
  · simp [mgr]
  · simp [cmd', CmdPc.fd]
  · rw [ledger]
  · rw [ledger]
  · rw [ledger]
    exact ⟨rfl, rfl, rfl, rfl⟩
  · rw [ledger] at mem
    rcases List.mem_append.mp mem with old | here
    · simpa [mgr] using Nat.lt_succ_of_lt (o.stations.fresh k old)
    · obtain rfl := List.mem_singleton.mp here
      simp [mgr]
  · rw [ledger]
    exact List.nodup_append.mpr ⟨o.stations.nodup, by simp, by simp; exact fun k mem h => new (h ▸ mem)⟩
  · have := o.stations.opened k
    rw [before] at this
    rw [ledger, at_connect, List.count_append, this]
    simp [List.count_singleton]
  · rw [ledger]
    simp [connAt, Device.fdAt, mgr, empty]
  · rw [ledger] at mem
    rw [mgr]
    by_cases here : g = fd
    · subst here
      simpa using (o.stations.old mem).ne'
    · simpa [here] using o.stations.gone k mem g

/-- `connect` failed and `tcp_mgr_connect` closes its socket. -/
theorem Owned.abandon {t t' : Traced} (o : Owned t) {f : ProtoFrame} {sock : Fd}
    (cmd : t.dev.cmd = .connectFailed f sock)
    (mgr : t'.dev.mgr = { t.dev.mgr with net := t.dev.mgr.net.close sock })
    (cmd' : t'.dev.cmd.fd = none ∧ ¬ t'.dev.cmd.Connecting)
    (holds : ∀ who, t'.dev.holds who = t.dev.holds who)
    (ledger : t'.ledger = { t.ledger with
      abandoned := t.ledger.abandoned ++ (t.dev.mgr.net.fds sock).toList }) : Owned t' := by
  have at_connect : t.dev.fdAt .connect = some sock := by simp [Device.fdAt, cmd, CmdPc.fd]
  have empty := o.hands.empty (by rw [cmd]; trivial)
  have conn : t.connAt .connect = t.dev.mgr.net.fds sock := by simp [connAt, at_connect]
  have conn' : t'.connAt .connect = none := by simp [connAt, Device.fdAt, cmd'.1]
  have store : t.connAt .store = none ∧ t'.connAt .store = none := by
    simp [connAt, Device.fdAt, mgr, empty]
  refine ⟨o.hands.close at_connect (fun q => ?_) ?_ ?_ (fun h => absurd h cmd'.2) ?_ ?_,
    o.stations.begin holds ?_ ?_ ?_ ?_ (fun k => ?_) (fun k => ?_) fun k mem g => ?_⟩
  · cases q <;> simp [Device.fdAt, mgr, holds, cmd'.1]
  · rw [mgr]
    rfl
  · rw [mgr]
    rfl
  · rw [ledger]
  · exact fun who pc held => .inl (holds who ▸ held)
  · rw [ledger]
  · rw [ledger]
    exact ⟨rfl, rfl, rfl, rfl⟩
  · rw [ledger, mgr]
    exact o.stations.fresh
  · rw [ledger]
    exact o.stations.nodup
  · have := o.stations.opened k
    rw [conn] at this
    rw [ledger, conn', List.count_append, count_toList, this]
    simp only [reduceCtorEq, if_false]
    omega
  · rw [ledger, store.1, store.2]
  · rw [ledger] at mem
    rw [mgr]
    intro at_g
    by_cases here : g = sock
    · simp [Net.close, here] at at_g
    · replace at_g : t.dev.mgr.net.fds g = some k := by simpa [Net.close, here] using at_g
      rcases mem with mem | mem
      · exact o.stations.gone k (.inl mem) g at_g
      · rcases List.mem_append.mp mem with old | new
        · exact o.stations.gone k (.inr old) g at_g
        · exact here (o.hands.table g sock k at_g (by simpa using new))

/-- `tcp_mgr_connect` stores its socket; nobody else could have stored one meanwhile. -/
theorem Owned.store {t t' : Traced} (o : Owned t) {f : ProtoFrame} {sock : Fd}
    (cmd : t.dev.cmd = .connectStore f sock)
    (mgr : t'.dev.mgr = { t.dev.mgr with sFd := some sock })
    (cmd' : t'.dev.cmd.fd = none ∧ ¬ t'.dev.cmd.Connecting)
    (holds : ∀ who, t'.dev.holds who = t.dev.holds who)
    (ledger : t'.ledger = { t.ledger with
      stored := t.ledger.stored ++ (t.dev.mgr.net.fds sock).toList
      fresh := t.dev.mgr.net.fds sock }) : Owned t' := by
  have at_connect : t.dev.fdAt .connect = some sock := by simp [Device.fdAt, cmd, CmdPc.fd]
  have empty := o.hands.empty (by rw [cmd]; trivial)
  have conn : t.connAt .connect = t.dev.mgr.net.fds sock := by simp [connAt, at_connect]
  have conn' : t'.connAt .connect = none := by simp [connAt, Device.fdAt, cmd'.1]
  have store : t.connAt .store = none := by simp [connAt, Device.fdAt, empty]
  have store' : t'.connAt .store = t.dev.mgr.net.fds sock := by simp [connAt, Device.fdAt, mgr]
  refine ⟨o.hands.pass .connect .store at_connect (by decide) (fun q => ?_) ?_
    (fun h => absurd h cmd'.2) ?_,
    o.stations.begin holds ?_ ?_ ?_ ?_ (fun k => ?_) (fun k => ?_) ?_⟩
  · cases q <;> simp [Device.fdAt, mgr, holds, cmd'.1]
  · rw [mgr]
  · exact fun who pc held => .inl ⟨holds who ▸ held, by rw [ledger]⟩
  · rw [ledger]
  · rw [ledger]
    exact ⟨rfl, rfl, rfl, rfl⟩
  · rw [ledger, mgr]
    exact o.stations.fresh
  · rw [ledger]
    exact o.stations.nodup
  · have := o.stations.opened k
    rw [conn] at this
    rw [ledger, conn', List.count_append, count_toList, this]
    simp only [reduceCtorEq, if_false]
    omega
  · rw [ledger, store, store', List.count_append, count_toList]
    simp
  · rw [ledger, mgr]
    exact o.stations.gone

/-! Inside `close_relay`. -/

/-- A task goes on inside `close_relay` to `next`, or returns from it. -/
structure Onward (t t' : Traced) (who : Who) (m : Mgr) (next : Option ClosePc) : Prop where
  mgr : t'.dev.mgr = m
  holds : ∀ w, t'.dev.holds w = if w = who then next else t.dev.holds w
  fd : t'.dev.cmd.fd = t.dev.cmd.fd
  connecting : t'.dev.cmd.Connecting ↔ t.dev.cmd.Connecting

theorem onward_setClosing {t : Traced} {who : Who} {pc : ClosePc} (inside : t.dev.closing who = some pc)
    (m : Mgr) {next : Option ClosePc} (past : next ≠ some .take) (ledger : Ledger) :
    Onward t ⟨(t.dev.setMgr m).setClosing who next, ledger⟩ who m next where
  mgr := by simp [Device.setMgr]
  holds := Device.holds_setClosing (d := t.dev.setMgr m) inside past
  fd := (setClosing_cmd (d := t.dev.setMgr m) inside next).1
  connecting := (setClosing_cmd (d := t.dev.setMgr m) inside next).2

section Closing

variable {t t' : Traced} {who : Who} {m : Mgr} {next : Option ClosePc}

theorem Onward.fdAt (on : Onward t t' who m next) (sFd : m.sFd = t.dev.mgr.sFd) (p : Place) :
    t'.dev.fdAt p = if p = .closing who then next.bind ClosePc.fd else t.dev.fdAt p := by
  cases p with
  | store => simp [Device.fdAt, on.mgr, sFd]
  | connect => simp [Device.fdAt, on.fd]
  | closing w => by_cases same : w = who <;> simp [Device.fdAt, on.holds, same]

theorem Onward.inHand (on : Onward t t' who m next) (stage : ClosePc → Bool) (k : SockId) :
    t'.inHand stage who k = if next.any stage ∧ t'.ledger.holding who = some k then 1 else 0 := by
  simp [Traced.inHand, on.holds]

theorem inHand_of_holds {pc : Option ClosePc} (held : t.dev.holds who = pc) (stage : ClosePc → Bool)
    (k : SockId) :
    t.inHand stage who k = if pc.any stage ∧ t.ledger.holding who = some k then 1 else 0 := by
  simp [Traced.inHand, held]

theorem Owned.closeNone (o : Owned t) (inside : t.dev.closing who = some .take)
    (on : Onward t t' who t.dev.mgr none) (ledger : t'.ledger = t.ledger) : Owned t' := by
  have idle := Device.holds_of_take inside
  refine o.congr (same_of_moves ?_ ?_ ?_ (fun w => ?_) on.fd (fun h => .inl (on.connecting.mp h)) ?_)
  · rw [on.mgr]
  · rw [on.mgr]
  · rw [on.mgr]
  · rw [on.holds]
    split
    · subst w
      exact idle.symm
    · rfl
  · rw [ledger]

theorem Owned.closeTake {fd : Fd} (o : Owned t) (inside : t.dev.closing who = some .take)
    (up : t.dev.mgr.sFd = some fd)
    (on : Onward t t' who { t.dev.mgr with sFd := none } (some (.shut fd)))
    (ledger : t'.ledger = { t.ledger with
      takes := t.ledger.takes ++
        (t.dev.mgr.net.fds fd).toList.map (Take.mk who (t.ledger.snapshot who))
      holding := Function.update t.ledger.holding who (t.dev.mgr.net.fds fd) }) : Owned t' := by
  have idle := Device.holds_of_take inside
  obtain ⟨k, at_fd⟩ := o.hands.live .store fd up
  have store : t.connAt .store = some k := by simp [connAt, Device.fdAt, up, at_fd]
  have store' : t'.connAt .store = none := by simp [connAt, Device.fdAt, on.mgr]
  have own : t'.ledger.holding who = some k := by simp [ledger, at_fd]
  refine ⟨o.hands.pass .store (.closing who) up (by simp) (fun q => ?_) ?_ ?_ ?_,
    o.stations.advance who ?_ ?_ ?_ ?_ (fun j => ?_) (fun j => ?_) (fun j => ?_) (fun j => ?_) ?_⟩
  · cases q with
    | store => simp [Device.fdAt, on.mgr]
    | connect => simp [Device.fdAt, on.fd]
    | closing w => by_cases same : w = who <;> simp [Device.fdAt, on.holds, same, ClosePc.fd]
  · rw [on.mgr]
  · rw [on.mgr]
    exact fun _ => rfl
  · intro w pc held
    rw [on.holds] at held
    by_cases same : w = who
    · subst same
      exact .inr ⟨rfl, own.trans at_fd.symm⟩
    · rw [if_neg same] at held
      exact .inl ⟨held, by simp [ledger, same]⟩
  · intro w other
    simp [on.holds, ledger, other]
  · simp [ledger]
  · rw [on.mgr]
  · simp [connAt, Device.fdAt, on.fd, on.mgr]
  · simp [ledger, store, store', at_fd, List.count_singleton]
  · rw [on.inHand, inHand_of_holds idle, own]
    simp [ledger, at_fd, toShut, List.count_singleton]
    omega
  · rw [on.inHand, inHand_of_holds idle]
    simp [ledger, toClose]
  · rw [on.inHand, inHand_of_holds idle]
    simp [ledger, toPush]
  · rw [on.mgr, ledger]
    exact o.stations.gone

theorem Owned.closeShut {fd : Fd} (o : Owned t) (inside : t.dev.closing who = some (.shut fd))
    (on : Onward t t' who { t.dev.mgr with net := t.dev.mgr.net.shutdown fd } (some (.close fd)))
    (ledger : t'.ledger = { t.ledger with
      shut := t.ledger.shut ++ (t.dev.mgr.net.fds fd).toList }) : Owned t' := by
  have held := Device.holds_of_past inside (by simp)
  obtain ⟨k, own, named⟩ := o.hands.named who _ held
  have at_fd := named fd rfl
  have own' : t'.ledger.holding who = some k := by rw [ledger, own]
  have fdAt : ∀ q, t'.dev.fdAt q = t.dev.fdAt q := by
    intro q
    rw [on.fdAt rfl]
    split
    · subst q
      simp [Device.fdAt, held, ClosePc.fd]
    · rfl
  have fds : t'.dev.mgr.net.fds = t.dev.mgr.net.fds := by simp [on.mgr]
  have conns : ∀ q, t'.connAt q = t.connAt q := fun q => by rw [connAt, connAt, fdAt, fds]
  refine ⟨o.hands.of_fdAt fdAt fds (by simp [on.mgr]) (fun h => .inl (on.connecting.mp h)) ?_,
    o.stations.advance who ?_ ?_ ?_ ?_ (fun j => ?_) (fun j => ?_) (fun j => ?_) (fun j => ?_) ?_⟩
  · intro w pc now
    rw [on.holds] at now
    split at now
    · subst w
      obtain rfl := Option.some.inj now
      exact ⟨k, own', named⟩
    · rw [ledger]
      exact o.hands.named w pc now
  · intro w other
    simp [on.holds, ledger, other]
  · simp [ledger]
  · simp [on.mgr]
  · exact conns _
  · simp [conns, ledger]
  · rw [on.inHand, inHand_of_holds held, own, own']
    simp [ledger, at_fd, toShut, List.count_singleton]
  · rw [on.inHand, inHand_of_holds held, own, own']
    simp [ledger, at_fd, toClose, List.count_singleton]
    omega
  · rw [on.inHand, inHand_of_holds held]
    simp [ledger, toPush]
  · rw [fds, ledger]
    exact o.stations.gone

theorem Owned.closeClose {fd : Fd} (o : Owned t) (inside : t.dev.closing who = some (.close fd))
    (on : Onward t t' who { t.dev.mgr with net := t.dev.mgr.net.close fd } (some .push))
    (ledger : t'.ledger = { t.ledger with
      closed := t.ledger.closed ++ (t.dev.mgr.net.fds fd).toList }) : Owned t' := by
  have held := Device.holds_of_past inside (by simp)
  obtain ⟨k, own, named⟩ := o.hands.named who _ held
  have at_fd := named fd rfl
  have own' : t'.ledger.holding who = some k := by rw [ledger, own]
  have at_who : t.dev.fdAt (.closing who) = some fd := by simp [Device.fdAt, held, ClosePc.fd]
  have fdAt : ∀ q, t'.dev.fdAt q = if q = .closing who then none else t.dev.fdAt q := on.fdAt rfl
  have conns : ∀ q, q ≠ .closing who → t'.connAt q = t.connAt q := by
    intro q other
    cases at_q : t.dev.fdAt q with
    | none => simp [connAt, fdAt, other, at_q]
    | some g =>
      have differ : g ≠ fd := by
        rintro rfl
        exact other (o.hands.one q _ g at_q at_who)
      simp [connAt, fdAt, other, at_q, on.mgr, Net.close, differ]
  refine ⟨o.hands.close at_who fdAt (by simp [on.mgr, Net.close]) (by simp [on.mgr, Net.close])
      on.connecting.mp (by rw [ledger]) ?_,
    o.stations.advance who ?_ ?_ ?_ ?_ (fun j => ?_) (fun j => ?_) (fun j => ?_) (fun j => ?_) ?_⟩
  · intro w pc now
    rw [on.holds] at now
    split at now
    · subst w
      exact .inr ⟨rfl, (Option.some.inj now).symm⟩
    · exact .inl now
  · intro w other
    simp [on.holds, ledger, other]
  · simp [ledger]
  · simp [on.mgr, Net.close]
  · exact conns _ (by simp)
  · simp [conns, ledger]
  · rw [on.inHand, inHand_of_holds held]
    simp [ledger, toShut]
  · rw [on.inHand, inHand_of_holds held, own, own']
    simp [ledger, at_fd, toClose, List.count_singleton]
  · rw [on.inHand, inHand_of_holds held, own, own']
    simp [ledger, at_fd, toPush, List.count_singleton]
    omega
  · intro j mem g at_g
    rw [on.mgr] at at_g
    by_cases here : g = fd
    · simp [Net.close, here] at at_g
    · replace at_g : t.dev.mgr.net.fds g = some j := by simpa [Net.close, here] using at_g
      rw [ledger] at mem
      rcases mem with mem | mem
      · rcases List.mem_append.mp mem with old | new
        · exact o.stations.gone j (.inl old) g at_g
        · exact here (o.hands.table g fd j at_g (by simpa using new))
      · exact o.stations.gone j (.inr mem) g at_g

theorem Owned.closePush (o : Owned t) (inside : t.dev.closing who = some .push)
    (on : Onward t t' who m none) (relay : m.sFd = t.dev.mgr.sFd ∧ m.net = t.dev.mgr.net)
    (ledger : t'.ledger = { t.ledger with
      pushed := t.ledger.pushed ++ (t.ledger.holding who).toList
      notes := t'.ledger.notes
      holding := Function.update t.ledger.holding who none }) : Owned t' := by
  have held := Device.holds_of_past inside (by simp)
  obtain ⟨k, own, -⟩ := o.hands.named who _ held
  have fdAt : ∀ q, t'.dev.fdAt q = t.dev.fdAt q := by
    intro q
    rw [on.fdAt relay.1]
    split
    · subst q
      simp [Device.fdAt, held, ClosePc.fd]
    · rfl
  have net : t'.dev.mgr.net = t.dev.mgr.net := by rw [on.mgr, relay.2]
  have conns : ∀ q, t'.connAt q = t.connAt q := fun q => by rw [connAt, connAt, fdAt, net]
  refine ⟨o.hands.of_fdAt fdAt (by rw [net]) (by rw [net]) (fun h => .inl (on.connecting.mp h)) ?_,
    o.stations.advance who ?_ ?_ ?_ ?_ (fun j => ?_) (fun j => ?_) (fun j => ?_) (fun j => ?_) ?_⟩
  · intro w pc now
    rw [on.holds] at now
    split at now
    · cases now
    · rw [ledger]
      simpa [*] using o.hands.named w pc now
  · intro w other
    refine ⟨by simp [on.holds, other], ?_⟩
    rw [ledger]
    simp [other]
  · rw [ledger]
    exact ⟨rfl, rfl, rfl⟩
  · rw [net]
  · exact conns _
  · rw [conns, ledger]
  · rw [on.inHand, inHand_of_holds held, ledger]
    simp [toShut]
  · rw [on.inHand, inHand_of_holds held, ledger]
    simp [toClose]
  · rw [on.inHand, inHand_of_holds held, own, ledger]
    simp [own, toPush, List.count_singleton]
  · rw [net, ledger]
    exact o.stations.gone

end Closing

theorem Owned.step {t t' : Traced} {e : Event} (o : Owned t) (m : Moves t e t') : Owned t' := by
  cases m with
  | host bytes => exact o.congr (same_of_moves rfl rfl rfl (fun _ => rfl) rfl .inl rfl)
  | quiet c light next mgr rx send =>
    have before : t.dev.holds .cmd = none := CmdPc.Light.holds (.inl light)
    have after := CmdPc.Light.holds next
    refine o.congr (same_of_moves ?_ ?_ ?_ (holds_of_cmd rx send before after) ?_ ?_ rfl)
    · rw [mgr]
    · rw [mgr]
    · rw [mgr]
    · rw [light.no_fd.1]
      rcases next with light' | ⟨f, a, cmd⟩
      · exact light'.no_fd.1
      · simp [cmd, CmdPc.fd]
    · rcases next with light' | ⟨f, a, cmd⟩
      · exact fun h => absurd h light'.no_fd.2
      · simp [cmd, CmdPc.Connecting]
  | restart c => exact owned_idle rfl rfl rfl rfl rfl
  | answer cmd =>
    refine o.congr (same_of_moves rfl rfl rfl (holds_of_cmd rfl rfl ?_ rfl) ?_ ?_ rfl)
    · exact CmdPc.Light.holds (.inr ⟨_, _, cmd⟩)
    · simp [cmd, CmdPc.fd]
    · simp [CmdPc.Connecting]
  | free cmd empty =>
    refine o.congr (same_of_moves rfl rfl rfl (holds_of_cmd rfl rfl ?_ rfl) ?_ (fun _ => .inr empty) rfl)
    · simp [cmd, Device.holds, Device.closing]
    · simp [cmd, CmdPc.fd]
  | noSocket cmd | connectFail cmd =>
    refine o.congr (same_of_moves rfl rfl rfl (holds_of_cmd rfl rfl ?_ rfl) ?_ ?_ rfl)
    · simp [cmd, Device.holds, Device.closing]
    · simp [cmd, CmdPc.fd]
    · simp [cmd, CmdPc.Connecting]
  | socket cmd unused =>
    refine o.socket cmd unused rfl rfl (holds_of_cmd rfl rfl ?_ rfl) rfl
    simp [cmd, Device.holds, Device.closing]
  | connected stream cmd =>
    refine o.congr (same_of_moves rfl ?_ ?_ (holds_of_cmd rfl rfl ?_ rfl) ?_ ?_ rfl)
    · exact Net.connected_fds ..
    · exact Net.connected_length ..
    · simp [cmd, Device.holds, Device.closing]
    · simp [cmd, CmdPc.fd]
    · simp [cmd, CmdPc.Connecting]
  | abandon cmd =>
    refine o.abandon cmd rfl ⟨rfl, id⟩ (holds_of_cmd rfl rfl ?_ rfl) rfl
    simp [cmd, Device.holds, Device.closing]
  | store cmd =>
    refine o.store cmd rfl ⟨rfl, id⟩ (holds_of_cmd rfl rfl ?_ rfl) rfl
    simp [cmd, Device.holds, Device.closing]
  | request cmd | alloc cmd | put cmd | oom cmd | queueFull cmd =>
    refine o.congr (same_of_moves rfl rfl rfl (holds_of_cmd rfl rfl ?_ rfl) ?_ ?_ rfl)
    · simp [cmd, Device.holds, Device.closing]
    · simp [cmd, CmdPc.fd]
    · simp [CmdPc.Connecting]
  | receive send queue =>
    refine o.congr (same_of_moves rfl rfl rfl (fun who => ?_) rfl .inl ?_)
    · cases who <;> simp [Device.holds, Device.closing, send]
    · cases t.ledger.tags <;> rfl
  | discard send | sendSnapshot send | sent send  | sendFail send =>
    refine o.congr (same_of_moves rfl rfl rfl (fun who => ?_) rfl .inl rfl)
    cases who <;> simp [Device.holds, Device.closing, send]
  | accept send conn =>
    refine o.congr (same_of_moves rfl rfl (Net.update_length ..) (fun who => ?_) rfl .inl rfl)
    cases who <;> simp [Device.holds, Device.closing, send]
  | rxIdle => exact o
  | rxSnapshot rx | rxReady rx | rxPush rx | rxLost rx =>
    refine o.congr (same_of_moves rfl rfl rfl (fun who => ?_) rfl .inl rfl)
    cases who <;> simp [Device.holds, Device.closing, rx]
  | rxAgain rx | rxFail _ rx =>
    refine o.congr (same_of_moves rfl rfl rfl (fun who => ?_) rfl .inl rfl)
    rcases rx with rx | rx <;> cases who <;> simp [Device.holds, Device.closing, rx]
  | rxData rx =>
    refine o.congr (same_of_moves rfl rfl (Net.update_length ..) (fun who => ?_) rfl .inl rfl)
    cases who <;> simp [Device.holds, Device.closing, rx]
  | closeNone malloc inside empty =>
    exact o.closeNone inside (onward_setClosing inside t.dev.mgr (by simp) _) rfl
  | closeTake malloc inside up =>
    exact o.closeTake inside up (onward_setClosing inside _ (by simp) _) rfl
  | closeShut malloc inside => exact o.closeShut inside (onward_setClosing inside _ (by simp) _) rfl
  | closeClose malloc inside => exact o.closeClose inside (onward_setClosing inside _ (by simp) _) rfl
  | closePush malloc inside =>
    exact o.closePush inside (onward_setClosing inside _ (by simp) _) ⟨by simp, by simp⟩ rfl

/-! ## What becomes of the open connection -/

/-- `s_fd` keeps its connection, loses it, or gets a new one by `tcp_mgr_connect`. -/
theorem Owned.store_step {t t' : Traced} {e : Event} (o : Owned t) (m : Moves t e t') :
    t'.dev.mgr.sFd = none ∨
    (t'.dev.mgr.sFd = t.dev.mgr.sFd ∧ t'.connAt .store = t.connAt .store) ∨
    (∃ c, e = .task (.cmd c) ∧ t.dev.cmd.stores) := by
  have keeps : t'.dev.mgr.sFd = t.dev.mgr.sFd → t'.dev.mgr.net.fds = t.dev.mgr.net.fds →
      t'.dev.mgr.sFd = t.dev.mgr.sFd ∧ t'.connAt .store = t.connAt .store := by
    intro sFd fds
    exact ⟨sFd, by simp [connAt, Device.fdAt, sFd, fds]⟩
  cases m with
  | host | answer | free | noSocket | connectFail | request | alloc | put | oom | queueFull | receive
  | discard | sendSnapshot | sent | accept | sendFail | rxIdle | rxSnapshot | rxReady | rxAgain
  | rxFail | rxData | rxPush | rxLost => exact .inr (.inl (keeps rfl rfl))
  | quiet c light next mgr rx send =>
    refine .inr (.inl (keeps ?_ ?_))
    · rw [mgr]
    · rw [mgr]
  | restart => exact .inl rfl
  | socket cmd | connected _ cmd | abandon cmd =>
    refine .inl (o.hands.empty ?_)
    rw [cmd]
    trivial
  | store cmd => exact .inr (.inr ⟨_, rfl, by rw [cmd]; rfl⟩)
  | closeNone malloc inside empty =>
    refine .inl ?_
    simpa using empty
  | closeTake malloc inside up =>
    refine .inl ?_
    simp [Device.setMgr]
  | closeShut malloc inside =>
    refine .inr (.inl (keeps ?_ ?_)) <;> simp [Device.setMgr]
  | closeClose malloc inside =>
    rename_i who fd
    refine .inr (.inl ⟨by simp [Device.setMgr], ?_⟩)
    have held := Device.holds_of_past inside (by simp)
    have at_who : t.dev.fdAt (.closing who) = some fd := by simp [Device.fdAt, held, ClosePc.fd]
    cases up : t.dev.mgr.sFd with
    | none => simp [connAt, Device.fdAt, Device.setMgr, up]
    | some g =>
      have differ : g ≠ fd := by
        rintro rfl
        have := o.hands.one .store (.closing who) g up at_who
        cases this
      simp [connAt, Device.fdAt, Device.setMgr, up, Net.close, differ]
  | closePush malloc inside =>
    exact .inr (.inl (keeps (by simp) (by simp)))

/-- `s_fd` is empty or holds this connection. -/
def Holds (t : Traced) (conn : Option SockId) : Prop :=
  t.dev.mgr.sFd = none ∨ t.connAt .store = conn

instance (t : Traced) (conn : Option SockId) : Decidable (t.Holds conn) :=
  inferInstanceAs (Decidable (_ ∨ _))

/-- Unless a connection is stored, `s_fd` goes on to hold the one it has, or none. -/
theorem Holds.step {t t' : Traced} {e : Event} {conn : Option SockId} (holds : t.Holds conn)
    (o : Owned t) (m : Moves t e t')
    (unstored : ∀ c, e = .task (.cmd c) → ¬ t.dev.cmd.stores) : t'.Holds conn := by
  rcases o.store_step m with empty | ⟨sFd, same⟩ | ⟨c, cmd, store⟩
  · exact .inl empty
  · rcases holds with empty | own
    · exact .inl (sFd.trans empty)
    · exact .inr (same.trans own)
  · exact absurd store (unstored c cmd)

/-! ## Every relay socket is owned and closed once -/

theorem owned_of_exec {es : List Event} {t : Traced} (run : exec step boot es = some t) : Owned t :=
  exec_invariant Owned (fun _ _ _ o taken => o.step (step_moves taken)) owned_boot run

structure ClosedOnce (t : Traced) : Prop where
  /-- The store of `tcp_mgr_connect` finds `s_fd` empty. -/
  unoccupied : ∀ f sock, t.dev.cmd = .connectStore f sock → t.dev.mgr.sFd = none
  /-- A socket that `tcp_mgr_connect` is through with is either stored or closed by it. -/
  settled : t.dev.cmd.fd = none → ∀ k ∈ t.ledger.opened,
    Xor (k ∈ t.ledger.stored) (k ∈ t.ledger.abandoned)
  /-- A socket that was closed has no descriptor any more. -/
  gone : ∀ k, k ∈ t.ledger.closed ∨ k ∈ t.ledger.abandoned → ∀ fd, t.dev.mgr.net.fds fd ≠ some k
  once : ∀ k ∈ t.ledger.stored, t.ledger.shut.count k ≤ 1 ∧ t.ledger.closed.count k ≤ 1
  /-- Of the sockets stored, one at most has not been taken by `close_relay`. -/
  one : ∀ j ∈ t.ledger.stored, ∀ k ∈ t.ledger.stored, j ∉ t.ledger.takes.map Take.conn →
    k ∉ t.ledger.takes.map Take.conn → j = k
  /-- With no task inside `close_relay`, every stored socket that was closed was reported. -/
  reported : (∀ who, t.dev.closing who = none) →
    t.ledger.pushed.length = (t.ledger.stored.filter (· ∈ t.ledger.closed)).length

theorem Stations.stored_le {t : Traced} (s : Stations t) (k : SockId) :
    t.ledger.stored.count k + t.ledger.abandoned.count k ≤ 1 := by
  have := List.nodup_iff_count_le_one.mp s.nodup k
  have := s.opened k
  omega

theorem Stations.opened_of_stored {t : Traced} (s : Stations t) {k : SockId}
    (mem : k ∈ t.ledger.stored) : k ∈ t.ledger.opened := by
  have := s.opened k
  have := List.count_pos_iff.mpr mem
  have pos : 0 < t.ledger.opened.count k := by omega
  exact List.count_pos_iff.mp pos

theorem Stations.closed_le {t : Traced} (s : Stations t) (k : SockId) :
    t.ledger.closed.count k ≤ t.ledger.shut.count k ∧ t.ledger.shut.count k ≤ t.ledger.stored.count k := by
  have := s.stored k
  have := s.taken k
  have := s.shut k
  omega

theorem Stations.closed_perm {t : Traced} (s : Stations t) :
    (t.ledger.stored.filter (· ∈ t.ledger.closed)).Perm t.ledger.closed := by
  rw [List.perm_iff_count]
  intro k
  have few := s.stored_le k
  have less := s.closed_le k
  by_cases mem : k ∈ t.ledger.closed
  · have := List.count_pos_iff.mpr mem
    rw [List.count_filter (by simpa using mem)]
    omega
  · rw [List.count_eq_zero.mpr mem, List.count_eq_zero]
    simp [mem]

theorem Stations.pushed_perm {t : Traced} (s : Stations t) (outside : ∀ who, t.dev.holds who = none) :
    t.ledger.closed.Perm t.ledger.pushed := by
  rw [List.perm_iff_count]
  intro k
  have := s.closed k
  simpa [inHands, inHand, outside] using this

/-- Whatever the tasks do, a relay socket is stored into an empty `s_fd`, taken, shut down, closed
and reported once, and one that could not be connected is closed and never stored. -/
theorem relay_sockets_closed_once {es : List Event} {t : Traced}
    (run : exec step boot es = some t) : ClosedOnce t := by
  obtain ⟨hands, s⟩ := owned_of_exec run
  refine ⟨fun f sock cmd => ?_, fun through k mem => ?_, s.gone, fun k mem => ?_, ?_, fun outside => ?_⟩
  · refine hands.empty ?_
    rw [cmd]
    trivial
  · have count : 0 < t.ledger.opened.count k := List.count_pos_iff.mpr mem
    have none : t.connAt .connect = none := by simp [connAt, Device.fdAt, through]
    have opened := s.opened k
    have few := s.stored_le k
    simp only [none, reduceCtorEq, if_false] at opened
    rw [Xor, ← List.count_pos_iff, ← List.count_pos_iff]
    omega
  · have := s.closed_le k
    have := s.stored_le k
    omega
  · intro j hj k hk free_j free_k
    have at_store : ∀ i ∈ t.ledger.stored, i ∉ t.ledger.takes.map Take.conn →
        t.connAt .store = some i := by
      intro i mem free
      have balance := s.stored i
      have pos := List.count_pos_iff.mpr mem
      rw [List.count_eq_zero.mpr free] at balance
      by_contra other
      simp only [other, if_false] at balance
      omega
    exact Option.some.inj ((at_store j hj free_j).symm.trans (at_store k hk free_k))
  · have free : ∀ who, t.dev.holds who = none := fun who => by simp [Device.holds, outside who]
    rw [s.closed_perm.length_eq, (s.pushed_perm free).length_eq]

theorem relay_sockets_closed_once_disconnect : ∃ t,
    exec step boot (connect 3 [] ++ .task (.cmd .go) :: disconnect) = some t ∧
    (t.ledger.stored, t.ledger.closed, t.ledger.pushed) = ([0], [0], [0]) ∧ ClosedOnce t := by
  have ends : (exec step boot (connect 3 [] ++ .task (.cmd .go) :: disconnect)).map
      (fun t => (t.ledger.stored, t.ledger.closed, t.ledger.pushed)) = some ([0], [0], [0]) := by
    decide +kernel
  obtain ⟨t, run, seen⟩ := Option.map_eq_some_iff.mp ends
  exact ⟨t, run, seen, relay_sockets_closed_once run⟩

end Traced

end EspNetwork.Firmware
