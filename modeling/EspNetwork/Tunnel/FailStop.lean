import Mathlib
import EspNetwork.Firmware.Stream
import EspNetwork.Host.Slot

/-!
# A relay that loses a chunk

On the way up `tcp_mgr_send` drops a payload it has no memory or no room in the queue for, on the
way down `dispatchPush` drops one that finds the channel full. Both go on with the next chunk, so
the stream behind a loss is shifted. Without a drop the bytes that come out of either end begin
those that went in, whatever else happens to the connection.
-/

namespace EspNetwork.Tunnel

open Serial (Byte Bytes Frame)
open Schedule
open Firmware (Traced Event SockId)
open Host (Slot SlotAction TCPConn)

/-- What comes out begins what went in, up on every connection the device stored and down on every
connection the host opened. -/
structure FailStop (t : Traced) (s : Slot) : Prop where
  up : ∀ k ∈ t.ledger.stored, ∃ sock, t.dev.mgr.net.socks[k]? = some sock ∧
    sock.sent <+: t.requested k
  down : ∀ (k : Nat) (c : TCPConn), s.conns[k]? = some c → c.reads.flatten <+: c.pushes.flatten

theorem relay_losses_fail_stop {es : List Event} {t : Traced} {as : List SlotAction} {s : Slot}
    (keeps : Obeys Traced.step Traced.Keeps .boot es) (device : exec Traced.step .boot es = some t)
    (room : Obeys Slot.step Slot.Room .new as) (host : exec Slot.step .new as = some s) :
    FailStop t s where
  up := Traced.sent_prefix_requested keeps device
  down := Slot.reads_prefix_pushes room host

/-- A relay comes up and a payload goes out on it. -/
def sentRun : List Event :=
  Traced.connect 3 [] ++ .task (.cmd .go) :: Traced.queue [7, 8] ++ Traced.sendJob 2

/-- A relay comes up on the host and a push is read from it. -/
def readRun : List SlotAction :=
  Slot.accepted ++ Slot.installed ++ Slot.pushed [5] ++ [.read 0]

theorem relay_losses_fail_stop_one : ∃ t s, exec Traced.step .boot sentRun = some t ∧
    exec Slot.step .new readRun = some s ∧
    t.requested 0 = [7, 8] ∧ s.conns.map TCPConn.reads = [[[5]]] ∧ FailStop t s := by
  have device : (exec Traced.step .boot sentRun).map (fun t => t.requested 0) = some [7, 8] := by
    decide +kernel
  have host : (exec Slot.step .new readRun).map
      (fun s => s.conns.map TCPConn.reads) = some [[[5]]] := by
    decide +kernel
  have keeps : Obeys Traced.step Traced.Keeps .boot sentRun := by decide +kernel
  have room : Obeys Slot.step Slot.Room .new readRun := by
    decide +kernel
  obtain ⟨t, run, requested⟩ := Option.map_eq_some_iff.mp device
  obtain ⟨s, run', reads⟩ := Option.map_eq_some_iff.mp host
  exact ⟨t, s, run, run', requested, reads, relay_losses_fail_stop keeps run room run'⟩

/-- There is no memory for the first payload; the second goes out. -/
def oomRun : List Event :=
  Traced.connect 3 [] ++ .task (.cmd .go) ::
    Traced.request ⟨3, Firmware.cmdProxySend, [1]⟩ ++ [.task (.cmd .go), .task (.cmd .oom)] ++
    Traced.queue [2] ++ Traced.sendJob 1

/-- `Read` is slow: the push behind a full channel is lost, the next one is not. -/
def overflowRun : List SlotAction :=
  Slot.accepted ++ Slot.installed ++ (List.replicate Host.recvChCap (Slot.pushed [1])).flatten ++
    Slot.pushed [2] ++ [.read 0] ++ Slot.pushed [3] ++ List.replicate Host.recvChCap (.read 0)

theorem relay_losses_skip :
    (∃ t, exec Traced.step .boot oomRun = some t ∧ ∀ s, ¬ FailStop t s) ∧
    ∃ s, exec Slot.step .new overflowRun = some s ∧ ∀ t, ¬ FailStop t s := by
  constructor
  · have ends : (exec Traced.step .boot oomRun).map (fun t => (t.ledger.stored,
        (t.dev.mgr.net.socks[0]?).map fun sock => decide (sock.sent <+: t.requested 0))) =
        some ([0], some false) := by
      decide +kernel
    obtain ⟨t, run, seen⟩ := Option.map_eq_some_iff.mp ends
    obtain ⟨stored, lost⟩ := Prod.mk.inj seen
    refine ⟨t, run, fun s stop => ?_⟩
    obtain ⟨sock, found, begins⟩ := stop.up 0 (by rw [stored]; simp)
    rw [found] at lost
    simp [begins] at lost
  · have ends : (exec Slot.step .new overflowRun).map (fun s =>
        (s.conns[0]?).map fun c => decide (c.reads.flatten <+: c.pushes.flatten)) =
        some (some false) := by
      decide +kernel
    obtain ⟨s, run, lost⟩ := Option.map_eq_some_iff.mp ends
    obtain ⟨c, conn, lost⟩ := Option.map_eq_some_iff.mp lost
    exact ⟨s, run, fun t stop => of_decide_eq_false lost (stop.down 0 c conn)⟩

end EspNetwork.Tunnel
