import Mathlib
import EspNetwork.Firmware.Ownership

/-!
# Whose bytes go up

Send jobs carry no connection, and the queue outlives connections. `tcp_send_task` looks at
`s_fd` only when it takes a job, so a job accepted for one connection goes out on the next if it
is still queued when that is stored, or if the descriptor it is being sent on is handed out
again. Otherwise every byte on a relay socket is from a payload accepted for it.
-/

namespace EspNetwork.Firmware

open Serial
open Schedule

/-- The descriptor `tcp_send_task` sends on. -/
def SendPc.fd : SendPc → Option Fd
  | .sending fd _ => some fd
  | _ => none

/-- `tcp_send_task` has a job and has not looked at `s_fd` yet. -/
def SendPc.hasJob : SendPc → Bool
  | .snapshot _ => true
  | _ => false

/-- The descriptor `socket` hands out. -/
def CmdChoice.opens : CmdChoice → Option Fd
  | .socket fd => some fd
  | _ => none

/-- The payload `tcp_mgr_send` has found a connection for. -/
def CmdPc.job : CmdPc → Option Bytes
  | .sendAlloc data | .sendPut data => some data
  | _ => none

theorem CmdPc.Light.no_job {cmd : CmdPc} (light : cmd.Light ∨ ∃ f a, cmd = .respond f a) :
    cmd.job = none := by
  rcases light with light | ⟨f, a, rfl⟩
  · cases cmd <;> simp [Light, job] at *
  · rfl

theorem setClosing_job {d : Device} {who : Who} {pc : ClosePc} (inside : d.closing who = some pc)
    (m : Mgr) (next : Option ClosePc) : ((d.setMgr m).setClosing who next).cmd.job = d.cmd.job := by
  cases who with
  | rx => cases next <;> rfl
  | send => cases next <;> rfl
  | cmd =>
    simp only [Device.closing] at inside
    split at inside
    · rename_i cmd
      cases next <;> simp [Device.setClosing, Device.setMgr, cmd, CmdPc.job]
    · cases inside

namespace Traced

/-- A connection is stored when no job of an earlier one is left, and `socket` does not hand out
a descriptor that `tcp_send_task` still sends on. -/
def JobsDone (t : Traced) : Event → Prop
  | .task (.cmd c) => (c.opens.isSome → t.dev.send.fd ≠ c.opens) ∧
    (t.dev.cmd.stores → t.dev.mgr.sendQueue = [] ∧ ¬ t.dev.send.hasJob)
  | _ => True

instance (t : Traced) : (e : Event) → Decidable (JobsDone t e)
  | .task (.cmd _) => inferInstanceAs (Decidable (_ ∧ _))
  | .task (.rx _) | .task (.send _) | .host _ => isTrue trivial

/-- A payload in the ledger is for a connection that is still the open one, or none is open. -/
def Current (t : Traced) (payloads : List (SockId × Bytes)) (tag : Option SockId) (data : Bytes) :
    Prop :=
  ∃ k, tag = some k ∧ (k, data) ∈ payloads ∧ t.Holds (some k)

/-- A payload was accepted for a connection. -/
def Accepted (t : Traced) : Option SockId → Bytes → Prop := t.Current t.ledger.accepted

/-- Jobs on their way belong to the open connection. One being sent may outlive it, but then its
descriptor leads nowhere. -/
structure Jobs (t : Traced) : Prop where
  requested : t.ledger.accepted ⊆ t.ledger.requests
  asked : ∀ data, t.dev.cmd.job = some data → t.Current t.ledger.requests t.ledger.asked data
  queue : List.Forall₂ t.Accepted t.ledger.tags t.dev.mgr.sendQueue
  snapshot : ∀ job, t.dev.send = .snapshot job → t.Accepted t.ledger.tag job
  sending : ∀ fd rest, t.dev.send = .sending fd rest → ∃ k data, t.ledger.tag = some k ∧
    (k, data) ∈ t.ledger.accepted ∧ rest <:+ data ∧
    (t.dev.mgr.net.fds fd = none ∨ t.dev.mgr.net.fds fd = some k)

/-- Every piece sent on a connection is from a payload accepted for it. -/
def OwnBytes (t : Traced) : Prop :=
  ∀ k tag piece, (k, tag, piece) ∈ t.ledger.sent →
    tag = some k ∧ ∃ data, (k, data) ∈ t.ledger.accepted ∧ piece <:+: data

/-! ## Steps -/

theorem closing_unstored {d : Device} {who : Who} {pc : ClosePc} {malloc : Bool}
    (inside : d.closing who = some pc) (c : CmdChoice)
    (cmd : Event.task (closeAction who malloc) = .task (.cmd c)) : ¬ d.cmd.stores := by
  cases who with
  | rx => cases malloc <;> cases cmd
  | send => cases malloc <;> cases cmd
  | cmd =>
    simp only [Device.closing] at inside
    split at inside
    · simp [*, CmdPc.stores]
    · cases inside

/-- Only the store at the end of `tcp_mgr_connect` stores. -/
theorem Moves.unstored_or {t t' : Traced} {e : Event} (m : Moves t e t') :
    (∀ c, e = .task (.cmd c) → ¬ t.dev.cmd.stores) ∨
    ∃ f sock c, e = .task (.cmd c) ∧ t.dev.cmd = .connectStore f sock ∧
      t' = ⟨{ t.dev with mgr := { t.dev.mgr with sFd := some sock }, cmd := .respond f ok },
        { t.ledger with
          stored := t.ledger.stored ++ (t.dev.mgr.net.fds sock).toList
          fresh := t.dev.mgr.net.fds sock }⟩ := by
  cases m with
  | store cmd => exact .inr ⟨_, _, _, rfl, cmd, rfl⟩
  | quiet c light => exact .inl fun _ _ => light.unstored
  | restart _ cmd | answer cmd | free cmd | noSocket cmd | socket cmd | connectFail cmd
  | connected _ cmd | abandon cmd | request cmd | alloc cmd | put cmd | oom cmd | queueFull cmd =>
    exact .inl fun _ _ => by simp [cmd, CmdPc.stores]
  | closeNone malloc inside | closeTake malloc inside | closeShut malloc inside
  | closeClose malloc inside | closePush malloc inside => exact .inl (closing_unstored inside)
  | host | receive | discard | sendSnapshot | sent | accept | sendFail | rxIdle | rxSnapshot
  | rxReady | rxAgain | rxFail | rxData | rxPush | rxLost => exact .inl (by simp)

theorem requests_mono {t t' : Traced} {e : Event} (m : Moves t e t') :
    t'.dev = t.dev.restart ∧ t'.ledger = .empty ∨
      t.ledger.requests <+: t'.ledger.requests ∧ t.ledger.accepted <+: t'.ledger.accepted := by
  cases m with
  | restart => exact .inl ⟨rfl, rfl⟩
  | request => exact .inr ⟨List.prefix_append _ _, List.prefix_rfl⟩
  | put => exact .inr ⟨List.prefix_rfl, List.prefix_append _ _⟩
  | receive => cases tags : t.ledger.tags <;> exact .inr ⟨List.prefix_rfl, List.prefix_rfl⟩
  | _ => exact .inr ⟨List.prefix_rfl, List.prefix_rfl⟩

theorem Current.step {t t' : Traced} {payloads payloads' : List (SockId × Bytes)}
    {tag : Option SockId} {data : Bytes} (current : t.Current payloads tag data)
    (mono : payloads <+: payloads') (holds : ∀ k, t.Holds (some k) → t'.Holds (some k)) :
    t'.Current payloads' tag data := by
  obtain ⟨k, own, mem, open_⟩ := current
  exact ⟨k, own, mono.subset mem, holds k open_⟩

/-- A step ends the connection of every job, is a store, or keeps what was accepted. -/
theorem accepted_step {t t' : Traced} {e : Event} (o : Owned t) (m : Moves t e t') :
    t'.dev = t.dev.restart ∧ t'.ledger = .empty ∨
    (∃ f sock c, e = .task (.cmd c) ∧ t.dev.cmd = .connectStore f sock ∧
      t' = ⟨{ t.dev with mgr := { t.dev.mgr with sFd := some sock }, cmd := .respond f ok },
        { t.ledger with
          stored := t.ledger.stored ++ (t.dev.mgr.net.fds sock).toList
          fresh := t.dev.mgr.net.fds sock }⟩) ∨
    (∀ tag data, t.Current t.ledger.requests tag data → t'.Current t'.ledger.requests tag data) ∧
      ∀ tag data, t.Accepted tag data → t'.Accepted tag data := by
  rcases requests_mono m with restart | ⟨requests, accepted⟩
  · exact .inl restart
  rcases m.unstored_or with unstored | store
  · have holds : ∀ k, t.Holds (some k) → t'.Holds (some k) := fun k h => h.step o m unstored
    exact .inr (.inr ⟨fun tag data current => current.step requests holds,
      fun tag data current => current.step accepted holds⟩)
  · exact .inr (.inl store)

/-- A descriptor keeps its connection until it is closed, and gets another from `socket` only. -/
theorem fds_step {t t' : Traced} {e : Event} (m : Moves t e t') (fd : Fd) :
    t'.dev.mgr.net.fds fd = t.dev.mgr.net.fds fd ∨ t'.dev.mgr.net.fds fd = none ∨
      (e = .task (.cmd (.socket fd)) ∧ t'.dev.mgr.net.fds fd = some t.dev.mgr.net.socks.length ∧
        t'.ledger.opened = t.ledger.opened ++ [t.dev.mgr.net.socks.length] ∧
        t'.ledger.notes = t.ledger.notes) := by
  have closes : ∀ g, (t.dev.mgr.net.close g).fds fd = t.dev.mgr.net.fds fd ∨
      (t.dev.mgr.net.close g).fds fd = none := by
    intro g
    by_cases same : fd = g <;> simp [Net.close, same]
  cases m with
  | host | answer | free | noSocket | connectFail | store | request | alloc | put | oom | queueFull
  | receive | discard | sendSnapshot | sent | accept | sendFail | rxIdle | rxSnapshot | rxReady
  | rxAgain | rxFail | rxData | rxPush | rxLost => exact .inl rfl
  | quiet c light next mgr =>
    refine .inl ?_
    rw [mgr]
  | restart => exact .inr (.inl rfl)
  | socket cmd unused =>
    rename_i g
    by_cases same : fd = g
    · exact .inr (.inr ⟨by rw [same], by simp [same], rfl, rfl⟩)
    · exact .inl (by simp [same])
  | connected stream => exact .inl (by simp)
  | abandon =>
    rcases closes _ with h | h
    · exact .inl h
    · exact .inr (.inl h)
  | closeClose =>
    simp only [Device.setClosing_mgr, Device.setMgr_mgr]
    rcases closes _ with h | h
    · exact .inl h
    · exact .inr (.inl h)
  | closeNone | closeTake | closeShut | closePush => exact .inl (by simp)

/-- What is accepted was asked for. -/
theorem Jobs.requested_step {t t' : Traced} {e : Event} (j : Jobs t) (m : Moves t e t') :
    t'.ledger.accepted ⊆ t'.ledger.requests := by
  cases m with
  | request => exact List.subset_append_of_subset_left _ j.requested
  | put cmd =>
    refine List.append_subset.mpr ⟨j.requested, ?_⟩
    obtain ⟨k, own, mem, -⟩ := j.asked _ (by rw [cmd]; rfl)
    simpa [own] using mem
  | restart => exact List.Subset.refl _
  | receive => cases tags : t.ledger.tags <;> exact j.requested
  | _ => exact j.requested

theorem Jobs.asked_step {t t' : Traced} {e : Event} (j : Jobs t)
    (keep : ∀ tag data, t.Current t.ledger.requests tag data →
      t'.Current t'.ledger.requests tag data) (o : Owned t)
    (m : Moves t e t') (data : Bytes) (job : t'.dev.cmd.job = some data) :
    t'.Current t'.ledger.requests t'.ledger.asked data := by
  have same : t.dev.cmd.job = some data → t'.ledger.asked = t.ledger.asked →
      t'.Current t'.ledger.requests t'.ledger.asked data := by
    intro before asked
    rw [asked]
    exact keep _ _ (j.asked data before)
  cases m with
  | request cmd up =>
    rename_i data' fd
    obtain ⟨k, at_fd⟩ := o.hands.live .store fd up
    obtain rfl : data' = data := by simpa [CmdPc.job] using job
    refine ⟨k, at_fd, ?_, .inr ?_⟩
    · simp [at_fd]
    · simp [connAt, Device.fdAt, up, at_fd]
  | alloc cmd => exact same (by simpa [cmd, CmdPc.job] using job) rfl
  | quiet c light next mgr =>
    rw [CmdPc.Light.no_job next] at job
    cases job
  | restart | answer | free | noSocket | socket | connectFail | connected | abandon | store | put
  | oom | queueFull => simp [Device.restart, Firmware.boot, CmdPc.job] at job
  | host | rxIdle | discard | sendSnapshot | sent | accept | sendFail | rxSnapshot
  | rxReady | rxAgain | rxFail | rxData | rxPush | rxLost => exact same job rfl
  | receive =>
    refine same job ?_
    cases t.ledger.tags <;> rfl
  | closeNone malloc inside => exact same (setClosing_job inside t.dev.mgr none ▸ job) rfl
  | closeTake malloc inside | closeShut malloc inside | closeClose malloc inside
  | closePush malloc inside => exact same (setClosing_job inside _ _ ▸ job) rfl

theorem setClosing_send {d : Device} {who : Who} {pc : ClosePc} (inside : d.closing who = some pc)
    (m : Mgr) (next : Option ClosePc) :
    ((d.setMgr m).setClosing who next).send = d.send ∨
      ((d.setMgr m).setClosing who next).send = .receive ∨
      ∃ pc, ((d.setMgr m).setClosing who next).send = .closing pc := by
  cases who with
  | rx => cases next <;> exact .inl rfl
  | send =>
    cases next with
    | none => exact .inr (.inl rfl)
    | some pc => exact .inr (.inr ⟨pc, rfl⟩)
  | cmd =>
    refine .inl ?_
    simp only [Device.setClosing]
    split <;> rfl

theorem Jobs.queue_step {t t' : Traced} {e : Event} (j : Jobs t)
    (keep : ∀ tag data, t.Accepted tag data → t'.Accepted tag data) (m : Moves t e t') :
    List.Forall₂ t'.Accepted t'.ledger.tags t'.dev.mgr.sendQueue := by
  have all := j.queue.imp keep
  cases m with
  | put cmd =>
    refine List.rel_append all (.cons ?_ .nil)
    obtain ⟨k, own, -, holds⟩ := j.asked _ (by rw [cmd]; rfl)
    exact ⟨k, own, by simp [own], holds⟩
  | receive send queue =>
    rw [queue] at all
    cases tags : t.ledger.tags with
    | nil => simp [tags] at all
    | cons tag tags' =>
      simp only [tags, List.forall₂_cons] at all ⊢
      simpa [tags] using all.2
  | quiet c light next mgr =>
    rw [mgr]
    exact all
  | restart => exact .nil
  | closeNone | closeTake | closeShut | closeClose | closePush =>
    convert all using 1
    simp
  | _ => exact all

/-- The job `tcp_send_task` has in its hands is the head of the queue, or stays. -/
theorem Jobs.snapshot_step {t t' : Traced} {e : Event} (j : Jobs t)
    (keep : ∀ tag data, t.Accepted tag data → t'.Accepted tag data) (m : Moves t e t') (job : Bytes)
    (send' : t'.dev.send = .snapshot job) : t'.Accepted t'.ledger.tag job := by
  have same : t.dev.send = .snapshot job → t'.ledger.tag = t.ledger.tag →
      t'.Accepted t'.ledger.tag job := by
    intro before tag
    rw [tag]
    exact keep _ _ (j.snapshot job before)
  have closes : ∀ {who : Who} {pc : ClosePc} {mgr : Mgr} {next : Option ClosePc},
      t.dev.closing who = some pc → ((t.dev.setMgr mgr).setClosing who next).send = .snapshot job →
      t.dev.send = .snapshot job := by
    intro who pc mgr next inside after
    rcases setClosing_send inside mgr next with h | h | ⟨_, h⟩
    · exact h ▸ after
    · cases h.symm.trans after
    · cases h.symm.trans after
  cases m with
  | receive send queue =>
    have all := j.queue.imp keep
    rw [queue] at all
    obtain rfl := SendPc.snapshot.inj send'
    cases tags : t.ledger.tags with
    | nil => simp [tags] at all
    | cons tag tags' =>
      rw [tags, List.forall₂_cons] at all
      simpa [tags] using all.1
  | quiet c light next mgr rx send => exact same (send ▸ send') rfl
  | restart | discard | sendSnapshot | sent | accept | sendFail => cases send'
  | closeNone malloc inside => exact same (@closes _ _ t.dev.mgr none inside send') rfl
  | closeTake malloc inside | closeShut malloc inside | closeClose malloc inside
  | closePush malloc inside => exact same (closes inside send') rfl
  | _ => exact same send' rfl

theorem Jobs.sending_step {t t' : Traced} {e : Event} (j : Jobs t) (done : JobsDone t e)
    (m : Moves t e t') (fd : Fd) (rest : Bytes) (send' : t'.dev.send = .sending fd rest) :
    ∃ k data, t'.ledger.tag = some k ∧ (k, data) ∈ t'.ledger.accepted ∧ rest <:+ data ∧
      (t'.dev.mgr.net.fds fd = none ∨ t'.dev.mgr.net.fds fd = some k) := by
  have unused : t.dev.send = .sending fd rest → e ≠ .task (.cmd (.socket fd)) := by
    rintro before rfl
    exact done.1 rfl (by rw [before]; rfl)
  have same : t.dev.send = .sending fd rest → t'.ledger.tag = t.ledger.tag →
      ∃ k data, t'.ledger.tag = some k ∧ (k, data) ∈ t'.ledger.accepted ∧ rest <:+ data ∧
        (t'.dev.mgr.net.fds fd = none ∨ t'.dev.mgr.net.fds fd = some k) := by
    intro before tag
    obtain ⟨k, data, own, mem, suffix, conn⟩ := j.sending fd rest before
    rcases requests_mono m with ⟨restart, -⟩ | ⟨-, mono⟩
    · rw [restart] at send'
      cases send'
    refine ⟨k, data, tag.trans own, mono.subset mem, suffix, ?_⟩
    rcases fds_step m fd with h | h | h
    · rw [h]
      exact conn
    · exact .inl h
    · exact absurd h.1 (unused before)
  have closes : ∀ {who : Who} {pc : ClosePc} {mgr : Mgr} {next : Option ClosePc},
      t.dev.closing who = some pc → ((t.dev.setMgr mgr).setClosing who next).send = .sending fd rest →
      t.dev.send = .sending fd rest := by
    intro who pc mgr next inside after
    rcases setClosing_send inside mgr next with h | h | ⟨_, h⟩
    · exact h ▸ after
    · cases h.symm.trans after
    · cases h.symm.trans after
  cases m with
  | sendSnapshot send up =>
    rename_i job fd'
    obtain ⟨rfl, rfl⟩ := SendPc.sending.inj send'
    obtain ⟨k, own, mem, holds⟩ := j.snapshot _ send
    refine ⟨k, _, own, mem, List.suffix_rfl, .inr ?_⟩
    rcases holds with empty | conn
    · rw [up] at empty
      cases empty
    · simpa [connAt, Device.fdAt, up] using conn
  | accept send conn =>
    obtain ⟨rfl, rfl⟩ := SendPc.sending.inj send'
    obtain ⟨k, data, own, mem, suffix, conn⟩ := j.sending _ _ send
    exact ⟨k, data, own, mem, (List.drop_suffix _ _).trans suffix, conn⟩
  | quiet c light next mgr rx send => exact same (send ▸ send') rfl
  | restart | receive | discard | sent | sendFail => cases send'
  | closeNone malloc inside => exact same (@closes _ _ t.dev.mgr none inside send') rfl
  | closeTake malloc inside | closeShut malloc inside | closeClose malloc inside
  | closePush malloc inside => exact same (closes inside send') rfl
  | _ => exact same send' rfl

theorem jobs_boot : Jobs boot :=
  ⟨List.Subset.refl _, by simp [boot, Firmware.boot, CmdPc.job], .nil,
    by simp [boot, Firmware.boot], by simp [boot, Firmware.boot]⟩

theorem Jobs.step {t t' : Traced} {e : Event} (j : Jobs t) (o : Owned t) (done : JobsDone t e)
    (m : Moves t e t') : Jobs t' := by
  rcases accepted_step o m with ⟨restart, fresh⟩ | ⟨f, sock, c, rfl, cmd, rfl⟩ | ⟨ask, keep⟩
  · obtain ⟨dev, ledger⟩ := t'
    simp only at restart fresh
    subst restart fresh
    exact ⟨List.Subset.refl _, by simp [Device.restart, Firmware.boot, CmdPc.job], .nil,
      by simp [Device.restart, Firmware.boot], by simp [Device.restart, Firmware.boot]⟩
  · obtain ⟨empty, idle⟩ := done.2 (by rw [cmd]; rfl)
    refine ⟨j.requested, by simp [CmdPc.job], ?_, fun job send => ?_, j.sending⟩
    · have tags := j.queue
      rw [empty, List.forall₂_nil_right_iff] at tags
      simp [tags, empty]
    · replace send : t.dev.send = .snapshot job := send
      simp [SendPc.hasJob, send] at idle
  · exact ⟨j.requested_step m, j.asked_step ask o m, j.queue_step keep m, j.snapshot_step keep m,
      j.sending_step done m⟩

theorem OwnBytes.step {t t' : Traced} {e : Event} (own : OwnBytes t) (j : Jobs t)
    (m : Moves t e t') : OwnBytes t' := by
  rcases requests_mono m with ⟨-, fresh⟩ | ⟨-, mono⟩
  · rw [OwnBytes, fresh]
    simp [Ledger.empty]
  have old : ∀ k tag piece, (k, tag, piece) ∈ t.ledger.sent →
      tag = some k ∧ ∃ data, (k, data) ∈ t'.ledger.accepted ∧ piece <:+: data := by
    intro k tag piece mem
    obtain ⟨same, data, request, part⟩ := own k tag piece mem
    exact ⟨same, data, mono.subset request, part⟩
  cases m with
  | accept send conn =>
    intro k tag piece mem
    rcases List.mem_append.mp mem with before | now
    · exact old k tag piece before
    · obtain ⟨rfl, rfl, rfl⟩ : _ ∧ _ ∧ _ := by simpa using now
      obtain ⟨k', data, tagged, request, suffix, here⟩ := j.sending _ _ send
      obtain rfl : k' = k := by simpa [conn, eq_comm] using here
      exact ⟨tagged, data, request, (List.take_prefix _ _).isInfix.trans suffix.isInfix⟩
  | receive =>
    cases tags : t.ledger.tags <;> simpa [OwnBytes, tags] using old
  | restart => simp [OwnBytes, Ledger.empty]
  | _ => exact old

/-! ## The bytes on the socket -/

/-- The bytes `send` took for a connection. -/
def sentOn (t : Traced) (k : SockId) : Bytes :=
  (t.ledger.sent.filter fun entry => entry.1 = k).flatMap fun entry => entry.2.2

/-- The ledger has every byte on the sockets opened since the device started. -/
structure Wired (t : Traced) : Prop where
  known : ∀ entry ∈ t.ledger.sent, entry.1 < t.dev.mgr.net.socks.length
  bytes : ∀ k ∈ t.ledger.opened, (t.dev.mgr.net.socks[k]?).map Sock.sent = some (t.sentOn k)

theorem update_sock {n : Net} {k : SockId} {f : Sock → Sock} (same : ∀ s, (f s).sent = s.sent)
    (i : SockId) : ((n.update k f).socks[i]?).map Sock.sent = (n.socks[i]?).map Sock.sent := by
  simp only [Net.update, List.getElem?_modify]
  cases n.socks[i]? with
  | none => rfl
  | some s =>
    by_cases here : k = i
    · simp [here, same]
    · simp [here]

/-- A step that sends nothing. -/
theorem Wired.congr {t t' : Traced} (w : Wired t) (sent : t'.ledger.sent = t.ledger.sent)
    (opened : t'.ledger.opened = t.ledger.opened)
    (length : t'.dev.mgr.net.socks.length = t.dev.mgr.net.socks.length)
    (socks : ∀ i : SockId, (t'.dev.mgr.net.socks[i]?).map Sock.sent =
      (t.dev.mgr.net.socks[i]?).map Sock.sent) : Wired t' := by
  refine ⟨by rw [sent, length]; exact w.known, fun k mem => ?_⟩
  rw [socks, sentOn, sent]
  exact w.bytes k (opened ▸ mem)

theorem Wired.step {t t' : Traced} {e : Event} (w : Wired t) (o : Owned t) (m : Moves t e t') :
    Wired t' := by
  have same : ∀ {t' : Traced}, t'.ledger.sent = t.ledger.sent → t'.ledger.opened = t.ledger.opened →
      t'.dev.mgr.net = t.dev.mgr.net → Wired t' := by
    intro t' sent opened net
    exact w.congr sent opened (by rw [net]) (fun i => by rw [net])
  cases m with
  | socket cmd unused =>
    refine ⟨fun entry mem => ?_, fun k mem => ?_⟩
    · simp only [List.length_append, List.length_singleton]
      exact Nat.lt_succ_of_lt (w.known entry mem)
    · rcases List.mem_append.mp mem with old | new
      · have lt := o.stations.fresh k old
        rw [List.getElem?_append_left lt]
        exact w.bytes k old
      · obtain rfl := List.mem_singleton.mp new
        have none : t.ledger.sent.filter (fun entry => entry.1 = t.dev.mgr.net.socks.length) = [] := by
          refine List.filter_eq_nil_iff.mpr fun entry mem => ?_
          simpa using Nat.ne_of_lt (w.known entry mem)
        simp [sentOn, none]
  | accept send conn =>
    rename_i fd rest n k
    refine ⟨fun entry mem => ?_, fun i mem => ?_⟩
    · simp only [Net.update_length]
      rcases List.mem_append.mp mem with old | new
      · exact w.known entry old
      · obtain rfl := List.mem_singleton.mp new
        exact o.hands.known _ _ conn
    · have before := w.bytes i mem
      simp only [Net.update, List.getElem?_modify, sentOn] at before ⊢
      cases sock : t.dev.mgr.net.socks[i]? with
      | none => simp [sock] at before
      | some s =>
        by_cases here : k = i
        · subst here
          simp_all
        · simp_all
  | restart =>
    exact ⟨by simp [Ledger.empty], by simp [Ledger.empty]⟩
  | connected stream =>
    refine w.congr rfl rfl (by simp) fun i => ?_
    simp only [Net.connected]
    split
    · refine update_sock ?_ i
      exact fun _ => rfl
    · rfl
  | rxData => exact w.congr rfl rfl (by simp) (update_sock fun _ => rfl)
  | closeShut =>
    refine w.congr rfl rfl (by simp) fun i => ?_
    simp only [Device.setClosing_mgr, Device.setMgr_mgr, Net.shutdown]
    split
    · refine update_sock ?_ i
      exact fun _ => rfl
    · rfl
  | quiet c light next mgr => exact same rfl rfl (by rw [mgr])
  | receive => cases tags : t.ledger.tags <;> exact same rfl rfl rfl
  | abandon => exact w.congr rfl rfl rfl fun _ => rfl
  | closeClose => exact w.congr rfl rfl (by simp [Net.close]) fun _ => by simp [Net.close]
  | closeNone | closeTake | closePush => exact same rfl rfl (by simp)
  | _ => exact same rfl rfl rfl

/-- If no job is left over when a connection is stored and no descriptor in use is handed out
again, every byte on a relay socket is from a payload accepted while that connection was open. -/
theorem relay_bytes_own {es : List Event} {t : Traced} (obeys : Obeys step JobsDone boot es)
    (run : exec step boot es = some t) : OwnBytes t ∧
    ∀ k ∈ t.ledger.stored, ∃ s, t.dev.mgr.net.socks[k]? = some s ∧ s.sent = t.sentOn k := by
  have inv := exec_invariant_of_obeys (fun t => Owned t ∧ Jobs t ∧ OwnBytes t ∧ Wired t) ?_
    ⟨owned_boot, jobs_boot, by simp [OwnBytes, boot, Ledger.empty],
      by simp [boot, Ledger.empty], by simp [boot, Ledger.empty]⟩ obeys run
  · obtain ⟨o, -, own, wired⟩ := inv
    refine ⟨own, fun k mem => ?_⟩
    have opened := o.stations.opened_of_stored mem
    obtain ⟨s, sock, sent⟩ := Option.map_eq_some_iff.mp (wired.bytes k opened)
    exact ⟨s, sock, sent⟩
  · rintro s e u ⟨o, j, own, wired⟩ done taken
    have m := step_moves taken
    exact ⟨o.step m, j.step o done m, own.step j m, wired.step o m⟩

/-- The host sends a payload, and `tcp_mgr_send` queues it. -/
def queue (data : Bytes) : List Event :=
  request ⟨3, cmdProxySend, data⟩ ++ List.replicate 3 (.task (.cmd .go))

/-- `tcp_send_task` takes a job, looks at `s_fd` and sends it. -/
def sendJob (n : Nat) : List Event :=
  [.task (.send .go), .task (.send .go), .task (.send (.accept n))]

/-- A payload is sent before the host takes the relay down and up again, and one behind that. -/
def ownRun : List Event :=
  connect 3 [] ++ .task (.cmd .go) :: queue [7, 8] ++ sendJob 2 ++ .task (.send .go) :: disconnect ++
    .task (.cmd .go) :: connect 3 [] ++ .task (.cmd .go) :: queue [9] ++ sendJob 1

theorem relay_bytes_own_one : ∃ t, exec step boot ownRun = some t ∧
    t.ledger.sent = [(0, some 0, [7, 8]), (1, some 1, [9])] ∧ OwnBytes t ∧
    ∀ k ∈ t.ledger.stored, ∃ s, t.dev.mgr.net.socks[k]? = some s ∧ s.sent = t.sentOn k := by
  have ends : (exec step boot ownRun).map (fun t => t.ledger.sent) =
      some [(0, some 0, [7, 8]), (1, some 1, [9])] := by
    decide +kernel
  have obeys : Obeys step JobsDone boot ownRun := by decide +kernel
  obtain ⟨t, run, sent⟩ := Option.map_eq_some_iff.mp ends
  exact ⟨t, run, sent, relay_bytes_own obeys run⟩

/-- A payload is still queued when the host takes the relay down and up again. -/
def leftoverRun : List Event :=
  connect 3 [] ++ .task (.cmd .go) :: queue [7, 8] ++ disconnect ++ .task (.cmd .go) ::
    connect 3 [] ++ sendJob 2

theorem relay_bytes_leak : ∃ t, exec step boot leftoverRun = some t ∧ ¬ OwnBytes t := by
  have ends : (exec step boot leftoverRun).map (fun t => t.ledger.sent) =
      some [(1, some 0, [7, 8])] := by
    decide +kernel
  obtain ⟨t, run, sent⟩ := Option.map_eq_some_iff.mp ends
  refine ⟨t, run, fun own => ?_⟩
  have := (own 1 (some 0) [7, 8] (by rw [sent]; simp)).1
  simp at this

end Traced

end EspNetwork.Firmware
