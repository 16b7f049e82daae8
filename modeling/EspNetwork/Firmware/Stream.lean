import Mathlib
import EspNetwork.Firmware.Jobs

/-!
# The bytes of a connection in order

`tcp_mgr_send` drops a payload when the heap or the send queue has no room for it, reports that
to nobody, and takes the next one. As long as it drops nothing, what was sent on a connection,
what `tcp_send_task` has in its hands, what is queued and what is about to be are together all
that the host sent for it, until the connection goes; what was sent stays a prefix of that.
-/

namespace EspNetwork.Firmware

open Serial
open Schedule

/-- The heap or the queue has no room. -/
def CmdChoice.drops : CmdChoice → Bool
  | .oom | .queueFull => true
  | _ => false

/-- What `tcp_send_task` still has of a job. -/
def SendPc.rest : SendPc → Bytes
  | .snapshot job => job
  | .sending _ rest => rest
  | .receive | .closing _ => []

/-- What it still has of a job it has a descriptor for. -/
def SendPc.unsent : SendPc → Bytes
  | .sending _ rest => rest
  | .receive | .snapshot _ | .closing _ => []

theorem setClosing_rest {d : Device} {who : Who} {pc : ClosePc} (inside : d.closing who = some pc)
    (m : Mgr) (next : Option ClosePc) :
    ((d.setMgr m).setClosing who next).send.rest = d.send.rest ∧
      ((d.setMgr m).setClosing who next).send.unsent = d.send.unsent := by
  cases who with
  | rx => cases next <;> exact ⟨rfl, rfl⟩
  | send =>
    rw [Device.closing_send] at inside
    cases next <;> simp [Device.setClosing, inside, SendPc.rest, SendPc.unsent]
  | cmd =>
    simp only [Device.setClosing]
    split <;> exact ⟨rfl, rfl⟩

/-- `tcp_send_task` is past the point where it decided to close the relay, or was not there. -/
theorem setClosing_take {d : Device} {who : Who} {pc : ClosePc} (inside : d.closing who = some pc)
    (past : pc ≠ .take) (m : Mgr) (next : Option ClosePc)
    (later : ((d.setMgr m).setClosing who next).send ≠ .closing .take) :
    d.send ≠ .closing .take := by
  cases who with
  | rx => cases next <;> exact later
  | send =>
    rw [Device.closing_send] at inside
    simpa [inside] using past
  | cmd =>
    simp only [Device.setClosing] at later
    split at later <;> exact later

namespace Traced

/-- Jobs of an earlier connection are done when one is stored, and `tcp_mgr_send` drops
nothing once it has found a connection. -/
def Keeps (t : Traced) : Event → Prop
  | .task (.cmd c) => JobsDone t (.task (.cmd c)) ∧ (t.dev.cmd.job.isSome → ¬ c.drops)
  | _ => True

instance (t : Traced) : (e : Event) → Decidable (Keeps t e)
  | .task (.cmd _) => inferInstanceAs (Decidable (_ ∧ _))
  | .task (.rx _) | .task (.send _) | .host _ => isTrue trivial

theorem Keeps.done {t : Traced} {e : Event} (keeps : Keeps t e) : JobsDone t e := by
  match e, keeps with
  | .task (.cmd c), keeps => exact keeps.1
  | .task (.rx _), _ | .task (.send _), _ | .host _, _ => trivial

/-- The payloads the host sent for a connection, one after the other. -/
def requested (t : Traced) (k : SockId) : Bytes :=
  (t.ledger.requests.filter fun r => r.1 = k).flatMap Prod.snd

/-- The bytes, if they were accepted for this connection. -/
def ofConn (k : SockId) (tag : Option SockId) (bytes : Bytes) : Bytes :=
  if tag = some k then bytes else []

structure Stream (t : Traced) : Prop where
  known : ∀ r ∈ t.ledger.requests, r.1 ∈ t.ledger.stored
  /-- What was sent, with what is being sent, begins the payloads of the connection. -/
  begins : ∀ k, t.sentOn k ++ ofConn k t.ledger.tag t.dev.send.unsent <+: t.requested k
  /-- Nothing of the open connection is missing, unless `tcp_send_task` is about to close it. -/
  whole : ∀ k, t.connAt .store = some k → t.dev.send ≠ .closing .take →
    t.sentOn k ++ ofConn k t.ledger.tag t.dev.send.rest ++ t.dev.mgr.sendQueue.flatten ++
      t.dev.cmd.job.getD [] = t.requested k

/-! ## Steps -/

theorem requested_mono {t t' : Traced} {e : Event} (m : Moves t e t') (k : SockId) :
    t'.ledger = .empty ∨ t.requested k <+: t'.requested k := by
  rcases requests_mono m with ⟨-, fresh⟩ | ⟨⟨later, more⟩, -⟩
  · exact .inl fresh
  · refine .inr ⟨(later.filter fun r => r.1 = k).flatMap Prod.snd, ?_⟩
    simp [requested, ← more]

theorem Stream.known_step {t t' : Traced} {e : Event} (s : Stream t) (o : Owned t)
    (m : Moves t e t') : ∀ r ∈ t'.ledger.requests, r.1 ∈ t'.ledger.stored := by
  have same : t'.ledger.requests = t.ledger.requests → t.ledger.stored ⊆ t'.ledger.stored →
      ∀ r ∈ t'.ledger.requests, r.1 ∈ t'.ledger.stored := by
    intro requests more r mem
    exact more (s.known r (requests ▸ mem))
  cases m with
  | request cmd up =>
    rename_i fd
    intro r mem
    rcases List.mem_append.mp mem with old | new
    · exact s.known r old
    · obtain ⟨k, conn, rfl⟩ : ∃ k, t.dev.mgr.net.fds fd = some k ∧ (k, _) = r := by simpa using new
      have balance := o.stations.stored k
      have here : t.connAt .store = some k := by simp [connAt, Device.fdAt, up, conn]
      rw [if_pos here] at balance
      have pos : 0 < t.ledger.stored.count k := by omega
      exact List.count_pos_iff.mp pos
  | store => exact same rfl (List.subset_append_left _ _)
  | restart => simp [Ledger.empty]
  | receive => cases tags : t.ledger.tags <;> simpa [tags] using s.known
  | _ => exact same rfl (List.Subset.refl _)

/-- A connection that was not stored before has neither payloads nor bytes. -/
theorem Stream.fresh {t : Traced} (s : Stream t) (j : Jobs t) (own : OwnBytes t) {k : SockId}
    (new : k ∉ t.ledger.stored) : t.requested k = [] ∧ t.sentOn k = [] := by
  have none : t.ledger.requests.filter (fun r => r.1 = k) = [] := by
    refine List.filter_eq_nil_iff.mpr fun r mem => ?_
    have stored := s.known r mem
    simp only [decide_eq_true_eq]
    rintro rfl
    exact new stored
  have unsent : t.ledger.sent.filter (fun entry => entry.1 = k) = [] := by
    refine List.filter_eq_nil_iff.mpr fun entry mem => ?_
    obtain ⟨i, tag, piece⟩ := entry
    simp only [decide_eq_true_eq]
    rintro rfl
    obtain ⟨-, data, accepted, -⟩ := own i tag piece mem
    exact new (s.known (i, data) (j.requested accepted))
  simp [requested, sentOn, none, unsent]

theorem ofConn_nil (k : SockId) (tag : Option SockId) : ofConn k tag [] = [] := by
  simp [ofConn]

/-- `tcp_send_task` has found the connection of its job open. -/
theorem Stream.begins_snapshot {t : Traced} (s : Stream t) (j : Jobs t) {job : Bytes} {fd : Fd}
    (send : t.dev.send = .snapshot job) (up : t.dev.mgr.sFd = some fd) (k : SockId) :
    t.sentOn k ++ ofConn k t.ledger.tag job <+: t.requested k := by
  obtain ⟨i, tag, -, holds⟩ := j.snapshot job send
  have conn : t.connAt .store = some i := by
    rcases holds with empty | conn
    · rw [up] at empty
      cases empty
    · exact conn
  by_cases same : i = k
  · subst same
    have whole := s.whole i conn (by simp [send])
    rw [send, List.append_assoc, List.append_assoc, ← List.append_assoc] at whole
    exact ⟨_, whole⟩
  · have begins := s.begins k
    rw [send] at begins
    simpa [ofConn, tag, same, SendPc.unsent] using begins

/-- `send` takes a piece of the job. -/
theorem Stream.begins_accept {t : Traced} (s : Stream t) (j : Jobs t) {fd : Fd} {rest : Bytes}
    {i : SockId} (n : Nat) (send : t.dev.send = .sending fd rest)
    (conn : t.dev.mgr.net.fds fd = some i) (k : SockId) :
    (t.sentOn k ++ if i = k then rest.take n else []) ++ ofConn k t.ledger.tag (rest.drop n) <+:
      t.requested k := by
  obtain ⟨i', data, tag, -, -, here⟩ := j.sending fd rest send
  obtain rfl : i' = i := by simpa [conn, eq_comm] using here
  have begins := s.begins k
  rw [send] at begins
  by_cases same : i' = k
  · simpa [ofConn, tag, same, SendPc.unsent] using begins
  · simpa [ofConn, tag, same, SendPc.unsent] using begins

theorem Stream.begins_step {t t' : Traced} {e : Event} (s : Stream t) (j : Jobs t)
    (m : Moves t e t') (k : SockId) :
    t'.sentOn k ++ ofConn k t'.ledger.tag t'.dev.send.unsent <+: t'.requested k := by
  rcases requested_mono m k with fresh | more
  · simp [sentOn, ofConn, fresh, Ledger.empty]
  have same : t'.ledger.sent = t.ledger.sent → t'.ledger.tag = t.ledger.tag →
      t'.dev.send.unsent = t.dev.send.unsent →
      t'.sentOn k ++ ofConn k t'.ledger.tag t'.dev.send.unsent <+: t'.requested k := by
    intro sent tag unsent
    rw [sentOn, sent, tag, unsent]
    exact (s.begins k).trans more
  have less : t'.ledger.sent = t.ledger.sent → t'.dev.send.unsent = [] →
      t'.sentOn k ++ ofConn k t'.ledger.tag t'.dev.send.unsent <+: t'.requested k := by
    intro sent unsent
    rw [sentOn, sent, unsent, ofConn_nil, List.append_nil]
    exact ((List.prefix_append _ _).trans (s.begins k)).trans more
  cases m with
  | sendSnapshot send up => exact s.begins_snapshot j send up k
  | accept send conn =>
    rename_i fd rest n i
    have sent : sentOn ⟨t.dev, { t.ledger with
        sent := t.ledger.sent ++ [(i, t.ledger.tag, rest.take n)] }⟩ k =
        t.sentOn k ++ if i = k then rest.take n else [] := by
      by_cases same : i = k <;> simp [sentOn, same]
    have begins := s.begins_accept j n send conn k
    rw [← sent] at begins
    exact begins
  | receive =>
    refine less ?_ rfl
    cases t.ledger.tags <;> rfl
  | discard | sent | sendFail => exact less rfl rfl
  | restart => simp [sentOn, ofConn, Ledger.empty]
  | quiet c light next mgr rx send => exact same rfl rfl (by rw [send])
  | closeNone malloc inside => exact same rfl rfl (setClosing_rest inside t.dev.mgr none).2
  | closeTake malloc inside | closeShut malloc inside | closeClose malloc inside
  | closePush malloc inside => exact same rfl rfl (setClosing_rest inside _ _).2
  | _ => exact same rfl rfl rfl

/-- A connection that is stored starts with nothing. -/
theorem Stream.whole_store {t : Traced} {f : ProtoFrame} {sock : Fd} {k : SockId} (s : Stream t)
    (o : Owned t) (j : Jobs t) (own : OwnBytes t) (cmd : t.dev.cmd = .connectStore f sock)
    (idle : ¬ t.dev.send.hasJob)
    (conn : t.dev.mgr.net.fds sock = some k) :
    t.requested k = [] ∧ t.sentOn k ++ ofConn k t.ledger.tag t.dev.send.rest = [] := by
  have new : k ∉ t.ledger.stored := by
    intro mem
    have count := List.count_pos_iff.mpr mem
    have opened := o.stations.opened k
    have few := List.nodup_iff_count_le_one.mp o.stations.nodup k
    rw [if_pos (by simp [connAt, Device.fdAt, cmd, CmdPc.fd, conn])] at opened
    omega
  obtain ⟨requests, sent⟩ := s.fresh j own new
  refine ⟨requests, ?_⟩
  rw [sent, List.nil_append]
  cases send : t.dev.send with
  | receive | closing => exact ofConn_nil _ _
  | snapshot job => simp [SendPc.hasJob, send] at idle
  | sending fd rest =>
    obtain ⟨i, data, tag, accepted, -⟩ := j.sending fd rest send
    have other : i ≠ k := by
      rintro rfl
      exact new (s.known (i, data) (j.requested accepted))
    simp [ofConn, tag, other]

/-- The open connection stays and nothing of it is dropped. -/
theorem Stream.whole_step {t t' : Traced} {e : Event} {k : SockId} (s : Stream t) (j : Jobs t)
    (j' : Jobs t') (keeps : Keeps t e) (m : Moves t e t')
    (unstored : ∀ c, e = .task (.cmd c) → ¬ t.dev.cmd.stores) (before : t.connAt .store = some k)
    (after : t'.connAt .store = some k) (later : t'.dev.send ≠ .closing .take) :
    t'.sentOn k ++ ofConn k t'.ledger.tag t'.dev.send.rest ++ t'.dev.mgr.sendQueue.flatten ++
      t'.dev.cmd.job.getD [] = t'.requested k := by
  have same : t'.ledger.sent = t.ledger.sent → t'.ledger.requests = t.ledger.requests →
      t'.ledger.tag = t.ledger.tag → t'.dev.mgr.sendQueue = t.dev.mgr.sendQueue →
      t'.dev.send.rest = t.dev.send.rest → t'.dev.cmd.job = t.dev.cmd.job →
      t.dev.send ≠ .closing .take →
      t'.sentOn k ++ ofConn k t'.ledger.tag t'.dev.send.rest ++ t'.dev.mgr.sendQueue.flatten ++
        t'.dev.cmd.job.getD [] = t'.requested k := by
    intro sent requests tag queue rest job earlier
    rw [sentOn, sent, tag, queue, rest, job, requested, requests]
    exact s.whole k before earlier
  have up : ∀ {t : Traced}, t.connAt .store = some k → t.dev.mgr.sFd ≠ none := by
    intro t conn empty
    simp [connAt, Device.fdAt, empty] at conn
  cases m with
  | request cmd found =>
    rename_i data fd
    have conn : t.dev.mgr.net.fds fd = some k := by simpa [connAt, Device.fdAt, found] using before
    have whole := s.whole k before later
    simp only [cmd, CmdPc.job, Option.getD_none, List.append_nil] at whole
    have more : t.requested k ++ data = requested ⟨t.dev, { t.ledger with
        requests := t.ledger.requests ++ (t.dev.mgr.net.fds fd).toList.map (·, data) }⟩ k := by
      simp [requested, conn]
    rw [← whole] at more
    exact more
  | put cmd =>
    have whole := s.whole k before later
    simpa [requested, sentOn, CmdPc.job, cmd] using whole
  | oom cmd => exact absurd rfl (keeps.2 (by rw [cmd]; rfl))
  | queueFull cmd => exact absurd rfl (keeps.2 (by rw [cmd]; rfl))
  | receive send queue =>
    obtain ⟨i, tag, -, holds⟩ := j'.snapshot _ rfl
    obtain rfl : i = k := by
      rcases holds with empty | conn
      · exact absurd empty (up after)
      · exact Option.some.inj (conn.symm.trans after)
    have whole := s.whole i before (by simp [send])
    simp only [send, queue, SendPc.rest, ofConn_nil, List.append_nil, List.flatten_cons] at whole
    cases tags : t.ledger.tags with
    | nil =>
      simp only [tags] at tag
      simpa [ofConn, tags, tag, sentOn, requested, SendPc.rest] using whole
    | cons =>
      simp only [tags] at tag
      simpa [ofConn, tags, tag, sentOn, requested, SendPc.rest] using whole
  | discard send empty => exact absurd empty (up before)
  | sendSnapshot send => exact same rfl rfl rfl rfl (by rw [send]; rfl) rfl (by simp [send])
  | sent send => exact same rfl rfl rfl rfl (by rw [send]; rfl) rfl (by simp [send])
  | accept send conn =>
    rename_i fd rest n i
    obtain ⟨i', data, tag, -, -, here⟩ := j.sending fd rest send
    obtain rfl : i' = i := by simpa [conn, eq_comm] using here
    have whole := s.whole k before (by simp [send])
    rw [send] at whole
    by_cases mine : i' = k
    · simpa [requested, sentOn, ofConn, tag, mine, SendPc.rest] using whole
    · simpa [requested, sentOn, ofConn, tag, mine, SendPc.rest] using whole
  | sendFail => exact absurd rfl later
  | quiet c light next mgr rx send =>
    refine same rfl rfl rfl (by rw [mgr]) (by rw [send]) ?_ (by rwa [← send])
    rw [CmdPc.Light.no_job next, CmdPc.Light.no_job (.inl light)]
  | restart => exact absurd rfl (up after)
  | store cmd => exact absurd (by rw [cmd]; rfl) (unstored _ rfl)
  | answer cmd | free cmd | noSocket cmd | socket cmd | connectFail cmd | connected _ cmd
  | abandon cmd | alloc cmd => exact same rfl rfl rfl rfl rfl (by rw [cmd]; rfl) later
  | closeNone malloc inside empty => exact absurd empty (up before)
  | closeTake malloc inside => exact absurd (by simp) (up after)
  | closeShut malloc inside | closeClose malloc inside | closePush malloc inside =>
    exact same rfl rfl rfl (by simp) (setClosing_rest inside _ _).1 (setClosing_job inside _ _)
      (setClosing_take inside (by simp) _ _ later)
  | host | rxIdle | rxSnapshot | rxReady | rxAgain | rxFail | rxData | rxPush | rxLost =>
    exact same rfl rfl rfl rfl rfl rfl later

theorem stream_boot : Stream boot :=
  ⟨by simp [boot, Ledger.empty], by simp [boot, Ledger.empty, sentOn, ofConn],
    by simp [boot, Firmware.boot, connAt, Device.fdAt]⟩

theorem Stream.step {t t' : Traced} {e : Event} (s : Stream t) (o : Owned t) (j : Jobs t)
    (own : OwnBytes t) (keeps : Keeps t e) (m : Moves t e t') : Stream t' := by
  refine ⟨s.known_step o m, s.begins_step j m, fun k after later => ?_⟩
  rcases m.unstored_or with unstored | ⟨f, sock, c, rfl, cmd, rfl⟩
  · have before : t.connAt .store = some k := by
      rcases o.store_step m with empty | ⟨-, conn⟩ | ⟨c, rfl, stores⟩
      · simp [connAt, Device.fdAt, empty] at after
      · exact conn.symm.trans after
      · exact absurd stores (unstored c rfl)
    exact s.whole_step j (j.step o keeps.done m) keeps m unstored before after later
  · obtain ⟨empty, idle⟩ := keeps.done.2 (by rw [cmd]; rfl)
    have conn : t.dev.mgr.net.fds sock = some k := by
      simpa [connAt, Device.fdAt] using after
    obtain ⟨requests, sent⟩ := s.whole_store o j own cmd idle conn
    calc t.sentOn k ++ ofConn k t.ledger.tag t.dev.send.rest ++ t.dev.mgr.sendQueue.flatten ++ []
        = [] := by rw [sent, empty]; rfl
      _ = t.requested k := requests.symm

/-- If `tcp_mgr_send` drops nothing, and no job of an earlier connection is left when one is
stored, the bytes on a relay socket begin what the host sent for it. -/
theorem sent_prefix_requested {es : List Event} {t : Traced} (obeys : Obeys step Keeps boot es)
    (run : exec step boot es = some t) (k : SockId) (stored : k ∈ t.ledger.stored) :
    ∃ s, t.dev.mgr.net.socks[k]? = some s ∧ s.sent <+: t.requested k := by
  have inv := exec_invariant_of_obeys
    (fun t => Owned t ∧ Jobs t ∧ OwnBytes t ∧ Wired t ∧ Stream t) ?_
    ⟨owned_boot, jobs_boot, by simp [OwnBytes, boot, Ledger.empty],
      by constructor <;> simp [boot, Ledger.empty], stream_boot⟩ obeys run
  · obtain ⟨o, -, -, wired, stream⟩ := inv
    have opened := o.stations.opened_of_stored stored
    obtain ⟨s, sock, sent⟩ := Option.map_eq_some_iff.mp (wired.bytes k opened)
    refine ⟨s, sock, ?_⟩
    rw [sent]
    exact (List.prefix_append _ _).trans (stream.begins k)
  · rintro t e u ⟨o, j, own, wired, stream⟩ keeps taken
    have m := step_moves taken
    exact ⟨o.step m, j.step o keeps.done m, own.step j m, wired.step o m, stream.step o j own keeps m⟩

end Traced

end EspNetwork.Firmware
