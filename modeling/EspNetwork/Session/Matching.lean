import EspNetwork.Session.Refinement

/-!
# A call gets the answer to its own request

What a request asks for travels with it, through both parsers and the handler that answers it. As
long as no call takes a number that something else still carries, be it a call, bytes on the serial
link, a frame in the device or one on USB, a call of `Send` returns what the device has answered to
the request of that call.
-/

namespace EspNetwork.Session

open Serial
open Host (RelayConn Request Response SendAction SendResult SendPc SendCall ReaderPc)
open Host.Device (setCall setPending putRequest inHand Steps step_steps Active InUse unmatched
  traffic)

/-! ## What the numbers stand for -/

/-- Call `j` has taken number `seq` and asks for `cmd`. -/
def Asks (t : Host.Device) (j : ℕ) (seq cmd : Byte) : Prop :=
  ∃ c, t.calls[j]? = some c ∧ c.seq = seq ∧ c.cmd = cmd ∧ c.pc ≠ .start

/-- A response to what the call on record asks for. -/
def Answers (t : Host.Device) (r : Response) : Prop :=
  Asks t r.call r.frame.seq r.frame.cmd ∧ r.frame.isResp = true

/-- A response that a call has. -/
def Has (c : SendCall) (r : Response) : Prop :=
  c.ch = some r ∨ c.pc = .deferred (.response r) ∨ c.pc = .returned (.response r)

structure Labelled (t : Host.Device) : Prop where
  requests : ∀ q ∈ t.requests, Asks t q.call q.seq q.cmd
  responses : ∀ r ∈ inHand t.reader ++ t.responses, Answers t r
  kept : ∀ c ∈ t.calls, ∀ r, Has c r → Answers t r

section Steps

variable {t t' : Host.Device} {a : SendAction}

/-- A call that has its number keeps it. -/
theorem Asks.step {j : ℕ} {seq cmd : Byte} (asks : Asks t j seq cmd) (h : Steps t a t') :
    Asks t' j seq cmd := by
  obtain ⟨c, call, rfl, rfl, started⟩ := asks
  have set : ∀ {i : ℕ} {u u' : SendCall}, t.calls[i]? = some u →
      (u.pc ≠ .start → u'.seq = u.seq ∧ u'.cmd = u.cmd ∧ u'.pc ≠ .start) →
      t'.calls = t.calls.set i u' → Asks t' j c.seq c.cmd := by
    intro i u u' at_i same calls
    by_cases here : i = j
    · subst here
      obtain rfl := Option.some.inj (at_i.symm.trans call)
      obtain ⟨seq, cmd, later⟩ := same started
      obtain ⟨bound, -⟩ := List.getElem?_eq_some_iff.mp at_i
      exact ⟨u', by simp [calls, bound], seq, cmd, later⟩
    · exact ⟨c, by simp [calls, here, call], rfl, rfl, started⟩
  cases h with
  | send cmd payload begins =>
    obtain ⟨bound, -⟩ := List.getElem?_eq_some_iff.mp call
    exact ⟨c, by rw [List.getElem?_append_left bound, call], rfl, rfl, started⟩
  | start at_i pc =>
    refine set at_i ?_ rfl
    exact fun other => absurd pc other
  | write _ at_i pc next =>
    refine set at_i ?_ rfl
    exact fun _ => ⟨rfl, rfl, by rcases next with rfl | rfl <;> simp⟩
  | insert at_i | receive at_i | giveUp _ at_i | deferred at_i =>
    refine set at_i ?_ rfl
    exact fun _ => ⟨rfl, rfl, by simp⟩
  | deliver _ at_i =>
    refine set at_i ?_ rfl
    exact fun other => ⟨rfl, rfl, other⟩
  | drain =>
    refine ⟨if t.pending c.seq = some j then { c with closed := true } else c,
      by simp [call], ?_, ?_, ?_⟩ <;> split_ifs <;> first | rfl | exact started
  | _ => exact ⟨c, call, rfl, rfl, started⟩

theorem Answers.step {r : Response} (answers : Answers t r) (h : Steps t a t') : Answers t' r :=
  ⟨answers.1.step h, answers.2⟩

/-- What is in a channel after the send of the callback. -/
theorem put_in_channel {ch : Option Response} {r₀ r : Response}
    (h : (match ch with | none => some r₀ | some old => some old) = some r) :
    ch = some r ∨ r₀ = r := by
  cases ch with
  | none => exact .inr (Option.some.inj h)
  | some old => exact .inl h

theorem Labelled.step (labelled : Labelled t) (h : Steps t a t') : Labelled t' := by
  obtain ⟨requests, responses, kept⟩ := labelled
  have requests' : ∀ q ∈ t.requests, Asks t' q.call q.seq q.cmd := fun q mem =>
    (requests q mem).step h
  have responses' : ∀ r ∈ inHand t.reader ++ t.responses, Answers t' r := fun r mem =>
    (responses r mem).step h
  have kept' : ∀ c ∈ t.calls, ∀ r, Has c r → Answers t' r := fun c mem r has =>
    (kept c mem r has).step h
  -- what a call has after it was changed it had before, or the change gave it
  have set : ∀ {i : ℕ} {u u' : SendCall}, t.calls[i]? = some u →
      (∀ r, Has u' r → Has u r ∨ Answers t' r) →
      ∀ c ∈ t.calls.set i u', ∀ r, Has c r → Answers t' r := by
    intro i u u' at_i same c mem r has
    rcases List.mem_or_eq_of_mem_set mem with old | rfl
    · exact kept' c old r has
    · rcases same r has with before | given
      · exact kept' u (List.mem_of_getElem? at_i) r before
      · exact given
  have asked := h
  cases h with
  | send cmd payload begins =>
    refine ⟨requests', responses', fun c mem r has => ?_⟩
    rcases List.mem_append.mp mem with old | new
    · exact kept' c old r has
    · obtain rfl := List.mem_singleton.mp new
      rcases begins with rfl | rfl <;> simp [Has] at has
  | start call pc =>
    exact ⟨requests', responses', set call fun r has => .inl (by simpa [Has, pc] using has)⟩
  | insert call pc =>
    exact ⟨requests', responses', set call fun r has => .inl (by simpa [Has, pc] using has)⟩
  | write _ call pc next =>
    refine ⟨fun q mem => ?_, responses', set call fun r has => .inl ?_⟩
    · rcases List.mem_append.mp mem with old | new
      · exact requests' q old
      · obtain rfl := List.mem_singleton.mp new
        exact Asks.step ⟨_, call, rfl, rfl, by simp [pc]⟩ asked
    · rcases next with rfl | rfl <;> simpa [Has, pc] using has
  | receive call pc ch =>
    refine ⟨requests', responses', set call fun r has => .inl ?_⟩
    rcases has with empty | deferred | returned
    · simp at empty
    · obtain rfl := SendResult.response.inj (SendPc.deferred.inj deferred)
      exact .inl ch
    · simp at returned
  | giveUp _ call pc empty =>
    refine ⟨requests', responses', set call fun r has => .inl ?_⟩
    rcases has with ch | deferred | returned
    · exact .inl ch
    · exact absurd (SendPc.deferred.inj deferred) (empty r)
    · simp at returned
  | deferred call pc =>
    refine ⟨requests', responses', set call fun r has => .inl ?_⟩
    rcases has with ch | deferred | returned
    · exact .inl ch
    · simp at deferred
    · obtain rfl := SendPc.returned.inj returned
      exact .inr (.inl pc)
  | answer status payload queue =>
    refine ⟨fun q mem => requests' q (by simp [queue, mem]), fun r mem => ?_, kept'⟩
    rw [← List.append_assoc] at mem
    rcases List.mem_append.mp mem with old | new
    · exact responses' r old
    · obtain rfl := List.mem_singleton.mp new
      exact ⟨requests' _ (by simp [queue]), rfl⟩
  | skip queue =>
    exact ⟨fun q mem => requests' q (by simp [queue, mem]), responses', kept'⟩
  | found reader queue entry =>
    exact ⟨requests', fun r mem => responses' r (by simpa [reader, queue, inHand] using mem), kept'⟩
  | unknown reader queue entry =>
    exact ⟨requests', fun r mem => responses' r (by
      simp only [reader, queue, inHand] at mem ⊢
      exact List.mem_cons_of_mem _ mem), kept'⟩
  | deliver reader call =>
    refine ⟨requests', fun r mem => responses' r (List.mem_append_right _ mem),
      set call fun r has => ?_⟩
    rename_i r₀ c
    rcases has with delivered | deferred | returned
    · rcases put_in_channel delivered with old | rfl
      · exact .inl (.inl old)
      · exact .inr (responses' r₀ (by simp [reader, inHand]))
    · exact .inl (.inr (.inl deferred))
    · exact .inl (.inr (.inr returned))
  | close => exact ⟨requests', responses', kept'⟩
  | readerExit reader =>
    exact ⟨requests', fun r mem => responses' r (by simpa [reader, inHand] using mem), kept'⟩
  | drain =>
    refine ⟨requests', responses', fun c mem r has => ?_⟩
    obtain ⟨j, bound, rfl⟩ := List.mem_mapIdx.mp mem
    refine kept' _ (List.getElem_mem bound) r ?_
    split_ifs at has <;> exact has

end Steps

/-! ## Free numbers -/

/-- The condition on a step: the number that a call takes is carried by no other call, by no response
on the host, on USB or in the hands of the reader, and by no request on the serial link or in the
device. -/
def TakesFree (s : System) (a : Action) : Prop :=
  ∀ j c, a = .host (.advance j) → s.host.calls[j]? = some c → c.pc = .start →
    (∀ u ∈ s.host.calls, Active u → u.seq ≠ s.host.nextSeq) ∧
    (∀ r ∈ inHand s.host.reader, r.frame.seq ≠ s.host.nextSeq) ∧
    (∀ f ∈ Host.pendingFrames s.reader, f.isResp = true → f.seq ≠ s.host.nextSeq) ∧
    ∀ f ∈ inbound s.device, f.cmd ≠ Firmware.cmdProxySend → f.seq ≠ s.host.nextSeq

theorem active_unnamed {c : SendCall} (active : Active c) : Active (SendCall.unnamed c) := by
  obtain ⟨started, running⟩ := active
  cases pc : c.pc <;> simp [Active, SendCall.unnamed, SendPc.unnamed, pc] at started ⊢
  exact running _ pc

/-- A number that is free for the host and the device is free for the calls of `Send`. -/
theorem TakesFree.abstract {s : System} {t : Host.Device} {a : SendAction} (related : Related s t)
    (inv : Host.Device.Inv t) (free : TakesFree s (.host a)) : Host.Device.TakesFree t a := by
  intro j c eq call pc i u at_i use
  have here : s.host.calls[j]? = some (SendCall.unnamed c) := by
    rw [related.host, hostPart_calls_getElem?, call]
    rfl
  have next : s.host.nextSeq = t.nextSeq := by
    rw [related.host]
    rfl
  obtain ⟨calls, hand, responses, requests⟩ :=
    free j _ (by rw [eq]) here (by simp [SendCall.unnamed, pc, SendPc.unnamed])
  rw [next] at calls hand responses requests
  rcases use with active | transit
  · have there : SendCall.unnamed u ∈ s.host.calls := by
      rw [related.host]
      exact List.mem_map_of_mem (List.mem_of_getElem? at_i)
    exact calls (SendCall.unnamed u) there (active_unnamed active)
  · obtain ⟨⟨i', seq⟩, mem, rfl⟩ := List.mem_map.mp transit
    obtain ⟨v, at_i', rfl, -⟩ := inv.numbers _ mem
    obtain rfl := Option.some.inj (at_i.symm.trans at_i')
    simp only [traffic, unmatched, List.mem_append, List.mem_map, Prod.mk.injEq] at mem
    rcases mem with ⟨r, held, -, same⟩ | ⟨r, waits, -, same⟩ | ⟨q, waits, -, same⟩
    · rw [← same]
      refine hand (Response.unnamed r) ?_
      cases reader : t.reader with
      | deliver j r' =>
        rw [reader] at held
        obtain rfl := List.mem_singleton.mp held
        simp [related.host, hostPart, reader, ReaderPc.unnamed, inHand]
      | idle | exited => simp [reader, inHand] at held
    · have read : r.frame ∈ (Host.pendingFrames s.reader).filter Frame.isResp := by
        rw [← related.responses]
        exact List.mem_map_of_mem waits
      obtain ⟨mem, resp⟩ := List.mem_filter.mp read
      rw [← same]
      exact responses _ mem resp
    · have asked : frame q ∈ answered (inbound s.device) := by
        rw [← related.requests]
        exact List.mem_map_of_mem waits
      obtain ⟨mem, other⟩ := List.mem_filter.mp asked
      rw [← same]
      exact requests _ mem (by simpa using other)

/-! ## Runs -/

/-- Of the steps that the calls of `Send` can see, only their own take a number. -/
theorem takesFree_of_seen {s : System} {t : Host.Device} {a : Action} {bs : List SendAction}
    (related : Related s t) (inv : Host.Device.Inv t) (free : TakesFree s a) (seen : Seen a bs) :
    Schedule.Obeys Host.Device.step Host.Device.TakesFree t bs := by
  have other : ∀ cs : List SendAction, (∀ b ∈ cs, ∀ j, b ≠ .advance j) →
      Schedule.Obeys Host.Device.step Host.Device.TakesFree t cs := fun cs all =>
    Schedule.obeys_of_forall fun _ b mem j _ eq => absurd eq (all b mem j)
  cases seen with
  | host b => exact ⟨free.abstract related inv, fun _ _ => trivial⟩
  | lookup | answer => exact other _ (by simp)
  | lost a n => exact other _ fun b mem j eq => by simp [List.eq_of_mem_replicate mem] at eq
  | nothing => trivial

/-- Host and device refine calls of `Send` whose responses are labelled and go to the calls that asked
for them. -/
theorem refines_matching : Schedule.Refines step (fun s a => Sound a ∧ TakesFree s a)
    Host.Device.step Host.Device.TakesFree Seen
    (fun s t => Related s t ∧ Host.Device.Inv t ∧ Labelled t) where
  answers := by
    rintro s t a s' ⟨related, inv, labelled⟩ ⟨sound, free⟩ taken
    obtain ⟨bs, t', seen, moved, after⟩ := related.step sound taken
    have obeys := takesFree_of_seen related inv free seen
    refine ⟨bs, t', seen, obeys, moved, after, ?_, ?_⟩
    · exact Schedule.exec_invariant_of_obeys Host.Device.Inv
        (fun _ _ _ inv free taken => inv.step free (step_steps taken)) inv obeys moved
    · exact Schedule.exec_invariant Labelled
        (fun _ _ _ labelled taken => labelled.step (step_steps taken)) labelled moved

/-- **A call of `Send` that returns a response returns the answer to its own request.** The calls on
record tell which request a response answers: it is the one of the call that returns it, with its
number and its command. -/
theorem send_returns_own_answer {s₀ s : System} {as : List Action} (start : Start s₀)
    (free : Schedule.Obeys step (fun s a => Sound a ∧ TakesFree s a) s₀ as)
    (run : Schedule.exec step s₀ as = some s) :
    ∃ bss t, List.Forall₂ Seen as bss ∧
      Schedule.exec Host.Device.step Host.Device.new bss.flatten = some t ∧ Related s t ∧
      ∀ j c r, t.calls[j]? = some c → c.pc = .returned (.response r) →
        r.call = j ∧ r.frame.seq = c.seq ∧ r.frame.cmd = c.cmd ∧ r.frame.isResp = true ∧
          s.host.calls[j]? = some (SendCall.unnamed c) := by
  have fresh : Labelled Host.Device.new :=
    ⟨by simp [Host.Device.new], by simp [Host.Device.new, inHand], by simp [Host.Device.new]⟩
  obtain ⟨bss, t, seen, -, moved, related, inv, labelled⟩ :=
    refines_matching.run ⟨start.related, Host.Device.inv_new, fresh⟩ free run
  refine ⟨bss, t, seen, moved, related, fun j c r call pc => ?_⟩
  have mine : r.call = j := inv.results j c r call (.inr pc)
  obtain ⟨⟨c', at_j, seq, cmd, -⟩, resp⟩ :=
    labelled.kept c (List.mem_of_getElem? call) r (.inr (.inr pc))
  rw [mine] at at_j
  obtain rfl := Option.some.inj (call.symm.trans at_j)
  exact ⟨mine, seq.symm, cmd.symm, resp, by rw [related.host, hostPart_calls_getElem?, call]; rfl⟩

/-- The call that goes on in a step. -/
def advances : Action → Option ℕ
  | .host a => Host.Device.advances a
  | _ => none

theorem advances_eq_some {a : Action} {j : ℕ} : advances a = some j ↔ a = .host (.advance j) := by
  cases a with
  | host b => simp [advances, Host.Device.advances_eq_some]
  | _ => simp [advances]

/-- What nothing carries. -/
def Free (s : System) (seq : Byte) : Prop :=
  (∀ u ∈ s.host.calls, Active u → u.seq ≠ seq) ∧
    (∀ r ∈ inHand s.host.reader, r.frame.seq ≠ seq) ∧
    (∀ f ∈ Host.pendingFrames s.reader, f.isResp = true → f.seq ≠ seq) ∧
    ∀ f ∈ inbound s.device, f.cmd ≠ Firmware.cmdProxySend → f.seq ≠ seq

instance (s : System) (seq : Byte) : Decidable (Free s seq) := by
  unfold Free; infer_instance

theorem takesFree_iff {s : System} {a : Action} :
    TakesFree s a ↔
      ∀ j ∈ advances a, ∀ c ∈ s.host.calls[j]?, c.pc = .start → Free s s.host.nextSeq := by
  simp only [Option.mem_def, advances_eq_some]
  exact ⟨fun free j eq c call pc => free j c eq call pc,
    fun free j c eq call pc => free j eq c call pc⟩

instance (s : System) (a : Action) : Decidable (TakesFree s a) :=
  decidable_of_iff _ takesFree_iff.symm

theorem busyRun_free :
    Schedule.Obeys step (fun s a => Sound a ∧ TakesFree s a) opened busyRun := by
  have sound : Schedule.Obeys step (fun _ a => Sound a) opened busyRun :=
    Schedule.obeys_of_forall fun _ => busyRun_sound
  exact sound.and (by decide +kernel)

theorem send_returns_own_answer_busy : ∃ s bss t, Schedule.exec step opened busyRun = some s ∧
    s.host.calls.map SendCall.pc = [.returned (.response ⟨0, ⟨1, 1, true, 0, [80]⟩⟩),
      .returned (.response ⟨0, ⟨2, 2, true, 0, [4, 2]⟩⟩),
      .returned (.response ⟨0, ⟨3, 3, true, 0, []⟩⟩), .returned .timeout,
      .returned (.response ⟨0, ⟨5, 1, true, 0, [80]⟩⟩)] ∧
    List.Forall₂ Seen busyRun bss ∧ Related s t ∧
    ∀ j c r, t.calls[j]? = some c → c.pc = .returned (.response r) →
        r.call = j ∧ r.frame.seq = c.seq ∧ r.frame.cmd = c.cmd ∧ r.frame.isResp = true ∧
          s.host.calls[j]? = some (SendCall.unnamed c) := by
  obtain ⟨s, run, returned⟩ := Option.map_eq_some_iff.mp busyRun_returns
  obtain ⟨bss, t, seen, -, related, own⟩ := send_returns_own_answer opened_start busyRun_free run
  exact ⟨s, bss, t, run, returned, seen, related, own⟩

end EspNetwork.Session
