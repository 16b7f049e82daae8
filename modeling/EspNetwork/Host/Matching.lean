import Mathlib
import EspNetwork.Host.Send

/-!
# Matching responses with requests

A sequence number is one byte and the only thing that ties a response to its call. As long as a
number is taken again only when nothing that carries it is left, neither an unfinished call nor
a request or response in transit, every response goes to its own call. The key is that what is
in transit keeps its order and its owner: the traffic of a device only loses its parts, except
for the request a call appends.
-/

namespace EspNetwork.Host

open Serial (Byte Bytes)
open Schedule

namespace Device

/-! ## Traffic -/

/-- The response in the hands of the reader. -/
def inHand : ReaderPc → List Response
  | .deliver _ r => [r]
  | .idle | .exited => []

/-- Owner and number of what the reader has not matched yet, oldest first. -/
def unmatched (d : Device) : List (Nat × Byte) :=
  d.responses.map (fun r => (r.call, r.frame.seq)) ++ d.requests.map fun q => (q.call, q.seq)

/-- Owner and number of everything in transit. -/
def traffic (d : Device) : List (Nat × Byte) :=
  (inHand d.reader).map (fun r => (r.call, r.frame.seq)) ++ unmatched d

/-- The call has a number and has not returned. -/
def Active (c : SendCall) : Prop := c.pc ≠ .start ∧ ∀ result, c.pc ≠ .returned result

/-- Something that carries the number of the call is left. -/
def InUse (d : Device) (j : Nat) (c : SendCall) : Prop :=
  Active c ∨ j ∈ (traffic d).map Prod.fst

/-- The condition on a step: a number is taken only when it is free. -/
def TakesFree (d : Device) (a : SendAction) : Prop :=
  ∀ (j : Nat) (c : SendCall), a = .advance j → d.calls[j]? = some c → c.pc = .start →
    ∀ (i : Nat) (u : SendCall), d.calls[i]? = some u → InUse d i u → u.seq ≠ d.nextSeq

/-- What the caller of `Send` relies on: it gets the response to its own request, the reader
passes a response that arrives to the call that waits for it, and a call that still waits then
finds it in its channel. -/
structure Matched (d : Device) : Prop where
  own : ∀ (j : Nat) (c : SendCall) (r : Response), d.calls[j]? = some c →
    c.pc = .deferred (.response r) ∨ c.pc = .returned (.response r) → r.call = j
  arrives : ∀ (r : Response) (responses : List Response) (c : SendCall), d.reader = .idle →
    d.responses = r :: responses → d.calls[r.call]? = some c → c.pc = .select →
    (step d .lookup).map Device.reader = some (.deliver r.call r)
  lands : ∀ (j : Nat) (r : Response) (c : SendCall), d.reader = .deliver j r →
    d.calls[j]? = some c → c.pc = .select →
    r.call = j ∧ ∃ d', step d .deliver = some d' ∧ d'.calls[j]? = some { c with ch := some r }

/-! ## The invariant -/

/-- The request was not written yet. -/
def Unsent (c : SendCall) : Prop := c.pc = .start ∨ c.pc = .insert ∨ c.pc = .write

structure Inv (d : Device) : Prop where
  nodup : ((traffic d).map Prod.fst).Nodup
  numbers : ∀ t ∈ traffic d, ∃ c, d.calls[t.1]? = some c ∧ c.seq = t.2 ∧ ¬ Unsent c
  unique : ∀ (i j : Nat) (u v : SendCall), d.calls[i]? = some u → d.calls[j]? = some v →
    InUse d i u → InUse d j v → u.seq = v.seq → i = j
  empty : ∀ (j : Nat) (c : SendCall), d.calls[j]? = some c → Unsent c → c.ch = none
  channel : ∀ (j : Nat) (c : SendCall) (r : Response), d.calls[j]? = some c → c.ch = some r →
    r.call = j ∧ j ∉ (traffic d).map Prod.fst
  results : ∀ (j : Nat) (c : SendCall) (r : Response), d.calls[j]? = some c →
    c.pc = .deferred (.response r) ∨ c.pc = .returned (.response r) → r.call = j
  entries : ∀ seq j, d.pending seq = some j →
    ∃ c, d.calls[j]? = some c ∧ c.seq = seq ∧ Active c
  registered : d.reader ≠ .exited → ∀ (j : Nat) (c : SendCall), d.calls[j]? = some c →
    c.pc = .write ∨ (c.pc = .select ∧ j ∈ (unmatched d).map Prod.fst) →
    d.pending c.seq = some j
  reader : ∀ j r, d.reader = .deliver j r → r.call = j

theorem setCall_call (d : Device) {j : Nat} {c : SendCall} (call : d.calls[j]? = some c)
    (c' : SendCall) (i : Nat) :
    (d.setCall j c').calls[i]? = if i = j then some c' else d.calls[i]? := by
  have hj := (List.getElem?_eq_some_iff.mp call).1
  by_cases same : i = j
  · subst same
    simp [setCall, hj]
  · simp [setCall, same, Ne.symm same]

/-- A call that has not written its request has nothing in transit. -/
theorem Inv.not_mem_of_unsent {d : Device} (inv : Inv d) {j : Nat} {c : SendCall}
    (call : d.calls[j]? = some c) (unsent : Unsent c) : j ∉ (traffic d).map Prod.fst := by
  intro mem
  obtain ⟨t, ht, rfl⟩ := List.mem_map.mp mem
  obtain ⟨u, hu, -, sent⟩ := inv.numbers t ht
  obtain rfl := Option.some.inj (call.symm.trans hu)
  exact sent unsent

/-- The entry under a number that is in use belongs to the call that uses it. -/
theorem Inv.entry_eq {d : Device} (inv : Inv d) {i j : Nat} {c : SendCall}
    (call : d.calls[j]? = some c) (use : InUse d j c) (entry : d.pending c.seq = some i) : i = j := by
  obtain ⟨u, hu, same, active⟩ := inv.entries _ _ entry
  exact inv.unique i j u c hu call (.inl active) use same

/-! ## Steps -/

/-- Calls and entries stay, and traffic is lost at most. -/
theorem Inv.shrink {d d' : Device} (inv : Inv d) (calls : d'.calls = d.calls)
    (pending : d'.pending = d.pending) (less : (traffic d').Sublist (traffic d))
    (fewer : (unmatched d').Sublist (unmatched d)) (alive : d'.reader ≠ .exited → d.reader ≠ .exited)
    (reader : ∀ j r, d'.reader = .deliver j r → d.reader = .deliver j r) : Inv d' := by
  have owners : ∀ j, j ∈ (traffic d').map Prod.fst → j ∈ (traffic d).map Prod.fst :=
    fun j mem => (less.map Prod.fst).subset mem
  have use : ∀ j c, InUse d' j c → InUse d j c := by
    rintro j c (active | mem)
    · exact .inl active
    · exact .inr (owners j mem)
  refine ⟨inv.nodup.sublist (less.map Prod.fst), fun t ht => ?_, ?_, ?_, ?_, ?_, ?_, ?_, ?_⟩
  · rw [calls]
    exact inv.numbers t (less.subset ht)
  · intro i j u v hu hv useu usev same
    rw [calls] at hu hv
    exact inv.unique i j u v hu hv (use i u useu) (use j v usev) same
  · rw [calls]
    exact inv.empty
  · intro j c r call ch
    obtain ⟨own, out⟩ := inv.channel j c r (calls ▸ call) ch
    exact ⟨own, fun mem => out (owners j mem)⟩
  · rw [calls]
    exact inv.results
  · rw [calls, pending]
    exact inv.entries
  · intro runs j c call waits
    rw [pending]
    refine inv.registered (alive runs) j c (calls ▸ call) ?_
    exact waits.imp_right fun ⟨pc, mem⟩ => ⟨pc, (fewer.map Prod.fst).subset mem⟩
  · exact fun j r h => inv.reader j r (reader j r h)

theorem Inv.lose {d d' : Device} (inv : Inv d) (calls : d'.calls = d.calls)
    (pending : d'.pending = d.pending) (reader : d'.reader = d.reader)
    (fewer : (unmatched d').Sublist (unmatched d)) : Inv d' := by
  refine inv.shrink calls pending ?_ fewer (by simp [reader]) (by simp [reader])
  rw [traffic, reader]
  exact fewer.append_left _

/-- One call changes, and perhaps its entry; traffic stays. -/
theorem Inv.update {d : Device} (inv : Inv d) {j : Nat} {c c' : SendCall}
    (call : d.calls[j]? = some c) (pending : Byte → Option Nat) (seqCounter : UInt32)
    (use : InUse d j c' → (c'.seq = c.seq ∧ InUse d j c) ∨
      ∀ (i : Nat) (u : SendCall), d.calls[i]? = some u → InUse d i u → u.seq ≠ c'.seq)
    (numbers : j ∈ (traffic d).map Prod.fst → c'.seq = c.seq ∧ ¬ Unsent c')
    (empty : Unsent c' → c'.ch = none)
    (channel : ∀ r, c'.ch = some r → r.call = j ∧ j ∉ (traffic d).map Prod.fst)
    (results : ∀ r, c'.pc = .deferred (.response r) ∨ c'.pc = .returned (.response r) → r.call = j)
    (entries : ∀ seq i, pending seq = some i →
      (i = j ∧ c'.seq = seq ∧ Active c') ∨ (i ≠ j ∧ d.pending seq = some i))
    (registered : d.reader ≠ .exited →
      c'.pc = .write ∨ (c'.pc = .select ∧ j ∈ (unmatched d).map Prod.fst) →
      pending c'.seq = some j)
    (others : ∀ (i : Nat) (u : SendCall), i ≠ j → d.calls[i]? = some u → InUse d i u →
      d.pending u.seq = some i → pending u.seq = some i) :
    Inv ({ d with pending, seqCounter }.setCall j c') := by
  set d' := ({ d with pending, seqCounter } : Device).setCall j c'
  have calls' : ∀ i : Nat, d'.calls[i]? = if i = j then some c' else d.calls[i]? :=
    setCall_call { d with pending, seqCounter } call c'
  have at_index : ∀ (i : Nat) (u : SendCall), d'.calls[i]? = some u →
      (i = j ∧ u = c') ∨ (i ≠ j ∧ d.calls[i]? = some u) := by
    intro i u hu
    rw [calls'] at hu
    split at hu
    · exact .inl ⟨‹_›, (Option.some.inj hu).symm⟩
    · exact .inr ⟨‹_›, hu⟩
  have kept : ∀ (i : Nat) (u : SendCall), i ≠ j → d.calls[i]? = some u → d'.calls[i]? = some u := by
    intro i u other hu
    rw [calls', if_neg other]
    exact hu
  have changed : d'.calls[j]? = some c' := by
    rw [calls', if_pos rfl]
  refine ⟨inv.nodup, fun t ht => ?_, fun i k u v hu hv useu usev same => ?_,
    fun i u hu unsent => ?_, fun i u r hu ch => ?_, fun i u r hu done => ?_, fun seq i entry => ?_,
    fun runs i u hu waits => ?_, inv.reader⟩
  · obtain ⟨u, hu, same, sent⟩ := inv.numbers t ht
    by_cases mine : t.1 = j
    · obtain ⟨seq, sent'⟩ := numbers (List.mem_map.mpr ⟨t, ht, mine⟩)
      rw [mine] at hu ⊢
      obtain rfl := Option.some.inj (call.symm.trans hu)
      exact ⟨c', changed, seq.trans same, sent'⟩
    · exact ⟨u, kept _ u mine hu, same, sent⟩
  · rcases at_index i u hu with ⟨rfl, rfl⟩ | ⟨otheri, oldu⟩ <;>
      rcases at_index k v hv with ⟨rfl, rfl⟩ | ⟨otherk, oldv⟩
    · rfl
    · rcases use useu with ⟨seq, use⟩ | free
      · exact inv.unique i k c v call oldv use usev (seq ▸ same)
      · exact absurd same.symm (free k v oldv usev)
    · rcases use usev with ⟨seq, use⟩ | free
      · exact inv.unique i k u c oldu call useu use (same.trans seq)
      · exact absurd same (free i u oldu useu)
    · exact inv.unique i k u v oldu oldv useu usev same
  · rcases at_index i u hu with ⟨rfl, rfl⟩ | ⟨-, old⟩
    · exact empty unsent
    · exact inv.empty i u old unsent
  · rcases at_index i u hu with ⟨rfl, rfl⟩ | ⟨-, old⟩
    · exact channel r ch
    · exact inv.channel i u r old ch
  · rcases at_index i u hu with ⟨rfl, rfl⟩ | ⟨-, old⟩
    · exact results r done
    · exact inv.results i u r old done
  · rcases entries seq i entry with ⟨rfl, same, active⟩ | ⟨other, old⟩
    · exact ⟨c', changed, same, active⟩
    · obtain ⟨u, hu, same, active⟩ := inv.entries seq i old
      exact ⟨u, kept i u other hu, same, active⟩
  · rcases at_index i u hu with ⟨rfl, rfl⟩ | ⟨other, old⟩
    · exact registered runs waits
    · refine others i u other old ?_ (inv.registered runs i u old waits)
      rcases waits with pc | ⟨pc, -⟩ <;> exact .inl ⟨by simp [pc], by simp [pc]⟩

/-- Nobody but its own call owns traffic, so a new call owns none. -/
theorem Inv.send {d : Device} (inv : Inv d) (cmd : Byte) (payload : Bytes) {pc : SendPc}
    (begins : pc = .start ∨ pc = .returned .notConnected) :
    Inv { d with calls := d.calls ++ [⟨cmd, payload, 0, pc, none, false⟩] } := by
  set c : SendCall := ⟨cmd, payload, 0, pc, none, false⟩
  set d' : Device := { d with calls := d.calls ++ [c] }
  have at_index : ∀ (i : Nat) (u : SendCall), d'.calls[i]? = some u →
      d.calls[i]? = some u ∨ (i = d.calls.length ∧ u = c) := by
    intro i u hu
    simp only [d', List.getElem?_append] at hu
    split at hu
    · exact .inl hu
    · obtain ⟨hlt, rfl⟩ := List.getElem?_eq_some_iff.mp hu
      simp only [List.length_singleton] at hlt
      exact .inr ⟨by omega, by simp⟩
  have kept : ∀ (i : Nat) (u : SendCall), d.calls[i]? = some u → d'.calls[i]? = some u := by
    intro i u hu
    rw [← hu]
    exact List.getElem?_append_left (List.getElem?_eq_some_iff.mp hu).1
  have unused : ¬ InUse d' d.calls.length c := by
    rintro (active | mem)
    · rcases begins with rfl | rfl
      · exact active.1 rfl
      · exact active.2 _ rfl
    · obtain ⟨t, ht, owner⟩ := List.mem_map.mp mem
      obtain ⟨u, hu, -⟩ := inv.numbers t ht
      simp [owner] at hu
  refine ⟨inv.nodup, fun t ht => ?_, fun i k u v hu hv useu usev same => ?_,
    fun i u hu unsent => ?_, fun i u r hu ch => ?_, fun i u r hu done => ?_, fun seq i entry => ?_,
    fun runs i u hu waits => ?_, inv.reader⟩
  · obtain ⟨u, hu, rest⟩ := inv.numbers t ht
    exact ⟨u, kept _ u hu, rest⟩
  · rcases at_index i u hu with oldu | ⟨rfl, rfl⟩
    · rcases at_index k v hv with oldv | ⟨rfl, rfl⟩
      · exact inv.unique i k u v oldu oldv useu usev same
      · exact absurd usev unused
    · exact absurd useu unused
  · rcases at_index i u hu with old | ⟨rfl, rfl⟩
    · exact inv.empty i u old unsent
    · rfl
  · rcases at_index i u hu with old | ⟨rfl, rfl⟩
    · exact inv.channel i u r old ch
    · cases ch
  · rcases at_index i u hu with old | ⟨rfl, rfl⟩
    · exact inv.results i u r old done
    · rcases begins with rfl | rfl <;> simp [c] at done
  · obtain ⟨u, hu, rest⟩ := inv.entries seq i entry
    exact ⟨u, kept i u hu, rest⟩
  · rcases at_index i u hu with old | ⟨rfl, rfl⟩
    · exact inv.registered runs i u old waits
    · rcases begins with rfl | rfl <;> simp [c] at waits

/-- A call puts its request on the wire. -/
theorem Inv.putRequest {d : Device} (inv : Inv d) {q : Request} {c : SendCall}
    (call : d.calls[q.call]? = some c) (seq : q.seq = c.seq) (active : Active c)
    (sent : ¬ Unsent c) (new : q.call ∉ (traffic d).map Prod.fst) (empty : c.ch = none)
    (registered : d.reader ≠ .exited → c.pc = .select → d.pending c.seq = some q.call) :
    Inv (d.putRequest q) := by
  have unmatched' : unmatched (d.putRequest q) = unmatched d ++ [(q.call, q.seq)] := by
    simp [unmatched, Device.putRequest]
  have traffic' : traffic (d.putRequest q) = traffic d ++ [(q.call, q.seq)] := by
    rw [traffic, unmatched', traffic, List.append_assoc]
    rfl
  have owners : ∀ j, j ∈ (traffic (d.putRequest q)).map Prod.fst →
      j ∈ (traffic d).map Prod.fst ∨ j = q.call := by
    intro j mem
    simpa [traffic'] using mem
  have use : ∀ (j : Nat) (u : SendCall), d.calls[j]? = some u → InUse (d.putRequest q) j u →
      InUse d j u := by
    rintro j u hu (act | mem)
    · exact .inl act
    · rcases owners j mem with old | rfl
      · exact .inr old
      · obtain rfl := Option.some.inj (call.symm.trans hu)
        exact .inl active
  refine ⟨?_, fun t ht => ?_, fun i k u v hu hv useu usev same => ?_, inv.empty,
    fun i u r hu ch => ?_, inv.results, inv.entries, fun runs i u hu waits => ?_, inv.reader⟩
  · rw [traffic', List.map_append, List.nodup_append]
    refine ⟨inv.nodup, by simp, fun a ha b hb same => ?_⟩
    obtain rfl : b = q.call := by simpa using hb
    exact new (same ▸ ha)
  · rcases List.mem_append.mp (traffic' ▸ ht) with old | last
    · exact inv.numbers t old
    · obtain rfl := List.mem_singleton.mp last
      exact ⟨c, call, seq.symm, sent⟩
  · exact inv.unique i k u v hu hv (use i u hu useu) (use k v hv usev) same
  · obtain ⟨own, out⟩ := inv.channel i u r hu ch
    refine ⟨own, fun mem => ?_⟩
    rcases owners i mem with old | rfl
    · exact out old
    · obtain rfl := Option.some.inj (call.symm.trans hu)
      simp [empty] at ch
  · rcases waits with pc | ⟨pc, mem⟩
    · exact inv.registered runs i u hu (.inl pc)
    · rcases (by simpa [unmatched'] using mem :
        i ∈ (unmatched d).map Prod.fst ∨ i = q.call) with old | rfl
      · exact inv.registered runs i u hu (.inr ⟨pc, old⟩)
      · obtain rfl := Option.some.inj (call.symm.trans hu)
        exact registered runs pc

/-- The reader takes a response to the call it finds, which is the call that asked. -/
theorem Inv.found {d : Device} (inv : Inv d) {r : Response} {responses : List Response} {j : Nat}
    (idle : d.reader = .idle) (queue : d.responses = r :: responses)
    (entry : d.pending r.frame.seq = some j) :
    Inv { d.setPending r.frame.seq none with responses, reader := .deliver j r } := by
  set d' : Device := { d.setPending r.frame.seq none with responses, reader := .deliver j r }
  have first : unmatched d = (r.call, r.frame.seq) :: unmatched d' := by
    simp [unmatched, queue, d', setPending]
  have traffic' : traffic d' = traffic d := by
    simp [traffic, first, idle, inHand, d']
  have mem : (r.call, r.frame.seq) ∈ traffic d := by
    simp [traffic, first]
  obtain ⟨c, call, seq, sent⟩ := inv.numbers _ mem
  have use : InUse d r.call c := .inr (List.mem_map.mpr ⟨_, mem, rfl⟩)
  have owner : j = r.call := inv.entry_eq call use (seq ▸ entry)
  refine ⟨traffic' ▸ inv.nodup, traffic' ▸ inv.numbers, ?_, inv.empty, ?_, inv.results, ?_, ?_, ?_⟩
  · intro i k u v hu hv useu usev same
    rw [InUse, traffic'] at useu usev
    exact inv.unique i k u v hu hv useu usev same
  · rw [traffic']
    exact inv.channel
  · intro seq' i h
    by_cases same : seq' = r.frame.seq
    · simp [d', setPending, same] at h
    · exact inv.entries seq' i (by simpa [d', setPending, same] using h)
  · intro _ i u hu waits
    have nodup := inv.nodup
    simp only [traffic, idle, inHand, List.map_nil, List.nil_append, first, List.map_cons,
      List.nodup_cons] at nodup
    have waits' : u.pc = .write ∨ (u.pc = .select ∧ i ∈ (unmatched d).map Prod.fst) := by
      refine waits.imp_right fun ⟨pc, later⟩ => ⟨pc, ?_⟩
      rw [first]
      exact List.mem_cons_of_mem _ later
    have old := inv.registered (by simp [idle]) i u hu waits'
    have other : u.seq ≠ r.frame.seq := by
      intro same
      -- the call that asked has written its request, and nothing else of it is in transit
      have active : Active u := by
        rcases waits with pc | ⟨pc, -⟩ <;> exact ⟨by simp [pc], by simp [pc]⟩
      obtain rfl := inv.unique i r.call u c hu call (.inl active) use (same.trans seq.symm)
      obtain rfl := Option.some.inj (call.symm.trans hu)
      rcases waits with pc | ⟨-, later⟩
      · exact sent (.inr (.inr pc))
      · exact nodup.1 later
    simpa [d', setPending, other] using old
  · intro i x h
    obtain ⟨rfl, rfl⟩ : j = i ∧ r = x := by simpa [d'] using h
    exact owner.symm

/-- `Close` ends the calls after the reader has exited. -/
theorem Inv.drain {d : Device} (inv : Inv d) (exited : d.reader = .exited) :
    Inv { d with
      calls := d.calls.mapIdx fun j c =>
        if d.pending c.seq = some j then { c with closed := true } else c
      pending := fun _ => none } := by
  set d' : Device := { d with
    calls := d.calls.mapIdx fun j c =>
      if d.pending c.seq = some j then { c with closed := true } else c
    pending := fun _ => none }
  have at_index : ∀ (i : Nat) (u : SendCall), d'.calls[i]? = some u →
      ∃ v, d.calls[i]? = some v ∧ (u = v ∨ u = { v with closed := true }) := by
    intro i u hu
    simp only [d', List.getElem?_mapIdx, Option.map_eq_some_iff] at hu
    obtain ⟨v, hv, rfl⟩ := hu
    refine ⟨v, hv, ?_⟩
    split
    · exact .inr rfl
    · exact .inl rfl
  have kept : ∀ (i : Nat) (v : SendCall), d.calls[i]? = some v →
      ∃ u, d'.calls[i]? = some u ∧ u.seq = v.seq ∧ u.pc = v.pc := by
    intro i v hv
    simp only [d', List.getElem?_mapIdx, hv, Option.map_some, Option.some.injEq, exists_eq_left']
    split <;> exact ⟨rfl, rfl⟩
  refine ⟨inv.nodup, fun t ht => ?_, fun i k u v hu hv useu usev same => ?_,
    fun i u hu unsent => ?_, fun i u r hu ch => ?_, fun i u r hu done => ?_, by simp [d'],
    fun runs => absurd exited runs, inv.reader⟩
  · obtain ⟨v, hv, seq, sent⟩ := inv.numbers t ht
    obtain ⟨u, hu, seq', pc⟩ := kept t.1 v hv
    exact ⟨u, hu, seq'.trans seq, by simpa [Unsent, pc] using sent⟩
  · obtain ⟨u', hu', rfl | rfl⟩ := at_index i u hu <;>
      obtain ⟨v', hv', rfl | rfl⟩ := at_index k v hv <;>
      exact inv.unique i k _ _ hu' hv' useu usev same
  · obtain ⟨u', hu', rfl | rfl⟩ := at_index i u hu
    · exact inv.empty i u hu' unsent
    · exact inv.empty i u' hu' unsent
  · obtain ⟨u', hu', rfl | rfl⟩ := at_index i u hu <;> exact inv.channel i _ r hu' ch
  · obtain ⟨u', hu', rfl | rfl⟩ := at_index i u hu <;> exact inv.results i _ r hu' done

/-- A call leaves its select or fails to write. -/
theorem Inv.leave {d : Device} (inv : Inv d) {j : Nat} {c : SendCall} {ch : Option Response}
    {result : SendResult} (call : d.calls[j]? = some c) (pc : c.pc = .select ∨ c.pc = .write)
    (less : ch = c.ch ∨ ch = none) (own : ∀ r, result = .response r → r.call = j) :
    Inv (d.setCall j { c with ch, pc := .deferred result }) := by
  have active : Active c := by
    rcases pc with pc | pc <;> exact ⟨by simp [pc], by simp [pc]⟩
  refine inv.update call d.pending d.seqCounter (fun _ => .inl ⟨rfl, .inl active⟩)
    (fun _ => ⟨rfl, by simp [Unsent]⟩) (by simp [Unsent]) (fun r h => ?_) (by simpa using own)
    (fun seq i entry => ?_) (by simp) (fun _ _ _ _ _ h => h)
  · rcases less with rfl | rfl
    · exact inv.channel j c r call h
    · simp at h
  · by_cases mine : i = j
    · subst mine
      obtain ⟨u, hu, same, -⟩ := inv.entries seq i entry
      obtain rfl := Option.some.inj (call.symm.trans hu)
      exact .inl ⟨rfl, same, by simp [Active]⟩
    · exact .inr ⟨mine, entry⟩

/-- A call takes a free number. -/
theorem Inv.start {d : Device} (inv : Inv d) {j : Nat} {c : SendCall}
    (call : d.calls[j]? = some c) (pc : c.pc = .start)
    (free : ∀ (i : Nat) (u : SendCall), d.calls[i]? = some u → InUse d i u → u.seq ≠ d.nextSeq) :
    Inv ({ d with seqCounter := d.seqCounter + 1 }.setCall j
      { c with seq := d.nextSeq, pc := .insert }) := by
  have out := inv.not_mem_of_unsent call (.inl pc)
  have empty := inv.empty j c call (.inl pc)
  refine inv.update call d.pending _ (fun _ => .inr free) (fun mem => absurd mem out)
    (fun _ => empty) (by simp [empty]) (by simp) (fun seq i entry => ?_) (by simp)
    (fun _ _ _ _ _ h => h)
  refine .inr ⟨?_, entry⟩
  rintro rfl
  obtain ⟨u, hu, -, active⟩ := inv.entries seq i entry
  obtain rfl := Option.some.inj (call.symm.trans hu)
  exact active.1 pc

/-- A call registers its channel. -/
theorem Inv.insert {d : Device} (inv : Inv d) {j : Nat} {c : SendCall}
    (call : d.calls[j]? = some c) (pc : c.pc = .insert) :
    Inv ((d.setPending c.seq (some j)).setCall j { c with pc := .write }) := by
  have active : Active c := ⟨by simp [pc], by simp [pc]⟩
  have out := inv.not_mem_of_unsent call (.inr (.inl pc))
  have empty := inv.empty j c call (.inr (.inl pc))
  refine inv.update call _ d.seqCounter (fun _ => .inl ⟨rfl, .inl active⟩)
    (fun mem => absurd mem out) (fun _ => empty) (by simp [empty]) (by simp)
    (fun seq i entry => ?_) (by simp) (fun i u other hu use h => ?_)
  · by_cases same : seq = c.seq
    · obtain rfl : j = i := by simpa [same] using entry
      exact .inl ⟨rfl, same.symm, by simp [Active]⟩
    · rw [Function.update_of_ne same] at entry
      refine .inr ⟨?_, entry⟩
      rintro rfl
      obtain ⟨u, hu, seq', -⟩ := inv.entries seq i entry
      obtain rfl := Option.some.inj (call.symm.trans hu)
      exact same seq'.symm
  · have : u.seq ≠ c.seq := fun same => other (inv.unique i j u c hu call use (.inl active) same)
    rw [Function.update_of_ne this]
    exact h

/-- The deferred function deletes the entry of its own call only. -/
theorem Inv.deferred {d : Device} (inv : Inv d) {j : Nat} {c : SendCall} {result : SendResult}
    (call : d.calls[j]? = some c) (pc : c.pc = .deferred result) :
    Inv ((d.setPending c.seq none).setCall j { c with pc := .returned result }) := by
  have active : Active c := ⟨by simp [pc], by simp [pc]⟩
  refine inv.update call _ d.seqCounter (fun _ => .inl ⟨rfl, .inl active⟩)
    (fun _ => ⟨rfl, by simp [Unsent]⟩) (by simp [Unsent]) (fun r ch => ?_) (fun r done => ?_)
    (fun seq i entry => ?_) (by simp) (fun i u other hu use h => ?_)
  · exact inv.channel j c r call ch
  · exact inv.results j c r call (.inl (by simpa [pc] using done))
  · by_cases same : seq = c.seq
    · simp [same] at entry
    · rw [Function.update_of_ne same] at entry
      refine .inr ⟨?_, entry⟩
      rintro rfl
      obtain ⟨u, hu, seq', -⟩ := inv.entries seq i entry
      obtain rfl := Option.some.inj (call.symm.trans hu)
      exact same seq'.symm
  · have : u.seq ≠ c.seq := fun same => other (inv.unique i j u c hu call use (.inl active) same)
    rw [Function.update_of_ne this]
    exact h

/-- A call writes its request. -/
theorem Inv.write {d : Device} (inv : Inv d) {j : Nat} {c : SendCall} {pc' : SendPc}
    (call : d.calls[j]? = some c) (pc : c.pc = .write)
    (next : pc' = .select ∨ pc' = .deferred .writeFailed) :
    Inv ((d.putRequest ⟨j, c.seq, c.cmd, c.payload⟩).setCall j { c with pc := pc' }) := by
  have active : Active c := ⟨by simp [pc], by simp [pc]⟩
  have out := inv.not_mem_of_unsent call (.inr (.inr pc))
  have empty := inv.empty j c call (.inr (.inr pc))
  have sent : ¬ Unsent { c with pc := pc' } := by
    rcases next with rfl | rfl <;> simp [Unsent]
  have active' : Active { c with pc := pc' } := by
    rcases next with rfl | rfl <;> simp [Active]
  have moved : Inv (d.setCall j { c with pc := pc' }) := by
    refine inv.update call d.pending d.seqCounter (fun _ => .inl ⟨rfl, .inl active⟩)
      (fun _ => ⟨rfl, sent⟩) (fun h => absurd h sent) (by simp [empty]) ?_ (fun seq i entry => ?_)
      (fun runs _ => inv.registered runs j c call (.inl pc)) (fun _ _ _ _ _ h => h)
    · rcases next with rfl | rfl <;> simp
    · by_cases mine : i = j
      · subst mine
        obtain ⟨u, hu, same, -⟩ := inv.entries seq i entry
        obtain rfl := Option.some.inj (call.symm.trans hu)
        exact .inl ⟨rfl, same, active'⟩
      · exact .inr ⟨mine, entry⟩
  have call' : (d.setCall j { c with pc := pc' }).calls[j]? = some { c with pc := pc' } := by
    rw [setCall_call d call, if_pos rfl]
  exact moved.putRequest (q := ⟨j, c.seq, c.cmd, c.payload⟩) call' rfl active' sent out empty
    fun runs _ => inv.registered runs j c call (.inl pc)

/-- The reader sends a response into the channel of the call that asked for it. -/
theorem Inv.deliver {d : Device} (inv : Inv d) {j : Nat} {r : Response} {c : SendCall}
    (reader : d.reader = .deliver j r) (call : d.calls[j]? = some c) :
    Inv { d.setCall j { c with ch := match c.ch with | none => some r | some old => some old } with
      reader := .idle } := by
  have owner := inv.reader j r reader
  have split : traffic d = (r.call, r.frame.seq) :: unmatched d := by
    simp [traffic, reader, inHand]
  have shrunk : Inv { d with reader := .idle } := by
    refine inv.shrink rfl rfl ?_ (List.Sublist.refl _) (by simp [reader]) (by simp)
    rw [split]
    exact List.sublist_cons_self _ _
  have nodup := inv.nodup
  rw [split, List.map_cons, List.nodup_cons, owner] at nodup
  have out : j ∉ (traffic { d with reader := .idle }).map Prod.fst := nodup.1
  have sent : ¬ Unsent c := fun unsent => inv.not_mem_of_unsent call unsent (by simp [split, owner])
  refine shrunk.update call d.pending d.seqCounter ?_ (fun _ => ⟨rfl, sent⟩)
    (fun unsent => absurd unsent sent) (fun x ch => ⟨?_, out⟩) ?_ (fun seq i entry => ?_)
    (fun _ => ?_) (fun _ _ _ _ _ h => h)
  · rintro (active | mem)
    · exact .inl ⟨rfl, .inl active⟩
    · exact absurd mem out
  · cases old : c.ch with
    | none =>
      obtain rfl : r = x := by simpa [old] using ch
      exact owner
    | some y => exact (inv.channel j c x call (by simpa [old] using ch)).1
  · exact fun x done => inv.results j c x call done
  · by_cases mine : i = j
    · subst mine
      obtain ⟨u, hu, same, active⟩ := inv.entries seq i entry
      obtain rfl := Option.some.inj (call.symm.trans hu)
      exact .inl ⟨rfl, same, active⟩
    · exact .inr ⟨mine, entry⟩
  · rintro (pc | ⟨-, mem⟩)
    · exact absurd (.inr (.inr pc)) sent
    · exact absurd mem nodup.1

theorem Inv.step {d d' : Device} {a : SendAction} (inv : Inv d) (free : TakesFree d a)
    (taken : Steps d a d') : Inv d' := by
  cases taken with
  | send cmd payload begins => exact inv.send cmd payload begins
  | start call pc => exact inv.start call pc (free _ _ rfl call pc)
  | insert call pc => exact inv.insert call pc
  | write a call pc next => exact inv.write call pc next
  | receive call pc ch =>
    refine inv.leave call (.inl pc) (.inr rfl) fun r h => ?_
    obtain rfl := SendResult.response.inj h
    exact (inv.channel _ _ _ call ch).1
  | giveUp a call pc empty => exact inv.leave call pc (.inl rfl) fun r h => absurd h (empty r)
  | deferred call pc => exact inv.deferred call pc
  | answer status payload queue => exact inv.lose rfl rfl rfl (by simp [unmatched, queue])
  | skip queue =>
    refine inv.lose rfl rfl rfl ?_
    simp only [unmatched, queue, List.map_cons]
    exact (List.sublist_cons_self _ _).append_left _
  | found idle queue entry => exact inv.found idle queue entry
  | unknown idle queue entry =>
    refine inv.lose rfl rfl rfl ?_
    simp only [unmatched, queue, List.map_cons, List.cons_append]
    exact List.sublist_cons_self _ _
  | deliver reader call => exact inv.deliver reader call
  | close => exact inv.lose rfl rfl rfl (List.Sublist.refl _)
  | readerExit idle =>
    refine inv.shrink rfl rfl ?_ (List.Sublist.refl _) (by simp) (by simp)
    simp [traffic, idle, inHand, unmatched]
  | drain exited => exact inv.drain exited

/-! ## Runs -/

theorem inv_new : Inv Device.new := by
  constructor <;> simp [Device.new, traffic, unmatched, inHand]

theorem Inv.matched {d : Device} (inv : Inv d) : Matched d := by
  refine ⟨inv.results, fun r responses c idle queue call pc => ?_, fun j r c reader call pc => ?_⟩
  · have mem : (r.call, r.frame.seq) ∈ unmatched d := by simp [unmatched, queue]
    obtain ⟨u, hu, seq, -⟩ := inv.numbers _ (List.mem_append_right _ mem)
    obtain rfl := Option.some.inj (call.symm.trans hu)
    have entry := inv.registered (by simp [idle]) r.call c call
      (.inr ⟨pc, List.mem_map.mpr ⟨_, mem, rfl⟩⟩)
    replace entry : d.pending r.frame.seq = some r.call := by
      rw [← entry, seq]
    simp [Device.step, lookup, idle, queue, entry]
  · have owner := inv.reader j r reader
    have mem : j ∈ (traffic d).map Prod.fst := by simp [traffic, reader, inHand, owner]
    have empty : c.ch = none := by
      by_contra full
      obtain ⟨x, ch⟩ := Option.ne_none_iff_exists'.mp full
      exact (inv.channel j c x call ch).2 mem
    refine ⟨owner, { d.setCall j { c with ch := some r } with reader := .idle }, ?_, ?_⟩
    · simp [Device.step, Device.deliver, reader, call, empty]
    · exact (setCall_call d call _ j).trans (if_pos rfl)

/-- In every run that takes only free numbers, responses go to the calls that asked for them. -/
theorem send_matches_responses {as : List SendAction} {d : Device}
    (free : Obeys step TakesFree Device.new as) (run : exec step Device.new as = some d) :
    Matched d := by
  refine Inv.matched (exec_invariant_of_obeys Inv ?_ inv_new free run)
  intro d a d' inv free taken
  exact inv.step free (step_steps taken)

/-- The call that goes on in a step. -/
def advances : SendAction → Option Nat
  | .advance j => some j
  | _ => none

theorem advances_eq_some {a : SendAction} {j : Nat} : advances a = some j ↔ a = .advance j := by
  cases a <;> simp [advances]

instance (c : SendCall) : Decidable (Active c) :=
  decidable_of_iff ((match c.pc with | .start | .returned _ => false | _ => true) = true) (by
    unfold Active
    cases c.pc <;> simp)

instance (d : Device) (j : Nat) (c : SendCall) : Decidable (InUse d j c) :=
  inferInstanceAs (Decidable (_ ∨ _))

theorem takesFree_iff {d : Device} {a : SendAction} :
    TakesFree d a ↔ ∀ j ∈ advances a, ∀ c ∈ d.calls[j]?, c.pc = .start →
      ∀ i < d.calls.length, ∀ u ∈ d.calls[i]?, InUse d i u → u.seq ≠ d.nextSeq := by
  simp only [Option.mem_def, advances_eq_some]
  constructor
  · intro free j eq c call pc i _ u hu
    exact free j c eq call pc i u hu
  · intro free j c eq call pc i u hu
    exact free j eq c call pc i (List.getElem?_eq_some_iff.mp hu).1 u hu

instance (d : Device) (a : SendAction) : Decidable (TakesFree d a) :=
  decidable_of_iff _ takesFree_iff.symm

/-- Two calls overlap. The first gives up before its answer comes, which then finds no entry; the
second one returns its own. -/
def lateRun : List SendAction :=
  [.send 1 [112], .send 2 [], .advance 0, .advance 1, .advance 0, .advance 0, .advance 1,
    .advance 1, .timeout 0, .advance 0, .answer 0 [80], .lookup, .answer 0 [7], .lookup, .deliver,
    .advance 1, .advance 1]

theorem send_matches_responses_ping : ∃ d, exec step Device.new lateRun = some d ∧
    d.calls.map SendCall.pc =
      [.returned .timeout, .returned (.response ⟨1, ⟨2, 2, true, 0, [7]⟩⟩)] ∧ Matched d := by
  have free : Obeys step TakesFree Device.new lateRun := by decide +kernel
  exact ⟨_, rfl, rfl, send_matches_responses free rfl⟩

/-! ## A number taken again -/

/-- Calls that only take their numbers. -/
def takeNumbers (first n : Nat) : List SendAction :=
  (List.range n).flatMap fun k => [.send 1 [], .advance (first + k)]

theorem exec_takeNumbers {d : Device} (port : d.port = true) (n : Nat) :
    ∃ calls, exec step d (takeNumbers d.calls.length n) =
      some { d with seqCounter := d.seqCounter + UInt32.ofNat n, calls } ∧
      calls.length = d.calls.length + n := by
  induction n with
  | zero => exact ⟨d.calls, by simp [takeNumbers], by simp⟩
  | succ n ih =>
    obtain ⟨calls, run, length⟩ := ih
    have split : takeNumbers d.calls.length (n + 1) =
        takeNumbers d.calls.length n ++ [.send 1 [], .advance calls.length] := by
      simp [takeNumbers, List.range_succ, length]
    refine ⟨calls ++ [⟨1, [], (d.seqCounter + UInt32.ofNat n + 1).toUInt8, .insert, none, false⟩],
      ?_, by simp [length, Nat.add_assoc]⟩
    rw [split]
    refine exec_append.mpr ⟨_, run, ?_⟩
    simp [exec, step, port, advance, setCall, nextSeq, UInt32.add_assoc, UInt8.add_assoc]

/-- A call whose number is still carried by a request gets the answer to that request. -/
theorem exec_reused {d : Device} {q : Request} (port : d.port = true) (idle : d.reader = .idle)
    (none : d.responses = []) (queue : d.requests = [q]) (reused : d.nextSeq = q.seq) :
    ∃ d' c, exec step d ([.send 2 [], .advance d.calls.length, .advance d.calls.length,
        .advance d.calls.length, .answer 0 [], .lookup, .deliver, .advance d.calls.length,
        .advance d.calls.length]) = some d' ∧ d'.calls[d.calls.length]? = some c ∧
      c.pc = .returned (.response ⟨q.call, ⟨q.seq, q.cmd, true, 0, []⟩⟩) := by
  have seq : d.seqCounter.toUInt8 + 1 = q.seq := by simpa [nextSeq] using reused
  simp [exec, step, port, advance, setCall, setPending, putRequest, lookup, deliver, idle, none, queue,
    nextSeq, seq]

/-- Call 0 times out while its request is with the device, 255 further calls take their numbers,
and call 256 takes number 1 again; then the device answers call 0. -/
def wrapRun : List SendAction :=
  ([.send 1 [], .advance 0, .advance 0, .advance 0, .timeout 0, .advance 0] : List SendAction) ++
    takeNumbers 1 255 ++
    ([.send 2 [], .advance 256, .advance 256, .advance 256, .answer 0 [], .lookup, .deliver,
      .advance 256, .advance 256] : List SendAction)

theorem send_returns_stale : ∃ d, exec step Device.new wrapRun = some d ∧ ¬ Matched d := by
  obtain ⟨d₀, lost, port, idle, none, queue, counter, length⟩ : ∃ d₀, exec step Device.new
      [.send 1 [], .advance 0, .advance 0, .advance 0, .timeout 0, .advance 0] = some d₀ ∧
      d₀.port = true ∧ d₀.reader = .idle ∧ d₀.responses = [] ∧ d₀.requests = [⟨0, 1, 1, []⟩] ∧
      d₀.seqCounter = 1 ∧ d₀.calls.length = 1 := ⟨_, rfl, rfl, rfl, rfl, rfl, rfl, rfl⟩
  obtain ⟨calls, numbers, total⟩ := exec_takeNumbers port 255
  rw [length] at numbers total
  obtain ⟨d', c, stale, call, pc⟩ := exec_reused
    (d := { d₀ with seqCounter := d₀.seqCounter + UInt32.ofNat 255, calls }) port idle none queue
    (by simp [nextSeq, counter])
  rw [total] at stale call
  refine ⟨d', exec_append.mpr ⟨_, exec_append.mpr ⟨_, lost, numbers⟩, stale⟩, fun matched => ?_⟩
  have own := matched.own 256 c _ call (.inr pc)
  simp at own

end Device

end EspNetwork.Host
