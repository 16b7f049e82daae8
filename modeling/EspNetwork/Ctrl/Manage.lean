import EspNetwork.Ctrl.Teardown

/-!
# The relay lifecycle

`ProxyServer` of `ctrl/proxy/client.go`. `manage` dials the relay, publishes a `Client` on it, runs
its `readLoop` until the relay is lost, and starts over; `Connect` takes the client it finds
published, which may be replaced before the call goes on. `Close` cancels the context from which
those of all clients are derived; it closes no relay, so a `readLoop` that is blocked in `ReadFull`
is left when the relay says something or is lost.
-/

namespace EspNetwork.Ctrl

open Serial (Byte Bytes)
open Relay (VFrame)
open Schedule

/-- Where `manage` stands. The two waits for `reconnectDelay` are one. -/
inductive ManagePc where
  | top
  | dial
  | publish (k : Nat)
  | serve (k : Nat)
  | retire (k : Nat)
  | check
  | delay
  | returned
  deriving DecidableEq, Repr

/-- Where a call of `Connect` stands; `entered k j` is `ConnectRemote` on the `k`-th client, with its
slot. -/
inductive ConnectPc where
  | snapshot
  | check (k : Nat)
  | enter (k : Nat)
  | entered (k j : Nat)
  | refused
  deriving DecidableEq, Repr

structure ConnectCall where
  host : Bytes
  port : UInt16
  pc : ConnectPc
  deriving DecidableEq, Repr

/-- All clients that were ever made, the newest last; `client` is the one that is published. -/
structure ProxyServer where
  ctxDone : Bool
  client : Option Nat
  clients : List Client
  pc : ManagePc
  calls : List ConnectCall

inductive ServerAction where
  /-- The next statement of `manage`, or the `ps.ctx.Done()` case of its wait. -/
  | manage
  /-- `TCPConnect` returns. -/
  | dialed (ok : Bool)
  | timer
  /-- A goroutine of the `k`-th client, or a user of one of its connections. -/
  | client (k : Nat) (a : Action)
  | connect (host : Bytes) (port : UInt16)
  | call (i : Nat)
  | close

/-- What `readLoop` does. -/
def ownLoop : Action → Bool
  | .frame _ | .relayLost | .loop | .visit _ => true
  | _ => false

namespace ProxyServer

def new : ProxyServer := ⟨false, none, [], .top, []⟩

/-- `ConnectRemote` is called through `Connect` only, and `readLoop` by `manage`. -/
def allowed (m : ProxyServer) (k : Nat) : Action → Bool
  | .connect .. => false
  | a => !ownLoop a || decide (m.pc = .serve k)

def manageStep (m : ProxyServer) : Option ProxyServer :=
  match m.pc with
  | .top => some { m with pc := if m.ctxDone then .returned else .dial }
  | .publish k => some { m with client := some k, pc := .serve k }
  | .serve k => do
    let c ← m.clients[k]?
    if c.loop = .exited then return { m with pc := .retire k } else none
  | .retire k =>
    some { m with client := if m.client = some k then none else m.client, pc := .check }
  | .check => some { m with pc := if m.ctxDone then .returned else .delay }
  | .delay => if m.ctxDone then some { m with pc := .returned } else none
  | .dial | .returned => none

def setCall (m : ProxyServer) (i : Nat) (c : ConnectCall) : ProxyServer :=
  { m with calls := m.calls.set i c }

def callStep (m : ProxyServer) (i : Nat) : Option ProxyServer := do
  let call ← m.calls[i]?
  match call.pc with
  | .snapshot =>
    match m.client with
    | none => return m.setCall i { call with pc := .refused }
    | some k => return m.setCall i { call with pc := .check k }
  | .check k => do
    let c ← m.clients[k]?
    return m.setCall i { call with pc := if c.ctxDone then .refused else .enter k }
  | .enter k => do
    let c ← m.clients[k]?
    return { m.setCall i { call with pc := .entered k c.slots.length } with
      clients := m.clients.set k (c.allocate call.host call.port) }
  | .entered .. | .refused => none

def step (m : ProxyServer) : ServerAction → Option ProxyServer
  | .manage => m.manageStep
  | .dialed ok =>
    if m.pc = .dial then
      if ok then
        some { m with
          clients := m.clients ++ [{ newClient with ctxDone := m.ctxDone }]
          pc := .publish m.clients.length }
      else some { m with pc := .delay }
    else none
  | .timer => if m.pc = .delay then some { m with pc := .top } else none
  | .client k a => do
    let c ← m.clients[k]?
    if m.allowed k a then
      let c' ← Client.clientStep c a
      return { m with clients := m.clients.set k c' }
    else none
  | .connect host port => some { m with calls := m.calls ++ [⟨host, port, .snapshot⟩] }
  | .call i => m.callStep i
  | .close =>
    some { m with ctxDone := true, clients := m.clients.map fun c => { c with ctxDone := true } }

/-! ## What a step can do -/

inductive Moves (m : ProxyServer) : ServerAction → ProxyServer → Prop where
  | top (pc : m.pc = .top) :
    Moves m .manage { m with pc := if m.ctxDone then .returned else .dial }
  | publish {k : Nat} (pc : m.pc = .publish k) :
    Moves m .manage { m with client := some k, pc := .serve k }
  | serve {k : Nat} {c : Client} (pc : m.pc = .serve k) (client : m.clients[k]? = some c)
    (exited : c.loop = .exited) : Moves m .manage { m with pc := .retire k }
  | retire {k : Nat} (pc : m.pc = .retire k) : Moves m .manage
      { m with client := if m.client = some k then none else m.client, pc := .check }
  | check (pc : m.pc = .check) :
    Moves m .manage { m with pc := if m.ctxDone then .returned else .delay }
  | stop (pc : m.pc = .delay) (ended : m.ctxDone = true) : Moves m .manage { m with pc := .returned }
  | dialed (pc : m.pc = .dial) : Moves m (.dialed true)
      { m with
        clients := m.clients ++ [{ newClient with ctxDone := m.ctxDone }]
        pc := .publish m.clients.length }
  | failed (pc : m.pc = .dial) : Moves m (.dialed false) { m with pc := .delay }
  | timer (pc : m.pc = .delay) : Moves m .timer { m with pc := .top }
  | client {k : Nat} {a : Action} {c c' : Client} {out : List VFrame}
    (client : m.clients[k]? = some c) (allowed : m.allowed k a = true)
    (taken : c.step a = some (c', out)) :
    Moves m (.client k a) { m with clients := m.clients.set k c' }
  | connect (host : Bytes) (port : UInt16) :
    Moves m (.connect host port) { m with calls := m.calls ++ [⟨host, port, .snapshot⟩] }
  | absent {i : Nat} {call : ConnectCall} (at_i : m.calls[i]? = some call)
    (pc : call.pc = .snapshot) (client : m.client = none) :
    Moves m (.call i) (m.setCall i { call with pc := .refused })
  | snapshot {i k : Nat} {call : ConnectCall} (at_i : m.calls[i]? = some call)
    (pc : call.pc = .snapshot) (client : m.client = some k) :
    Moves m (.call i) (m.setCall i { call with pc := .check k })
  | checked {i k : Nat} {call : ConnectCall} {c : Client} (at_i : m.calls[i]? = some call)
    (pc : call.pc = .check k) (client : m.clients[k]? = some c) :
    Moves m (.call i) (m.setCall i { call with pc := if c.ctxDone then .refused else .enter k })
  | enter {i k : Nat} {call : ConnectCall} {c : Client} (at_i : m.calls[i]? = some call)
    (pc : call.pc = .enter k) (client : m.clients[k]? = some c) :
    Moves m (.call i) { m.setCall i { call with pc := .entered k c.slots.length } with
      clients := m.clients.set k (c.allocate call.host call.port) }
  | close : Moves m .close
      { m with ctxDone := true, clients := m.clients.map fun c => { c with ctxDone := true } }

theorem manageStep_moves {m m' : ProxyServer} (h : m.manageStep = some m') :
    Moves m .manage m' := by
  unfold manageStep at h
  cases pc : m.pc with
  | top =>
    obtain rfl := by simpa [pc] using h
    exact .top pc
  | publish k =>
    obtain rfl := by simpa [pc] using h
    exact .publish pc
  | serve k =>
    simp only [pc] at h
    obtain ⟨c, client, h⟩ := Option.bind_eq_some_iff.mp h
    by_cases exited : c.loop = .exited
    · rw [if_pos exited] at h
      obtain rfl := Option.some.inj h
      exact .serve pc client exited
    · rw [if_neg exited] at h
      cases h
  | retire k =>
    simp only [pc, Option.some.injEq] at h
    subst h
    exact .retire pc
  | check =>
    obtain rfl := by simpa [pc] using h
    exact .check pc
  | delay =>
    simp only [pc] at h
    split_ifs at h with ended
    obtain rfl := Option.some.inj h
    exact .stop pc ended
  | dial | returned => simp [pc] at h

theorem callStep_moves {m m' : ProxyServer} {i : Nat} (h : m.callStep i = some m') :
    Moves m (.call i) m' := by
  obtain ⟨call, at_i, h⟩ := Option.bind_eq_some_iff.mp h
  cases pc : call.pc with
  | snapshot =>
    simp only [pc] at h
    cases client : m.client with
    | none =>
      simp only [client] at h
      obtain rfl := Option.some.inj h
      exact .absent at_i pc client
    | some k =>
      simp only [client] at h
      obtain rfl := Option.some.inj h
      exact .snapshot at_i pc client
  | check k =>
    simp only [pc] at h
    obtain ⟨c, client, h⟩ := Option.bind_eq_some_iff.mp h
    obtain rfl := Option.some.inj h
    exact .checked at_i pc client
  | enter k =>
    simp only [pc] at h
    obtain ⟨c, client, h⟩ := Option.bind_eq_some_iff.mp h
    obtain rfl := Option.some.inj h
    exact .enter at_i pc client
  | entered k j | refused => simp [pc] at h

theorem step_moves {m m' : ProxyServer} {a : ServerAction} (h : m.step a = some m') :
    Moves m a m' := by
  cases a with
  | manage => exact manageStep_moves h
  | dialed ok =>
    simp only [step] at h
    split_ifs at h with pc started
    · obtain rfl := Option.some.inj h
      subst started
      exact .dialed pc
    · obtain rfl := Option.some.inj h
      obtain rfl := (Bool.not_eq_true ok).mp started
      exact .failed pc
  | timer =>
    simp only [step] at h
    split_ifs at h with pc
    obtain rfl := Option.some.inj h
    exact .timer pc
  | client k a =>
    obtain ⟨c, client, h⟩ := Option.bind_eq_some_iff.mp h
    split_ifs at h with allowed
    obtain ⟨c', taken, h⟩ := Option.bind_eq_some_iff.mp h
    obtain rfl := Option.some.inj h
    obtain ⟨⟨c₁, out⟩, moved, rfl⟩ := Option.map_eq_some_iff.mp taken
    exact .client client allowed moved
  | connect host port =>
    obtain rfl := Option.some.inj h
    exact .connect host port
  | call i => exact callStep_moves h
  | close =>
    obtain rfl := Option.some.inj h
    exact .close

/-! ## The invariant -/

/-- The slots a call has yet to take. -/
def pending (call : ConnectCall) : Nat :=
  match call.pc with
  | .snapshot | .check _ | .enter _ => 1
  | .entered .. | .refused => 0

theorem pending_le (call : ConnectCall) : pending call ≤ 1 := by
  unfold pending
  split <;> omega

/-- The client a call has taken from `ps.client`. -/
def ConnectPc.client : ConnectPc → Option Nat
  | .check k | .enter k | .entered k _ => some k
  | .snapshot | .refused => none

/-- The client `manage` is at. -/
def ManagePc.client : ManagePc → Option Nat
  | .publish k | .serve k | .retire k => some k
  | _ => none

/-- A client is published while `manage` runs its loop; the others are through with theirs. -/
structure Managed (m : ProxyServer) : Prop where
  sound : ∀ c ∈ m.clients, Client.Sound c
  published : ∀ k, m.client = some k → m.pc = .serve k ∨ m.pc = .retire k
  serving : ∀ k, m.pc = .serve k → m.client = some k
  newest : ∀ k, ManagePc.client m.pc = some k → k + 1 = m.clients.length
  exited : ∀ (k : Nat) (c : Client), m.clients[k]? = some c → m.pc ≠ .publish k →
    m.pc ≠ .serve k → c.loop = .exited
  unused : ∀ (k : Nat) (c : Client), m.pc = .publish k → m.clients[k]? = some c → c.slots = []
  known : ∀ call ∈ m.calls, ∀ k, ConnectPc.client call.pc = some k →
    k < m.clients.length ∧ m.pc ≠ .publish k
  ended : m.ctxDone = true → ∀ c ∈ m.clients, c.ctxDone = true
  room : ∀ c ∈ m.clients, c.slots.length + (m.calls.map pending).sum ≤ m.calls.length

theorem managed_new : Managed new := by
  constructor <;> simp [new, ManagePc.client]

/-- A call goes on without taking its slot. -/
theorem Managed.setCall {m : ProxyServer} (inv : Managed m) {i : Nat} {call : ConnectCall}
    {p : ConnectPc} (at_i : m.calls[i]? = some call) (waits : pending call = 1)
    (known : ∀ k, ConnectPc.client p = some k → k < m.clients.length ∧ m.pc ≠ .publish k) :
    Managed (m.setCall i { call with pc := p }) := by
  refine ⟨inv.sound, inv.published, inv.serving, inv.newest, inv.exited, inv.unused, ?_, inv.ended, ?_⟩
  · intro call' mem k taken
    rcases List.mem_or_eq_of_mem_set mem with old | rfl
    · exact inv.known call' old k taken
    · exact known k taken
  · intro c mem
    have room := inv.room c mem
    have sum := sum_map_set pending at_i { call with pc := p }
    have one := pending_le { call with pc := p }
    change c.slots.length + ((m.calls.set i _).map pending).sum ≤ (m.calls.set i _).length
    rw [List.length_set]
    omega

theorem Managed.exists_client {m : ProxyServer} (inv : Managed m) {k : Nat}
    (here : ManagePc.client m.pc = some k) : ∃ c, m.clients[k]? = some c := by
  have last := inv.newest k here
  exact ⟨_, List.getElem?_eq_getElem (by omega)⟩

theorem newClient_sound (ctxDone : Bool) : Client.Sound { newClient with ctxDone } where
  numbered := Client.numbered_newClient.congr rfl rfl rfl
  rooted := ⟨by simp [newClient, Client.LoopPc.refs], by simp [newClient], by simp [newClient]⟩
  shutting := ⟨by simp [newClient], by simp [newClient], by simp [newClient]⟩
  late := .of_running rfl

/-- Between two clients nothing is published. -/
theorem Managed.unpublished {m : ProxyServer} (inv : Managed m)
    (between : ManagePc.client m.pc = none) (k : Nat) : m.client ≠ some k := by
  intro published
  rcases inv.published k published with pc | pc <;> simp [pc, ManagePc.client] at between

theorem Managed.away {m : ProxyServer} (inv : Managed m) {pc : ManagePc}
    (before : ManagePc.client m.pc = none) (after : ManagePc.client pc = none) :
    Managed { m with pc } := by
  have not_at : ∀ {pc : ManagePc} {k : Nat}, ManagePc.client pc = none →
      pc ≠ .publish k ∧ pc ≠ .serve k := by
    intro pc k none
    constructor <;> rintro rfl <;> cases none
  refine ⟨inv.sound, fun k published => absurd published (inv.unpublished before k),
    fun k serving => absurd serving (not_at after).2, fun k here => ?_, fun k c client _ _ => ?_,
    fun k c publishing => absurd publishing (not_at after).1, fun call mem k taken => ?_, inv.ended,
    inv.room⟩
  · cases after.symm.trans here
  · exact inv.exited k c client (not_at before).1 (not_at before).2
  · exact ⟨(inv.known call mem k taken).1, (not_at after).1⟩

theorem Managed.dialed {m : ProxyServer} (inv : Managed m) (pc : m.pc = .dial) :
    Managed { m with
      clients := m.clients ++ [{ newClient with ctxDone := m.ctxDone }]
      pc := .publish m.clients.length } := by
  have unpublished := inv.unpublished (by rw [pc]; rfl)
  have cases : ∀ c, c ∈ m.clients ++ [{ newClient with ctxDone := m.ctxDone }] →
      c ∈ m.clients ∨ c = { newClient with ctxDone := m.ctxDone } := by
    intro c mem
    rcases List.mem_append.mp mem with old | new
    · exact .inl old
    · exact .inr (List.mem_singleton.mp new)
  have at_k : ∀ {k : Nat} {c : Client},
      (m.clients ++ [{ newClient with ctxDone := m.ctxDone }])[k]? = some c →
        m.clients[k]? = some c ∨
          (k = m.clients.length ∧ c = { newClient with ctxDone := m.ctxDone }) := by
    intro k c client
    by_cases old : k < m.clients.length
    · rw [List.getElem?_append_left old] at client
      exact .inl client
    · rw [List.getElem?_append_right (not_lt.mp old)] at client
      obtain ⟨bound, rfl⟩ := List.getElem?_eq_some_iff.mp client
      rw [List.length_singleton] at bound
      exact .inr ⟨by omega, by simp⟩
  refine ⟨fun c mem => ?_, fun k published => absurd published (unpublished k), by simp, ?_, ?_, ?_,
    ?_, fun ended c mem => ?_, fun c mem => ?_⟩
  · rcases cases c mem with old | rfl
    · exact inv.sound c old
    · exact newClient_sound m.ctxDone
  · rintro k ⟨⟩
    simp
  · intro k c client other _
    rcases at_k client with old | ⟨rfl, -⟩
    · exact inv.exited k c old (by simp [pc]) (by simp [pc])
    · exact absurd rfl other
  · rintro k c ⟨⟩ client
    rcases at_k client with old | ⟨-, rfl⟩
    · have bound := (List.getElem?_eq_some_iff.mp old).1
      omega
    · rfl
  · intro call mem k taken
    have bound := (inv.known call mem k taken).1
    refine ⟨by simp; omega, fun here => ?_⟩
    obtain rfl := ManagePc.publish.inj here
    omega
  · rcases cases c mem with old | rfl
    · exact inv.ended ended c old
    · exact ended
  · rcases cases c mem with old | rfl
    · exact inv.room c old
    · have few : ∀ calls : List ConnectCall, (calls.map pending).sum ≤ calls.length := by
        intro calls
        induction calls with
        | nil => simp
        | cons call calls ih =>
          have one : pending call ≤ 1 := pending_le call
          simp only [List.map_cons, List.sum_cons, List.length_cons]
          omega
      simpa [newClient] using few m.calls

theorem exited_step {c c' : Client} {a : Action} {out : List VFrame} (exited : c.loop = .exited)
    (other : ownLoop a = false) (h : Client.Steps c a c' out) : c'.loop = .exited := by
  cases h <;> first | exact exited | simp [ownLoop] at other

theorem length_slots_step {c c' : Client} {a : Action} {out : List VFrame}
    (other : ∀ host port, a ≠ .connect host port) (h : Client.Steps c a c' out) :
    c'.slots.length = c.slots.length := by
  cases h with
  | connect host port => exact absurd rfl (other host port)
  | _ => first | rfl | exact List.length_set ..

theorem allowed_iff {m : ProxyServer} {k : Nat} {a : Action} : m.allowed k a = true ↔
    (∀ host port, a ≠ .connect host port) ∧ (ownLoop a = true → m.pc = .serve k) := by
  cases a <;> simp [allowed, ownLoop]

/-- The `k`-th client changes; what it has made so far stays. -/
theorem Managed.setClient {m : ProxyServer} (inv : Managed m) {k : Nat} {c c' : Client}
    (client : m.clients[k]? = some c) (sound : Client.Sound c')
    (loop : m.pc ≠ .publish k → m.pc ≠ .serve k → c.loop = .exited → c'.loop = .exited)
    (slots : m.pc = .publish k → c'.slots.length = c.slots.length)
    (ended : c.ctxDone = true → c'.ctxDone = true)
    (room : c'.slots.length + (m.calls.map pending).sum ≤ m.calls.length) :
    Managed { m with clients := m.clients.set k c' } := by
  have cases : ∀ {i : Nat} {d : Client}, (m.clients.set k c')[i]? = some d →
      (i = k ∧ d = c') ∨ (i ≠ k ∧ m.clients[i]? = some d) := by
    intro i d at_i
    by_cases here : k = i
    · subst here
      rw [List.getElem?_set_self (List.getElem?_eq_some_iff.mp client).1] at at_i
      exact .inl ⟨rfl, (Option.some.inj at_i).symm⟩
    · rw [List.getElem?_set_ne here] at at_i
      exact .inr ⟨Ne.symm here, at_i⟩
  refine ⟨fun d mem => ?_, inv.published, inv.serving, fun i here => ?_,
    fun i d at_i other serving => ?_, fun i d pc at_i => ?_, fun call mem i taken => ?_,
    fun done d mem => ?_, fun d mem => ?_⟩
  · rcases List.mem_or_eq_of_mem_set mem with old | rfl
    · exact inv.sound d old
    · exact sound
  · rw [List.length_set]
    exact inv.newest i here
  · rcases cases at_i with ⟨rfl, rfl⟩ | ⟨-, old⟩
    · exact loop other serving (inv.exited i c client other serving)
    · exact inv.exited i d old other serving
  · rcases cases at_i with ⟨rfl, rfl⟩ | ⟨-, old⟩
    · refine List.length_eq_zero_iff.mp ((slots pc).trans ?_)
      rw [inv.unused i c pc client]
      rfl
    · exact inv.unused i d pc old
  · rw [List.length_set]
    exact inv.known call mem i taken
  · rcases List.mem_or_eq_of_mem_set mem with old | rfl
    · exact inv.ended done d old
    · exact ended (inv.ended done c (List.mem_of_getElem? client))
  · rcases List.mem_or_eq_of_mem_set mem with old | rfl
    · exact inv.room d old
    · exact room

theorem Managed.enter {m : ProxyServer} (inv : Managed m) (few : m.calls.length ≤ 2 ^ 32)
    {i k : Nat} {call : ConnectCall} {c : Client} (at_i : m.calls[i]? = some call)
    (pc : call.pc = .enter k) (client : m.clients[k]? = some c) :
    Managed { m.setCall i { call with pc := .entered k c.slots.length } with
      clients := m.clients.set k (c.allocate call.host call.port) } := by
  have mem := List.mem_of_getElem? at_i
  have published := inv.known call mem k (by rw [pc]; rfl)
  have waits : pending call = 1 := by rw [pending, pc]
  have taken := inv.setCall (p := .entered k c.slots.length) at_i waits (by
    rintro l ⟨⟩
    exact published)
  have room := inv.room c (List.mem_of_getElem? client)
  have sum := sum_map_set pending at_i { call with pc := .entered k c.slots.length }
  have none_left : pending { call with pc := .entered k c.slots.length } = 0 := rfl
  have fits : c.slots.length < 2 ^ 32 := by omega
  have sound := (inv.sound c (List.mem_of_getElem? client)).step
    (a := .connect call.host call.port) (fun _ _ _ => fits) rfl
  refine taken.setClient client sound (fun _ _ exited => exited) (fun here => ?_)
    (fun ended => ended) ?_
  · exact absurd here published.2
  · change (c.allocate call.host call.port).slots.length + ((m.calls.set i _).map pending).sum ≤
      (m.calls.set i _).length
    rw [List.length_set]
    simp only [Client.allocate, List.length_append, List.length_singleton]
    omega

theorem Managed.step {m m' : ProxyServer} {a : ServerAction} (inv : Managed m)
    (few : m.calls.length ≤ 2 ^ 32) (h : Moves m a m') : Managed m' := by
  cases h with
  | top pc | check pc => split_ifs <;> exact inv.away (by rw [pc]; rfl) rfl
  | stop pc | failed pc | timer pc => exact inv.away (by rw [pc]; rfl) rfl
  | @publish k pc =>
    refine ⟨inv.sound, fun i published => ?_, fun i serving => ?_, fun i here => ?_,
      fun i c client _ other => ?_, by simp, fun call mem i taken => ?_, inv.ended, inv.room⟩
    · obtain rfl := Option.some.inj published
      exact .inl rfl
    · obtain rfl := ManagePc.serve.inj serving
      rfl
    · exact inv.newest i (by rw [pc]; exact here)
    · refine inv.exited i c client (fun publishing => other ?_) (by simp [pc])
      obtain rfl := ManagePc.publish.inj (pc.symm.trans publishing)
      rfl
    · exact ⟨(inv.known call mem i taken).1, by simp⟩
  | @serve k c pc client exited =>
    refine ⟨inv.sound, fun i published => ?_, by simp, fun i here => ?_, fun i d at_i _ _ => ?_,
      by simp, fun call mem i taken => ?_, inv.ended, inv.room⟩
    · rcases inv.published i published with serving | retiring
      · obtain rfl := ManagePc.serve.inj (pc.symm.trans serving)
        exact .inr rfl
      · cases pc.symm.trans retiring
    · exact inv.newest i (by rw [pc]; exact here)
    · by_cases same : i = k
      · subst same
        obtain rfl := Option.some.inj (client.symm.trans at_i)
        exact exited
      · refine inv.exited i d at_i (by simp [pc]) fun serving => same ?_
        exact (ManagePc.serve.inj (pc.symm.trans serving)).symm
    · exact ⟨(inv.known call mem i taken).1, by simp⟩
  | @retire k pc =>
    refine ⟨inv.sound, fun i published => ?_, by simp, by simp [ManagePc.client],
      fun i c client _ _ => inv.exited i c client (by simp [pc]) (by simp [pc]), by simp,
      fun call mem i taken => ⟨(inv.known call mem i taken).1, by simp⟩, inv.ended, inv.room⟩
    split_ifs at published with same
    rcases inv.published i published with serving | retiring
    · cases pc.symm.trans serving
    · obtain rfl := ManagePc.retire.inj (pc.symm.trans retiring)
      exact absurd published same
  | dialed pc => exact inv.dialed pc
  | @client k a c c' out client allowed taken =>
    obtain ⟨connects, own⟩ := allowed_iff.mp allowed
    have moved := Client.step_steps taken
    have length := length_slots_step connects moved
    have counts : Client.Counts c a := fun host port here => absurd here (connects host port)
    have room := inv.room c (List.mem_of_getElem? client)
    refine inv.setClient client ((inv.sound c (List.mem_of_getElem? client)).step counts taken)
      (fun _ other exited => exited_step exited ?_ moved) (fun _ => length)
      (fun ended => Client.ctxDone_step moved ended) (by omega)
    cases mine : ownLoop a
    · rfl
    · exact absurd (own mine) other
  | connect host port =>
    refine ⟨inv.sound, inv.published, inv.serving, inv.newest, inv.exited, inv.unused, ?_, inv.ended,
      fun c mem => ?_⟩
    · intro call mem k taken
      rcases List.mem_append.mp mem with old | new
      · exact inv.known call old k taken
      · obtain rfl := List.mem_singleton.mp new
        cases taken
    · have room := inv.room c mem
      simp only [List.map_append, List.map_singleton, List.sum_append, List.sum_singleton,
        List.length_append, List.length_singleton, pending]
      omega
  | absent at_i pc => exact inv.setCall at_i (by rw [pending, pc]) (by simp [ConnectPc.client])
  | @snapshot i k call at_i pc client =>
    refine inv.setCall at_i (by rw [pending, pc]) ?_
    rintro l ⟨⟩
    rcases inv.published k client with serving | retiring
    · have last := inv.newest k (by rw [serving]; rfl)
      exact ⟨by omega, by simp [serving]⟩
    · have last := inv.newest k (by rw [retiring]; rfl)
      exact ⟨by omega, by simp [retiring]⟩
  | @checked i k call c at_i pc client =>
    have known := inv.known call (List.mem_of_getElem? at_i) k (by rw [pc]; rfl)
    refine inv.setCall at_i (by rw [pending, pc]) fun l taken => ?_
    split_ifs at taken
    · cases taken
    · obtain rfl := Option.some.inj taken
      exact known
  | enter at_i pc client => exact inv.enter few at_i pc client
  | close =>
    have each : ∀ d ∈ m.clients.map (fun c : Client => { c with ctxDone := true }),
        ∃ c ∈ m.clients, d = { c with ctxDone := true } := by
      intro d mem
      obtain ⟨c, before, rfl⟩ := List.mem_map.mp mem
      exact ⟨c, before, rfl⟩
    have at_k : ∀ {k : Nat} {d : Client},
        (m.clients.map fun c : Client => { c with ctxDone := true })[k]? = some d →
          ∃ c, m.clients[k]? = some c ∧ d = { c with ctxDone := true } := by
      intro k d client
      rw [List.getElem?_map] at client
      obtain ⟨c, before, rfl⟩ := Option.map_eq_some_iff.mp client
      exact ⟨c, before, rfl⟩
    refine ⟨fun d mem => ?_, inv.published, inv.serving, fun k here => ?_, fun k d client => ?_,
      fun k d pc client => ?_, fun call mem k taken => ?_, fun _ d mem => ?_, fun d mem => ?_⟩
    · obtain ⟨c, before, rfl⟩ := each d mem
      exact (inv.sound c before).step (a := .cancelled) (fun _ _ other => by cases other) rfl
    · rw [List.length_map]
      exact inv.newest k here
    · obtain ⟨c, before, rfl⟩ := at_k client
      exact inv.exited k c before
    · obtain ⟨c, before, rfl⟩ := at_k client
      exact inv.unused k c pc before
    · rw [List.length_map]
      exact inv.known call mem k taken
    · obtain ⟨c, -, rfl⟩ := each d mem
      rfl
    · obtain ⟨c, before, rfl⟩ := each d mem
      exact inv.room c before

/-! ## One relay at a time -/

theorem length_calls_step {m m' : ProxyServer} {a : ServerAction} (h : Moves m a m') :
    m.calls.length ≤ m'.calls.length := by
  cases h with
  | connect => simp
  | absent | snapshot | checked | enter => simp [setCall]
  | _ => exact le_rfl

theorem managed_of_exec {as : List ServerAction} {m : ProxyServer} (run : exec step new as = some m)
    (few : m.calls.length ≤ 2 ^ 32) : Managed m := by
  refine exec_invariant (fun m => m.calls.length ≤ 2 ^ 32 → Managed m) ?_ (fun _ => managed_new) run
    few
  intro m a m' inv taken few'
  have moved := step_moves taken
  have before := (length_calls_step moved).trans few'
  exact (inv before).step before moved

/-- Once `readLoop` is through, a connection that was handed out is closed, or its user is closing
it. -/
theorem closed_or_closing {c : Client} (sound : Client.Sound c) (exited : c.loop = .exited) {j : Nat}
    {s : Slot} (slot : c.slots[j]? = some s) (ok : s.call = .ok) :
    s.conn.closed = true ∨
      ∃ (i : Nat) (pc : ShutPc), c.tasks[i]? = some (.closeShutdown j pc) := by
  have by_task : ∀ {pc}, Client.Shuts c j pc →
      ∃ (i : Nat) (pc : ShutPc), c.tasks[i]? = some (.closeShutdown j pc) := by
    rintro pc (⟨slot', call⟩ | task | loop | loop)
    · obtain rfl := Option.some.inj (slot.symm.trans slot')
      cases ok.symm.trans call
    · exact ⟨_, pc, task⟩
    · cases exited.symm.trans loop
    · cases exited.symm.trans loop
  cases once : s.conn.closeOnce with
  | finished => exact .inl (sound.shutting.closed s (List.mem_of_getElem? slot) once)
  | running =>
    obtain ⟨pc, -, at_pc⟩ := sound.shutting.body j s slot once
    exact .inr (by_task at_pc)
  | fresh =>
    rcases sound.shutting.due j s slot once with known | enters | visits
    · obtain ⟨t, slot', -, waits⟩ := sound.late.late (by rw [exited]; rfl) _ j known
      obtain rfl := Option.some.inj (slot.symm.trans slot')
      simp [ok] at waits
    · exact .inr (by_task enters)
    · simp [exited, Client.unvisited] at visits

/-- **Only the relay that is published carries connections.** In every run of `manage`, of calls of
`Connect` and of everything else, the published client is the newest one. Every other client is one
that no call has reached yet, or its context is cancelled, its `readLoop` is through, and each
connection it handed out is closed or being closed by its user. -/
theorem published_carries_connections {as : List ServerAction} {m : ProxyServer}
    (run : exec step new as = some m) (few : m.calls.length ≤ 2 ^ 32) :
    (∀ k, m.client = some k → k + 1 = m.clients.length) ∧
    ∀ (k : Nat) (c : Client), m.clients[k]? = some c →
      (m.client = some k ∧ m.pc = .serve k) ∨ (m.pc = .publish k ∧ c.slots = []) ∨
      (c.loop = .exited ∧ c.ctxDone = true ∧
        ∀ (j : Nat) (s : Slot), c.slots[j]? = some s → s.call = .ok → s.conn.closed = true ∨
          ∃ (i : Nat) (pc : ShutPc), c.tasks[i]? = some (.closeShutdown j pc)) := by
  have inv := managed_of_exec run few
  refine ⟨fun k published => ?_, fun k c client => ?_⟩
  · rcases inv.published k published with pc | pc
    · exact inv.newest k (by rw [pc]; rfl)
    · exact inv.newest k (by rw [pc]; rfl)
  · by_cases serving : m.pc = .serve k
    · exact .inl ⟨inv.serving k serving, serving⟩
    · by_cases publishing : m.pc = .publish k
      · exact .inr (.inl ⟨publishing, inv.unused k c publishing client⟩)
      · have exited := inv.exited k c client publishing serving
        have sound := inv.sound c (List.mem_of_getElem? client)
        refine .inr (.inr ⟨exited, sound.late.ended (by rw [exited]; rfl), fun j s slot ok => ?_⟩)
        exact closed_or_closing sound exited slot ok

/-! ## The end -/

def manageWork : ManagePc → Nat
  | .returned => 0
  | .top | .check => 1
  | .delay | .retire _ => 2
  | .serve _ => 3
  | .publish _ => 4
  | .dial => 9

def connectWork (call : ConnectCall) : Nat :=
  match call.pc with
  | .snapshot => 13
  | .check _ => 12
  | .enter _ => 11
  | .entered .. | .refused => 0

def work (m : ProxyServer) : Nat :=
  (m.clients.map Client.work).sum + manageWork m.pc + (m.calls.map connectWork).sum

/-- The steps of the goroutines that run; no user asks for more. As for a client, a `ReadFull` in
which a `readLoop` is blocked returns: a silent relay would leave `manage` in it. -/
def Winding : ServerAction → Prop
  | .manage | .dialed _ | .timer | .call _ => True
  | .client _ a => Client.Winding a
  | .connect .. | .close => False

/-- `manage` has returned, every client is settled, and no call of `Connect` is on its way. -/
structure Settled (m : ProxyServer) : Prop where
  manage : m.pc = .returned
  clients : ∀ c ∈ m.clients, Client.Settled c
  calls : ∀ call ∈ m.calls, call.pc = .refused ∨ ∃ k j, call.pc = .entered k j

theorem work_allocate (c : Client) (host : Bytes) (port : UInt16) :
    (c.allocate host port).work ≤ c.work + 10 := by
  have loop : Client.loopWork (c.slots.length + 1) c.loop ≤
      Client.loopWork c.slots.length c.loop + 4 := by
    cases c.loop <;> simp only [Client.loopWork] <;> omega
  simp only [Client.work, Client.allocate, List.map_append, List.map_singleton, List.sum_append,
    List.sum_singleton, List.length_append, List.length_singleton, Client.slotWork, Client.callWork,
    ProxyConn.new, List.length_nil, Option.isSome_none, Bool.false_eq_true, if_false]
  omega

theorem lowers_setCall {m : ProxyServer} {i : Nat} {call call' : ConnectCall}
    (at_i : m.calls[i]? = some call) (less : connectWork call' < connectWork call) :
    (m.setCall i call').work < m.work := by
  have sum := sum_map_set connectWork at_i call'
  simp only [work, setCall]
  omega

theorem work_winding {m m' : ProxyServer} {a : ServerAction} (inv : Managed m)
    (ended : m.ctxDone = true) (winding : Winding a) (h : Moves m a m') : m'.work < m.work := by
  cases h with
  | top pc | check pc | stop pc | failed pc | timer pc | publish pc | serve pc | retire pc =>
    simp only [work, pc, manageWork, ended, if_true]
    omega
  | dialed pc =>
    simp only [work, pc, manageWork, List.map_append, List.map_singleton, List.sum_append,
      List.sum_singleton]
    simp only [Client.work, newClient, List.map_nil, List.sum_nil, List.length_nil, Client.loopWork]
    omega
  | @client k a c c' out client allowed taken =>
    have sum := sum_map_set Client.work client c'
    have less := Client.work_winding winding (inv.ended ended c (List.mem_of_getElem? client)) taken
    simp only [work]
    omega
  | connect | close => exact winding.elim
  | absent at_i pc | snapshot at_i pc =>
    refine lowers_setCall at_i ?_
    simp [connectWork, pc]
  | checked at_i pc =>
    refine lowers_setCall at_i ?_
    simp only [connectWork, pc]
    split_ifs <;> simp
  | @enter i k call c at_i pc client =>
    have sum := sum_map_set Client.work client (c.allocate call.host call.port)
    have sum' := sum_map_set connectWork at_i { call with pc := .entered k c.slots.length }
    have more := work_allocate c call.host call.port
    have before : connectWork call = 11 := by rw [connectWork, pc]
    have after : connectWork { call with pc := .entered k c.slots.length } = 0 := rfl
    simp only [work, setCall]
    omega

/-- A loop that was left makes no step. -/
theorem step_exited {c : Client} {a : Action} (exited : c.loop = .exited) (mine : ownLoop a = true) :
    c.step a = none := by
  cases a with
  | frame | relayLost | visit => simp [Client.step, exited]
  | loop => simp [Client.step, Client.loopStep, exited]
  | _ => simp [ownLoop] at mine

/-- A goroutine of the `k`-th client can go on. -/
theorem canWind_client {m : ProxyServer} {k : Nat} {c : Client} (client : m.clients[k]? = some c)
    (own : m.pc = .serve k ∨ c.loop = .exited) (can : Client.CanWind c) :
    ∃ a c', Client.Winding a ∧ Client.clientStep c a = some c' ∧
      m.step (.client k a) = some { m with clients := m.clients.set k c' } := by
  obtain ⟨a, c', winding, taken⟩ := can
  have allowed : m.allowed k a = true := by
    refine allowed_iff.mpr ⟨?_, fun mine => ?_⟩
    · rintro host port rfl
      exact winding.elim
    · rcases own with serving | exited
      · exact serving
      · simp [Client.clientStep, step_exited exited mine] at taken
  refine ⟨a, c', winding, taken, ?_⟩
  simp [step, client, allowed, taken]

theorem Managed.ending {m : ProxyServer} (inv : Managed m) (ended : m.ctxDone = true) {k : Nat}
    {c : Client} (client : m.clients[k]? = some c) : Client.Ending c :=
  have mem := List.mem_of_getElem? client
  (inv.sound c mem).ending (inv.ended ended c mem)

theorem Managed.manage_enabled {m : ProxyServer} (inv : Managed m) (ended : m.ctxDone = true)
    (running : m.pc ≠ .returned) : ∃ a m', Winding a ∧ m.step a = some m' := by
  cases pc : m.pc with
  | returned => exact absurd pc running
  | dial => exact ⟨.dialed false, _, trivial, by simp [ProxyServer.step, pc]; rfl⟩
  | top | publish k | retire k | check | delay =>
    exact ⟨.manage, _, trivial, by simp [ProxyServer.step, manageStep, pc, ended]; rfl⟩
  | serve k =>
    obtain ⟨c, client⟩ := inv.exists_client (k := k) (by rw [pc]; rfl)
    by_cases exited : c.loop = .exited
    · exact ⟨.manage, _, trivial, by simp [ProxyServer.step, manageStep, pc, client, exited]; rfl⟩
    · obtain ⟨a, c', winding, -, taken⟩ := canWind_client client (.inl pc)
        ((inv.ending ended client).loop_canWind exited)
      exact ⟨.client k a, _, winding, taken⟩

theorem Managed.client_enabled {m : ProxyServer} (inv : Managed m) (ended : m.ctxDone = true)
    (stopped : m.pc = .returned) {k : Nat} {c : Client} (client : m.clients[k]? = some c)
    (busy : ¬ Client.Settled c) : ∃ a m', Winding a ∧ m.step a = some m' := by
  have exited := inv.exited k c client (by simp [stopped]) (by simp [stopped])
  obtain ⟨a, c', winding, -, taken⟩ := canWind_client client (.inr exited)
    ((inv.ending ended client).canWind busy)
  exact ⟨.client k a, _, winding, taken⟩

theorem Managed.call_enabled {m : ProxyServer} (inv : Managed m) {i : Nat} {call : ConnectCall}
    (at_i : m.calls[i]? = some call)
    (running : ¬ (call.pc = .refused ∨ ∃ k j, call.pc = .entered k j)) :
    ∃ a m', Winding a ∧ m.step a = some m' := by
  have client : ∀ k, ConnectPc.client call.pc = some k → ∃ c, m.clients[k]? = some c := fun k taken =>
    ⟨_, List.getElem?_eq_getElem (inv.known call (List.mem_of_getElem? at_i) k taken).1⟩
  refine ⟨.call i, ?_⟩
  cases pc : call.pc with
  | refused | entered k j => simp [pc] at running
  | snapshot =>
    cases published : m.client with
    | none => exact ⟨_, trivial, by simp [ProxyServer.step, callStep, at_i, pc, published]; rfl⟩
    | some k => exact ⟨_, trivial, by simp [ProxyServer.step, callStep, at_i, pc, published]; rfl⟩
  | check k | enter k =>
    obtain ⟨c, client⟩ := client k (by rw [pc]; rfl)
    exact ⟨_, trivial, by simp [ProxyServer.step, callStep, at_i, pc, client]; rfl⟩

/-- The invariant once `Close` was called. -/
def Closing (m : ProxyServer) : Prop :=
  Managed m ∧ m.ctxDone = true ∧ m.calls.length ≤ 2 ^ 32

theorem keeps_closing {m m' : ProxyServer} {a : ServerAction} (closing : Closing m)
    (winding : Winding a) (h : Moves m a m') : Closing m' := by
  obtain ⟨inv, ended, few⟩ := closing
  refine ⟨inv.step few h, ?_, ?_⟩
  · cases h with
    | close => rfl
    | _ => exact ended
  · cases h with
    | connect => exact winding.elim
    | absent | snapshot | checked | enter => simpa [setCall] using few
    | _ => exact few

theorem closing_winds : Winds step Winding Closing Settled work where
  keeps m a m' closing winding taken := keeps_closing closing winding (step_moves taken)
  lowers m a m' closing winding taken :=
    work_winding closing.1 closing.2.1 winding (step_moves taken)
  enabled m closing busy := by
    obtain ⟨inv, ended, -⟩ := closing
    by_cases stopped : m.pc = .returned
    · by_contra stuck
      refine busy ⟨stopped, fun c mem => ?_, fun call mem => ?_⟩
      · obtain ⟨k, client⟩ := List.mem_iff_getElem?.mp mem
        by_contra unsettled
        exact stuck (inv.client_enabled ended stopped client unsettled)
      · obtain ⟨i, at_i⟩ := List.mem_iff_getElem?.mp mem
        by_contra running
        exact stuck (inv.call_enabled at_i running)
    · exact inv.manage_enabled ended stopped

/-! ## A lost relay comes back -/

/-- A client whose context lives is published. -/
def Live (m : ProxyServer) : Prop :=
  ∃ k c, m.client = some k ∧ m.clients[k]? = some c ∧ c.ctxDone = false

/-- The context of the `k`-th client lives. -/
def alive (m : ProxyServer) (k : Nat) : Bool :=
  match m.clients[k]? with
  | some c => !c.ctxDone
  | none => false

/-- The statements of `manage` up to a live client. -/
def stage (m : ProxyServer) : Nat :=
  match m.pc with
  | .publish k => if m.alive k then 1 else 8
  | .serve k => if m.alive k then 0 else 7
  | .retire _ => 6
  | .check => 5
  | .delay => 4
  | .top => 3
  | .dial => 2
  | .returned => 0

/-- What the client has left to do before its loop is left. -/
def rest (m : ProxyServer) : Nat :=
  match m.pc with
  | .serve k => (m.clients[k]?.map Client.work).getD 0
  | _ => 0

/-- The invariant as long as `Close` was not called. -/
structure Open (m : ProxyServer) : Prop where
  managed : Managed m
  running : m.pc ≠ .returned
  live : m.ctxDone = false
  few : m.calls.length ≤ 2 ^ 32

/-- `manage` returns only when the context has ended. -/
theorem returned_step {m m' : ProxyServer} {a : ServerAction}
    (inv : m.pc = .returned → m.ctxDone = true) (h : Moves m a m') :
    m'.pc = .returned → m'.ctxDone = true := by
  cases h with
  | top | check =>
    intro returned
    by_contra running
    simp [running] at returned
  | stop pc ended => exact fun _ => ended
  | publish | serve | retire | dialed | failed | timer => simp
  | close => simp
  | client | connect | absent | snapshot | checked | enter => exact inv

theorem Open.step {m m' : ProxyServer} {a : ServerAction} (opened : Open m) (winding : Winding a)
    (taken : m.step a = some m') : Open m' := by
  have h := step_moves taken
  have live : m'.ctxDone = false := by
    cases h with
    | close => exact winding.elim
    | _ => exact opened.live
  refine ⟨opened.managed.step opened.few h, fun returned => ?_, live, ?_⟩
  · have ended := returned_step (fun now => absurd now opened.running) h returned
    simp [live] at ended
  · cases h with
    | connect => exact winding.elim
    | absent | snapshot | checked | enter => simpa [setCall] using opened.few
    | _ => exact opened.few

theorem Open.progress {m : ProxyServer} (opened : Open m) (lost : ¬ Live m) :
    ∃ a m', Winding a ∧ m.step a = some m' ∧ Open m' ∧
      toLex (m'.stage, m'.rest) < toLex (m.stage, m.rest) := by
  have goes : ∀ (a : ServerAction) (m' : ProxyServer), Winding a → m.step a = some m' →
      m'.stage < m.stage → ∃ a m', Winding a ∧ m.step a = some m' ∧ Open m' ∧
        toLex (m'.stage, m'.rest) < toLex (m.stage, m.rest) :=
    fun a m' winding taken less =>
      ⟨a, m', winding, taken, opened.step winding taken, Prod.Lex.toLex_lt_toLex.mpr (.inl less)⟩
  have live := opened.live
  cases pc : m.pc with
  | returned => exact absurd pc opened.running
  | top | check =>
    refine goes .manage _ trivial (by simp [ProxyServer.step, manageStep, pc, live]; rfl) ?_
    simp [stage, pc]
  | dial =>
    refine goes (.dialed true) _ trivial (by simp [ProxyServer.step, pc]; rfl) ?_
    simp [stage, pc, alive, live]
  | retire k =>
    refine goes .manage _ trivial (by simp [ProxyServer.step, manageStep, pc]; rfl) ?_
    simp [stage, pc]
  | delay => exact goes .timer _ trivial (by simp [ProxyServer.step, pc]; rfl) (by simp [stage, pc])
  | publish k =>
    refine goes .manage _ trivial (by simp [ProxyServer.step, manageStep, pc]; rfl) ?_
    simp only [stage, pc]
    change (if m.alive k then 0 else 7) < if m.alive k then 1 else 8
    split_ifs <;> omega
  | serve k =>
    have inv := opened.managed
    obtain ⟨c, client⟩ := inv.exists_client (k := k) (by rw [pc]; rfl)
    have dead : c.ctxDone = true := by
      by_contra lives
      exact lost ⟨k, c, inv.serving k pc, client, by simpa using lives⟩
    have gone : m.alive k = false := by simp [alive, client, dead]
    by_cases exited : c.loop = .exited
    · refine goes .manage _ trivial (by simp [ProxyServer.step, manageStep, pc, client, exited]; rfl) ?_
      simp [stage, pc, gone]
    · have ending := (inv.sound c (List.mem_of_getElem? client)).ending dead
      obtain ⟨a, c', winding, stepped, taken⟩ := canWind_client client (.inl pc)
        (ending.loop_canWind exited)
      refine ⟨.client k a, _, winding, taken, opened.step (a := .client k a) winding taken, ?_⟩
      obtain ⟨⟨c₁, out⟩, moved, rfl⟩ := Option.map_eq_some_iff.mp stepped
      have less := Client.work_winding winding dead moved
      have dead' := Client.ctxDone_step (Client.step_steps moved) dead
      obtain ⟨bound, at_k⟩ := List.getElem?_eq_some_iff.mp client
      refine Prod.Lex.toLex_lt_toLex.mpr (.inr ⟨?_, ?_⟩)
      · simp [stage, pc, alive, bound, at_k, dead, dead']
      · simpa [rest, pc, bound, at_k] using less

theorem open_of_exec {as : List ServerAction} {m : ProxyServer} (run : exec step new as = some m)
    (few : m.calls.length ≤ 2 ^ 32) (live : m.ctxDone = false) : Open m := by
  refine ⟨managed_of_exec run few, fun returned => ?_, live, few⟩
  have ended := exec_invariant (fun m => m.pc = .returned → m.ctxDone = true)
    (fun _ _ _ inv taken => returned_step inv (step_moves taken)) (by simp [new]) run returned
  simp [live] at ended

/-- **The relay comes back, and `Close` ends everything, as long as each blocked `ReadFull`
returns.** From every state that is reachable without `Close`, some schedule of the goroutines that
run leads to a client that is published and whose context lives. After `Close`, whoever is scheduled,
at most `work` steps are left; when none is possible any more, `manage` has returned, no call is on
its way, and on every relay there ever was the table is empty and every connection closed. -/
theorem proxy_server_lifecycle {as : List ServerAction} {m : ProxyServer}
    (run : exec step new as = some m) (few : m.calls.length ≤ 2 ^ 32) :
    (m.ctxDone = false → ∃ bs m', Obeys step (fun _ b => Winding b) m bs ∧
      exec step m bs = some m' ∧ Live m') ∧
    (m.ctxDone = true → ∀ (bs : List ServerAction) (m' : ProxyServer), (∀ b ∈ bs, Winding b) →
      exec step m bs = some m' → bs.length ≤ m.work ∧ ((∀ b, Winding b → m'.step b = none) →
        Settled m' ∧ ∀ c ∈ m'.clients, Client.Dead c)) := by
  constructor
  · intro live
    refine exec_until (fun m => toLex (m.stage, m.rest)) (fun m opened lost => ?_)
      (open_of_exec run few live)
    exact opened.progress lost
  · intro ended bs m' winding later
    have closing : Closing m := ⟨managed_of_exec run few, ended, few⟩
    obtain ⟨short, rests⟩ := closing_winds.comes_to_rest closing winding later
    have still := (closing_winds.run closing winding later).1.1
    refine ⟨short, fun stuck => ⟨rests stuck, fun c mem => ?_⟩⟩
    have sound := still.sound c mem
    exact ((rests stuck).clients c mem).dead sound.shutting sound.late

/-- A relay is dialled, used by one call and lost; `Close` comes while the next is being dialled. -/
def twoRelays : List ServerAction :=
  [.manage, .dialed true, .manage, .connect [104] 80, .call 0, .call 0, .call 0, .client 0 .loop,
    .client 0 (.call 0), .client 0 (.frame ⟨cmdConnect, 0, [0]⟩), .client 0 .loop, .client 0 .loop,
    .client 0 (.call 0), .client 0 .loop, .client 0 .relayLost, .client 0 .loop, .client 0 .loop,
    .client 0 (.visit 0), .client 0 .loop, .client 0 .loop, .client 0 .loop, .client 0 .loop, .manage,
    .manage, .manage, .timer, .manage]

def closingSteps : List ServerAction :=
  [.dialed true, .manage, .client 1 .loop, .client 1 .loop, .client 1 .loop, .client 1 .loop, .manage,
    .manage, .manage]

theorem published_carries_connections_two : ∃ m c, exec step new twoRelays = some m ∧
    m.clients[0]? = some c ∧ c.slots.map Slot.call = [.ok] ∧ c.loop = .exited ∧
      c.ctxDone = true := by
  have shape : (exec step new twoRelays).map (fun m => (m.calls.length, m.pc, m.client, m.clients.map
      fun c => c.slots.map Slot.call)) = some (1, .dial, none, [[.ok]]) := by
    decide +kernel
  obtain ⟨m, run, parts⟩ := Option.map_eq_some_iff.mp shape
  obtain ⟨few, pc, published, calls⟩ : m.calls.length = 1 ∧ m.pc = .dial ∧ m.client = none ∧
      m.clients.map (fun c => c.slots.map Slot.call) = [[.ok]] := by
    simpa using parts
  obtain ⟨c, clients, ok⟩ : ∃ c, m.clients = [c] ∧ c.slots.map Slot.call = [.ok] := by
    simpa [List.map_eq_singleton_iff] using calls
  have client : m.clients[0]? = some c := by rw [clients]; rfl
  obtain ⟨-, each⟩ := published_carries_connections run (by omega)
  rcases each 0 c client with here | here | ⟨exited, ended, -⟩
  · simp [published] at here
  · simp [pc] at here
  · exact ⟨m, c, run, client, ok, exited, ended⟩

theorem proxy_server_lifecycle_two : ∃ m m' d, exec step new twoRelays = some m ∧
    (∃ bs l, exec step m bs = some l ∧ Live l) ∧ exec step m [.close] = some m' ∧
      exec step m' closingSteps = some d ∧ closingSteps.length ≤ m'.work ∧ Settled d ∧
        ∀ c ∈ d.clients, Client.Dead c := by
  have shape : (exec step new twoRelays).map (fun m => (m.calls.length, m.ctxDone)) =
      some (1, false) := by
    decide +kernel
  obtain ⟨m, run, parts⟩ := Option.map_eq_some_iff.mp shape
  obtain ⟨few, live⟩ : m.calls.length = 1 ∧ m.ctxDone = false := by simpa using parts
  have closed : (exec step new (twoRelays ++ [.close])).map (fun m => (m.calls.length, m.ctxDone)) =
      some (1, true) := by
    decide +kernel
  obtain ⟨m', run', parts'⟩ := Option.map_eq_some_iff.mp closed
  obtain ⟨few', ended⟩ : m'.calls.length = 1 ∧ m'.ctxDone = true := by simpa using parts'
  obtain ⟨n, first, close⟩ := exec_append.mp run'
  obtain rfl := Option.some.inj (run.symm.trans first)
  have whole : (exec step new ((twoRelays ++ [.close]) ++ closingSteps)).map
      (fun m => (m.calls.length, m.ctxDone, m.work)) = some (1, true, 0) := by
    decide +kernel
  obtain ⟨d, all, idle⟩ := Option.map_eq_some_iff.mp whole
  obtain ⟨few'', ended', idle⟩ : d.calls.length = 1 ∧ d.ctxDone = true ∧ d.work = 0 := by
    simpa using idle
  obtain ⟨n, first', later⟩ := exec_append.mp all
  obtain rfl := Option.some.inj (run'.symm.trans first')
  obtain ⟨bs, l, -, back, alive⟩ := (proxy_server_lifecycle run (by omega)).1 live
  obtain ⟨short, rests⟩ := (proxy_server_lifecycle run' (by omega)).2 ended closingSteps d
    (by simp [closingSteps, Winding, Client.Winding]) later
  have stuck : ∀ b, Winding b → d.step b = none := by
    intro b winding
    cases taken : d.step b with
    | none => rfl
    | some e =>
      have less := work_winding (managed_of_exec all (by omega)) ended' winding (step_moves taken)
      omega
  exact ⟨m, m', d, run, ⟨bs, l, back, alive⟩, close, later, short, rests stuck⟩

end ProxyServer

end EspNetwork.Ctrl
