import EspNetwork.Proxy.Address
import EspNetwork.Proxy.Upstream
import EspNetwork.Socks.Relay

/-!
# A front end as the upstream proxy

The environment of `proxy/main.go` may name a SOCKS5 proxy, and `ctrl/socks5/socks5.go` is one.
When `dialSOCKS5` and `handle` talk to each other, each of them reads what the other one has
written. The target that a client names then passes through both, and comes out the same.
-/

namespace EspNetwork.Proxy.Upstream

open Serial (Byte Bytes)
open Socks (Call Http Dialogue SocksAddr)
open Ctrl (connectPayload)
open Fallible

variable {ρ τ α : Type} {R : Reader ρ Byte} {E : DialEnv} {proxyURL : ProxyURL}
  {s : Line ρ Byte ConnState} {target host portStr : Bytes}

/-! ## What the dialer writes -/

section Written

variable {W : List Bytes → Prop}

theorem preserves_closeFail : Preserves (fun l => W l.written) (closeFail : Dialer ρ α) := fun _ h => h

theorem preserves_checkOrClose (good : Prop) [Decidable good] :
    Preserves (fun l => W l.written) (checkOrClose good : Dialer ρ Unit) :=
  .ite (fun _ => preserves_pure ()) fun _ => preserves_closeFail

theorem preserves_readOrClose (n : ℕ) : Preserves (fun l => W l.written) (readOrClose R n) :=
  fun _ h => settles_readOrClose (fun _ _ _ _ => h) fun _ => h

theorem preserves_writeOrClose {p : Bytes} (grows : ∀ w, W w → W (w ++ [p])) :
    Preserves (fun l => W l.written) (writeOrClose E p : Dialer ρ Unit) := by
  intro s h
  rw [settles_writeOrClose]
  split_ifs
  · exact grows _ h
  · exact h

theorem preserves_skipLen (atyp : Byte) : Preserves (fun l => W l.written) (skipLen R atyp) :=
  .ite (fun _ => preserves_pure _) fun _ =>
    .ite (fun _ => (preserves_readOrClose 1).bind fun _ => preserves_pure _) fun _ =>
      .ite (fun _ => preserves_pure _) fun _ => preserves_pure _

/-- All but the request itself. -/
theorem preserves_connectTo {port : ℕ} (grows : ∀ w, W w → W (w ++ [connectRequest host port])) :
    Preserves (fun l => W l.written) (connectTo R E host port) :=
  (preserves_writeOrClose grows).bind fun _ => (preserves_readOrClose 4).bind fun _ =>
    (preserves_checkOrClose _).bind fun _ => (preserves_skipLen _).bind fun n =>
      (preserves_readOrClose n).bind fun _ => preserves_pure ()

theorem preserves_authenticate {method : Byte} (grows : ∀ w, W w → W (w ++ [userPass proxyURL])) :
    Preserves (fun l => W l.written) (authenticate R E proxyURL method) :=
  .ite (fun _ => (preserves_writeOrClose grows).bind fun _ => (preserves_readOrClose 2).bind fun _ =>
    preserves_checkOrClose _) fun _ => preserves_pure ()

end Written

/-- A proxy that can be dialled and written to, for a target that has a host and a port. -/
structure Dialled (E : DialEnv) (proxyURL : ProxyURL) (target host portStr : Bytes) : Prop where
  dialled : E.dialTimeout proxyURL.host = true
  writes : ∀ k p, E.write k p = true
  split : splitHostPort target = some (host, portStr)

/-- The greeting goes out before anything is read. -/
theorem Dialled.greets (d : Dialled E proxyURL target host portStr) (fresh : s.written = []) :
    ∃ more, ((dialSOCKS5 R E proxyURL target).outcome s).2.written = greeting proxyURL :: more := by
  let W (w : List Bytes) : Prop := ∃ more, w = greeting proxyURL :: more
  have grows : ∀ p w, W w → W (w ++ [p]) := by
    rintro p _ ⟨more, rfl⟩
    exact ⟨more ++ [p], rfl⟩
  refine Settles.state (I := fun l : Line ρ Byte ConnState => W l.written) ?_
  rw [dialSOCKS5, if_pos d.dialled, settles_bind, settles_modify, d.split]
  dsimp only
  rw [settles_bind, negotiate, settles_bind, settles_writeOrClose, if_pos (d.writes _ _)]
  have answers : Preserves (fun l => W l.written) (do
      let resp ← readOrClose R 2
      checkOrClose (resp.getD 0 0 = 5)
      checkOrClose (resp.getD 1 0 ≠ 0xFF)
      return resp.getD 1 0) :=
    (preserves_readOrClose 2).bind fun _ => (preserves_checkOrClose _).bind fun _ =>
      (preserves_checkOrClose _).bind fun _ => preserves_pure _
  refine (answers _ ⟨[], by simp [fresh]⟩).mono (fun method t greeted => ?_) fun _ _ h => h
  have behind : Preserves (fun l => W l.written) (do
      authenticate R E proxyURL method
      connectTo R E host (atoi portStr)
      return NetConn.plain) :=
    (preserves_authenticate (grows _)).bind fun _ => (preserves_connectTo (grows _)).bind fun _ =>
      preserves_pure _
  exact behind t greeted

/-- When no authentication is selected, the request follows at once. -/
theorem Dialled.requests {rest : Bytes} (d : Dialled E proxyURL target host portStr)
    (fresh : s.written = []) (content : R.content s.unread = [5, 0] ++ rest) :
    ((dialSOCKS5 R E proxyURL target).outcome s).2.written =
      [greeting proxyURL, connectRequest host (atoi portStr)] := by
  let W (w : List Bytes) : Prop := w = [greeting proxyURL, connectRequest host (atoi portStr)]
  refine Settles.state (I := fun l : Line ρ Byte ConnState => W l.written) ?_
  rw [dialSOCKS5, if_pos d.dialled, settles_bind, settles_modify, d.split]
  dsimp only
  rw [settles_bind]
  refine negotiate_of content (by decide) (d.writes _ _) fun r₁ behind => ?_
  rw [settles_bind]
  refine authenticate_of (show AuthBytes 0 [] from rfl) behind trivial fun r₂ behind' => ?_
  rw [settles_bind, connectTo, settles_bind, settles_writeOrClose, if_pos (d.writes _ _)]
  have answers : Preserves (fun l => W l.written) (do
      let connResp ← readOrClose R 4
      checkOrClose (connResp.getD 1 0 = 0)
      let n ← skipLen R (connResp.getD 3 0)
      let _bound ← readOrClose R n) :=
    (preserves_readOrClose 4).bind fun _ => (preserves_checkOrClose _).bind fun _ =>
      (preserves_skipLen _).bind fun n => (preserves_readOrClose n).bind fun _ => preserves_pure ()
  refine (answers _ ?_).mono (fun _ t h => h) fun _ _ h => h
  simp [W, fresh, authMessages]

theorem bigEndian_ofNat {port : ℕ} (inRange : port < 65536) :
    Socks.bigEndian (UInt16.ofNat port) = [UInt8.ofNat (port >>> 8), UInt8.ofNat (port &&& 0xFF)] := by
  have low : port &&& 255 = port % 2 ^ 8 := Nat.and_two_pow_sub_one_eq_mod port 8
  simp only [Socks.bigEndian, Relay.putUint16, List.reverse_cons, List.reverse_nil, List.nil_append,
    List.singleton_append, List.cons.injEq, and_true, ← UInt8.toNat_inj, UInt16.toNat_toUInt8,
    UInt16.toNat_shiftRight, UInt16.toNat_ofNat', UInt8.toNat_ofNat', Nat.shiftRight_eq_div_pow, low]
  simp
  omega

theorem exists_connectRequest {port : ℕ} (short : host.length ≤ 255) (inRange : port < 65536) :
    ∃ q : Socks.ConnectRequest, connectRequest host port = q.bytes ∧
      q.call = (host, UInt16.ofNat port) := by
  have size : host.length = (UInt8.ofNat host.length).toNat := by
    rw [UInt8.toNat_ofNat', Nat.mod_eq_of_lt (by omega)]
  obtain ⟨name, same⟩ := Socks.exists_vector size
  refine ⟨⟨0, .domain _ name, UInt16.ofNat port⟩, ?_, ?_⟩
  · simp [connectRequest, Socks.ConnectRequest.bytes, SocksAddr.atyp, SocksAddr.body, same,
      bigEndian_ofNat inRange]
  · simp [Socks.ConnectRequest.call, SocksAddr.host, same]

/-- The greeting names one method, which is the one without authentication if there is no user. -/
theorem exists_greeting (proxyURL : ProxyURL) :
    ∃ g : Socks.Greeting, greeting proxyURL = g.bytes ∧
      (0 ∈ g.methods.toList ↔ proxyURL.user = none) := by
  refine ⟨⟨1, #v[authMethod proxyURL]⟩, rfl, ?_⟩
  change 0 ∈ [authMethod proxyURL] ↔ _
  cases user : proxyURL.user <;> simp [authMethod, user]

/-! ## Both ends -/

/-- Without answers that it accepts, the dialer fails and closes the connection. -/
theorem dialSOCKS5_refused (target : Bytes) (fresh : s.written = []) (undialled : s.state = .undialled)
    (dialled : E.dialTimeout proxyURL.host = true)
    (other : ∀ (a : Answers) (rest : Bytes), a.Accepted → R.content s.unread ≠ a.bytes ++ rest) :
    ((dialSOCKS5 R E proxyURL target).outcome s).1 = .error () ∧
      ((dialSOCKS5 R E proxyURL target).outcome s).2.state = .closed := by
  refine (@settles_outcome _ _ _ _ _ fun ends : Except Unit NetConn × Line ρ Byte ConnState =>
    ends.1 = .error () ∧ ends.2.state = .closed).mp ?_
  refine (settles_dialSOCKS5 fresh undialled).mono ?_ fun _ t closed => ⟨rfl, ?_⟩
  · rintro _ t ⟨-, a, accepted, -, content⟩
    exact absurd content (other a _ accepted)
  · rw [closed, if_pos dialled]

/-- Behind answers that it accepts, the dialer returns the connection as it is. -/
theorem dialSOCKS5_returns {a : Answers} {rest : Bytes} (fresh : s.written = [])
    (accepted : a.Accepted) (carried : Carried E proxyURL target a.method)
    (content : R.content s.unread = a.bytes ++ rest) :
    ((dialSOCKS5 R E proxyURL target).outcome s).1 = .ok .plain ∧
      ((dialSOCKS5 R E proxyURL target).outcome s).2.state = .opened ∧
      R.content ((dialSOCKS5 R E proxyURL target).outcome s).2.unread = rest := by
  refine (@settles_outcome _ _ _ _ _ fun ends : Except Unit NetConn × Line ρ Byte ConnState =>
    ends.1 = .ok .plain ∧ ends.2.state = .opened ∧ R.content ends.2.unread = rest).mp ?_
  refine (dialSOCKS5_of fresh accepted carried content).mono ?_ fun _ _ no => no.elim
  rintro _ t ⟨rfl, opened, unread⟩
  exact ⟨rfl, opened, unread⟩

/-- The dialer on one end of a connection and a front end on the other, with the bytes that each
end has for the tunnel. -/
structure Meeting (ρ τ : Type) where
  R : Reader ρ Byte
  E : DialEnv
  proxyURL : ProxyURL
  target : Bytes
  line : Line ρ Byte ConnState
  R' : Reader τ Byte
  H : Http
  accepts : List Call → Bool
  stream : τ
  fromClient : Bytes
  fromTarget : Bytes

namespace Meeting

variable (m : Meeting ρ τ)

def dial : Except Unit NetConn × Line ρ Byte ConnState :=
  (dialSOCKS5 m.R m.E m.proxyURL m.target).outcome m.line

def served : Except Unit Unit × Line (Bytes × τ) Byte (List Call) :=
  Socks.serve m.R' m.H m.accepts m.stream

def relayed : Option Bytes := Socks.relayed m.R' m.H m.accepts m.stream

/-- Each end reads what the other one writes, and behind that what is tunnelled, if the other end
has gone that far. -/
structure Connected : Prop where
  fresh : m.line.written = []
  undialled : m.line.state = .undialled
  up : m.R'.content m.stream =
    m.dial.2.written.flatten ++ if m.dial.2.state = .opened then m.fromClient else []
  down : m.R.content m.line.unread =
    m.served.2.written.flatten ++ if m.relayed.isSome then m.fromTarget else []

/-- Both ends stand at the tunnelled bytes. -/
structure Tunnelled : Prop where
  returned : m.dial.1 = .ok .plain
  opened : m.dial.2.state = .opened
  unread : m.R.content m.dial.2.unread = m.fromTarget
  relayed : m.relayed = some m.fromClient

/-- Neither end tunnels anything. -/
structure Refused : Prop where
  failed : m.dial.1 = .error ()
  closed : m.dial.2.state = .closed
  relayed : m.relayed = none

variable {m}

/-- A dialogue on the stream says how the front end ends. -/
theorem served_of {up : Bytes} {o : Socks.Outcome} (content : m.R'.content m.stream = up)
    (dialogue : Dialogue m.accepts up o) :
    m.served.2.written = o.replies ∧ m.served.2.state = o.calls ∧ m.relayed = o.relayed := by
  subst content
  have same := Socks.outcome_eq dialogue (H := m.H)
  rw [same]
  exact ⟨rfl, rfl, rfl⟩

/-- A front end knows no user. -/
theorem Connected.unknown_user (connected : m.Connected)
    (d : Dialled m.E m.proxyURL m.target host portStr) (user : m.proxyURL.user ≠ none) :
    m.served.2.state = [] ∧ m.Refused := by
  obtain ⟨g, greets, method⟩ := exists_greeting m.proxyURL
  obtain ⟨more, first⟩ := d.greets connected.fresh (R := m.R)
  have up := connected.up
  rw [dial, first, List.flatten_cons, greets, List.append_assoc] at up
  obtain ⟨written, calls, relayed⟩ := served_of up (.noMethod fun fits => user (method.mp fits))
  have down := connected.down
  rw [written, relayed] at down
  have refused := dialSOCKS5_refused m.target connected.fresh connected.undialled
    d.dialled (R := m.R) fun a rest accepted content => by
      rw [down] at content
      exact accepted.method (by simpa [Answers.bytes] using content.symm)
  exact ⟨calls, refused.1, refused.2, relayed⟩

/-- Without a user, the front end calls for the target, and what becomes of the call decides. -/
theorem Connected.plain (connected : m.Connected)
    (d : Dialled m.E m.proxyURL m.target host portStr) (user : m.proxyURL.user = none)
    (short : host.length ≤ 255) (inRange : atoi portStr < 65536) :
    m.served.2.state = [(host, UInt16.ofNat (atoi portStr))] ∧
      if m.accepts [(host, UInt16.ofNat (atoi portStr))] then m.Tunnelled else m.Refused := by
  obtain ⟨g, greets, method⟩ := exists_greeting m.proxyURL
  have fits := method.mpr user
  have up := connected.up
  have down := connected.down
  -- the greeting is answered whatever comes behind it
  obtain ⟨more, first⟩ := d.greets connected.fresh (R := m.R)
  have early := up
  rw [dial, first, List.flatten_cons, greets, List.append_assoc] at early
  obtain ⟨o, answered⟩ := @Socks.exists_answered m.accepts (more.flatten ++
    if ((dialSOCKS5 m.R m.E m.proxyURL m.target).outcome m.line).2.state = .opened then
      m.fromClient else [])
  have answer := (served_of early (.request fits answered)).1
  -- so the request goes out
  have reply : m.R.content m.line.unread = [5, 0] ++ (o.replies.flatten ++
      if m.relayed.isSome then m.fromTarget else []) := by
    rw [down, answer, List.flatten_cons, List.append_assoc]
  have requests := d.requests connected.fresh reply
  obtain ⟨q, bytes, call⟩ := exists_connectRequest short inRange
  rw [show m.dial.2.written = _ from requests, greets, bytes] at up
  simp only [List.flatten_cons, List.flatten_nil, List.append_nil, List.append_assoc] at up
  cases result : m.accepts [q.call] with
  | false =>
    obtain ⟨written, calls, relayed⟩ := served_of up (.request fits (.refused result))
    rw [← call, result]
    rw [written, relayed] at down
    have refused := dialSOCKS5_refused m.target connected.fresh connected.undialled
      d.dialled (R := m.R) fun a rest accepted content => by
        rw [down] at content
        obtain ⟨selected, behind⟩ : a.method = 0 ∧ _ := by
          simpa [Answers.bytes, eq_comm (a := (0 : Byte))] using content
        have asked := accepted.auth
        rw [selected] at asked
        rw [show a.auth = [] from asked] at behind
        simp [Socks.socks5Reply] at behind
    exact ⟨calls, refused.1, refused.2, relayed⟩
  | true =>
    obtain ⟨written, calls, relayed⟩ := served_of up (.request fits (.connected result))
    rw [← call, result]
    rw [written, relayed] at down
    have sent : SentFrom m.E 0 (messages m.proxyURL host (atoi portStr) 0) :=
      sentFrom_messages.mpr ⟨d.writes _ _, trivial, d.writes _ _⟩
    obtain ⟨returned, opened, unread⟩ := dialSOCKS5_returns connected.fresh
      (a := ⟨0, [], 5, 0, 1, [0, 0, 0, 0, 0, 0]⟩) ⟨by decide, rfl, rfl⟩
      ⟨d.dialled, host, portStr, d.split, sent⟩ down
    rw [show m.dial.2.state = .opened from opened] at relayed
    exact ⟨calls, returned, opened, unread, relayed⟩

/-- **The dialer and the front end understand each other.** Without a user, the front end calls for
the target that the dialer was given, and nothing else; if that succeeds both ends stand at the
tunnelled bytes, and otherwise both give up. With a user it makes no call. -/
theorem dialer_meets_front_end (connected : m.Connected)
    (d : Dialled m.E m.proxyURL m.target host portStr) (short : host.length ≤ 255)
    (inRange : atoi portStr < 65536) :
    m.served.2.state =
        (if m.proxyURL.user = none then [(host, UInt16.ofNat (atoi portStr))] else []) ∧
      if m.proxyURL.user = none ∧ m.accepts [(host, UInt16.ofNat (atoi portStr))] = true then
        m.Tunnelled
      else m.Refused := by
  by_cases user : m.proxyURL.user = none
  · obtain ⟨calls, ends⟩ := connected.plain d user short inRange
    simp only [user, true_and, if_true]
    exact ⟨calls, ends⟩
  · obtain ⟨calls, refused⟩ := connected.unknown_user d user
    simp only [user, false_and, if_false]
    exact ⟨calls, refused⟩

theorem httpConnect_pos : 0 < Socks.httpConnect.length := by decide +kernel

/-- A dial to `a:80`, for which the proxy has a byte at once. -/
def hello : Meeting (List Bytes) (List Bytes) where
  R := Relay.tcpReader
  E := plainEnv
  proxyURL := ⟨.socks5, ascii "proxy:1080", none⟩
  target := ascii "a:80"
  line := Upstream.undialled [[5, 0], [5, 0, 0, 1, 0, 0, 0], [0, 0, 0, 0x48]]
  R' := Relay.tcpReader
  H := Socks.oneRequest Socks.httpConnect httpConnect_pos Socks.httpConnectRequest
  accepts _ := true
  stream := [[5, 1, 0], [5, 1, 0, 3, 1, 0x61, 0, 80, 0x47]]
  fromClient := [0x47]
  fromTarget := [0x48]

theorem hello_connected : hello.Connected where
  fresh := rfl
  undialled := rfl
  up := by decide +kernel
  down := by decide +kernel

theorem hello_dialled : Dialled hello.E hello.proxyURL hello.target (ascii "a") (ascii "80") where
  dialled := rfl
  writes _ _ := rfl
  split := by decide +kernel

theorem dialer_meets_front_end_hello :
    hello.served.2.state = [(ascii "a", 80)] ∧ hello.Tunnelled :=
  dialer_meets_front_end hello_connected hello_dialled (by decide) (by decide)

end Meeting

end EspNetwork.Proxy.Upstream
