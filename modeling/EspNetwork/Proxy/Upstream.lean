import EspNetwork.Base.Exchange
import EspNetwork.Proxy.Dial

/-!
# The handshake with an upstream SOCKS5 proxy

`dialSOCKS5` of `proxy/main.go` over the byte stream that the proxy answers with, however it
arrives. The stages of the function are definitions of their own. It never compares the method
that the proxy selected with the one it offered, nor the version of the second answer, and its
switch over the address type has no default.
-/

namespace EspNetwork.Proxy.Upstream

open Serial (Byte Bytes)
open Fallible

/-! ## The dial -/

/-- The connection to the proxy. -/
inductive ConnState where
  | undialled
  | opened
  | closed
  deriving DecidableEq, Repr

abbrev Dialer (ρ : Type) := Fallible (Line ρ Byte ConnState) Unit

variable {ρ α : Type} (R : Reader ρ Byte) (E : DialEnv) (proxyURL : ProxyURL)

/-- `conn.Close()` and an error. -/
def closeFail : Dialer ρ α := do
  modify fun l => { l with state := .closed }
  throw ()

def checkOrClose (good : Prop) [Decidable good] : Dialer ρ Unit :=
  if good then pure () else closeFail

def readOrClose (n : ℕ) : Dialer ρ Bytes := do
  match ← attempt (Line.readFull R n) with
  | .ok piece => return piece
  | .error () => closeFail

/-- The environment says of each write whether it succeeds. -/
def writeOrClose (p : Bytes) : Dialer ρ Unit := do
  if E.write (← get).written.length p then Line.write p else closeFail

/-- The method that is offered. -/
def authMethod : Byte := if proxyURL.user.isSome then 2 else 0

def greeting : Bytes := [5, 1, authMethod proxyURL]

/-- Auth method negotiation; the method that the proxy selected. -/
def negotiate : Dialer ρ Byte := do
  writeOrClose E (greeting proxyURL)
  let resp ← readOrClose R 2
  checkOrClose (resp.getD 0 0 = 5)
  checkOrClose (resp.getD 1 0 ≠ 0xFF)
  return resp.getD 1 0

/-- The lengths are cut to a byte. -/
def userPass : Bytes :=
  let (u, p) := proxyURL.user.getD ([], [])
  [1, UInt8.ofNat u.length] ++ u ++ UInt8.ofNat p.length :: p

/-- Username/password auth, if the proxy selected it. -/
def authenticate (method : Byte) : Dialer ρ Unit :=
  if method = 2 then do
    writeOrClose E (userPass proxyURL)
    let authResp ← readOrClose R 2
    checkOrClose (authResp.getD 1 0 = 0)
  else return ()

def connectRequest (host : Bytes) (port : ℕ) : Bytes :=
  [5, 1, 0, 3, UInt8.ofNat host.length] ++ host ++
    [UInt8.ofNat (port >>> 8), UInt8.ofNat (port &&& 0xFF)]

/-- The length of the bound address that is left to skip; an unknown type has none. -/
def skipLen (atyp : Byte) : Dialer ρ ℕ :=
  if atyp = 1 then return 4 + 2
  else if atyp = 3 then do
    let lb ← readOrClose R 1
    return (lb.getD 0 0).toNat + 2
  else if atyp = 4 then return 16 + 2
  else return 0

/-- CONNECT request and response. -/
def connectTo (host : Bytes) (port : ℕ) : Dialer ρ Unit := do
  writeOrClose E (connectRequest host port)
  let connResp ← readOrClose R 4
  checkOrClose (connResp.getD 1 0 = 0)
  let n ← skipLen R (connResp.getD 3 0)
  let _bound ← readOrClose R n

/-- `dialSOCKS5`. -/
def dialSOCKS5 (target : Bytes) : Dialer ρ NetConn := do
  if E.dialTimeout proxyURL.host then
    modify fun l => { l with state := .opened }
    match splitHostPort target with
    | none => closeFail
    | some (host, portStr) =>
      let port := atoi portStr
      let method ← negotiate R E proxyURL
      authenticate R E proxyURL method
      connectTo R E host port
      return .plain
  else throw ()

/-! ## Answers -/

/-- The answers of a proxy: the selected method, the answer to user and password, and the answer
to the connect request. -/
structure Answers where
  method : Byte
  auth : Bytes
  ver : Byte
  rsv : Byte
  atyp : Byte
  bound : Bytes

def Answers.bytes (a : Answers) : Bytes :=
  [5, a.method] ++ a.auth ++ [a.ver, 0, a.rsv, a.atyp] ++ a.bound

/-- The bytes of an address and a port behind the address type, as `dialSOCKS5` counts them. -/
def BoundBytes (atyp : Byte) (bound : Bytes) : Prop :=
  if atyp = 1 then bound.length = 4 + 2
  else if atyp = 3 then ∃ len name, bound = len :: name ∧ name.length = len.toNat + 2
  else if atyp = 4 then bound.length = 16 + 2
  else bound = []

/-- User and password are answered with status 0 where they are asked for. -/
def AuthBytes (method : Byte) (auth : Bytes) : Prop :=
  if method = 2 then ∃ ver, auth = [ver, 0] else auth = []

/-- Answers that `dialSOCKS5` takes for a success. -/
structure Answers.Accepted (a : Answers) : Prop where
  method : a.method ≠ 0xFF
  auth : AuthBytes a.method a.auth
  bound : BoundBytes a.atyp a.bound

/-- A success by the protocol, when this method was offered. -/
structure Answers.Proper (offered : Byte) (a : Answers) : Prop extends a.Accepted where
  selected : a.method = offered
  version : a.ver = 5
  known : a.atyp = 1 ∨ a.atyp = 3 ∨ a.atyp = 4

/-! ## What the calls do -/

section Rules

variable {R E proxyURL} {s : Line ρ Byte ConnState} {failed : Unit → Line ρ Byte ConnState → Prop}

@[simp] theorem settles_closeFail {done : α → Line ρ Byte ConnState → Prop} :
    Settles (closeFail : Dialer ρ α) s done failed ↔ failed () { s with state := .closed } := Iff.rfl

@[simp] theorem settles_checkOrClose {good : Prop} [Decidable good]
    {done : Unit → Line ρ Byte ConnState → Prop} :
    Settles (checkOrClose good) s done failed ↔
      if good then done () s else failed () { s with state := .closed } := by
  unfold checkOrClose
  split <;> rfl

@[simp] theorem settles_writeOrClose {p : Bytes} {done : Unit → Line ρ Byte ConnState → Prop} :
    Settles (writeOrClose E p) s done failed ↔
      if E.write s.written.length p then done () { s with written := s.written ++ [p] }
      else failed () { s with state := .closed } := by
  rw [writeOrClose, settles_bind, settles_get]
  split <;> rfl

theorem settles_readOrClose {n : ℕ} {done : Bytes → Line ρ Byte ConnState → Prop}
    (read : ∀ piece r, piece.length = n → R.content s.unread = piece ++ R.content r →
      done piece { s with unread := r })
    (short : (R.content s.unread).length < n → failed () { s with state := .closed }) :
    Settles (readOrClose R n) s done failed := by
  rw [readOrClose, settles_bind, settles_attempt]
  exact Line.settles_readFull read short

theorem settles_readOrClose_of {piece rest : Bytes} {n : ℕ}
    {done : Bytes → Line ρ Byte ConnState → Prop} (content : R.content s.unread = piece ++ rest)
    (size : piece.length = n)
    (read : ∀ r, R.content r = rest → done piece { s with unread := r }) :
    Settles (readOrClose R n) s done failed := by
  rw [readOrClose, settles_bind, settles_attempt]
  exact Line.settles_readFull_of content size read

end Rules

/-- These writes succeed, from the `k`-th on. -/
def SentFrom (E : DialEnv) : ℕ → List Bytes → Prop
  | _, [] => True
  | k, p :: ps => E.write k p = true ∧ SentFrom E (k + 1) ps

theorem sentFrom_append {k : ℕ} {ps qs : List Bytes} :
    SentFrom E k (ps ++ qs) ↔ SentFrom E k ps ∧ SentFrom E (k + ps.length) qs := by
  induction ps generalizing k with
  | nil => simp [SentFrom]
  | cons p ps ih => simp [SentFrom, ih, and_assoc, Nat.add_assoc, Nat.add_comm 1]

/-! ## Stages -/

section Stages

variable {R E proxyURL} {s : Line ρ Byte ConnState}

/-- A failure closes the connection. -/
def Closed (_ : Unit) (t : Line ρ Byte ConnState) : Prop := t.state = .closed

theorem settles_negotiate :
    Settles (negotiate R E proxyURL) s
      (fun m t => E.write s.written.length (greeting proxyURL) = true ∧ m ≠ 0xFF ∧
        ∃ r, R.content s.unread = [5, m] ++ R.content r ∧
          t = { s with unread := r, written := s.written ++ [greeting proxyURL] }) Closed := by
  rw [negotiate, settles_bind, settles_writeOrClose]
  split_ifs with sent
  swap
  · rfl
  rw [settles_bind]
  refine settles_readOrClose (fun resp r size content => ?_) fun _ => rfl
  obtain ⟨ver, m, rfl⟩ := List.length_eq_two.mp size
  simp only [settles_bind, settles_checkOrClose, settles_pure, List.getD_cons_zero,
    List.getD_cons_succ]
  split_ifs with version method
  · subst version
    exact ⟨sent, method, r, content, rfl⟩
  · rfl
  · rfl

theorem negotiate_of {m : Byte} {rest : Bytes} {done : Byte → Line ρ Byte ConnState → Prop}
    {failed : Unit → Line ρ Byte ConnState → Prop}
    (content : R.content s.unread = [5, m] ++ rest) (method : m ≠ 0xFF)
    (sent : E.write s.written.length (greeting proxyURL) = true)
    (next : ∀ r, R.content r = rest →
      done m { s with unread := r, written := s.written ++ [greeting proxyURL] }) :
    Settles (negotiate R E proxyURL) s done failed := by
  rw [negotiate, settles_bind, settles_writeOrClose, if_pos sent, settles_bind]
  refine settles_readOrClose_of content rfl fun r behind => ?_
  simpa [method] using next r behind

/-- What authentication sends. -/
def authMessages (proxyURL : ProxyURL) (method : Byte) : List Bytes :=
  if method = 2 then [userPass proxyURL] else []

theorem settles_authenticate (method : Byte) :
    Settles (authenticate R E proxyURL method) s
      (fun _ t => SentFrom E s.written.length (authMessages proxyURL method) ∧
        ∃ auth r, AuthBytes method auth ∧ R.content s.unread = auth ++ R.content r ∧
          t = { s with unread := r, written := s.written ++ authMessages proxyURL method })
      Closed := by
  unfold authenticate authMessages
  split_ifs with asked
  swap
  · exact ⟨trivial, [], s.unread, by simp [AuthBytes, asked], rfl, by simp⟩
  rw [settles_bind, settles_writeOrClose]
  split_ifs with sent
  swap
  · rfl
  rw [settles_bind]
  refine settles_readOrClose (fun resp r size content => ?_) fun _ => rfl
  obtain ⟨ver, status, rfl⟩ := List.length_eq_two.mp size
  simp only [settles_checkOrClose, List.getD_cons_zero, List.getD_cons_succ]
  split_ifs with zero
  · subst zero
    exact ⟨⟨sent, trivial⟩, [ver, 0], r, by simp [AuthBytes, asked], content, rfl⟩
  · rfl

theorem authenticate_of {method : Byte} {auth rest : Bytes}
    {done : Unit → Line ρ Byte ConnState → Prop} {failed : Unit → Line ρ Byte ConnState → Prop}
    (complete : AuthBytes method auth) (content : R.content s.unread = auth ++ rest)
    (sent : SentFrom E s.written.length (authMessages proxyURL method))
    (next : ∀ r, R.content r = rest →
      done () { s with unread := r, written := s.written ++ authMessages proxyURL method }) :
    Settles (authenticate R E proxyURL method) s done failed := by
  unfold AuthBytes at complete
  unfold authMessages at sent next
  unfold authenticate
  split_ifs at complete sent next ⊢ with asked
  · obtain ⟨ver, rfl⟩ := complete
    rw [settles_bind, settles_writeOrClose, if_pos sent.1, settles_bind]
    refine settles_readOrClose_of content rfl fun r behind => ?_
    simpa using next r behind
  · subst complete
    simpa using next s.unread content

/-- With as many bytes as are left to skip, the bound address is complete. -/
theorem settles_skipLen (atyp : Byte) :
    Settles (skipLen R atyp) s
      (fun n t => ∃ read r, (∀ bound : Bytes, bound.length = n → BoundBytes atyp (read ++ bound)) ∧
        R.content s.unread = read ++ R.content r ∧ t = { s with unread := r }) Closed := by
  unfold skipLen
  split_ifs with ipv4 domain ipv6
  · exact ⟨[], s.unread, fun bound size => by simp [BoundBytes, ipv4, size], rfl, rfl⟩
  · rw [settles_bind]
    refine settles_readOrClose (fun lb r size content => ?_) fun _ => rfl
    obtain ⟨len, rfl⟩ := List.length_eq_one_iff.mp size
    exact ⟨[len], r, fun bound size => by simpa [BoundBytes, domain] using size, content, rfl⟩
  · exact ⟨[], s.unread, fun bound size => by simp [BoundBytes, ipv6, size], rfl, rfl⟩
  · refine ⟨[], s.unread, fun bound size => ?_, rfl, rfl⟩
    simpa [BoundBytes, ipv4, domain, ipv6] using size

theorem skipLen_of {atyp : Byte} {bound rest : Bytes} {done : ℕ → Line ρ Byte ConnState → Prop}
    {failed : Unit → Line ρ Byte ConnState → Prop} (complete : BoundBytes atyp bound)
    (content : R.content s.unread = bound ++ rest)
    (next : ∀ read left r, bound = read ++ left → R.content r = left ++ rest →
      done left.length { s with unread := r }) :
    Settles (skipLen R atyp) s done failed := by
  unfold BoundBytes at complete
  unfold skipLen
  split_ifs at complete ⊢ with ipv4 domain ipv6
  · exact complete ▸ next [] bound s.unread rfl content
  · obtain ⟨len, name, rfl, size⟩ := complete
    have first : R.content s.unread = [len] ++ (name ++ rest) := content
    rw [settles_bind]
    refine settles_readOrClose_of first rfl fun r behind => ?_
    simpa [size] using next [len] name r rfl behind
  · exact complete ▸ next [] bound s.unread rfl content
  · subst complete
    exact next [] [] s.unread rfl content

theorem settles_connectTo (host : Bytes) (port : ℕ) :
    Settles (connectTo R E host port) s
      (fun _ t => E.write s.written.length (connectRequest host port) = true ∧
        ∃ ver rsv atyp bound r, BoundBytes atyp bound ∧
          R.content s.unread = [ver, 0, rsv, atyp] ++ bound ++ R.content r ∧
          t = { s with unread := r, written := s.written ++ [connectRequest host port] })
      Closed := by
  rw [connectTo, settles_bind, settles_writeOrClose]
  split_ifs with sent
  swap
  · rfl
  rw [settles_bind]
  refine settles_readOrClose (fun connResp r size content => ?_) fun _ => rfl
  obtain ⟨ver, rep, rsv, atyp, rfl⟩ : ∃ ver rep rsv atyp, connResp = [ver, rep, rsv, atyp] := by
    match connResp, size with
    | [ver, rep, rsv, atyp], _ => exact ⟨ver, rep, rsv, atyp, rfl⟩
  simp only [settles_bind, settles_checkOrClose, List.getD_cons_zero, List.getD_cons_succ]
  split_ifs with zero
  swap
  · rfl
  subst zero
  refine (settles_skipLen atyp).mono ?_ fun _ _ closed => closed
  rintro n _ ⟨read, r₁, fits, first, rfl⟩
  refine settles_readOrClose (fun bound r₂ size behind => ?_) fun _ => rfl
  refine ⟨sent, ver, rsv, atyp, read ++ bound, r₂, fits bound size, ?_, rfl⟩
  rw [content, first, behind]
  simp

theorem connectTo_of {host : Bytes} {port : ℕ} {ver rsv atyp : Byte} {bound rest : Bytes}
    {done : Unit → Line ρ Byte ConnState → Prop} {failed : Unit → Line ρ Byte ConnState → Prop}
    (complete : BoundBytes atyp bound)
    (content : R.content s.unread = [ver, 0, rsv, atyp] ++ (bound ++ rest))
    (sent : E.write s.written.length (connectRequest host port) = true)
    (next : ∀ r, R.content r = rest →
      done () { s with unread := r, written := s.written ++ [connectRequest host port] }) :
    Settles (connectTo R E host port) s done failed := by
  rw [connectTo, settles_bind, settles_writeOrClose, if_pos sent, settles_bind]
  refine settles_readOrClose_of content rfl fun r₁ behind => ?_
  simp only [settles_bind, settles_checkOrClose, List.getD_cons_zero, List.getD_cons_succ, if_true]
  refine skipLen_of complete behind fun read left r₂ parts behind' => ?_
  exact settles_readOrClose_of behind' rfl fun r₃ behind'' => next r₃ behind''

end Stages

/-! ## The whole handshake -/

/-- What is sent when the proxy selects this method. -/
def messages (host : Bytes) (port : ℕ) (method : Byte) : List Bytes :=
  [greeting proxyURL] ++ authMessages proxyURL method ++ [connectRequest host port]

/-- The proxy can be dialled, the target has a host and a port, and the writes succeed. -/
def Carried (target : Bytes) (method : Byte) : Prop :=
  E.dialTimeout proxyURL.host = true ∧
    ∃ host portStr, splitHostPort target = some (host, portStr) ∧
      SentFrom E 0 (messages proxyURL host (atoi portStr) method)

section Handshake

variable {R E proxyURL} {s : Line ρ Byte ConnState} {target : Bytes}

theorem sentFrom_messages {host : Bytes} {port : ℕ} {method : Byte} :
    SentFrom E 0 (messages proxyURL host port method) ↔
      E.write 0 (greeting proxyURL) = true ∧ SentFrom E 1 (authMessages proxyURL method) ∧
        E.write ((authMessages proxyURL method).length + 1) (connectRequest host port) = true := by
  simp [messages, sentFrom_append, SentFrom, Nat.add_comm 1]

/-- A connection that is returned stands behind answers that `dialSOCKS5` accepts. -/
theorem settles_dialSOCKS5 (fresh : s.written = []) (undialled : s.state = .undialled) :
    Settles (dialSOCKS5 R E proxyURL target) s
      (fun _ t => t.state = .opened ∧ ∃ a : Answers, a.Accepted ∧
        Carried E proxyURL target a.method ∧ R.content s.unread = a.bytes ++ R.content t.unread)
      fun _ t => t.state = if E.dialTimeout proxyURL.host then .closed else .undialled := by
  rw [dialSOCKS5]
  split_ifs with dialled
  swap
  · exact undialled
  rw [settles_bind, settles_modify]
  cases split : splitHostPort target with
  | none => rfl
  | some address =>
    obtain ⟨host, portStr⟩ := address
    dsimp only
    rw [settles_bind]
    refine settles_negotiate.mono ?_ fun _ _ closed => closed
    rintro method _ ⟨greeted, acceptable, r₁, first, rfl⟩
    rw [settles_bind]
    refine (settles_authenticate method).mono ?_ fun _ _ closed => closed
    rintro _ _ ⟨authed, auth, r₂, asked, second, rfl⟩
    rw [settles_bind]
    refine (settles_connectTo host _).mono ?_ fun _ _ closed => closed
    rintro _ _ ⟨requested, ver, rsv, atyp, bound, r₃, complete, third, rfl⟩
    simp only [fresh, List.nil_append, List.length_append, List.length_nil, List.length_singleton,
      Nat.add_comm 1] at greeted authed requested
    have sent : SentFrom E 0 (messages proxyURL host (atoi portStr) method) :=
      sentFrom_messages.mpr ⟨greeted, authed, requested⟩
    refine ⟨rfl, ⟨method, auth, ver, rsv, atyp, bound⟩, ⟨acceptable, asked, complete⟩,
      ⟨dialled, host, portStr, split, sent⟩, ?_⟩
    rw [first, second, third]
    simp [Answers.bytes]

/-- Answers that `dialSOCKS5` accepts make it return behind them. -/
theorem dialSOCKS5_of {a : Answers} {rest : Bytes} (fresh : s.written = []) (accepted : a.Accepted)
    (carried : Carried E proxyURL target a.method) (content : R.content s.unread = a.bytes ++ rest) :
    Settles (dialSOCKS5 R E proxyURL target) s
      (fun conn t => conn = .plain ∧ t.state = .opened ∧ R.content t.unread = rest)
      fun _ _ => False := by
  obtain ⟨dialled, host, portStr, split, sent⟩ := carried
  obtain ⟨greeted, authed, requested⟩ := sentFrom_messages.mp sent
  have first : R.content s.unread =
      [5, a.method] ++ (a.auth ++ ([a.ver, 0, a.rsv, a.atyp] ++ (a.bound ++ rest))) := by
    rw [content]
    simp [Answers.bytes]
  rw [dialSOCKS5, if_pos dialled, settles_bind, settles_modify, split]
  dsimp only
  rw [settles_bind]
  refine negotiate_of first accepted.method (by simpa [fresh] using greeted) fun r₁ second => ?_
  rw [settles_bind]
  refine authenticate_of accepted.auth second (by simpa [fresh] using authed) fun r₂ third => ?_
  rw [settles_bind]
  refine connectTo_of accepted.bound third (by simpa [fresh] using requested) fun r₃ behind => ?_
  exact ⟨rfl, rfl, behind⟩

/-- Two bound addresses of one type at the front of a stream are the same. -/
theorem BoundBytes.unique {atyp : Byte} {bound bound' rest rest' : Bytes}
    (h : BoundBytes atyp bound) (h' : BoundBytes atyp bound')
    (same : bound ++ rest = bound' ++ rest') : bound = bound' := by
  unfold BoundBytes at h h'
  refine (List.append_inj same ?_).1
  split_ifs at h h'
  · rw [h, h']
  · obtain ⟨len, name, rfl, size⟩ := h
    obtain ⟨len', name', rfl, size'⟩ := h'
    obtain rfl : len = len' := (List.cons_eq_cons.mp same).1
    simp [size, size']
  · rw [h, h']
  · rw [h, h']

/-- A stream begins with at most one sequence of accepted answers. -/
theorem Answers.Accepted.unique {a a' : Answers} {rest rest' : Bytes} (h : a.Accepted)
    (h' : a'.Accepted) (same : a.bytes ++ rest = a'.bytes ++ rest') : a = a' := by
  obtain ⟨method, auth, ver, rsv, atyp, bound⟩ := a
  obtain ⟨method', auth', ver', rsv', atyp', bound'⟩ := a'
  simp only [Answers.bytes, List.cons_append, List.nil_append, List.append_assoc,
    List.cons.injEq, true_and] at same
  obtain ⟨rfl, same⟩ := same
  have auth_length : auth.length = auth'.length := by
    have := h.auth
    have := h'.auth
    unfold AuthBytes at *
    dsimp only at *
    split_ifs at * <;> grind
  obtain ⟨rfl, behind⟩ := List.append_inj same auth_length
  simp only [List.cons.injEq, true_and] at behind
  obtain ⟨rfl, rfl, rfl, behind⟩ := behind
  obtain rfl := BoundBytes.unique h.bound h'.bound behind
  rfl

/-- A connection is returned behind a success for what was offered; on any other answer there is
an error, and the connection is closed. -/
def HandshakeExact (R : Reader ρ Byte) (E : DialEnv) (proxyURL : ProxyURL) (target : Bytes)
    (s : Line ρ Byte ConnState) : Prop :=
  Settles (dialSOCKS5 R E proxyURL target) s
    (fun _ t => t.state = .opened ∧ ∃ a : Answers, a.Proper (authMethod proxyURL) ∧
      R.content s.unread = a.bytes ++ R.content t.unread)
    fun _ t => t.state = if E.dialTimeout proxyURL.host then .closed else .undialled

theorem HandshakeExact.proper {a : Answers} {rest : Bytes}
    (h : HandshakeExact R E proxyURL target s) (fresh : s.written = [])
    (content : R.content s.unread = a.bytes ++ rest) (accepted : a.Accepted)
    (carried : Carried E proxyURL target a.method) : a.Proper (authMethod proxyURL) := by
  have returns := dialSOCKS5_of fresh accepted carried content
  by_contra improper
  apply not_settles_false (dialSOCKS5 R E proxyURL target) s
  refine (Settles.and h returns).mono ?_ fun _ _ h => h.2
  rintro _ t ⟨⟨-, a', proper, content'⟩, -⟩
  have same := accepted.unique proper.toAccepted (content.symm.trans content')
  exact improper (same ▸ proper)

/-- **The handshake is exact unless the proxy's answers, which `dialSOCKS5` accepts, select a
method that was not offered, or come with another version or an unknown address type.** -/
theorem handshakeExact_iff (fresh : s.written = []) (undialled : s.state = .undialled) :
    HandshakeExact R E proxyURL target s ↔
      ∀ (a : Answers) (rest : Bytes), R.content s.unread = a.bytes ++ rest → a.Accepted →
        Carried E proxyURL target a.method → a.Proper (authMethod proxyURL) := by
  constructor
  · intro h a rest content accepted carried
    exact h.proper fresh content accepted carried
  · intro proper
    refine (settles_dialSOCKS5 fresh undialled).mono ?_ fun _ _ closed => closed
    rintro _ t ⟨opened, a, accepted, carried, content⟩
    exact ⟨opened, a, proper a _ content accepted carried, content⟩

end Handshake

/-! ## The dial with numbered answers -/

/-- Where the `k`-th read starts; everything before the last one has a fixed length. -/
def readStart (auth : Bool) (k : ℕ) : ℕ :=
  if auth then [0, 2, 4, 8, 9].getD k 0 else [0, 2, 6, 7].getD k 0

/-- The numbered answers that a stream gives. -/
def answering (E : DialEnv) (stream : Bytes) : DialEnv :=
  { E with
    readFull := fun k n =>
      let piece := (stream.drop (readStart (stream[1]? = some 2) k)).take n
      if h : piece.length = n then some ⟨piece.toArray, by simpa using h⟩ else none }

section Numbered

variable {E proxyURL} {target stream : Bytes}

theorem answering_readFull {k n : ℕ} {piece : Vector Byte n} :
    (answering E stream).readFull k n = some piece ↔
      (stream.drop (readStart (stream[1]? = some 2) k)).take n = piece.toList := by
  simp only [answering]
  split_ifs with h
  · rw [Option.some.injEq, ← Vector.toArray_inj, ← Array.toList_inj]
    rfl
  · refine iff_of_false (by simp) fun e => h ?_
    simp [e]

theorem taken {k n : ℕ} {piece : Vector Byte n} (h : (answering E stream).readFull k n = some piece) :
    stream.drop (readStart (stream[1]? = some 2) k) =
      piece.toList ++ stream.drop (readStart (stream[1]? = some 2) k + n) := by
  rw [← answering_readFull.mp h, ← List.drop_drop, List.take_append_drop]

/-- The negotiation ends behind the selected method and the answer to user and password. -/
theorem socksAuth_eq_ok {k : ℕ} (h : socksAuth (answering E stream) proxyURL = .ok k) :
    ∃ method auth, method ≠ 0xFF ∧ AuthBytes method auth ∧
      stream = [5, method] ++ auth ++ stream.drop (readStart (stream[1]? = some 2) k) ∧
      readStart (stream[1]? = some 2) (k + 1) = readStart (stream[1]? = some 2) k + 4 ∧
      readStart (stream[1]? = some 2) (k + 2) = readStart (stream[1]? = some 2) k + 5 ∧
      k = (authMessages proxyURL method).length + 1 ∧ E.write 0 (greeting proxyURL) = true ∧
      SentFrom E 1 (authMessages proxyURL method) := by
  simp only [socksAuth, Ends.bind_eq_ok, Ends.check_eq_ok, Ends.ofOption_eq_ok] at h
  obtain ⟨-, greeted, resp, read, -, version, -, method, h⟩ := h
  have first := taken read
  rw [toList_two, version] at first
  have second : stream[1]? = some resp[1] := by
    rw [show readStart _ 0 = 0 by simp [readStart], List.drop_zero] at first
    rw [first]
    rfl
  rw [second] at first ⊢
  split_ifs at h with asked
  · simp only [Ends.bind_eq_ok, Ends.check_eq_ok, Ends.ofOption_eq_ok, pure, Ends.ok.injEq] at h
    obtain ⟨-, authed, authResp, read', -, ok, rfl⟩ := h
    have third : stream.drop 2 = [authResp[0], 0] ++ stream.drop 4 := by
      have := taken read'
      rw [toList_two, ok, second, asked] at this
      exact this
    rw [asked] at first ⊢
    refine ⟨2, [authResp[0], 0], by decide, by simp [AuthBytes], ?_, rfl, rfl, rfl, greeted,
      authed, trivial⟩
    rw [List.append_assoc]
    exact first.trans (congrArg ([5, 2] ++ ·) third)
  · obtain rfl : 1 = k := by simpa [pure] using h
    refine ⟨resp[1], [], method, by simp [AuthBytes, asked], ?_⟩
    simp [readStart, asked, authMessages, SentFrom] at first ⊢
    exact ⟨first, greeted⟩

theorem accepted_of_ok {conn : NetConn}
    (h : Proxy.dialSOCKS5 (answering E stream) proxyURL target = .ok conn) :
    conn = .plain ∧ ∃ (a : Answers) (rest : Bytes), stream = a.bytes ++ rest ∧ a.Accepted ∧
      Carried E proxyURL target a.method := by
  unfold Proxy.dialSOCKS5 at h
  simp only [Ends.bind_eq_ok, Ends.check_eq_ok, Ends.ofOption_eq_ok] at h
  obtain ⟨-, dialled, ⟨host, portStr⟩, split, k, negotiated, -, sent, connResp, read, -, zero, h⟩ := h
  obtain ⟨method, auth, selected, asked, front, next, next', rfl, greeted, authed⟩ :=
    socksAuth_eq_ok negotiated
  have behind := taken read
  rw [toList_four, zero] at behind
  have complete : conn = .plain ∧ ∃ bound rest, BoundBytes connResp[3] bound ∧
      stream.drop (readStart (stream[1]? = some 2) ((authMessages proxyURL method).length + 1) + 4) =
        bound ++ rest := by
    by_cases domain : connResp[3] = 3
    · rw [if_pos domain] at h
      simp only [Ends.bind_eq_ok, Ends.ofOption_eq_ok] at h
      obtain ⟨lb, read₁, bound, read₂, plain⟩ := h
      have first := taken read₁
      have second := taken read₂
      rw [next, toList_one] at first
      rw [next'] at second
      have whole := first.trans (congrArg ([lb[0]] ++ ·) second)
      rw [← List.append_assoc] at whole
      exact ⟨(Ends.ok.inj plain).symm, _, _, by simp [BoundBytes, domain], whole⟩
    · rw [if_neg domain] at h
      simp only [Ends.bind_eq_ok, Ends.ofOption_eq_ok] at h
      obtain ⟨bound, read₁, plain⟩ := h
      have first := taken read₁
      rw [next] at first
      refine ⟨(Ends.ok.inj plain).symm, bound.toList, _, ?_, first⟩
      unfold BoundBytes
      rw [if_neg domain]
      by_cases ipv4 : connResp[3] = 1
      · simp [ipv4]
      · by_cases ipv6 : connResp[3] = 4 <;> simp [ipv4, ipv6]
  obtain ⟨plain, bound, rest, complete, last⟩ := complete
  refine ⟨plain, ⟨method, auth, connResp[0], connResp[2], connResp[3], bound⟩, rest, ?_,
    ⟨selected, asked, complete⟩, dialled, host, portStr, split,
    sentFrom_messages.mpr ⟨greeted, authed, sent⟩⟩
  calc
    stream = _ := front
    _ = _ := by rw [behind, last]; simp [Answers.bytes]

theorem answering_of {before piece rest : Bytes} {k n : ℕ}
    (content : stream = before ++ (piece ++ rest))
    (start : before.length = readStart (stream[1]? = some 2) k) (size : piece.length = n) :
    (answering E stream).readFull k n = some ⟨piece.toArray, by simpa using size⟩ := by
  rw [answering_readFull, ← start, content, List.drop_left, List.take_left' size]
  rfl

theorem ok_of_accepted {a : Answers} {rest : Bytes} (content : stream = a.bytes ++ rest)
    (accepted : a.Accepted) (carried : Carried E proxyURL target a.method) :
    Proxy.dialSOCKS5 (answering E stream) proxyURL target = .ok .plain := by
  obtain ⟨method, auth, ver, rsv, atyp, bound⟩ := a
  obtain ⟨dialled, host, portStr, split, sent⟩ := carried
  obtain ⟨greeted, authed, requested⟩ := sentFrom_messages.mp sent
  have selected : stream[1]? = some method := by rw [content]; rfl
  simp only [Answers.bytes, List.append_assoc] at content
  have front : stream = [] ++ ([5, method] ++ (auth ++ ([ver, 0, rsv, atyp] ++ (bound ++ rest)))) :=
    content
  have read₀ : (answering E stream).readFull 0 2 = some #v[5, method] :=
    answering_of front (by simp [readStart]) rfl
  have negotiated : ∃ before : Bytes,
      socksAuth (answering E stream) proxyURL = .ok ((authMessages proxyURL method).length + 1) ∧
      stream = before ++ ([ver, 0, rsv, atyp] ++ (bound ++ rest)) ∧
      before.length = readStart (stream[1]? = some 2) ((authMessages proxyURL method).length + 1) ∧
      readStart (stream[1]? = some 2) ((authMessages proxyURL method).length + 1 + 1) =
        before.length + 4 ∧
      readStart (stream[1]? = some 2) ((authMessages proxyURL method).length + 1 + 2) =
        before.length + 5 := by
    have auth := accepted.auth
    unfold AuthBytes at auth
    by_cases asked : method = 2
    · subst asked
      obtain ⟨authVer, rfl⟩ := auth
      have read₁ : (answering E stream).readFull 1 2 = some #v[authVer, 0] :=
        answering_of content (by simp [readStart, selected]) rfl
      refine ⟨[5, 2, authVer, 0], ?_, content, by simp [readStart, selected, authMessages],
        by simp [readStart, selected, authMessages], by simp [readStart, selected, authMessages]⟩
      simp only [socksAuth, Ends.bind_eq_ok, Ends.check_eq_ok, Ends.ofOption_eq_ok]
      exact ⟨(), greeted, _, read₀, (), rfl, (), by decide,
        by simpa [Ends.bind_eq_ok, Ends.ofOption_eq_ok] using ⟨authed.1, _, read₁, rfl, rfl⟩⟩
    · rw [if_neg asked] at auth
      subst auth
      refine ⟨[5, method], ?_, content, by simp [readStart, selected, authMessages, asked],
        by simp [readStart, selected, authMessages, asked],
        by simp [readStart, selected, authMessages, asked]⟩
      simp only [socksAuth, Ends.bind_eq_ok, Ends.check_eq_ok, Ends.ofOption_eq_ok]
      refine ⟨(), greeted, _, read₀, (), rfl, (), accepted.method, ?_⟩
      simp [authMessages, asked]
      rfl
  obtain ⟨before, negotiated, content, start, next, next'⟩ := negotiated
  have read₃ : (answering E stream).readFull _ 4 = some #v[ver, 0, rsv, atyp] :=
    answering_of content start rfl
  have behind : stream = before ++ [ver, 0, rsv, atyp] ++ (bound ++ rest) := by rw [content]; simp
  simp only [Proxy.dialSOCKS5, Ends.bind_eq_ok, Ends.check_eq_ok, Ends.ofOption_eq_ok]
  refine ⟨(), dialled, _, split, _, negotiated, (), requested, _, read₃, (), rfl, ?_⟩
  have complete := accepted.bound
  unfold BoundBytes at complete
  change (if atyp = 3 then _ else _) = _
  by_cases domain : atyp = 3
  · subst domain
    obtain ⟨len, name, rfl, size⟩ := complete
    have len_start : (before ++ [ver, 0, rsv, 3]).length =
        readStart (stream[1]? = some 2) ((authMessages proxyURL method).length + 1 + 1) := by
      simp [next]
    have single : stream = before ++ [ver, 0, rsv, 3] ++ ([len] ++ (name ++ rest)) := behind
    have lb : (answering E stream).readFull _ 1 = some #v[len] := answering_of single len_start rfl
    have name_start : (before ++ [ver, 0, rsv, 3, len]).length =
        readStart (stream[1]? = some 2) ((authMessages proxyURL method).length + 1 + 2) := by
      simp [next']
    have past : stream = before ++ [ver, 0, rsv, 3, len] ++ (name ++ rest) := by
      rw [behind]
      simp
    have skipped := @answering_of E _ _ _ _ _ _ past name_start size
    rw [if_pos rfl]
    simp only [Ends.bind_eq_ok, Ends.ofOption_eq_ok]
    exact ⟨_, lb, _, skipped, rfl⟩
  · have size : bound.length =
        if atyp = 1 then 4 + 2 else if atyp = 4 then 16 + 2 else 0 := by
      split_ifs at complete ⊢ <;> simp_all
    have bound_start : (before ++ [ver, 0, rsv, atyp]).length =
        readStart (stream[1]? = some 2) ((authMessages proxyURL method).length + 1 + 1) := by
      simp [next]
    have skipped := @answering_of E _ _ _ _ _ _ behind bound_start size
    rw [if_neg domain]
    simp only [Ends.bind_eq_ok, Ends.ofOption_eq_ok]
    exact ⟨_, skipped, rfl⟩

/-- The dial over a stream ends as the one with the stream's numbered answers. -/
theorem dialSOCKS5_agrees {ρ : Type} {R : Reader ρ Byte} {s : Line ρ Byte ConnState}
    (fresh : s.written = []) (undialled : s.state = .undialled) :
    Settles (dialSOCKS5 R E proxyURL target) s
      (fun conn _ =>
        Proxy.dialSOCKS5 (answering E (R.content s.unread)) proxyURL target = .ok conn)
      fun _ _ => Proxy.dialSOCKS5 (answering E (R.content s.unread)) proxyURL target = .err := by
  cases numbered : Proxy.dialSOCKS5 (answering E (R.content s.unread)) proxyURL target with
  | panicked => exact absurd numbered (dialSOCKS5_ne_panicked _ _ _)
  | ok conn =>
    obtain ⟨rfl, a, rest, content, accepted, carried⟩ := accepted_of_ok numbered
    refine (dialSOCKS5_of fresh accepted carried content).mono ?_ fun _ _ no => no.elim
    rintro conn t ⟨rfl, -⟩
    rfl
  | err =>
    refine (settles_dialSOCKS5 fresh undialled).mono ?_ fun _ _ _ => rfl
    rintro conn t ⟨-, a, accepted, carried, content⟩
    rw [ok_of_accepted content accepted carried] at numbered
    cases numbered

end Numbered

/-! ## Examples of proxies -/

/-- A connection that was not dialled yet, to a proxy that answers with these segments. -/
def undialled (segs : List Bytes) : Line (List Bytes) Byte ConnState := ⟨segs, [], .undialled⟩

/-- A proxy without authentication, with the first byte of the tunnel in the same segment. -/
theorem handshakeExact_plain :
    HandshakeExact Relay.tcpReader plainEnv ⟨.socks5, ascii "proxy:1080", none⟩ (ascii "host:80")
      (undialled [[5, 0], [5, 0, 0, 1, 10, 0, 0, 1, 0, 80, 0x48]]) := by
  refine (handshakeExact_iff rfl rfl).mpr fun a rest content accepted _ => ?_
  have bytes : [5, 0, 5, 0, 0, 1, 10, 0, 0, 1, 0, 80, 0x48] = a.bytes ++ rest := content
  obtain ⟨method, auth, ver, rsv, atyp, bound⟩ := a
  simp only [Answers.bytes, List.cons_append, List.nil_append, List.append_assoc,
    List.cons.injEq, true_and] at bytes
  obtain ⟨rfl, bytes⟩ := bytes
  obtain rfl : auth = [] := accepted.auth
  simp only [List.nil_append, List.cons.injEq, true_and] at bytes
  obtain ⟨rfl, rfl, rfl, -⟩ := bytes
  exact ⟨accepted, rfl, rfl, .inl rfl⟩

/-- Only user and password were offered; the proxy selects no authentication, and gets a
connection. -/
theorem handshake_unauthenticated :
    ¬ HandshakeExact Relay.tcpReader plainEnv
      ⟨.socks5, ascii "proxy:1080", some (ascii "user", ascii "pass")⟩ (ascii "host:80")
      (undialled [[5, 0], [5, 0, 0, 1, 10, 0, 0, 1, 0, 80]]) := by
  intro h
  have carried : Carried plainEnv ⟨.socks5, ascii "proxy:1080", some (ascii "user", ascii "pass")⟩
      (ascii "host:80") 0 := ⟨rfl, ascii "host", ascii "80", by decide +kernel, rfl, rfl, trivial⟩
  have proper := h.proper (a := ⟨0, [], 5, 0, 1, [10, 0, 0, 1, 0, 80]⟩) rfl
    (List.append_nil _).symm ⟨by decide, rfl, rfl⟩ carried
  exact absurd proper.selected (by decide)

end EspNetwork.Proxy.Upstream
