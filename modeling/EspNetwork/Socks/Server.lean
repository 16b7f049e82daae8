import EspNetwork.Socks.Http

/-!
# The SOCKS5 side of the proxy port

`handle` and `handleSOCKS5` of `ctrl/socks5/socks5.go`, with the byte that `handle` has read put
back in front of the connection. They answer a client by the grammar and stop reading behind it.
-/

namespace EspNetwork.Socks

open Serial (Byte Bytes)
open Relay (uint16)
open Fallible

variable {ρ : Type} (R : Reader ρ Byte) (H : Http) (accepts : List Call → Bool)

def returnUnless (good : Prop) [Decidable good] : Handler ρ Unit :=
  if good then pure () else throw ()

/-- Auth negotiation: [VER:1][NMETHODS:1][METHODS:N]. -/
def negotiate : Handler ρ Unit := do
  let hdr ← Line.readFull R 2
  returnUnless (hdr.getD 0 0 = 5)
  let methods ← Line.readFull R (hdr.getD 1 0).toNat
  if 0 ∈ methods then Line.write [5, 0] else refuse [5, 0xFF]

/-- The switch over the address type. -/
def readHost (atyp : Byte) : Handler ρ Bytes :=
  if atyp = 1 then do
    let addr ← Line.readFull R 4
    return ipString addr
  else if atyp = 3 then do
    let lbuf ← Line.readFull R 1
    Line.readFull R (lbuf.getD 0 0).toNat
  else if atyp = 4 then do
    let addr ← Line.readFull R 16
    return ipString addr
  else refuse (socks5Reply 8)

/-- Address and port of the target, and the attempt to reach it. -/
def connectTarget (atyp : Byte) : Handler ρ Unit := do
  let host ← readHost R atyp
  let portBuf ← Line.readFull R 2
  if ← connect accepts host (uint16 (portBuf.getD 1 0) (portBuf.getD 0 0)) then
    Line.write (socks5Reply 0)
  else refuse (socks5Reply 5)

/-- `handleSOCKS5` from the label `request` on; CONNECT only. -/
def serveRequest : Handler ρ Unit := do
  let req ← Line.readFull R 4
  returnUnless (req.getD 0 0 = 5)
  if req.getD 1 0 = 1 then connectTarget R accepts (req.getD 3 0) else refuse (socks5Reply 7)

def handleSOCKS5 : Handler ρ Unit := do
  negotiate R
  serveRequest R accepts

/-- The byte that was sniffed is replayed in front of the connection. -/
def handle : Handler (Bytes × ρ) Unit := do
  let first ← Line.readFull R.multi 1
  modify fun l => { l with unread := (first ++ l.unread.1, l.unread.2) }
  if first.getD 0 0 = 5 then handleSOCKS5 R.multi accepts else handleHTTP R.multi H accepts

/-! ## Stages -/

section Stages

variable {R H accepts} {α : Type} {s : Line ρ Byte (List Call)}
  {failed : Unit → Line ρ Byte (List Call) → Prop}

@[simp] theorem settles_returnUnless {good : Prop} [Decidable good]
    {done : Unit → Line ρ Byte (List Call) → Prop} :
    Settles (returnUnless good) s done failed ↔ if good then done () s else failed () s := by
  unfold returnUnless
  split <;> rfl

/-- The program gives this outcome. -/
def Yields (R : Reader ρ Byte) (p : Handler ρ Unit) (s : Line ρ Byte (List Call)) (o : Outcome) :
    Prop :=
  Settles p s
    (fun _ t => t.written = s.written ++ o.replies ∧ t.state = s.state ++ o.calls ∧
      o.relayed = some (R.content t.unread))
    fun _ t => t.written = s.written ++ o.replies ∧ t.state = s.state ++ o.calls ∧ o.relayed = none

theorem bigEndian_uint16 (hi lo : Byte) : bigEndian (uint16 lo hi) = [hi, lo] := by
  rw [bigEndian, Relay.putUint16_uint16]
  rfl

/-- A vector that holds these bytes. -/
theorem exists_vector {n : ℕ} {bs : Bytes} (size : bs.length = n) :
    ∃ v : Vector Byte n, v.toList = bs := by
  subst size
  exact ⟨⟨bs.toArray, rfl⟩, rfl⟩

theorem readHost_of {addr : SocksAddr} {rest : Bytes} {done : Bytes → Line ρ Byte (List Call) → Prop}
    (content : R.content s.unread = addr.body ++ rest)
    (next : ∀ r, R.content r = rest → done addr.host { s with unread := r }) :
    Settles (readHost R addr.atyp) s done failed := by
  cases addr with
  | ipv4 ip =>
    change Settles (do let addr ← Line.readFull R 4; return ipString addr) s done failed
    rw [settles_bind]
    exact Line.settles_readFull_of content ip.length_toList next
  | domain len name =>
    change Settles (do let lbuf ← Line.readFull R 1; Line.readFull R (lbuf.getD 0 0).toNat) s done
      failed
    have first : R.content s.unread = [len] ++ (name.toList ++ rest) := content
    rw [settles_bind]
    refine Line.settles_readFull_of first rfl fun r₁ behind => ?_
    exact Line.settles_readFull_of behind name.length_toList next
  | ipv6 ip =>
    change Settles (do let addr ← Line.readFull R 16; return ipString addr) s done failed
    rw [settles_bind]
    exact Line.settles_readFull_of content ip.length_toList next

/-- An address that is read stands in the stream. -/
theorem settles_readHost {t : Byte} {done : Bytes → Line ρ Byte (List Call) → Prop}
    (known : ∃ addr : SocksAddr, addr.atyp = t)
    (read : ∀ (addr : SocksAddr) r, addr.atyp = t → R.content s.unread = addr.body ++ R.content r →
      done addr.host { s with unread := r })
    (short : ∀ r, failed () { s with unread := r }) :
    Settles (readHost R t) s done failed := by
  obtain ⟨addr, rfl⟩ := known
  cases addr with
  | ipv4 ip =>
    change Settles (do let addr ← Line.readFull R 4; return ipString addr) s done failed
    rw [settles_bind]
    refine Line.settles_readFull (fun piece r size content => ?_) fun _ => short _
    obtain ⟨v, rfl⟩ := exists_vector size
    exact read (.ipv4 v) r rfl content
  | domain len name =>
    change Settles (do let lbuf ← Line.readFull R 1; Line.readFull R (lbuf.getD 0 0).toNat) s done
      failed
    rw [settles_bind]
    refine Line.settles_readFull (fun lbuf r₁ size content => ?_) fun _ => short _
    obtain ⟨len, rfl⟩ := List.length_eq_one_iff.mp size
    refine Line.settles_readFull (fun piece r₂ size' behind => ?_) fun _ => short _
    obtain ⟨v, rfl⟩ := exists_vector size'
    refine read (.domain len v) r₂ rfl ?_
    rw [content, behind]
    rfl
  | ipv6 ip =>
    change Settles (do let addr ← Line.readFull R 16; return ipString addr) s done failed
    rw [settles_bind]
    refine Line.settles_readFull (fun piece r size content => ?_) fun _ => short _
    obtain ⟨v, rfl⟩ := exists_vector size
    exact read (.ipv6 v) r rfl content

theorem settles_readHost_unknown {t : Byte} {done : Bytes → Line ρ Byte (List Call) → Prop}
    (unknown : ∀ addr : SocksAddr, addr.atyp ≠ t)
    (fails : failed () { s with written := s.written ++ [socks5Reply 8] }) :
    Settles (readHost R t) s done failed := by
  have ipv4 : t ≠ 1 := fun h => unknown (.ipv4 default) h.symm
  have domain : t ≠ 3 := fun h => unknown (.domain 0 default) h.symm
  have ipv6 : t ≠ 4 := fun h => unknown (.ipv6 default) h.symm
  simpa [readHost, ipv4, domain, ipv6] using fails

theorem connectTarget_of {q : ConnectRequest} {rest : Bytes} (fresh : s.state = [])
    (content : R.content s.unread = q.addr.body ++ bigEndian q.port ++ rest) :
    Settles (connectTarget R accepts q.addr.atyp) s
      (fun _ t => accepts [q.call] = true ∧ R.content t.unread = rest ∧
        t.written = s.written ++ [socks5Reply 0] ∧ t.state = [q.call])
      fun _ t => accepts [q.call] = false ∧ t.written = s.written ++ [socks5Reply 5] ∧
        t.state = [q.call] := by
  rw [List.append_assoc] at content
  rw [connectTarget, settles_bind]
  refine readHost_of content fun r₁ behind => ?_
  rw [settles_bind]
  refine Line.settles_readFull_of behind (by simp [bigEndian, Relay.putUint16]) fun r₂ behind' => ?_
  have port : uint16 ((bigEndian q.port).getD 1 0) ((bigEndian q.port).getD 0 0) = q.port :=
    Relay.uint16_putUint16 q.port
  rw [settles_bind, settles_connect, port, settles_ite, fresh, List.nil_append]
  split_ifs with result
  · exact ⟨result, behind', rfl, rfl⟩
  · exact ⟨eq_false_of_ne_true result, rfl, rfl⟩

theorem connectTarget_cut {t : Byte} {rest : Bytes} (known : ∃ addr : SocksAddr, addr.atyp = t)
    (cut : ∀ addr : SocksAddr, addr.atyp = t → ∀ port, ¬ addr.body ++ bigEndian port <+: rest)
    (content : R.content s.unread = rest) :
    Settles (connectTarget R accepts t) s (fun _ _ => False)
      fun _ t => t.written = s.written ∧ t.state = s.state := by
  rw [connectTarget, settles_bind]
  refine settles_readHost known (fun addr r₁ atyp front => ?_) fun _ => ⟨rfl, rfl⟩
  rw [settles_bind]
  refine Line.settles_readFull (fun portBuf r₂ size behind => ?_) fun _ => ⟨rfl, rfl⟩
  obtain ⟨hi, lo, rfl⟩ := List.length_eq_two.mp size
  -- the address and the port would be complete
  refine absurd ⟨R.content r₂, ?_⟩ (cut addr atyp (uint16 lo hi))
  rw [← content, front, behind, bigEndian_uint16, List.append_assoc]

/-- The head of a request to connect. -/
theorem serveRequest_connect {rsv t : Byte} {rest : Bytes}
    {done : Unit → Line ρ Byte (List Call) → Prop}
    (content : R.content s.unread = [5, 1, rsv, t] ++ rest)
    (next : ∀ r, R.content r = rest →
      Settles (connectTarget R accepts t) { s with unread := r } done failed) :
    Settles (serveRequest R accepts) s done failed := by
  rw [serveRequest, settles_bind]
  refine Line.settles_readFull_of content rfl fun r behind => ?_
  simpa using next r behind

theorem ConnectRequest.bytes_append (q : ConnectRequest) (rest : Bytes) :
    q.bytes ++ rest =
      [5, 1, q.rsv, q.addr.atyp] ++ (q.addr.body ++ bigEndian q.port ++ rest) := by
  simp [ConnectRequest.bytes]

theorem serveRequest_yields {tail : Bytes} {o : Outcome} (answered : Answered accepts tail o)
    (content : R.content s.unread = tail) (fresh : s.state = []) :
    Yields R (serveRequest R accepts) s o := by
  cases answered with
  | headCut short =>
    unfold Yields
    rw [serveRequest, settles_bind]
    refine Line.settles_readFull_short (content ▸ short) ?_
    simp
  | version other =>
    unfold Yields
    rw [serveRequest, settles_bind]
    refine Line.settles_readFull_of content rfl fun r behind => ?_
    simp [other]
  | command other =>
    unfold Yields
    rw [serveRequest, settles_bind]
    refine Line.settles_readFull_of content rfl fun r behind => ?_
    simp [other]
  | addrType unknown =>
    refine serveRequest_connect content fun r behind => ?_
    rw [connectTarget, settles_bind]
    exact settles_readHost_unknown unknown (by simp)
  | addressCut known cut =>
    refine serveRequest_connect content fun r behind => ?_
    refine (connectTarget_cut known cut behind).mono (fun _ _ no => no.elim) fun _ t same => ?_
    simp [same.1, same.2]
  | @refused q rest fails =>
    refine serveRequest_connect (content.trans (q.bytes_append rest)) fun r behind => ?_
    refine (connectTarget_of (s := { s with unread := r }) fresh behind).mono ?_ ?_
    · rintro _ t ⟨succeeds, -⟩
      rw [fails] at succeeds
      cases succeeds
    · rintro _ t ⟨-, written, calls⟩
      exact ⟨written, by simp [fresh, calls], rfl⟩
  | @connected q rest succeeds =>
    refine serveRequest_connect (content.trans (q.bytes_append rest)) fun r behind => ?_
    refine (connectTarget_of (s := { s with unread := r }) fresh behind).mono ?_ ?_
    · rintro _ t ⟨-, left, written, calls⟩
      exact ⟨written, by simp [fresh, calls], congrArg some left.symm⟩
    · rintro _ t ⟨fails, -⟩
      rw [succeeds] at fails
      cases fails

theorem negotiate_of {g : Greeting} {tail : Bytes} {done : Unit → Line ρ Byte (List Call) → Prop}
    (content : R.content s.unread = g.bytes ++ tail)
    (next : ∀ r, R.content r = tail →
      if 0 ∈ g.methods.toList then done () { s with unread := r, written := s.written ++ [[5, 0]] }
      else failed () { s with unread := r, written := s.written ++ [[5, 0xFF]] }) :
    Settles (negotiate R) s done failed := by
  have first : R.content s.unread = [5, g.nmethods] ++ (g.methods.toList ++ tail) := content
  rw [negotiate, settles_bind]
  refine Line.settles_readFull_of first rfl fun r₁ behind => ?_
  rw [settles_bind, settles_returnUnless, if_pos (by rfl), settles_bind]
  refine Line.settles_readFull_of behind g.methods.length_toList fun r₂ behind' => ?_
  rw [settles_ite]
  exact next r₂ behind'

theorem negotiate_cut (cut : ∀ g : Greeting, ¬ g.bytes <+: R.content s.unread) :
    Settles (negotiate R) s (fun _ _ => False)
      fun _ t => t.written = s.written ∧ t.state = s.state := by
  rw [negotiate, settles_bind]
  refine Line.settles_readFull (fun hdr r₁ size content => ?_) fun _ => ⟨rfl, rfl⟩
  obtain ⟨v, n, rfl⟩ := List.length_eq_two.mp size
  rw [settles_bind, settles_returnUnless]
  split_ifs with version
  swap
  · exact ⟨rfl, rfl⟩
  obtain rfl : v = 5 := version
  rw [settles_bind]
  refine Line.settles_readFull (fun methods r₂ size' behind => ?_) fun _ => ⟨rfl, rfl⟩
  obtain ⟨methods, rfl⟩ := exists_vector size'
  -- the greeting would be complete
  refine absurd ⟨R.content r₂, ?_⟩ (cut ⟨n, methods⟩)
  rw [content, behind]
  rfl

/-- **The dialogue.** -/
theorem handleSOCKS5_yields {o : Outcome} (dialogue : Dialogue accepts (R.content s.unread) o)
    (fresh : s.state = []) : Yields R (handleSOCKS5 R accepts) s o := by
  unfold Yields
  rw [handleSOCKS5, settles_bind]
  generalize content : R.content s.unread = stream at dialogue
  cases dialogue with
  | greetingCut version cut =>
    refine (negotiate_cut (content ▸ cut)).mono (fun _ _ no => no.elim) fun _ t same => ?_
    simp [same.1, same.2]
  | noMethod none_fits =>
    refine negotiate_of content fun r behind => ?_
    simp [none_fits]
  | request fits answered =>
    refine negotiate_of content fun r behind => ?_
    rw [if_pos fits]
    have served := serveRequest_yields answered
      (s := { s with unread := r, written := s.written ++ [[5, 0]] }) behind fresh
    simpa [Yields] using served

end Stages

end EspNetwork.Socks
