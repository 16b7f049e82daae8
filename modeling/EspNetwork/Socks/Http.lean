import EspNetwork.Base.Exchange
import EspNetwork.Proxy.Dial
import EspNetwork.Socks.Request

/-!
# The HTTP side of the proxy port

`handleHTTP`, `handleHTTPConnect` and `handleHTTPForward` of `ctrl/socks5/socks5.go`. The parsers
of `net/http` and the exchange of one forwarded request with its target are parameters.
-/

namespace EspNetwork.Socks

open Serial (Byte Bytes)
open Proxy (ascii atoi splitHostPort)
open Fallible

/-! ## The library -/

/-- What the handlers read of `req.URL`. -/
structure HttpURL where
  host : Bytes
  hostname : Bytes
  port : Bytes

/-- What they read of an `http.Request`. -/
structure HttpRequest where
  method : Bytes
  host : Bytes
  url : Option HttpURL

structure Http where
  /-- `http.ReadRequest`: the request at the front of a stream and the length of its head. -/
  readRequest : Bytes → Option (HttpRequest × ℕ)
  consumes : ∀ {bs req n}, readRequest bs = some (req, n) → 0 < n ∧ n ≤ bs.length
  /-- The length of the request's body in the stream behind the head, and what `resp.Write` writes
  to the client; nothing is written if `req.Write` or `http.ReadResponse` fails. -/
  exchange : HttpRequest → Bytes → ℕ × Option (List Bytes)

/-- `strconv.Atoi`. -/
def strconvAtoi (s : Bytes) : Option ℤ :=
  let (neg, ds) := match s with
    | 0x2D :: ds => (true, ds)
    | 0x2B :: ds => (false, ds)
    | ds => (false, ds)
  if ds = [] ∨ ∃ d ∈ ds, d < 0x30 ∨ 0x39 < d then none
  else
    let n : ℤ := if neg then -atoi ds else atoi ds
    if -2 ^ 63 ≤ n ∧ n < 2 ^ 63 then some n else none

/-- The port of a target, between 1 and 65535. -/
def portOf (portStr : Bytes) : Option UInt16 :=
  match strconvAtoi portStr with
  | none => none
  | some port => if port ≤ 0 ∨ 65535 < port then none else some (UInt16.ofNat port.toNat)

/-! ## Handlers -/

/-- A handler of one client connection. It returns where `relayBidi` begins, with the stream as it
stands there, and fails where the function of the source returns without. The state holds the calls
of `Connect`. -/
abbrev Handler (ρ : Type) := Fallible (Line ρ Byte (List Call)) Unit

variable {ρ α : Type} (R : Reader ρ Byte) (H : Http) (accepts : List Call → Bool)

def connect (host : Bytes) (port : UInt16) : Handler ρ Bool := do
  modify fun l => { l with state := l.state ++ [(host, port)] }
  return accepts (← get).state

/-- A last reply to the client. -/
def refuse (reply : Bytes) : Handler ρ α := do
  Line.write reply
  throw ()

def badRequest : Bytes := ascii "HTTP/1.1 400 Bad Request\r\n\r\n"

/-- `handleHTTPConnect`; a host without a port is for HTTPS. -/
def handleHTTPConnect (req : HttpRequest) : Handler ρ Unit :=
  let (host, portStr) := (splitHostPort req.host).getD (req.host, ascii "443")
  match portOf portStr with
  | none => refuse badRequest
  | some port => do
    if ← connect accepts host port then
      Line.write (ascii "HTTP/1.1 200 Connection Established\r\n\r\n")
    else refuse (ascii "HTTP/1.1 502 Bad Gateway\r\n\r\n")

/-- The next request of the client. -/
def nextRequest : Handler ρ HttpRequest := do
  match H.readRequest (R.content (← get).unread) with
  | none => throw ()
  | some (req, n) => do
    let _head ← Line.readFull R n
    return req

/-- One turn of the loop in `handleHTTPForward`, up to the next request. -/
def forwardOne (req : HttpRequest) : Handler ρ HttpRequest :=
  match req.url with
  | none => refuse badRequest
  | some url =>
    if url.host = [] then refuse badRequest
    else match portOf (if url.port = [] then ascii "80" else url.port) with
      | none => refuse badRequest
      | some port => do
        if ← connect accepts url.hostname port then
          let (n, resp) := H.exchange req (R.content (← get).unread)
          let _body ← Line.readFull R n
          match resp with
          | none => throw ()
          | some writes => do
            modify fun l => { l with written := l.written ++ writes }
            nextRequest R H
        else refuse (ascii "HTTP/1.1 502 Bad Gateway\r\nContent-Length: 0\r\n\r\n")

section Rules

variable {R H accepts} {s : Line ρ Byte (List Call)}
  {failed : Unit → Line ρ Byte (List Call) → Prop}

@[simp] theorem settles_refuse {reply : Bytes} {done : α → Line ρ Byte (List Call) → Prop} :
    Settles (refuse reply : Handler ρ α) s done failed ↔
      failed () { s with written := s.written ++ [reply] } := Iff.rfl

@[simp] theorem settles_connect {host : Bytes} {port : UInt16}
    {done : Bool → Line ρ Byte (List Call) → Prop} :
    Settles (connect accepts host port) s done failed ↔
      done (accepts (s.state ++ [(host, port)])) { s with state := s.state ++ [(host, port)] } :=
  Iff.rfl

theorem settles_nextRequest :
    Settles (nextRequest R H) s
      (fun _ t => (R.content t.unread).length < (R.content s.unread).length) fun _ _ => True := by
  rw [nextRequest, settles_bind, settles_get]
  split
  · trivial
  · rename_i req n parsed
    obtain ⟨pos, -⟩ := H.consumes parsed
    rw [settles_bind]
    refine Line.settles_readFull (fun head r size content => ?_) fun _ => trivial
    simp only [settles_pure, content, List.length_append, size]
    omega

end Rules

/-- A turn that goes on has read a request. -/
theorem forwardOne_shrinks (req : HttpRequest) (l : Line ρ Byte (List Call)) :
    Settles (forwardOne R H accepts req) l
      (fun _ l' => (R.content l'.unread).length < (R.content l.unread).length)
      fun _ _ => True := by
  unfold forwardOne
  split
  · trivial
  split
  · trivial
  split
  · trivial
  rw [settles_bind, settles_connect, settles_ite]
  split_ifs
  swap
  · trivial
  rw [settles_bind, settles_get]
  dsimp only
  rw [settles_bind]
  refine Line.settles_readFull (fun body r size content => ?_) fun _ => trivial
  split
  · trivial
  rw [settles_bind, settles_modify]
  refine settles_nextRequest.mono (fun req t shorter => ?_) fun _ _ h => h
  rw [content, List.length_append]
  exact shorter.trans_le (Nat.le_add_left _ _)

/-- `handleHTTPForward`, with the client as it leaves it. -/
def handleHTTPForward (req : HttpRequest) (l : Line ρ Byte (List Call)) :
    Line ρ Byte (List Call) :=
  match _h : (forwardOne R H accepts req).outcome l with
  | (.ok req', l') => handleHTTPForward req' l'
  | (.error (), l') => l'
termination_by (R.content l.unread).length
decreasing_by exact (forwardOne_shrinks R H accepts req l).of_outcome _h

/-- `handleHTTP`. -/
def handleHTTP : Handler ρ Unit := do
  let req ← nextRequest R H
  if req.method = ascii "CONNECT" then handleHTTPConnect accepts req
  else do
    modify (handleHTTPForward R H accepts req)
    throw ()

end EspNetwork.Socks
