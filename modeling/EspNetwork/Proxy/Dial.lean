import EspNetwork.Base.Ends
import EspNetwork.Ctrl.Client
import EspNetwork.Proxy.Announce

/-!
# Dialling a target

`handleConnect`, `proxyDial`, `dialHTTPConnect` and `dialSOCKS5` of `proxy/main.go` as one call
with all its exits. What the Go library, the environment variables and the peers answer is a
parameter. The two places where a request is built throw its error away and use the request.
-/

namespace EspNetwork.Proxy

open Serial (Byte Bytes)
open Relay
open Schedule (exec)
open Ctrl (connectPayload cmdConnect)
open Server (parseConnect)

def ascii (s : String) : Bytes := s.toList.map fun c => UInt8.ofNat c.toNat

/-! ## Addresses -/

/-- `net.JoinHostPort`. -/
def joinHostPort (host port : Bytes) : Bytes :=
  if 0x3A ∈ host then 0x5B :: (host ++ [0x5D, 0x3A] ++ port) else host ++ 0x3A :: port

/-- `fmt.Sprintf("%d", port)`. -/
def sprintfD (port : UInt16) : Bytes :=
  (Nat.toDigits 10 port.toNat).map fun c => UInt8.ofNat c.toNat

/-- `net.SplitHostPort`. -/
def splitHostPort (hostport : Bytes) : Option (Bytes × Bytes) :=
  let port := (hostport.reverse.takeWhile (· ≠ 0x3A)).reverse
  let i := hostport.length - port.length - 1
  if 0x3A ∉ hostport then none
  else if hostport.head? = some 0x5B then
    let host := (hostport.drop 1).takeWhile (· ≠ 0x5D)
    let stop := host.length + 1
    if 0x5D ∉ hostport ∨ stop + 1 ≠ i then none
    else if 0x5B ∈ hostport.drop 1 ∨ 0x5D ∈ hostport.drop (stop + 1) then none
    else some (host, port)
  else
    let host := hostport.take i
    if 0x3A ∈ host ∨ 0x5B ∈ hostport ∨ 0x5D ∈ hostport then none
    else some (host, port)

/-- `strconv.Atoi` of the digits after the last colon, without its error. -/
def atoi (digits : Bytes) : Nat := digits.foldl (fun n b => 10 * n + (b.toNat - 0x30)) 0

example : splitHostPort (joinHostPort [0x66, 0x3A, 0x31] (sprintfD 80)) =
    some ([0x66, 0x3A, 0x31], [0x38, 0x30]) := by decide +kernel

/-! ## What a dial meets -/

inductive Scheme where
  | http
  | https
  | socks5
  | socks5h
  | other
  deriving DecidableEq, Repr

/-- What the dialers read of the proxy's `url.URL`; `user` holds name and password. -/
structure ProxyURL where
  scheme : Scheme
  host : Bytes
  user : Option (Bytes × Bytes)

/-- What is read and set of an `http.Request`. -/
structure Request where
  url : Bytes
  host : Bytes
  proxyAuthorization : Option Bytes
  userAgent : Option Bytes

/-- The answers of the library, the environment and the peers during one dial; writes and reads
are numbered. -/
structure DialEnv where
  /-- `http.NewRequest("CONNECT", url, nil)`: nil when the URL cannot be parsed. -/
  newRequest : Bytes → Option Request
  /-- `http.ProxyFromEnvironment` of a request: an error, no proxy, or a proxy. -/
  proxyFromEnvironment : Request → Option (Option ProxyURL)
  dialTimeout : Bytes → Bool
  requestWrite : Request → Bool
  /-- The status code and what the reader buffered behind the response. -/
  readResponse : Request → Option (Nat × Bytes)
  write : Nat → Bytes → Bool
  readFull : Nat → (n : Nat) → Option (Vector Byte n)

/-- The connection a dial returns. -/
inductive NetConn where
  | plain
  | prefixConn (peeked : Bytes)
  deriving DecidableEq, Repr

/-! ## The dialers -/

def base64Digit (n : Nat) : Byte :=
  UInt8.ofNat (if n < 26 then 65 + n else if n < 52 then 71 + n else if n < 62 then n - 4
    else if n = 62 then 43 else 47)

/-- `base64.StdEncoding.EncodeToString`. -/
def base64 : Bytes → Bytes
  | a :: b :: c :: rest =>
    let n := 65536 * a.toNat + 256 * b.toNat + c.toNat
    base64Digit (n / 262144) :: base64Digit (n / 4096 % 64) :: base64Digit (n / 64 % 64) ::
      base64Digit (n % 64) :: base64 rest
  | [a, b] =>
    let n := 1024 * a.toNat + 4 * b.toNat
    [base64Digit (n / 4096), base64Digit (n / 64 % 64), base64Digit (n % 64), 0x3D]
  | [a] => [base64Digit (a.toNat / 4), base64Digit (16 * a.toNat % 64), 0x3D, 0x3D]
  | [] => []

/-- `net.DialTimeout("tcp", addr, timeout)`. -/
def dialDirect (E : DialEnv) (addr : Bytes) : Ends NetConn := do
  Ends.check (E.dialTimeout addr)
  return .plain

/-- Setting `req.Host` dereferences the request. -/
def dialHTTPConnect (E : DialEnv) (proxyURL : ProxyURL) (target : Bytes) : Ends NetConn := do
  Ends.check (E.dialTimeout proxyURL.host)
  let req ← Ends.deref (E.newRequest (ascii "//" ++ target))
  let req := { req with
    host := target
    proxyAuthorization := match proxyURL.user with
      | some (name, pass) => some (ascii "Basic " ++ base64 (name ++ 0x3A :: pass))
      | none => req.proxyAuthorization
    userAgent := some (ascii "esp32-proxy/1.0") }
  Ends.check (E.requestWrite req)
  let (statusCode, buffered) ← Ends.ofOption (E.readResponse req)
  Ends.check (statusCode = 200)
  return if buffered = [] then .plain else .prefixConn buffered

/-- The method negotiation of `dialSOCKS5`, with the number of the next write and read. -/
def socksAuth (E : DialEnv) (proxyURL : ProxyURL) : Ends Nat := do
  let authMethod := if proxyURL.user.isSome then 2 else 0
  Ends.check (E.write 0 [5, 1, authMethod])
  let resp ← Ends.ofOption (E.readFull 0 2)
  Ends.check (resp[0] = 5)
  Ends.check (resp[1] ≠ 0xFF)
  if resp[1] = 2 then
    let (u, p) := proxyURL.user.getD ([], [])
    Ends.check (E.write 1 ([1, UInt8.ofNat u.length] ++ u ++ UInt8.ofNat p.length :: p))
    let authResp ← Ends.ofOption (E.readFull 1 2)
    Ends.check (authResp[1] = 0)
    return 2
  else return 1

def dialSOCKS5 (E : DialEnv) (proxyURL : ProxyURL) (target : Bytes) : Ends NetConn := do
  Ends.check (E.dialTimeout proxyURL.host)
  let (host, portStr) ← Ends.ofOption (splitHostPort target)
  let port := atoi portStr
  let k ← socksAuth E proxyURL
  Ends.check (E.write k ([5, 1, 0, 3, UInt8.ofNat host.length] ++ host ++
    [UInt8.ofNat (port >>> 8), UInt8.ofNat (port &&& 0xFF)]))
  let connResp ← Ends.ofOption (E.readFull k 4)
  Ends.check (connResp[1] = 0)
  if connResp[3] = 3 then
    let lb ← Ends.ofOption (E.readFull (k + 1) 1)
    let _bound ← Ends.ofOption (E.readFull (k + 2) (lb[0].toNat + 2))
  else
    let skipLen := if connResp[3] = 1 then 4 + 2 else if connResp[3] = 4 then 16 + 2 else 0
    let _bound ← Ends.ofOption (E.readFull (k + 1) skipLen)
  return .plain

/-! The bytes that were read, one by one. -/

theorem toList_one (v : Vector Byte 1) : v.toList = [v[0]] := by
  apply List.ext_getElem
  · simp
  · intro i h _
    simp at h
    subst h
    simp

theorem toList_two (v : Vector Byte 2) : v.toList = [v[0], v[1]] := by
  apply List.ext_getElem
  · simp
  · intro i h _
    simp at h
    interval_cases i <;> simp

theorem toList_four (v : Vector Byte 4) : v.toList = [v[0], v[1], v[2], v[3]] := by
  apply List.ext_getElem
  · simp
  · intro i h _
    simp at h
    interval_cases i <;> simp

/-- `http.ProxyFromEnvironment` dereferences the request. -/
def proxyDial (E : DialEnv) (target : Bytes) : Ends NetConn := do
  let req ← Ends.deref (E.newRequest (ascii "https://" ++ target))
  let proxyURL ← Ends.ofOption (E.proxyFromEnvironment req)
  match proxyURL with
  | none => dialDirect E target
  | some proxyURL =>
    match proxyURL.scheme with
    | .http | .https => dialHTTPConnect E proxyURL target
    | .socks5 | .socks5h => dialSOCKS5 E proxyURL target
    | .other => dialDirect E target

/-- A call of `handleConnect` in a live context: the addresses it dials, the frames it enqueues,
the connection it registers and whether it panics. -/
structure Handled where
  dialled : List Bytes
  frames : List VFrame
  conn : Option NetConn
  panicked : Bool
  deriving DecidableEq

def handleConnect (E : DialEnv) (connID : UInt32) (payload : Bytes) : Handled :=
  match parseConnect payload with
  | none => ⟨[], [⟨cmdProxyConnect, connID, [statusError]⟩], none, false⟩
  | some (host, port) =>
    let addr := joinHostPort host (sprintfD port)
    match proxyDial E addr with
    | .panicked => ⟨[addr], [], none, true⟩
    | .err => ⟨[addr], [⟨cmdProxyConnect, connID, [statusRejected]⟩], none, false⟩
    | .ok conn => ⟨[addr], [⟨cmdProxyConnect, connID, [statusOK]⟩], some conn, false⟩

/-! ## Requests through the relay -/

theorem parseConnect_connectPayload {host : Bytes} (short : host.length ≤ 255) (port : UInt16) :
    parseConnect (connectPayload host port) = some (host, port) := by
  have size : (UInt8.ofNat host.length).toNat = host.length := by
    simp
    omega
  simp only [connectPayload, parseConnect, List.length_cons, List.length_append, size, putUint16,
    List.length_nil, List.drop_left, List.take_left]
  rw [if_neg (by omega), if_neg (by omega), uint16_putUint16]

/-- The length byte and the length of the payload contradict each other for a longer host. -/
theorem parseConnect_long {host : Bytes} (long : 255 < host.length) (port : UInt16) :
    parseConnect (connectPayload host port) = none := by
  have size : (UInt8.ofNat host.length).toNat = host.length % 256 := by simp
  simp only [connectPayload, parseConnect, List.length_cons, List.length_append, size, putUint16,
    List.length_nil]
  rw [if_neg (by omega), if_pos (by omega)]

/-- The bytes that `ConnectRemote` writes. -/
def connectBytes (host : Bytes) (port : UInt16) (id : UInt32) : Bytes :=
  frameBytes ⟨cmdConnect, id, connectPayload host port⟩

/-- Whatever follows the request and however it arrives, `Run` takes exactly these bytes as one
Connect frame of the id, and `handleConnect` dials exactly the address or answers an error. -/
def DialledOrRefused (host : Bytes) (port : UInt16) (id : UInt32) : Prop :=
  ∀ segs rest, segs.flatten = connectBytes host port id ++ rest →
    ∃ f segs', readFrame tcpReader segs = some (f, segs') ∧ segs'.flatten = rest ∧
      serverRun segs = f :: serverRun segs' ∧ f.cmd = cmdProxyConnect ∧ f.connID = id ∧
      ∀ E, (handleConnect E f.connID f.data).dialled = [joinHostPort host (sprintfD port)] ∨
        handleConnect E f.connID f.data =
          ⟨[], [⟨cmdProxyConnect, id, [statusError]⟩], none, false⟩

theorem handleConnect_connectPayload (E : DialEnv) (id : UInt32) (host : Bytes) (port : UInt16) :
    (handleConnect E id (connectPayload host port)).dialled =
        [joinHostPort host (sprintfD port)] ∨
      handleConnect E id (connectPayload host port) =
        ⟨[], [⟨cmdProxyConnect, id, [statusError]⟩], none, false⟩ := by
  by_cases short : host.length ≤ 255
  · left
    simp only [handleConnect, parseConnect_connectPayload short]
    cases proxyDial E (joinHostPort host (sprintfD port)) <;> rfl
  · right
    simp only [handleConnect, parseConnect_long (not_le.mp short)]

theorem length_connectPayload (host : Bytes) (port : UInt16) :
    (connectPayload host port).length = host.length + 3 := by
  simp [connectPayload, putUint16]

/-- The tail of a longer host stays on the stream, in front of the next frame. -/
theorem not_dialledOrRefused {host : Bytes} (long : 65535 < host.length + 3) (port : UInt16)
    (id : UInt32) : ¬ DialledOrRefused host port id := by
  intro exactly
  obtain ⟨f, segs', read, rest, -⟩ := exactly [connectBytes host port id] [] (by simp)
  have round := readFrame_eq tcpReader [connectBytes host port id]
  have front := takeFrame_truncated ⟨cmdConnect, id, connectPayload host port⟩ []
  have content : tcpReader.content [connectBytes host port id] =
      frameBytes ⟨cmdConnect, id, connectPayload host port⟩ ++ [] :=
    List.append_nil _ |>.symm ▸ List.flatten_singleton
  rw [read, content, front] at round
  have left := congrArg (fun p => p.2.length) (Option.some.inj round)
  change (List.flatten segs').length = _ at left
  simp only [rest, List.length_nil, List.append_nil, List.length_drop,
    length_connectPayload] at left
  omega

/-- **A request is dialled exactly or refused exactly when its payload fits the length field.** -/
theorem connectRemote_dialled_or_refused (host : Bytes) (port : UInt16) (id : UInt32) :
    DialledOrRefused host port id ↔ host.length + 3 ≤ 65535 := by
  constructor
  · intro exactly
    by_contra long
    exact not_dialledOrRefused (not_le.mp long) port id exactly
  · intro fits segs rest arrives
    have front : takeFrame (tcpReader.content segs) =
        some (⟨cmdConnect, id, connectPayload host port⟩, rest) := by
      change takeFrame segs.flatten = _
      rw [arrives]
      exact takeFrame_frameBytes (by simp only [length_connectPayload]; exact fits) rest
    have round := (readFrame_eq tcpReader segs).trans front
    obtain ⟨⟨f, segs'⟩, read, same⟩ := Option.map_eq_some_iff.mp round
    obtain ⟨rfl, behind⟩ := Prod.mk.inj same
    refine ⟨_, segs', read, behind, ?_, rfl, rfl,
      fun E => handleConnect_connectPayload E id host port⟩
    rw [serverRun, Relay.readLoop]
    split <;> simp_all [serverRun]

/-- A host of 65540 bytes announces 7 bytes of payload. -/
theorem connectRemote_truncated : ¬ DialledOrRefused (List.replicate 65540 0x61) 80 0 :=
  not_dialledOrRefused (by rw [List.length_replicate]; omega) 80 0

/-! ## Answers and panics -/

theorem socksAuth_ne_panicked (E : DialEnv) (p : ProxyURL) : socksAuth E p ≠ .panicked := by
  unfold socksAuth
  refine Ends.bind_ne_panicked (Ends.check_ne_panicked _) fun _ _ =>
    Ends.bind_ne_panicked (Ends.ofOption_ne_panicked _) fun resp _ =>
    Ends.bind_ne_panicked (Ends.check_ne_panicked _) fun _ _ =>
    Ends.bind_ne_panicked (Ends.check_ne_panicked _) fun _ _ => ?_
  split
  · exact Ends.bind_ne_panicked (Ends.check_ne_panicked _) fun _ _ =>
      Ends.bind_ne_panicked (Ends.ofOption_ne_panicked _) fun _ _ =>
      Ends.bind_ne_panicked (Ends.check_ne_panicked _) fun _ _ => Ends.pure_ne_panicked _
  · exact Ends.pure_ne_panicked _

/-- `dialSOCKS5` handles every error. -/
theorem dialSOCKS5_ne_panicked (E : DialEnv) (p : ProxyURL) (target : Bytes) :
    dialSOCKS5 E p target ≠ .panicked := by
  unfold dialSOCKS5
  refine Ends.bind_ne_panicked (Ends.check_ne_panicked _) fun _ _ =>
    Ends.bind_ne_panicked (Ends.ofOption_ne_panicked _) fun _ _ =>
    Ends.bind_ne_panicked (socksAuth_ne_panicked E p) fun _ _ =>
    Ends.bind_ne_panicked (Ends.check_ne_panicked _) fun _ _ =>
    Ends.bind_ne_panicked (Ends.ofOption_ne_panicked _) fun connResp _ =>
    Ends.bind_ne_panicked (Ends.check_ne_panicked _) fun _ _ => ?_
  split
  · exact Ends.bind_ne_panicked (Ends.ofOption_ne_panicked _) fun _ _ =>
      Ends.bind_ne_panicked (Ends.ofOption_ne_panicked _) fun _ _ => Ends.pure_ne_panicked _
  · exact Ends.bind_ne_panicked (Ends.ofOption_ne_panicked _) fun _ _ => Ends.pure_ne_panicked _

/-- A direct dial that succeeds; a URL with a space or a control byte is refused. -/
def plainEnv : DialEnv where
  newRequest url := if url.any (fun b => b ≤ 0x20 || b == 0x7F) then none
    else some ⟨url, url, none, none⟩
  proxyFromEnvironment _ := some none
  dialTimeout _ := true
  requestWrite _ := true
  readResponse _ := none
  write _ _ := true
  readFull _ _ := none

/-- The steps of one call of `handleConnect`. -/
def handlerActions (E : DialEnv) (i : Nat) (payload : Bytes) : List Action :=
  match parseConnect payload with
  | none => [.handler i, .handler i]
  | some (host, port) =>
    match proxyDial E (joinHostPort host (sprintfD port)) with
    | .ok _ => [.handler i, .dial i .conn, .handler i, .handler i]
    | .err => [.handler i, .dial i .failed, .handler i]
    | .panicked => [.handler i, .dial i .panicked]

theorem serverStep_handler {s : Server} (alive : s.crashed = false) (i : Nat) :
    Server.serverStep s (.handler i) = Server.handlerStep s i := by
  cases h : Server.handlerStep s i <;>
    simp [Server.serverStep, Server.step, Server.aliveStep, alive, h]

theorem serverStep_dial {s : Server} (alive : s.crashed = false) (i : Nat) (o : Dial) :
    Server.serverStep s (.dial i o) = Server.dialStep s i o := by
  cases h : Server.dialStep s i o <;>
    simp [Server.serverStep, Server.step, Server.aliveStep, alive, h]

section Calls

variable {s : Server} {i : Nat} {h : Handler} (handler : s.handlers[i]? = some h)
include handler

/-- A handler with a status enqueues it and returns. -/
theorem handlerStep_reply {status : Byte} (pc : h.pc = .reply status)
    (room : s.writeQ.length < relayWriteQ) : Server.handlerStep s i =
      some ((s.put ⟨cmdProxyConnect, h.id, [status]⟩).setHandler i { h with pc := .returned }) := by
  rw [Server.handlerStep, handler]
  simp only [pc, Option.bind_eq_bind, Option.bind_some, Server.writeFrame, if_pos room]
  rfl

/-- A handler with a registered target enqueues the good news and returns. -/
theorem handlerStep_ack {j : Nat} (pc : h.pc = .ack j) (room : s.writeQ.length < relayWriteQ) :
    Server.handlerStep s i = some ((s.put ⟨cmdProxyConnect, h.id, [statusOK]⟩).setHandler i
      { h with pc := .returned }) := by
  rw [Server.handlerStep, handler]
  simp only [pc, Option.bind_eq_bind, Option.bind_some, Server.writeFrame, if_pos room]
  rfl

theorem handlerStep_add {j : Nat} (pc : h.pc = .add j) : Server.handlerStep s i =
    some ((s.addConn h.id j).setHandler i { h with pc := .ack j }) := by
  rw [Server.handlerStep, handler]
  simp only [pc, Option.bind_eq_bind, Option.bind_some]

theorem handlerStep_start (pc : h.pc = .start) : Server.handlerStep s i =
    some (s.setHandler i { h with pc := match parseConnect h.payload with
      | none => .reply statusError
      | some (host, port) => .dial host port }) := by
  rw [Server.handlerStep, handler]
  simp only [pc, Option.bind_eq_bind, Option.bind_some]
  cases parseConnect h.payload <;> rfl

/-- The call is what its steps do to the server: the same frames, the same panic. -/
theorem exec_handlerActions (E : DialEnv) (start : h.pc = .start) (alive : s.crashed = false)
    (room : s.writeQ.length < relayWriteQ) :
    ∃ t, exec Server.serverStep s (handlerActions E i h.payload) = some t ∧
      t.crashed = (handleConnect E h.id h.payload).panicked ∧
      t.sent = s.sent ++ (handleConnect E h.id h.payload).frames := by
  have inside : i < s.handlers.length := (List.getElem?_eq_some_iff.mp handler).1
  have first := (serverStep_handler alive i).trans (handlerStep_start handler start)
  have at_i : ∀ (u : Server) (g : Handler), u.handlers.length = s.handlers.length →
      (u.setHandler i g).handlers[i]? = some g := fun u g len => by simp [len, inside]
  have live : ∀ g : Handler, (s.setHandler i g).crashed = false := fun _ => alive
  unfold handlerActions handleConnect
  cases parse : parseConnect h.payload with
  | none =>
    simp only [parse] at first
    exact ⟨_, Schedule.exec_cons.mpr ⟨_, first, Schedule.exec_cons.mpr ⟨_,
      (serverStep_handler (live _) i).trans (handlerStep_reply (at_i s _ rfl) rfl room), rfl⟩⟩, alive, rfl⟩
  | some address =>
    obtain ⟨host, port⟩ := address
    simp only [parse] at first
    have dials : ∀ o, Server.serverStep (s.setHandler i { h with pc := .dial host port })
        (.dial i o) = Server.dialStep _ i o := serverStep_dial (live _) i
    simp only [Server.dialStep, at_i s _ rfl, Option.bind_eq_bind, Option.bind_some] at dials
    let dialing := s.setHandler i { h with pc := .dial host port }
    have len : dialing.handlers.length = s.handlers.length := by simp [dialing]
    cases dial : proxyDial E (joinHostPort host (sprintfD port)) with
    | panicked =>
      simp only [dial]
      exact ⟨_, Schedule.exec_cons.mpr ⟨_, first, Schedule.exec_cons.mpr ⟨_, dials .panicked, rfl⟩⟩,
        rfl, (List.append_nil _).symm⟩
    | err =>
      simp only [dial]
      have reply := handlerStep_reply
        (at_i dialing { h with pc := .reply statusRejected } len) rfl room
      exact ⟨_, Schedule.exec_cons.mpr ⟨_, first, Schedule.exec_cons.mpr ⟨_, dials .failed,
        Schedule.exec_cons.mpr
          ⟨_, (@serverStep_handler (dialing.setHandler i _) alive i).trans reply, rfl⟩⟩⟩, alive, rfl⟩
    | ok conn =>
      simp only [dial]
      let dialled := dialing.addTarget (newTargetConn h.id host port)
      have add := handlerStep_add
        (at_i dialled { h with pc := .add dialing.tcs.length } len) rfl
      let added := (dialled.setHandler i { h with pc := .add dialing.tcs.length }).addConn h.id
        dialing.tcs.length
      have ack := handlerStep_ack (at_i added { h with pc := .ack dialing.tcs.length }
        (by simpa [added, dialled, Server.addConn, Server.addTarget] using len)) rfl room
      exact ⟨_, Schedule.exec_cons.mpr ⟨_, first, Schedule.exec_cons.mpr ⟨_, dials .conn,
        Schedule.exec_cons.mpr ⟨_, (@serverStep_handler (dialled.setHandler i _) alive i).trans add,
        Schedule.exec_cons.mpr
          ⟨_, (@serverStep_handler (added.setHandler i _) alive i).trans ack, rfl⟩⟩⟩⟩, alive, rfl⟩

end Calls

end EspNetwork.Proxy
