import EspNetwork.Base.ReadAhead
import EspNetwork.Proxy.Dial
import EspNetwork.Relay.Wire

/-!
# Bytes behind the response of a proxy

`dialHTTPConnect` of `proxy/main.go` reads the response through a `bufio.Reader`, which may take more
from the connection than the response. A target may speak first, so these bytes belong to the tunnel:
a `prefixConn` gives them back before it reads on. A body that the response announces is read by its
`Close`, whose error nobody looks at, so such a tunnel begins behind the body or, where the stream
ends inside the body, has nothing to read.
-/

namespace EspNetwork.Proxy

open Serial (Byte Bytes)

variable {ρ : Type} (R : Reader ρ Byte)

/-! ## `prefixConn` -/

/-- `byteReader.Read`; `none` is `io.EOF`. -/
def byteReaderRead (b : Bytes) (n : ℕ) : Option (Bytes × Bytes) :=
  if b = [] then none else some (b.take n, b.drop n)

/-- `prefixConn.Read`: `io.MultiReader` of a `byteReader` and the connection. -/
def prefixConnRead (c : Bytes × ρ) (n : ℕ) : Option (Bytes × (Bytes × ρ)) :=
  match byteReaderRead c.1 n with
  | some (piece, b) => some (piece, (b, c.2))
  | none => (R.read c.2 n).map fun (piece, r) => (piece, ([], r))

/-- What the connection that is returned has of the stream already. -/
def NetConn.peeked : NetConn → Bytes
  | .plain => []
  | .prefixConn peeked => peeked

theorem prefixConnRead_eq_multi (c : Bytes × ρ) (n : ℕ) :
    prefixConnRead R c n = R.multi.read c n := by
  obtain ⟨b, r⟩ := c
  cases b <;> rfl

/-- Reading from the connection that is returned, with what was taken before and the connection. -/
def prefixConn : Reader (Bytes × ρ) Byte where
  read := prefixConnRead R
  content := R.multi.content
  read_eq_none c n done := by
    rw [prefixConnRead_eq_multi]
    exact R.multi.read_eq_none c n done
  read_eq_some c n more pos := by
    rw [prefixConnRead_eq_multi]
    exact R.multi.read_eq_some c n more pos

/-! ## The dial on a stream -/

/-- Every call before the response is read succeeds, with this request. -/
def Sends (E : DialEnv) (proxyURL : ProxyURL) (target : Bytes) (req : Request) : Prop :=
  E.dialTimeout proxyURL.host = true ∧ ∃ made, E.newRequest (ascii "//" ++ target) = some made ∧
    req = { made with
      host := target
      proxyAuthorization := match proxyURL.user with
        | some (name, pass) => some (ascii "Basic " ++ base64 (name ++ 0x3A :: pass))
        | none => made.proxyAuthorization
      userAgent := some (ascii "esp32-proxy/1.0") } ∧ E.requestWrite req = true

theorem dialHTTPConnect_eq_ok {E : DialEnv} {proxyURL : ProxyURL} {target : Bytes} {conn : NetConn} :
    dialHTTPConnect E proxyURL target = .ok conn ↔
      ∃ req, Sends E proxyURL target req ∧ ∃ buffered, E.readResponse req = some (200, buffered) ∧
        conn = if buffered = [] then .plain else .prefixConn buffered := by
  unfold dialHTTPConnect Sends
  simp only [Ends.bind_eq_ok, Ends.check_eq_ok, Ends.deref_eq_ok, Ends.ofOption_eq_ok]
  constructor
  · rintro ⟨-, reached, made, request, -, written, ⟨code, buffered⟩, response, -, rfl, returned⟩
    exact ⟨_, ⟨reached, made, request, rfl, written⟩, buffered, response, (Ends.ok.inj returned).symm⟩
  · rintro ⟨req, ⟨reached, made, request, rfl, written⟩, buffered, response, rfl⟩
    exact ⟨(), reached, made, request, (), written, (200, buffered), response, (), rfl, rfl⟩

/-- What `http.ReadResponse` makes of the head of a response: the status code, and what the `Close` of
its body reads. -/
structure HTTPResponse where
  statusCode : ℕ
  body : Scanner Byte Unit

/-- `http.ReadResponse` and `resp.Body.Close()`: the status code, what is left in the `bufio.Reader`,
and the connection. -/
def responseOf (P : Scanner Byte HTTPResponse) (room bodyRoom : Bytes → ℕ) (r : ρ) :
    Option (ℕ × Bytes × ρ) :=
  match R.readAhead P room [] r with
  | .error _ => none
  | .ok (resp, buffered, r') => some (resp.statusCode, R.skip resp.body bodyRoom (buffered, r'))

/-- The dial to a proxy whose response is what a `bufio.Reader` finds on the connection. -/
def DialEnv.onStream (E : DialEnv) (P : Scanner Byte HTTPResponse) (room bodyRoom : Bytes → ℕ)
    (r : ρ) : DialEnv :=
  { E with readResponse := fun _ =>
      (responseOf R P room bodyRoom r).map fun (statusCode, buffered, _) => (statusCode, buffered) }

section Stream

variable {E : DialEnv} {proxyURL : ProxyURL} {target : Bytes} {P : Scanner Byte HTTPResponse}
  {room bodyRoom : Bytes → ℕ} {r : ρ}

theorem dial_onStream {conn : NetConn} :
    dialHTTPConnect (E.onStream R P room bodyRoom r) proxyURL target = .ok conn ↔
      (∃ req, Sends E proxyURL target req) ∧
        ∃ buffered r', responseOf R P room bodyRoom r = some (200, buffered, r') ∧
          conn = if buffered = [] then .plain else .prefixConn buffered := by
  rw [dialHTTPConnect_eq_ok]
  constructor
  · rintro ⟨req, sends, buffered, response, rfl⟩
    obtain ⟨⟨code, left, r'⟩, found, same⟩ := Option.map_eq_some_iff.mp response
    obtain ⟨rfl, rfl⟩ : code = 200 ∧ left = buffered := by simpa using same
    exact ⟨⟨req, sends⟩, left, r', found, rfl⟩
  · rintro ⟨⟨req, sends⟩, buffered, r', found, rfl⟩
    exact ⟨req, sends, buffered, Option.map_eq_some_iff.mpr ⟨_, found, rfl⟩, rfl⟩

/-- There is a response if the stream begins with the head of one. -/
theorem responseOf_isSome {resp : HTTPResponse} {n : ℕ}
    (parsed : P.parse (R.content r) = some (resp, n)) (room bodyRoom : Bytes → ℕ) :
    ∃ buffered r', responseOf R P room bodyRoom r = some (resp.statusCode, buffered, r') := by
  have whole : P.parse ([] ++ R.content r) = some (resp, n) := parsed
  obtain ⟨left, r', found⟩ := R.readAhead_isOk P room whole
  exact ⟨_, _, by rw [responseOf, found]⟩

/-- The buffer and the connection go on behind the body. -/
theorem responseOf_content {statusCode : ℕ} {buffered : Bytes} {r' : ρ}
    (found : responseOf R P room bodyRoom r = some (statusCode, buffered, r')) :
    ∃ resp n, P.parse (R.content r) = some (resp, n) ∧ resp.statusCode = statusCode ∧
      buffered ++ R.content r' = resp.body.behind ((R.content r).drop n) := by
  unfold responseOf at found
  cases ahead : R.readAhead P room [] r with
  | error r₁ => simp [ahead] at found
  | ok result =>
    obtain ⟨resp, left, r₁⟩ := result
    obtain ⟨n, parsed, rest⟩ := R.readAhead_content P room ahead
    obtain ⟨code, skipped⟩ :
        resp.statusCode = statusCode ∧ R.skip resp.body bodyRoom (left, r₁) = (buffered, r') := by
      simpa [ahead] using found
    have behind := R.content_skip resp.body bodyRoom (left, r₁)
    rw [skipped] at behind
    exact ⟨resp, n, parsed, code, behind.trans (congrArg resp.body.behind rest)⟩

/-- The connection that is returned stands where the bytes that were taken end. -/
theorem peeked_ite (buffered : Bytes) :
    NetConn.peeked (if buffered = [] then .plain else .prefixConn buffered) = buffered := by
  split_ifs with empty
  · exact empty.symm
  · rfl

/-- **A tunnel through an HTTP proxy begins right behind the response.** However the connection cuts
what the proxy and the target send, and however much of it is read ahead: the dial succeeds exactly if
the request is sent and the stream begins with the head of a response of status 200, and whoever reads
from the connection then finds every byte behind this response and its body, in order and once, and no
other. -/
theorem http_tunnel_transparent (E : DialEnv) (proxyURL : ProxyURL) (target : Bytes)
    (P : Scanner Byte HTTPResponse) (room bodyRoom : Bytes → ℕ) (r : ρ) :
    ((∃ conn, dialHTTPConnect (E.onStream R P room bodyRoom r) proxyURL target = .ok conn) ↔
      (∃ req, Sends E proxyURL target req) ∧
        ∃ resp n, P.parse (R.content r) = some (resp, n) ∧ resp.statusCode = 200) ∧
    ∀ conn, dialHTTPConnect (E.onStream R P room bodyRoom r) proxyURL target = .ok conn →
      ∃ resp n r', P.parse (R.content r) = some (resp, n) ∧
        responseOf R P room bodyRoom r = some (200, conn.peeked, r') ∧
        ∀ k, ((prefixConn R).readFull (conn.peeked, r') k).map Prod.fst =
          if k ≤ (resp.body.behind ((R.content r).drop n)).length then
            some ((resp.body.behind ((R.content r).drop n)).take k) else none := by
  refine ⟨?_, fun conn dialled => ?_⟩
  · simp only [dial_onStream]
    constructor
    · rintro ⟨conn, sends, buffered, r', found, -⟩
      obtain ⟨resp, n, parsed, code, -⟩ := responseOf_content R found
      exact ⟨sends, resp, n, parsed, code⟩
    · rintro ⟨sends, resp, n, parsed, code⟩
      obtain ⟨buffered, r', found⟩ := responseOf_isSome R parsed room bodyRoom
      rw [code] at found
      exact ⟨_, sends, buffered, r', found, rfl⟩
  · obtain ⟨-, buffered, r', found, rfl⟩ := (dial_onStream R).mp dialled
    obtain ⟨resp, n, parsed, -, rest⟩ := responseOf_content R found
    rw [peeked_ite]
    refine ⟨resp, n, r', parsed, found, fun k => ?_⟩
    have content : (prefixConn R).content (buffered, r') = resp.body.behind ((R.content r).drop n) :=
      rest
    rw [← content]
    split_ifs with enough
    · obtain ⟨c, read, -⟩ := (prefixConn R).readFull_eq_some enough
      rw [read, Option.map_some]
    · rw [(prefixConn R).readFull_eq_none (not_le.mp enough), Option.map_none]

end Stream

/-- A body of a known length. -/
def lengthBody (length : ℕ) : Scanner Byte Unit where
  parse bs := if length ≤ bs.length then some ((), length) else none
  takes h := by
    split_ifs at h with whole
    obtain rfl : length = _ := by simpa using h
    exact whole
  settled h more := by
    split_ifs at h with whole
    rw [if_pos (by simp only [List.length_append]; omega), h]

/-- A parser that knows one head. -/
def oneResponse (head : Bytes) (resp : HTTPResponse) : Scanner Byte HTTPResponse where
  parse bs := if head <+: bs then some (resp, head.length) else none
  takes h := by
    split_ifs at h with front
    obtain ⟨-, rfl⟩ : resp = _ ∧ head.length = _ := by simpa using h
    exact front.length_le
  settled h more := by
    split_ifs at h with front
    rw [if_pos (front.trans (List.prefix_append _ more)), h]

/-- A response with a body of two bytes, which ends in the middle of what is read with it; the other
bytes are the target's. -/
def eagerTarget : List Bytes :=
  [ascii "HTTP/1.1 200 OK\r\nContent-", ascii "Length: 2\r\n\r\no", ascii "khe", ascii "llo"]

def okHead : Scanner Byte HTTPResponse :=
  oneResponse (ascii "HTTP/1.1 200 OK\r\nContent-Length: 2\r\n\r\n") ⟨200, lengthBody 2⟩

theorem http_tunnel_transparent_eager :
    dialHTTPConnect
        (plainEnv.onStream Relay.tcpReader okHead (fun _ => 4095) (fun _ => 4095) eagerTarget)
        ⟨.http, ascii "proxy:8080", none⟩ (ascii "a:80") = .ok (.prefixConn (ascii "he")) ∧
      ∃ r', ((prefixConn Relay.tcpReader).readFull (ascii "he", r') 5).map Prod.fst =
        some (ascii "hello") := by
  have dialled : dialHTTPConnect
      (plainEnv.onStream Relay.tcpReader okHead (fun _ => 4095) (fun _ => 4095) eagerTarget)
      ⟨.http, ascii "proxy:8080", none⟩ (ascii "a:80") = .ok (.prefixConn (ascii "he")) := by
    decide +kernel
  have parsed : okHead.parse (Relay.tcpReader.content eagerTarget) =
      some (⟨200, lengthBody 2⟩, 38) := by
    rfl
  obtain ⟨resp, n, r', parsed', -, reads⟩ := (http_tunnel_transparent Relay.tcpReader plainEnv
    ⟨.http, ascii "proxy:8080", none⟩ (ascii "a:80") okHead (fun _ => 4095) (fun _ => 4095)
    eagerTarget).2 _ dialled
  obtain ⟨rfl, rfl⟩ : ⟨200, lengthBody 2⟩ = resp ∧ 38 = n := by simpa [parsed] using parsed'
  refine ⟨dialled, r', (reads 5).trans ?_⟩
  decide +kernel

end EspNetwork.Proxy
