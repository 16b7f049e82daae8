import EspNetwork.Relay.Wire

/-!
# What a SOCKS5 client sends

The grammar that `handleSOCKS5` of `ctrl/socks5/socks5.go` is to accept: a greeting with the
methods the client knows, and a request with an address of one of three types. `Dialogue` says
which replies each stream deserves, and which target is to be reached.
-/

namespace EspNetwork.Socks

open Serial (Byte Bytes)
open Relay (uint16 putUint16)

/-! ## Addresses as text -/

def digits (base n : ℕ) : Bytes := (Nat.toDigits base n).map fun c => UInt8.ofNat c.toNat

def joined (sep : Bytes) (parts : List Bytes) : Bytes := (parts.intersperse sep).flatten

/-- Four bytes with dots between. -/
def dotted (ip : Bytes) : Bytes := joined [0x2E] (ip.map fun b => digits 10 b.toNat)

/-- The 16-bit groups of an IPv6 address. -/
def groups : Bytes → List ℕ
  | hi :: lo :: rest => (256 * hi.toNat + lo.toNat) :: groups rest
  | _ => []

/-- Start and length of the first longest run of two or more zero groups. -/
def zeroRun (gs : List ℕ) : ℕ × ℕ :=
  (List.range gs.length).foldl (fun best i =>
    let len := ((gs.drop i).takeWhile (· = 0)).length
    if 2 ≤ len ∧ best.2 < len then (i, len) else best) (0, 0)

def coloned (gs : List ℕ) : Bytes := joined [0x3A] (gs.map (digits 16))

/-- `netip.Addr.String` of an IPv6 address; two colons stand for the run of zero groups. -/
def ipv6String (gs : List ℕ) : Bytes :=
  let (start, len) := zeroRun gs
  if len = 0 then coloned gs
  else coloned (gs.take start) ++ [0x3A, 0x3A] ++ coloned (gs.drop (start + len))

/-- `net.IP.String`; an IPv6 address that maps an IPv4 address is written as the latter. -/
def ipString (ip : Bytes) : Bytes :=
  if ip.length = 4 then dotted ip
  else if ip.take 12 = List.replicate 10 0 ++ [0xFF, 0xFF] then dotted (ip.drop 12)
  else ipv6String (groups ip)

example : ipString [0x20, 1, 0, 0, 0, 0, 0, 1, 0, 0, 0, 0, 0, 0, 0, 0xA] =
    [0x32, 0x30, 0x30, 0x31, 0x3A, 0x30, 0x3A, 0x30, 0x3A, 0x31, 0x3A, 0x3A, 0x61] := by
  decide +kernel

/-! ## The grammar -/

/-- The version and the methods of the client, with their number. -/
structure Greeting where
  nmethods : Byte
  methods : Vector Byte nmethods.toNat

def Greeting.bytes (g : Greeting) : Bytes := 5 :: g.nmethods :: g.methods.toList

inductive SocksAddr where
  | ipv4 (ip : Vector Byte 4)
  | domain (len : Byte) (name : Vector Byte len.toNat)
  | ipv6 (ip : Vector Byte 16)

def SocksAddr.atyp : SocksAddr → Byte
  | .ipv4 _ => 1
  | .domain _ _ => 3
  | .ipv6 _ => 4

def SocksAddr.body : SocksAddr → Bytes
  | .ipv4 ip => ip.toList
  | .domain len name => len :: name.toList
  | .ipv6 ip => ip.toList

/-- The decoded address. -/
def SocksAddr.host : SocksAddr → Bytes
  | .ipv4 ip => ipString ip.toList
  | .domain _ name => name.toList
  | .ipv6 ip => ipString ip.toList

/-- `binary.BigEndian`. -/
def bigEndian (port : UInt16) : Bytes := (putUint16 port).reverse

/-- A request to connect, behind the greeting. -/
structure ConnectRequest where
  rsv : Byte
  addr : SocksAddr
  port : UInt16

def ConnectRequest.bytes (q : ConnectRequest) : Bytes :=
  [5, 1, q.rsv, q.addr.atyp] ++ q.addr.body ++ bigEndian q.port

/-- A call of `Connect`. -/
abbrev Call := Bytes × UInt16

def ConnectRequest.call (q : ConnectRequest) : Call := (q.addr.host, q.port)

/-! ## The protocol -/

/-- VER=5, REP, RSV=0, ATYP=1 (IPv4), BND.ADDR=0.0.0.0, BND.PORT=0. -/
def socks5Reply (rep : Byte) : Bytes := [5, rep, 0, 1, 0, 0, 0, 0, 0, 0]

/-- What a client sees and what it brings about; `relayed` is the part of its stream that is left
for the target. -/
structure Outcome where
  replies : List Bytes
  calls : List Call
  relayed : Option Bytes

/-- The answer to what stands behind the greeting. `accepts` says of the calls made so far whether
the last one succeeds. -/
inductive Answered (accepts : List Call → Bool) : Bytes → Outcome → Prop
  | headCut {tail : Bytes} (short : tail.length < 4) : Answered accepts tail ⟨[], [], none⟩
  | version {v c rsv t : Byte} {rest : Bytes} (other : v ≠ 5) :
      Answered accepts ([v, c, rsv, t] ++ rest) ⟨[], [], none⟩
  | command {c rsv t : Byte} {rest : Bytes} (other : c ≠ 1) :
      Answered accepts ([5, c, rsv, t] ++ rest) ⟨[socks5Reply 7], [], none⟩
  | addrType {rsv t : Byte} {rest : Bytes} (unknown : ∀ addr : SocksAddr, addr.atyp ≠ t) :
      Answered accepts ([5, 1, rsv, t] ++ rest) ⟨[socks5Reply 8], [], none⟩
  | addressCut {rsv t : Byte} {rest : Bytes} (known : ∃ addr : SocksAddr, addr.atyp = t)
      (cut : ∀ addr : SocksAddr, addr.atyp = t → ∀ port, ¬ addr.body ++ bigEndian port <+: rest) :
      Answered accepts ([5, 1, rsv, t] ++ rest) ⟨[], [], none⟩
  | refused {q : ConnectRequest} {rest : Bytes} (fails : accepts [q.call] = false) :
      Answered accepts (q.bytes ++ rest) ⟨[socks5Reply 5], [q.call], none⟩
  | connected {q : ConnectRequest} {rest : Bytes} (succeeds : accepts [q.call] = true) :
      Answered accepts (q.bytes ++ rest) ⟨[socks5Reply 0], [q.call], some rest⟩

/-- The whole dialogue with a client whose stream is empty or begins with the version. -/
inductive Dialogue (accepts : List Call → Bool) : Bytes → Outcome → Prop
  | greetingCut {stream : Bytes} (version : ∀ v ∈ stream.head?, v = 5)
      (cut : ∀ g : Greeting, ¬ g.bytes <+: stream) : Dialogue accepts stream ⟨[], [], none⟩
  | noMethod {g : Greeting} {rest : Bytes} (none_fits : 0 ∉ g.methods.toList) :
      Dialogue accepts (g.bytes ++ rest) ⟨[[5, 0xFF]], [], none⟩
  | request {g : Greeting} {tail : Bytes} {replies : List Bytes} {calls : List Call}
      {relayed : Option Bytes} (fits : 0 ∈ g.methods.toList)
      (answered : Answered accepts tail ⟨replies, calls, relayed⟩) :
      Dialogue accepts (g.bytes ++ tail) ⟨[5, 0] :: replies, calls, relayed⟩

section Dialogue

variable {accepts : List Call → Bool} {o : Outcome}

theorem Dialogue.version {stream : Bytes} (h : Dialogue accepts stream o) :
    ∀ v ∈ stream.head?, v = 5 := by
  cases h with
  | greetingCut version => exact version
  | noMethod | request => simp [Greeting.bytes]

theorem Dialogue.of_nil (h : Dialogue accepts [] o) : o = ⟨[], [], none⟩ := by
  generalize empty : ([] : Bytes) = stream at h
  cases h with
  | greetingCut => rfl
  | noMethod | request => simp [Greeting.bytes] at empty

/-- A call is made for a complete request only. -/
theorem Answered.request {tail : Bytes} {call : Call} (h : Answered accepts tail o)
    (made : call ∈ o.calls) :
    ∃ (q : ConnectRequest) (rest : Bytes), tail = q.bytes ++ rest ∧ q.call = call := by
  cases h with
  | headCut | version | command | addrType | addressCut => simp at made
  | @refused q rest | @connected q rest => exact ⟨q, rest, rfl, (List.mem_singleton.mp made).symm⟩

theorem Dialogue.request_of_call {stream : Bytes} {call : Call} (h : Dialogue accepts stream o)
    (made : call ∈ o.calls) :
    ∃ (g : Greeting) (q : ConnectRequest) (rest : Bytes), 0 ∈ g.methods.toList ∧
      stream = g.bytes ++ (q.bytes ++ rest) ∧ q.call = call := by
  cases h with
  | greetingCut | noMethod => simp at made
  | @request g _ _ _ _ fits answered =>
    obtain ⟨q, rest, rfl, same⟩ := answered.request made
    exact ⟨g, q, rest, fits, rfl, same⟩

/-- A relay begins behind a request. -/
theorem Dialogue.call_of_relayed {stream rest : Bytes} (h : Dialogue accepts stream o)
    (begins : o.relayed = some rest) : ∃ call, call ∈ o.calls := by
  cases h with
  | greetingCut | noMethod => simp at begins
  | request fits answered =>
    cases answered with
    | headCut | version | command | addrType | addressCut | refused => simp at begins
    | @connected q => exact ⟨q.call, List.mem_singleton_self _⟩

/-- Every stream behind a greeting has its answer. -/
theorem exists_answered (tail : Bytes) : ∃ o, Answered accepts tail o := by
  rcases tail with _ | ⟨v, _ | ⟨c, _ | ⟨rsv, _ | ⟨t, rest⟩⟩⟩⟩
  iterate 4 exact ⟨_, .headCut (by simp)⟩
  by_cases version : v = 5
  swap
  · exact ⟨_, Answered.version version⟩
  subst version
  by_cases command : c = 1
  swap
  · exact ⟨_, Answered.command command⟩
  subst command
  by_cases known : ∃ addr : SocksAddr, addr.atyp = t
  swap
  · exact ⟨_, .addrType (not_exists.mp known)⟩
  by_cases cut : ∀ addr : SocksAddr, addr.atyp = t → ∀ port, ¬ addr.body ++ bigEndian port <+: rest
  · exact ⟨_, .addressCut known cut⟩
  push Not at cut
  obtain ⟨addr, rfl, port, rest, rfl⟩ := cut
  have whole : 5 :: 1 :: rsv :: addr.atyp :: (addr.body ++ bigEndian port ++ rest) =
      (ConnectRequest.mk rsv addr port).bytes ++ rest := by simp [ConnectRequest.bytes]
  rw [whole]
  cases result : accepts [(ConnectRequest.mk rsv addr port).call] with
  | false => exact ⟨_, .refused result⟩
  | true => exact ⟨_, .connected result⟩

/-- So has every stream that is empty or begins with the version. -/
theorem exists_dialogue {stream : Bytes} (version : ∀ v ∈ stream.head?, v = 5) :
    ∃ o, Dialogue accepts stream o := by
  by_cases cut : ∀ g : Greeting, ¬ g.bytes <+: stream
  · exact ⟨_, .greetingCut version cut⟩
  push Not at cut
  obtain ⟨g, tail, rfl⟩ := cut
  by_cases fits : 0 ∈ g.methods.toList
  · obtain ⟨o, answered⟩ := @exists_answered accepts tail
    exact ⟨_, .request fits answered⟩
  · exact ⟨_, .noMethod fits⟩

end Dialogue

end EspNetwork.Socks
