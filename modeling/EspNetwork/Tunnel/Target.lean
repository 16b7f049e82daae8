import EspNetwork.Host.Slot
import EspNetwork.Proxy.Address
import EspNetwork.Serial.Codec
import EspNetwork.Settings.Buffers
import EspNetwork.Socks.Http

/-!
# The address of the proxy server

`--proxy` names the server at whose end the relay is. `main` of `ctrl/main.go` takes the text apart,
`TCPConnect` puts it into a request, and `tcp_mgr_connect` of the device hands it to `getaddrinfo` as
two C strings. The port is converted to 16 bits without a check on the way.
-/

namespace EspNetwork.Tunnel

open Serial
open Proxy (splitHostPort sprintfD atoi atoi_sprintfD)
open Settings (byteAt slice)

/-! ## From the argument to the socket -/

/-- What `main` makes of `--proxy`; it exits where the result is `none`. -/
def proxyTarget (proxyAddr : Bytes) : Option (Bytes × UInt16) := do
  let (proxyHost, proxyPortStr) ← splitHostPort proxyAddr
  let proxyPort ← Socks.strconvAtoi proxyPortStr
  return (proxyHost, UInt16.ofInt proxyPort)

/-- The payload that `TCPConnect` sends, unless the host is too long. -/
def tcpConnectRequest (host : Bytes) (port : UInt16) : Option Bytes :=
  if Host.maxHostLen < host.length then none else some (Host.Slot.tcpConnectPayload host port)

/-- What `getaddrinfo` is called with by `handle_proxy_connect`, when no connection is open. `host` is
the array of the handler, with what was in it. -/
def getaddrinfoArgs (host : CharArray 256) (payload : Bytes) :
    Except MemFault (Option (Bytes × Bytes)) := do
  match ← Settings.proxyConnectArgs host payload with
  | none => return none
  | some (host, port) => do
    let name ← host.ptr.read
    if 255 < name.length then return none
    else return some (name.chars, sprintfD port)

/-- The argument stands for this host and port. -/
def Names (proxyAddr host : Bytes) (port : ℤ) : Prop :=
  ∃ portStr, splitHostPort proxyAddr = some (host, portStr) ∧ Socks.strconvAtoi portStr = some port

/-- The relay is dialled under this name and service, whatever number its request has, however the
request arrives, and whatever the handler finds in its array. -/
def Dials (proxyAddr name service : Bytes) : Prop :=
  ∃ host port payload, proxyTarget proxyAddr = some (host, port) ∧
    tcpConnectRequest host port = some payload ∧
    ∀ (seq : Byte) (chunks : List Bytes) (cells : CharArray 256),
      chunks.flatten = buildRequest seq Host.cmdProxyConnect payload →
      ∃ f, (protoParserFeedAll protoParserCreate chunks).2 = [f] ∧ f.cmd = Firmware.cmdProxyConnect ∧
        getaddrinfoArgs cells f.payload = .ok (some (name, service))

/-! ## The argument -/

/-- The host is a piece of the argument. -/
theorem mem_of_splitHostPort {hostport host port : Bytes}
    (split : splitHostPort hostport = some (host, port)) {b : Byte} (mem : b ∈ host) :
    b ∈ hostport := by
  unfold splitHostPort at split
  dsimp only at split
  split_ifs at split
  · obtain ⟨rfl, -⟩ : _ ∧ _ := by simpa using split
    exact List.mem_of_mem_tail (List.takeWhile_subset _ mem)
  · obtain ⟨rfl, -⟩ : _ ∧ _ := by simpa using split
    exact List.mem_of_mem_take mem

theorem proxyTarget_of_names {proxyAddr host : Bytes} {port : ℤ} (names : Names proxyAddr host port) :
    proxyTarget proxyAddr = some (host, UInt16.ofInt port) := by
  obtain ⟨portStr, split, number⟩ := names
  simp [proxyTarget, split, number]

theorem toNat_ofInt (port : ℤ) : (UInt16.ofInt port).toNat = port % 65536 := by
  rw [UInt16.ofInt, UInt16.toNat_ofNat']
  omega

/-- A port outside of 16 bits becomes another one. -/
theorem ofInt_exact {port : ℤ} :
    ((UInt16.ofInt port).toNat : ℤ) = port ↔ 0 ≤ port ∧ port < 65536 := by
  rw [toNat_ofInt]
  omega

/-! ## The request -/

theorem length_tcpConnectPayload (host : Bytes) (port : UInt16) :
    (Host.Slot.tcpConnectPayload host port).length = host.length + 3 := by
  simp [Host.Slot.tcpConnectPayload]

theorem loByte_eq (n : UInt16) : loByte n = n.toUInt8 := by
  rw [← UInt8.toNat_inj, toNat_loByte, UInt16.toNat_toUInt8]

/-- The handler finds the host in front of its terminator, and the port. -/
theorem getaddrinfoArgs_tcpConnectPayload {host : Bytes} (short : host.length ≤ Host.maxHostLen)
    (noNul : 0 ∉ host) (port : UInt16) (cells : CharArray 256) :
    getaddrinfoArgs cells (Host.Slot.tcpConnectPayload host port) =
      .ok (some (host, sprintfD port)) := by
  have limit : host.length ≤ 253 := short
  have size : (UInt8.ofNat host.length).toNat = host.length := by
    rw [UInt8.toNat_ofNat']
    omega
  have first : byteAt (Host.Slot.tcpConnectPayload host port) 0 = host.length := size
  have whole : slice (Host.Slot.tcpConnectPayload host port) 1 host.length = host :=
    List.take_left' rfl
  have high : (Host.Slot.tcpConnectPayload host port).getD (1 + host.length) 0 = hiByte port := by
    simp [Host.Slot.tcpConnectPayload, Nat.add_comm 1, hiByte]
  have low : (Host.Slot.tcpConnectPayload host port).getD (2 + host.length) 0 = loByte port := by
    rw [loByte_eq]
    simp [Host.Slot.tcpConnectPayload, show 2 + host.length = host.length + 1 + 1 by omega]
  obtain ⟨copied, copy, cells_copied⟩ := cells.memcpy_of_le (show host.length ≤ 256 by omega)
  obtain ⟨ended, put, cells_ended⟩ := copied.put_of_lt 0 (show host.length < 256 by omega)
  have front : ended.cells = host ++ 0 :: (cells.cells.drop (host.length + 1)) := by
    rw [cells_ended, cells_copied, List.set_append_right _ _ le_rfl, Nat.sub_self]
    have more : host.length < cells.cells.length := by
      rw [cells.length_cells]
      omega
    rw [List.drop_eq_getElem_cons more, List.set_cons_zero]
  have terminated : ended.Terminated := by simp [CharArray.Terminated, front]
  have string : ended.str.chars = host := by
    rw [CharArray.str, front, CString.ofBytes_append_nul]
    exact CString.ofBytes_eq_iff.mpr noNul
  have args : Settings.proxyConnectArgs cells (Host.Slot.tcpConnectPayload host port) =
      .ok (some (ended, port)) := by
    rw [Settings.proxyConnectArgs_eq]
    dsimp only
    rw [first, whole, high, low, ofPair_hiByte_loByte, length_tcpConnectPayload,
      if_neg (by omega), copy, Except.ok_bind, put, Except.ok_bind]
    rfl
  have fits : ¬ 255 < ended.str.length := by
    rw [CString.length, string]
    omega
  rw [getaddrinfoArgs, args, Except.ok_bind]
  dsimp only
  rw [CharArray.ptr, if_pos terminated, CharPtr.read, Except.ok_bind, if_neg fits, string]
  rfl

/-- The request is one frame to the device. -/
theorem parsed_request {payload : Bytes} (fits : payload.length ≤ protoMaxPayload) {seq cmd : Byte}
    {chunks : List Bytes} (wire : chunks.flatten = buildRequest seq cmd payload) :
    (protoParserFeedAll protoParserCreate chunks).2 = [⟨seq, cmd, payload⟩] := by
  have encoded : chunks.flatten = ([⟨seq, cmd, payload⟩].map encodeFrame).flatten := by
    rw [wire, buildRequest_eq_encodeFrame seq cmd fits]
    simp
  exact (protoParserFeedAll_encodeFrames (by simpa using fits) encoded).1

/-! ## The whole way -/

theorem dials_of_short {proxyAddr host name service : Bytes} {port : UInt16}
    (target : proxyTarget proxyAddr = some (host, port)) (noNul : 0 ∉ host)
    (short : host.length ≤ Host.maxHostLen) :
    Dials proxyAddr name service ↔ name = host ∧ service = sprintfD port := by
  have request : tcpConnectRequest host port = some (Host.Slot.tcpConnectPayload host port) :=
    if_neg (by omega)
  have fits : (Host.Slot.tcpConnectPayload host port).length ≤ protoMaxPayload := by
    have limit : host.length ≤ 253 := short
    rw [length_tcpConnectPayload, protoMaxPayload]
    omega
  constructor
  · rintro ⟨host', port', payload, target', request', arrives⟩
    obtain ⟨rfl, rfl⟩ : host = host' ∧ port = port' := by simpa [target] using target'
    obtain rfl := Option.some.inj (request.symm.trans request')
    obtain ⟨f, parsed, -, args⟩ := arrives 0 [_] (CharArray.zero 256) List.flatten_singleton
    rw [parsed_request fits List.flatten_singleton] at parsed
    obtain rfl := List.singleton_inj.mp parsed
    rw [getaddrinfoArgs_tcpConnectPayload short noNul] at args
    obtain ⟨rfl, rfl⟩ : host = name ∧ sprintfD port = service := by simpa using args
    exact ⟨rfl, rfl⟩
  · rintro ⟨rfl, rfl⟩
    refine ⟨name, port, _, target, request, fun seq chunks cells wire => ?_⟩
    exact ⟨_, parsed_request fits wire, rfl, getaddrinfoArgs_tcpConnectPayload short noNul port cells⟩

theorem not_dials_of_long {proxyAddr host name service : Bytes} {port : UInt16}
    (target : proxyTarget proxyAddr = some (host, port)) (long : Host.maxHostLen < host.length) :
    ¬ Dials proxyAddr name service := by
  rintro ⟨host', port', payload, target', request, -⟩
  obtain ⟨rfl, rfl⟩ : host = host' ∧ port = port' := by simpa [target] using target'
  rw [tcpConnectRequest, if_pos long] at request
  cases request

/-- **The relay is dialled where `--proxy` says, unless the port does not fit.** For every argument
of the process that stands for a host and a number, the device resolves this host and the number
modulo 65536, or is never asked if the host is too long. So it dials what the argument says exactly
if the host has at most 253 bytes and the port is one. -/
theorem relay_dials_proxy (proxyAddr : CString) {host : Bytes} {port : ℤ}
    (names : Names proxyAddr.chars host port) :
    (∀ name service, Dials proxyAddr.chars name service ↔
      host.length ≤ Host.maxHostLen ∧ name = host ∧ service = sprintfD (UInt16.ofInt port)) ∧
    ((∃ service, Dials proxyAddr.chars host service ∧ (atoi service : ℤ) = port) ↔
      host.length ≤ Host.maxHostLen ∧ 0 ≤ port ∧ port < 65536) := by
  have target := proxyTarget_of_names names
  have noNul : 0 ∉ host := by
    obtain ⟨portStr, split, -⟩ := names
    exact fun mem => proxyAddr.noNul (mem_of_splitHostPort split mem)
  have dials : ∀ name service, Dials proxyAddr.chars name service ↔
      host.length ≤ Host.maxHostLen ∧ name = host ∧ service = sprintfD (UInt16.ofInt port) := by
    intro name service
    by_cases short : host.length ≤ Host.maxHostLen
    · simp only [dials_of_short target noNul short, short, true_and]
    · exact iff_of_false (not_dials_of_long target (by omega)) fun h => short h.1
  refine ⟨dials, ?_⟩
  constructor
  · rintro ⟨service, dialled, number⟩
    obtain ⟨short, -, rfl⟩ := (dials host service).mp dialled
    rw [atoi_sprintfD] at number
    exact ⟨short, ofInt_exact.mp number⟩
  · rintro ⟨short, range⟩
    refine ⟨_, (dials _ _).mpr ⟨short, rfl, rfl⟩, ?_⟩
    rw [atoi_sprintfD]
    exact ofInt_exact.mpr range

/-- The port 70000 is dialled as 4464. -/
theorem relay_dials_proxy_wrapped :
    Dials (CString.ofBytes (Proxy.ascii "h:70000")).chars [0x68] (sprintfD 4464) ∧
      ¬ ∃ service, Dials (CString.ofBytes (Proxy.ascii "h:70000")).chars [0x68] service ∧
        (atoi service : ℤ) = 70000 := by
  have names : Names (CString.ofBytes (Proxy.ascii "h:70000")).chars [0x68] 70000 :=
    ⟨Proxy.ascii "70000", by decide +kernel, by decide +kernel⟩
  obtain ⟨dials, exact_port⟩ := relay_dials_proxy _ names
  refine ⟨(dials _ _).mpr ⟨by decide, rfl, by decide +kernel⟩, fun dialled => ?_⟩
  have := (exact_port.mp dialled).2.2
  omega

end EspNetwork.Tunnel
