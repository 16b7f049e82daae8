import EspNetwork.Settings.Handlers

/-!
# The arguments of the handlers

The four handlers that take a payload apart copy strings of it into arrays of their own. Each
either finds that a length byte does not fit, or has arguments to pass on;
`handle_wifi_set_config` compares its length bytes with the payload, but not with `ssid[33]` and
`pass[65]`, so it may also write behind an array.
-/

namespace EspNetwork.Settings

open Serial
open Firmware (Answer statusInvalid)
open Fallible

/-! ## What the length bytes say -/

/-- The byte a handler finds at `p`. -/
def byteAt (payload : Bytes) (p : ℕ) : ℕ := (payload.getD p 0).toNat

/-- Both strings are in the payload and not longer than the arrays. -/
def ConfigCopied (payload : Bytes) : Prop :=
  let ssidLen := byteAt payload 0
  let passLen := byteAt payload (1 + ssidLen)
  2 + ssidLen + passLen ≤ payload.length ∧ ssidLen ≤ wifiMgrSsidMax + 1 ∧
    passLen ≤ wifiMgrPassMax + 1

def ConnectFits (payload : Bytes) : Prop := 3 + byteAt payload 0 ≤ payload.length

/-- The length bytes for which `handle_wifi_set_config` looks no further, or `memcpy` stays inside
its arrays. -/
def CopiesBounded (payload : Bytes) : Prop :=
  let ssidLen := byteAt payload 0
  let passLen := byteAt payload (1 + ssidLen)
  payload.length < 2 + ssidLen ∨
    ssidLen ≤ wifiMgrSsidMax + 1 ∧
      (payload.length < 2 + ssidLen + passLen ∨ passLen ≤ wifiMgrPassMax + 1)

/-! ## What the arguments are -/

variable {payload : Bytes}

theorem readByte_getD {p : ℕ} (h : p < payload.length) :
    readByte payload p = .ok (payload.getD p 0) := by
  simp [readByte, h]

/-- The `n` bytes of the payload from `p` on. -/
def slice (payload : Bytes) (p n : ℕ) : Bytes := (payload.drop p).take n

theorem length_slice {p n : ℕ} (h : p + n ≤ payload.length) : (slice payload p n).length = n := by
  simp [slice]
  omega

theorem wifiSetConfigArgs_eq :
    wifiSetConfigArgs payload =
      let ssidLen := byteAt payload 0
      let passLen := byteAt payload (1 + ssidLen)
      if payload.length < 2 + ssidLen then .ok none
      else do
        let ssid ← (CharArray.zero _).memcpy (slice payload 1 ssidLen)
        if payload.length < 2 + ssidLen + passLen then return none
        else
          let pass ← (CharArray.zero _).memcpy (slice payload (2 + ssidLen) passLen)
          return some (ssid, pass) := by
  dsimp only [wifiSetConfigArgs, byteAt]
  by_cases empty : payload.length < 1
  · have : payload = [] := by simpa using empty
    simp [this, pure, Except.pure]
  rw [if_neg empty, readByte_getD (p := 0) (by omega), Except.ok_bind]
  generalize payload.getD 0 0 = ssidLen
  by_cases short : payload.length < 2 + ssidLen.toNat
  · rw [if_pos short, if_pos (by omega)]
    rfl
  rw [if_neg short, if_neg (by omega), readBytes_of_le (by omega),
    readByte_getD (p := 0 + 1 + ssidLen.toNat) (by omega)]
  simp only [Except.ok_bind, Nat.zero_add]
  generalize payload.getD (1 + ssidLen.toNat) 0 = passLen
  congr 1
  funext ssid
  by_cases cut : payload.length < 2 + ssidLen.toNat + passLen.toNat
  · rw [if_pos cut, if_pos (by omega)]
  rw [if_neg cut, if_neg (by omega), readBytes_of_le (by omega), Except.ok_bind]
  rw [show 1 + ssidLen.toNat + 1 = 2 + ssidLen.toNat by omega]
  rfl

theorem wifiSetHostnameArgs_eq :
    wifiSetHostnameArgs payload =
      let hlen := byteAt payload 0
      if payload.length < 1 + hlen ∨ hlen = 0 ∨ wifiMgrHostnameMax < hlen then .ok none
      else do
        let hostname ← (CharArray.zero _).memcpy (slice payload 1 hlen)
        return some hostname := by
  dsimp only [wifiSetHostnameArgs, byteAt]
  by_cases empty : payload.length < 1
  · have : payload = [] := by simpa using empty
    simp [this, pure, Except.pure]
  rw [if_neg empty, readByte_getD (p := 0) (by omega), Except.ok_bind]
  generalize payload.getD 0 0 = hlen
  have zero : hlen = 0 ↔ hlen.toNat = 0 := by rw [← UInt8.toNat_inj]; rfl
  by_cases bad : payload.length < 1 + hlen.toNat ∨ hlen.toNat = 0 ∨ wifiMgrHostnameMax < hlen.toNat
  · rw [if_pos bad, if_pos (by rw [zero]; omega)]
    rfl
  rw [if_neg bad, if_neg (by rw [zero]; omega), readBytes_of_le (by omega), Except.ok_bind]
  rfl

theorem proxyConnectArgs_eq (host : CharArray 256) :
    proxyConnectArgs host payload =
      let hostLen := byteAt payload 0
      if payload.length < 3 + hostLen then .ok none
      else do
        let host ← host.memcpy (slice payload 1 hostLen)
        let host ← host.put hostLen 0
        return some
          (host, ofPair (payload.getD (1 + hostLen) 0) (payload.getD (2 + hostLen) 0)) := by
  dsimp only [proxyConnectArgs, byteAt]
  by_cases empty : payload.length < 1
  · have : payload = [] := by simpa using empty
    simp [this, pure, Except.pure]
  rw [if_neg empty, readByte_getD (p := 0) (by omega), Except.ok_bind]
  generalize payload.getD 0 0 = hostLen
  by_cases short : payload.length < 3 + hostLen.toNat
  · rw [if_pos short, if_pos (by omega)]
    rfl
  rw [if_neg short, if_neg (by omega), readBytes_of_le (by omega),
    readByte_getD (p := 0 + 1 + hostLen.toNat) (by omega),
    readByte_getD (p := 0 + 1 + hostLen.toNat + 1) (by omega)]
  simp only [Except.ok_bind, Nat.zero_add]
  rw [show 1 + hostLen.toNat + 1 = 2 + hostLen.toNat by omega]
  rfl

theorem byteAt_lt (p : ℕ) : byteAt payload p < 256 := (payload.getD p 0).toNat_lt

/-! ## How they are read -/

/-- `handle_led_set` refuses an empty payload, and no other. -/
theorem ledSetArgs_cases (payload : Bytes) :
    payload.length < 1 ∧ ledSetArgs payload = .ok none ∨
      1 ≤ payload.length ∧ ∃ val, ledSetArgs payload = .ok (some val) := by
  by_cases empty : payload.length < 1
  · exact .inl ⟨empty, by simp [ledSetArgs, empty, pure, Except.pure]⟩
  · refine .inr ⟨by omega, ?_⟩
    rw [ledSetArgs, if_neg empty, readByte_getD (by omega), Except.ok_bind]
    exact ⟨_, rfl⟩

/-- The hostname, as it stands in the payload. -/
def hostnameOf (payload : Bytes) : Bytes := slice payload 1 (byteAt payload 0)

def HostnameRefused (payload : Bytes) : Prop :=
  let hlen := byteAt payload 0
  payload.length < 1 + hlen ∨ hlen = 0 ∨ wifiMgrHostnameMax < hlen

/-- A hostname that is not refused fits its array with a terminator. -/
theorem wifiSetHostnameArgs_cases (payload : Bytes) :
    HostnameRefused payload ∧ wifiSetHostnameArgs payload = .ok none ∨
      ¬ HostnameRefused payload ∧ ∃ hostname, wifiSetHostnameArgs payload = .ok (some hostname) ∧
        (CString.ofBytes (hostnameOf payload)).length ≤ wifiMgrHostnameMax ∧
        hostname.ptr = .string (.ofBytes (hostnameOf payload)) := by
  rw [wifiSetHostnameArgs_eq]
  unfold HostnameRefused hostnameOf
  dsimp only
  generalize byteAt payload 0 = hlen
  split_ifs with bad
  · exact .inl ⟨bad, rfl⟩
  have len : (slice payload 1 hlen).length = hlen := length_slice (by omega)
  obtain ⟨hostname, copied, hostname_ptr⟩ := CharArray.memcpy_zero
    (show (slice payload 1 hlen).length ≤ wifiMgrHostnameMax + 1 by omega)
  have ends : Terminates (wifiMgrHostnameMax + 1) (slice payload 1 hlen) := .inl (by omega)
  have lt := CString.length_ofBytes_lt ends (by omega)
  rw [CharPtr.inArray, if_pos ends] at hostname_ptr
  rw [copied, Except.ok_bind]
  exact .inr ⟨bad, hostname, rfl, by omega, hostname_ptr⟩

/-- A request that is not refused leaves a terminated host. -/
theorem proxyConnectArgs_cases (host : CharArray 256) (payload : Bytes) :
    ¬ ConnectFits payload ∧ proxyConnectArgs host payload = .ok none ∨
      ConnectFits payload ∧ ∃ ended port, proxyConnectArgs host payload = .ok (some (ended, port)) ∧
        ended.Terminated := by
  rw [proxyConnectArgs_eq]
  unfold ConnectFits
  dsimp only
  split_ifs with bad
  · exact .inl ⟨by omega, rfl⟩
  · have len : (slice payload 1 (byteAt payload 0)).length = byteAt payload 0 :=
      length_slice (by omega)
    have small : byteAt payload 0 < 256 := byteAt_lt 0
    obtain ⟨copied, hcopied, -⟩ := host.memcpy_of_le
      (show (slice payload 1 (byteAt payload 0)).length ≤ 256 by omega)
    obtain ⟨ended, hended, cells⟩ := copied.put_of_lt 0 small
    have terminated : ended.Terminated := by
      rw [CharArray.Terminated, cells]
      exact List.mem_set (by rwa [copied.length_cells]) 0
    rw [hcopied, Except.ok_bind, hended, Except.ok_bind]
    exact .inr ⟨by omega, ended, _, rfl, terminated⟩

/-- Both strings, as they stand in the payload. -/
def configSsid (payload : Bytes) : Bytes := slice payload 1 (byteAt payload 0)

def configPass (payload : Bytes) : Bytes :=
  slice payload (2 + byteAt payload 0) (byteAt payload (1 + byteAt payload 0))

/-- A length byte that does not fit the payload is seen before the string is copied. -/
def ConfigRefused (payload : Bytes) : Prop :=
  let ssidLen := byteAt payload 0
  let passLen := byteAt payload (1 + ssidLen)
  payload.length < 2 + ssidLen ∨
    ssidLen ≤ wifiMgrSsidMax + 1 ∧ payload.length < 2 + ssidLen + passLen

theorem ConfigCopied.length_configSsid (h : ConfigCopied payload) :
    (configSsid payload).length = byteAt payload 0 := by
  unfold ConfigCopied at h
  exact length_slice (by omega)

theorem ConfigCopied.length_configPass (h : ConfigCopied payload) :
    (configPass payload).length = byteAt payload (1 + byteAt payload 0) := by
  unfold ConfigCopied at h
  exact length_slice (by omega)

theorem ConfigRefused.not_copied (h : ConfigRefused payload) : ¬ ConfigCopied payload := by
  unfold ConfigRefused at h
  unfold ConfigCopied
  omega

theorem ConfigRefused.bounded (h : ConfigRefused payload) : CopiesBounded payload := by
  unfold ConfigRefused at h
  unfold CopiesBounded
  omega

theorem ConfigCopied.bounded (h : ConfigCopied payload) : CopiesBounded payload := by
  unfold ConfigCopied at h
  unfold CopiesBounded
  omega

/-- How `handle_wifi_set_config` reads its payload: it refuses it, writes behind an array, or
has two strings to pass on. -/
theorem wifiSetConfigArgs_cases (payload : Bytes) :
    ConfigRefused payload ∧ wifiSetConfigArgs payload = .ok none ∨
      ¬ CopiesBounded payload ∧ wifiSetConfigArgs payload = .error .write ∨
      ConfigCopied payload ∧ ∃ ssid pass, wifiSetConfigArgs payload = .ok (some (ssid, pass)) ∧
        ssid.ptr = .inArray (wifiMgrSsidMax + 1) (configSsid payload) ∧
        pass.ptr = .inArray (wifiMgrPassMax + 1) (configPass payload) := by
  rw [wifiSetConfigArgs_eq]
  unfold CopiesBounded ConfigCopied ConfigRefused configSsid configPass
  dsimp only
  generalize byteAt payload 0 = ssidLen
  generalize byteAt payload (1 + ssidLen) = passLen
  by_cases short : payload.length < 2 + ssidLen
  · exact .inl ⟨.inl short, by rw [if_pos short]⟩
  rw [if_neg short]
  have ssid_len : (slice payload 1 ssidLen).length = ssidLen := length_slice (by omega)
  by_cases wide : wifiMgrSsidMax + 1 < ssidLen
  · refine .inr (.inl ⟨by omega, ?_⟩)
    rw [CharArray.memcpy_of_lt _ (by omega), Except.error_bind]
  obtain ⟨ssid, copied, ssid_ptr⟩ :=
    CharArray.memcpy_zero (show (slice payload 1 ssidLen).length ≤ wifiMgrSsidMax + 1 by omega)
  rw [copied, Except.ok_bind]
  by_cases cut : payload.length < 2 + ssidLen + passLen
  · exact .inl ⟨by omega, by rw [if_pos cut]; rfl⟩
  rw [if_neg cut]
  have pass_len : (slice payload (2 + ssidLen) passLen).length = passLen :=
    length_slice (by omega)
  by_cases long : wifiMgrPassMax + 1 < passLen
  · refine .inr (.inl ⟨by omega, ?_⟩)
    rw [CharArray.memcpy_of_lt _ (by omega), Except.error_bind]
  obtain ⟨pass, copied, pass_ptr⟩ := CharArray.memcpy_zero
    (show (slice payload (2 + ssidLen) passLen).length ≤ wifiMgrPassMax + 1 by omega)
  rw [copied, Except.ok_bind]
  exact .inr (.inr ⟨by omega, ssid, pass, rfl, ssid_ptr, pass_ptr⟩)

/-! ## The relay's model -/

variable {f : ProtoFrame}

/-- The relay's handler refuses exactly where the checked arguments do, and otherwise connects
to the host in front of the terminator. -/
theorem handleProxyConnect_eq (host : CharArray 256) :
    Firmware.handleProxyConnect f =
      match proxyConnectArgs host f.payload with
      | .ok (some (host, port)) => .connectBusy f (host.cells.take (byteAt f.payload 0)) port
      | _ => .respond f invalid := by
  rw [proxyConnectArgs_eq]
  unfold Firmware.handleProxyConnect
  cases payload : f.payload with
  | nil => rfl
  | cons hostLen rest =>
    have first : byteAt (hostLen :: rest) 0 = hostLen.toNat := rfl
    have small : hostLen.toNat < 256 := hostLen.toNat_lt
    dsimp only
    rw [first]
    by_cases short : rest.length < hostLen.toNat + 2
    · rw [if_pos short, if_pos (by simp; omega)]
      rfl
    have shift : slice (hostLen :: rest) 1 hostLen.toNat = rest.take hostLen.toNat := rfl
    have len : (rest.take hostLen.toNat).length = hostLen.toNat := by simp; omega
    obtain ⟨copied, hcopied, cells⟩ := host.memcpy_of_le
      (show (rest.take hostLen.toNat).length ≤ 256 by omega)
    obtain ⟨ended, hended, ended_cells⟩ := copied.put_of_lt 0 small
    rw [if_neg short, if_neg (by simp; omega), shift, hcopied, Except.ok_bind, hended,
      Except.ok_bind]
    have kept : ended.cells.take hostLen.toNat = rest.take hostLen.toNat := by
      rw [ended_cells, cells, List.take_set_of_le (le_refl _), List.take_left' len]
    have hi : (hostLen :: rest).getD (1 + hostLen.toNat) 0 = rest.getD hostLen.toNat 0 := by
      rw [Nat.add_comm, List.getD_cons_succ]
    have lo : (hostLen :: rest).getD (2 + hostLen.toNat) 0 = rest.getD (hostLen.toNat + 1) 0 := by
      rw [show 2 + hostLen.toNat = hostLen.toNat + 1 + 1 by omega, List.getD_cons_succ]
    rw [hi, lo]
    simp only [pure, Except.pure, kept]

end EspNetwork.Settings
