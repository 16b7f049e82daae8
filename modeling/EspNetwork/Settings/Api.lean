import EspNetwork.Settings.Buffers
import EspNetwork.Settings.Credentials

/-!
# Settings through the API

`handleWifiSetConfig`, `handleWifiGetConfig`, `handleWifiSetHostname` and
`handleWifiGetHostname` of `ctrl/api/api.go` against the device: what was set with an answer of
`PROTO_STATUS_OK` is read back later. A string crosses as a length byte with its bytes, and is
a C string on the device, where a NUL ends it.
-/

namespace EspNetwork.Settings

open Serial (Byte Bytes ProtoFrame)
open Firmware (Answer statusOk statusError statusBusy statusInvalid ok error)
open Fallible Schedule

/-! ## The API -/

/-- How a handler ends without a result: with an HTTP status and a text, or in a slice
expression that reaches behind the payload. -/
inductive ApiError where
  | http (status : ℕ) (text : String)
  | overrun
  deriving DecidableEq, Repr

def statusBadRequest : ℕ := 400
def statusBadGateway : ℕ := 502

/-- `Status.String`. -/
def statusString (s : Byte) : String :=
  if s = statusOk then "OK"
  else if s = statusError then "error"
  else if s = statusBusy then "busy"
  else if s = statusInvalid then "invalid"
  else if s = 0x04 then "timeout"
  else "unknown"

/-- `checkStatus`, with the answer of its callers. -/
def checkStatus (a : Answer) : Except ApiError Bytes :=
  if a.status ≠ statusOk then
    .error (.http statusBadGateway ("device returned status " ++ statusString a.status))
  else .ok (a.data.getD [])

/-- A length byte and the bytes it counts. -/
def lenPrefixed (s : Bytes) : Bytes := UInt8.ofNat s.length :: s

/-- The payload of `handleWifiSetConfig`. -/
def apiSetConfig (ssid password : Bytes) : Except ApiError Bytes :=
  if ssid.length = 0 ∨ ssid.length > 32 then
    .error (.http statusBadRequest "ssid must be 1–32 bytes")
  else if password.length > 64 then
    .error (.http statusBadRequest "password must be ≤ 64 bytes")
  else .ok (lenPrefixed ssid ++ lenPrefixed password)

/-- What `handleWifiGetConfig` makes of the answer: the SSID and the password. -/
def apiGetConfig (a : Answer) : Except ApiError (Bytes × Bytes) := do
  let p ← checkStatus a
  if p.length < 1 then throw (.http statusBadGateway "short payload")
  else
    let ssidLen := byteAt p 0
    if p.length < 1 + ssidLen + 1 then throw (.http statusBadGateway "truncated payload")
    else
      let ssid := slice p 1 ssidLen
      let passLen := byteAt p (1 + ssidLen)
      if p.length < 2 + ssidLen + passLen then throw .overrun
      else return (ssid, slice p (2 + ssidLen) passLen)

/-- The payload of `handleWifiSetHostname`. -/
def apiSetHostname (hostname : Bytes) : Except ApiError Bytes :=
  if hostname.length = 0 ∨ hostname.length > 32 then
    .error (.http statusBadRequest "hostname must be 1–32 bytes")
  else .ok (lenPrefixed hostname)

/-- What `handleWifiGetHostname` makes of the answer. -/
def apiGetHostname (a : Answer) : Except ApiError Bytes := do
  let p ← checkStatus a
  if p.length < 1 then throw (.http statusBadGateway "short payload")
  else
    let hlen := byteAt p 0
    if p.length < 1 + hlen then throw (.http statusBadGateway "truncated payload")
    else return slice p 1 hlen

/-! ## Length bytes -/

variable {ssid password hostname : Bytes}

theorem length_lenPrefixed : (lenPrefixed hostname).length = 1 + hostname.length := by
  simp [lenPrefixed, Nat.add_comm]

theorem length_lenPrefixed_append :
    (lenPrefixed ssid ++ lenPrefixed password).length = 2 + ssid.length + password.length := by
  rw [List.length_append, length_lenPrefixed, length_lenPrefixed]
  omega

theorem byteAt_lenPrefixed (h : hostname.length < 256) (more : Bytes) :
    byteAt (lenPrefixed hostname ++ more) 0 = hostname.length := by
  have : (UInt8.ofNat hostname.length).toNat = hostname.length := UInt8.toNat_ofNat_of_lt' h
  simpa [byteAt, lenPrefixed] using this

theorem hostnameOf_lenPrefixed (h : hostname.length < 256) (more : Bytes) :
    hostnameOf (lenPrefixed hostname ++ more) = hostname := by
  rw [hostnameOf, byteAt_lenPrefixed h]
  simp [slice, lenPrefixed]

theorem byteAt_second (hs : ssid.length < 256) (hp : password.length < 256) :
    byteAt (lenPrefixed ssid ++ lenPrefixed password)
      (1 + byteAt (lenPrefixed ssid ++ lenPrefixed password) 0) = password.length := by
  have : (UInt8.ofNat password.length).toNat = password.length := UInt8.toNat_ofNat_of_lt' hp
  rw [byteAt_lenPrefixed hs]
  simpa [byteAt, lenPrefixed, Nat.add_comm] using this

theorem configSsid_lenPrefixed (hs : ssid.length < 256) :
    configSsid (lenPrefixed ssid ++ lenPrefixed password) = ssid :=
  hostnameOf_lenPrefixed hs _

theorem configPass_lenPrefixed (hs : ssid.length < 256) (hp : password.length < 256) :
    configPass (lenPrefixed ssid ++ lenPrefixed password) = password := by
  rw [configPass, byteAt_second hs hp, byteAt_lenPrefixed hs]
  simp [slice, lenPrefixed, Nat.add_comm]

/-! ## Both ends of a string -/

theorem apiGetConfig_eq_ok {a : Answer} (status : a.status = statusOk)
    (data : a.data = some (lenPrefixed ssid ++ lenPrefixed password)) (hs : ssid.length < 256)
    (hp : password.length < 256) : apiGetConfig a = .ok (ssid, password) := by
  have first : configSsid (lenPrefixed ssid ++ lenPrefixed password) = ssid :=
    configSsid_lenPrefixed hs
  have second := configPass_lenPrefixed hs hp
  have m := byteAt_second hs hp
  have n := byteAt_lenPrefixed hs (lenPrefixed password)
  have len : (lenPrefixed ssid ++ lenPrefixed password).length =
      2 + ssid.length + password.length := length_lenPrefixed_append
  rw [configSsid, n] at first
  rw [configPass, m, n] at second
  rw [n] at m
  simp only [apiGetConfig, checkStatus, status, data, Option.getD_some, ne_eq, not_true_eq_false,
    if_false, Except.ok_bind, n, m, len, first, second]
  rw [if_neg (by omega), if_neg (by omega), if_neg (by omega)]
  rfl

theorem apiGetHostname_eq_ok {a : Answer} (status : a.status = statusOk)
    (data : a.data = some (lenPrefixed hostname)) (h : hostname.length < 256) :
    apiGetHostname a = .ok hostname := by
  have read := hostnameOf_lenPrefixed h []
  have n := byteAt_lenPrefixed h []
  have len : (lenPrefixed hostname).length = 1 + hostname.length := length_lenPrefixed
  rw [List.append_nil] at read n
  rw [hostnameOf, n] at read
  simp only [apiGetHostname, checkStatus, status, data, Option.getD_some, ne_eq,
    not_true_eq_false, if_false, Except.ok_bind, n, len, read]
  rw [if_neg (by omega), if_neg (by omega)]
  rfl

variable {fails : Failures} {b c : Board}

/-- What the API accepts, the handler takes apart without a fault. -/
theorem handleWifiSetConfig_lenPrefixed (hs : ssid.length ≤ 32) (hp : password.length ≤ 64)
    (seq : Byte) :
    handleWifiSetConfig fails ⟨seq, cmdWifiSetConfig, lenPrefixed ssid ++ lenPrefixed password⟩ =
      answerOf <$>
        wifiMgrSetConfig fails (.string (.ofBytes ssid)) (.string (.ofBytes password)) := by
  have first : configSsid (lenPrefixed ssid ++ lenPrefixed password) = ssid :=
    configSsid_lenPrefixed (by omega)
  have second : configPass (lenPrefixed ssid ++ lenPrefixed password) = password :=
    configPass_lenPrefixed (by omega) (by omega)
  have fits : ConfigCopied (lenPrefixed ssid ++ lenPrefixed password) := by
    have n := byteAt_lenPrefixed (show ssid.length < 256 by omega) (lenPrefixed password)
    have m := byteAt_second (show ssid.length < 256 by omega) (show password.length < 256 by omega)
    have len : (lenPrefixed ssid ++ lenPrefixed password).length =
        2 + ssid.length + password.length := length_lenPrefixed_append
    unfold ConfigCopied
    dsimp only
    rw [m, n, len, wifiMgrSsidMax, wifiMgrPassMax]
    omega
  obtain ⟨refused, -⟩ | ⟨unbounded, -⟩ | ⟨-, ssid', pass', args, ssid_ptr, pass_ptr⟩ :=
    wifiSetConfigArgs_cases (lenPrefixed ssid ++ lenPrefixed password)
  · exact absurd fits refused.not_copied
  · exact absurd fits.bounded unbounded
  · rw [handleWifiSetConfig_args args, ssid_ptr, pass_ptr, first, second, CharPtr.inArray,
      CharPtr.inArray, if_pos (.inl (by simp [wifiMgrSsidMax]; omega)),
      if_pos (.inl (by simp [wifiMgrPassMax]; omega))]

theorem handleWifiSetHostname_lenPrefixed (pos : 0 < hostname.length) (h : hostname.length ≤ 32)
    (seq : Byte) :
    handleWifiSetHostname fails ⟨seq, cmdWifiSetHostname, lenPrefixed hostname⟩ =
      answerOf <$> wifiMgrSetHostname fails (.string (.ofBytes hostname)) := by
  have read := hostnameOf_lenPrefixed (show hostname.length < 256 by omega) []
  have n := byteAt_lenPrefixed (show hostname.length < 256 by omega) []
  rw [List.append_nil] at read n
  obtain ⟨refused, -⟩ | ⟨-, array, args, -, ptr⟩ := wifiSetHostnameArgs_cases (lenPrefixed hostname)
  · unfold HostnameRefused at refused
    dsimp only at refused
    rw [n, length_lenPrefixed, wifiMgrHostnameMax] at refused
    omega
  · rw [handleWifiSetHostname_args args, ptr, read]

/-- Stored credentials are answered with their length bytes. -/
theorem Stored.settles_handleWifiGetConfig {ssid password : CString}
    (h : Stored b ssid password) :
    Settles (handleWifiGetConfig noFailures) b
      (fun a _ => a.status = statusOk ∧
        a.data = some (lenPrefixed ssid.chars ++ lenPrefixed password.chars))
      fun _ _ => False := by
  have ssid_lt : ssid.length < 33 := h.ssid_lt
  have password_lt : password.length < 65 := h.password_lt
  have small : (UInt8.ofNat ssid.length).toNat = ssid.length :=
    UInt8.toNat_ofNat_of_lt' (show _ < 256 by omega)
  have small' : (UInt8.ofNat password.length).toNat = password.length :=
    UInt8.toNat_ofNat_of_lt' (show _ < 256 by omega)
  have ready : firstError noFailures [.nvsOpen, .nvsGetStr .ssid, .nvsGetStr .pass] = none := rfl
  simp only [handleWifiGetConfig, settles_bind, settles_attempt, h.settles_wifiMgrGetConfig, ready,
    settles_check, Stored.config, CharArray.strlen_store, settles_pure, small, small',
    CharArray.take_store]
  exact ⟨trivial, rfl⟩

theorem settles_handleWifiGetHostname {hostname : CString}
    (stored : b.nvs.str .hostname = some hostname) (lt : hostname.length < wifiMgrHostnameMax + 1) :
    Settles (handleWifiGetHostname noFailures) b
      (fun a _ => a.status = statusOk ∧ a.data = some (lenPrefixed hostname.chars))
      fun _ _ => False := by
  have lt' : hostname.length < 33 := lt
  have small : (UInt8.ofNat hostname.length).toNat = hostname.length :=
    UInt8.toNat_ofNat_of_lt' (show _ < 256 by omega)
  simp only [handleWifiGetHostname, wifiMgrGetHostname, settles_bind, settles_attempt,
    settles_espCall, settles_nvsGetStr stored lt, noFailures, settles_check,
    CharArray.strlen_store, settles_pure, small, CharArray.take_store]
  exact ⟨trivial, rfl⟩

/-! ## Reading back -/

/-- The device answers the frame. -/
def Answers (fails : Failures) (b : Board) (f : ProtoFrame) (a : Answer) (c : Board) : Prop :=
  (onFrame fails f).outcome b = (.ok (some a), c)

/-- If the device takes the request, then after any steps that do not set the key again the API
reads back `value`. -/
def ReadsBack {α : Type} (request : Except ApiError Bytes) (setter getter : Byte) (key : NvsKey)
    (read : Answer → Except ApiError α) (value : α) : Prop :=
  ∀ payload fails b seq a c acts d seq', request = .ok payload →
    Answers fails b ⟨seq, setter, payload⟩ a c → a.status = statusOk →
    (∀ act ∈ acts, ¬ Sets key act) → exec Board.step c acts = some d →
    ∃ a' e, Answers noFailures d ⟨seq', getter, []⟩ a' e ∧ read a' = .ok value

def ConfigReadsBack (ssid password : Bytes) : Prop :=
  ReadsBack (apiSetConfig ssid password) cmdWifiSetConfig cmdWifiGetConfig .ssid apiGetConfig
    (ssid, password)

def HostnameReadsBack (hostname : Bytes) : Prop :=
  ReadsBack (apiSetHostname hostname) cmdWifiSetHostname cmdWifiGetHostname .hostname
    apiGetHostname hostname

variable {f : ProtoFrame} {a a' : Answer} {acts : List Act} {d : Board}

theorem Answers.unique (h : Answers fails b f a c) (h' : Answers fails b f a' d) : a = a' := by
  have same := h.symm.trans h'
  simpa using (Prod.mk.inj same).1

/-- A handler that returns answers its frame. -/
theorem exists_answers {p : Exec Answer} (dispatch : onFrame fails f = some <$> p)
    {done : Answer → Board → Prop} (h : Settles p b done fun _ _ => False) :
    ∃ a c, Answers fails b f a c ∧ done a c := by
  have settled : Settles (onFrame fails f) b (fun o c => ∃ a, o = some a ∧ done a c)
      fun _ _ => False := by
    rw [dispatch, settles_map]
    exact h.mono (fun a _ ha => ⟨a, rfl, ha⟩) fun _ _ ha => ha
  obtain ⟨_, c, outcome, -, a, rfl, ha⟩ := Board.run_returns settled
  exact ⟨a, c, outcome, ha⟩

/-- An answer is what its handler returned. -/
theorem Answers.of_settles {p : Exec Answer} (answers : Answers fails b f a c)
    (dispatch : onFrame fails f = some <$> p) {done : Answer → Board → Prop}
    (h : Settles p b done fun _ _ => True) : done a c := by
  have settled : Settles (onFrame fails f) b (fun o c => ∀ a, o = some a → done a c)
      fun _ _ => True := by
    rw [dispatch, settles_map]
    refine h.mono (fun a c ha a' same => ?_) fun _ _ _ => trivial
    obtain rfl := Option.some.inj same
    exact ha
  exact settled.of_outcome answers a rfl

/-- What is read back of stored credentials. -/
theorem Stored.reads {ssid password : CString} (h : Stored b ssid password) (seq : Byte) :
    ∃ a c, Answers noFailures b ⟨seq, cmdWifiGetConfig, []⟩ a c ∧
      apiGetConfig a = .ok (ssid.chars, password.chars) := by
  obtain ⟨a, c, answers, status, data⟩ :=
    exists_answers (f := ⟨seq, cmdWifiGetConfig, []⟩) (onFrame_getConfig rfl)
      h.settles_handleWifiGetConfig
  have ssid_lt : ssid.chars.length < 33 := h.ssid_lt
  have password_lt : password.chars.length < 65 := h.password_lt
  exact ⟨a, c, answers, apiGetConfig_eq_ok status data (by omega) (by omega)⟩

/-- An accepted answer to the API's request leaves the strings up to their first NUL. -/
theorem stored_of_answers {seq : Byte} (hs : ssid.length ≤ 32) (hp : password.length ≤ 64)
    (answers : Answers fails b ⟨seq, cmdWifiSetConfig, lenPrefixed ssid ++ lenPrefixed password⟩
      a c) (accepted : a.status = statusOk) : Stored c (.ofBytes ssid) (.ofBytes password) := by
  have settled : Settles (answerOf <$> wifiMgrSetConfig fails (.string (.ofBytes ssid))
      (.string (.ofBytes password))) b
      (fun a c => a.status = statusOk → Stored c (.ofBytes ssid) (.ofBytes password))
      fun _ _ => True := by
    rw [settles_map]
    exact settles_stored.mono (fun ret c h ok => h ((status_answerOf ret).mp ok))
      fun _ _ _ => trivial
  refine answers.of_settles ?_ settled accepted
  rw [onFrame_setConfig rfl, handleWifiSetConfig_lenPrefixed hs hp]

/-- What is read back of a stored hostname. -/
theorem hostname_reads {hostname : CString} (stored : b.nvs.str .hostname = some hostname)
    (lt : hostname.length < wifiMgrHostnameMax + 1) (seq : Byte) :
    ∃ a c, Answers noFailures b ⟨seq, cmdWifiGetHostname, []⟩ a c ∧
      apiGetHostname a = .ok hostname.chars := by
  obtain ⟨a, c, answers, status, data⟩ :=
    exists_answers (f := ⟨seq, cmdWifiGetHostname, []⟩) (onFrame_getHostname rfl)
      (settles_handleWifiGetHostname stored lt)
  have lt' : hostname.chars.length < 33 := lt
  exact ⟨a, c, answers, apiGetHostname_eq_ok status data (by omega)⟩

theorem hostname_of_answers {seq : Byte} (pos : 0 < hostname.length) (h : hostname.length ≤ 32)
    (answers : Answers fails b ⟨seq, cmdWifiSetHostname, lenPrefixed hostname⟩ a c)
    (accepted : a.status = statusOk) :
    (CString.ofBytes hostname).length ≠ 0 ∧ c.nvs.str .hostname = some (.ofBytes hostname) := by
  have settled : Settles (answerOf <$> wifiMgrSetHostname fails (.string (.ofBytes hostname))) b
      (fun a c => a.status = statusOk → (CString.ofBytes hostname).length ≠ 0 ∧
        c.nvs.str .hostname = some (.ofBytes hostname))
      fun _ _ => True := by
    rw [settles_map, settles_wifiMgrSetHostname]
    simp only [status_answerOf]
    split_ifs with bad
    · simp
    · push Not at bad
      split <;> simp [Board.setStr, Nvs.setStr, bad.1]
  refine answers.of_settles ?_ settled accepted
  rw [onFrame_setHostname rfl, handleWifiSetHostname_lenPrefixed pos h]

/-- A setting reads back as `value` exactly when `value` is what the device makes of it, unless
the device never takes it. -/
theorem readsBack_iff {α : Type} {request : Except ApiError Bytes} {setter getter : Byte}
    {key : NvsKey} {read : Answer → Except ApiError α} {value cut : α} {payload : Bytes}
    (Takes : Prop) (Holds : Board → Prop) (encoded : request = .ok payload)
    (stores : ∀ fails b seq a c, Answers fails b ⟨seq, setter, payload⟩ a c →
      a.status = statusOk → Takes ∧ Holds c)
    (takes : Takes → ∃ a c, Answers noFailures erased ⟨0, setter, payload⟩ a c ∧
      a.status = statusOk)
    (keeps : ∀ c d acts, (∀ act ∈ acts, ¬ Sets key act) → exec Board.step c acts = some d →
      Holds c → Holds d)
    (reads : ∀ d seq, Holds d →
      ∃ a e, Answers noFailures d ⟨seq, getter, []⟩ a e ∧ read a = .ok cut) :
    ReadsBack request setter getter key read value ↔ (Takes → cut = value) := by
  constructor
  · intro back taken
    obtain ⟨a, c, answers, accepted⟩ := takes taken
    obtain ⟨a', e, first, first_eq⟩ :=
      back payload noFailures erased 0 a c [] c 0 encoded answers accepted (by simp) rfl
    obtain ⟨a'', e', second, second_eq⟩ := reads c 0 (stores _ _ _ _ _ answers accepted).2
    rw [first.unique second, second_eq] at first_eq
    exact Except.ok.inj first_eq
  · intro same payload' fails b seq a c acts d seq' encoded' answers accepted quiet run
    obtain rfl : payload = payload' := Except.ok.inj (encoded.symm.trans encoded')
    obtain ⟨taken, holds⟩ := stores _ _ _ _ _ answers accepted
    rw [← same taken]
    exact reads d seq' (keeps c d acts quiet run holds)

theorem ofBytes_pos_iff (pos : 0 < hostname.length) :
    (CString.ofBytes hostname).length ≠ 0 ↔ hostname.head? ≠ some 0 := by
  rw [Ne, CString.length_ofBytes_eq_zero]
  have : hostname ≠ [] := List.ne_nil_of_length_pos pos
  tauto

/-- A fresh device takes what the API accepts, if something is left of it. -/
theorem config_taken (hs : ssid.length ≤ 32) (hp : password.length ≤ 64)
    (taken : (CString.ofBytes ssid).length ≠ 0) :
    ∃ a c, Answers noFailures erased
        ⟨0, cmdWifiSetConfig, lenPrefixed ssid ++ lenPrefixed password⟩ a c ∧
      a.status = statusOk := by
  have hs' := CString.length_ofBytes_le ssid
  have hp' := CString.length_ofBytes_le password
  apply exists_answers (onFrame_setConfig rfl)
  rw [handleWifiSetConfig_lenPrefixed hs hp, settles_map, settles_wifiMgrSetConfig,
    if_neg (by rw [wifiMgrSsidMax, wifiMgrPassMax]; omega)]
  rfl

theorem hostname_taken (pos : 0 < hostname.length) (h : hostname.length ≤ 32)
    (taken : (CString.ofBytes hostname).length ≠ 0) :
    ∃ a c, Answers noFailures erased ⟨0, cmdWifiSetHostname, lenPrefixed hostname⟩ a c ∧
      a.status = statusOk := by
  have h' := CString.length_ofBytes_le hostname
  apply exists_answers (onFrame_setHostname rfl)
  rw [handleWifiSetHostname_lenPrefixed pos h, settles_map, settles_wifiMgrSetHostname,
    if_neg (by rw [wifiMgrHostnameMax]; omega)]
  rfl

theorem configReadsBack_iff (pos : 0 < ssid.length) (hs : ssid.length ≤ 32)
    (hp : password.length ≤ 64) :
    ConfigReadsBack ssid password ↔ ssid.head? = some 0 ∨ 0 ∉ ssid ∧ 0 ∉ password := by
  have encoded : apiSetConfig ssid password = .ok (lenPrefixed ssid ++ lenPrefixed password) := by
    rw [apiSetConfig, if_neg (by omega), if_neg (by omega)]
  have cut : ConfigReadsBack ssid password ↔ ((CString.ofBytes ssid).length ≠ 0 →
      ((CString.ofBytes ssid).chars, (CString.ofBytes password).chars) = (ssid, password)) := by
    apply readsBack_iff _ (fun c => Stored c (.ofBytes ssid) (.ofBytes password)) encoded
    · intro fails b seq a c answers accepted
      have stored := stored_of_answers hs hp answers accepted
      exact ⟨stored.ssid_pos, stored⟩
    · exact config_taken hs hp
    · intro c d acts quiet run stored
      exact stored.congr (Board.exec_str quiet run)
        (Board.exec_str (fun act mem => sets_pass ▸ quiet act mem) run)
    · exact fun d seq stored => stored.reads seq
  rw [cut, ofBytes_pos_iff pos, Prod.mk.injEq, CString.ofBytes_eq_iff, CString.ofBytes_eq_iff]
  tauto

theorem hostnameReadsBack_iff (pos : 0 < hostname.length) (h : hostname.length ≤ 32) :
    HostnameReadsBack hostname ↔ hostname.head? = some 0 ∨ 0 ∉ hostname := by
  have encoded : apiSetHostname hostname = .ok (lenPrefixed hostname) := by
    rw [apiSetHostname, if_neg (by omega)]
  have lt : (CString.ofBytes hostname).length < wifiMgrHostnameMax + 1 := by
    have := CString.length_ofBytes_le hostname
    rw [wifiMgrHostnameMax]
    omega
  have cut : HostnameReadsBack hostname ↔ ((CString.ofBytes hostname).length ≠ 0 →
      (CString.ofBytes hostname).chars = hostname) := by
    apply readsBack_iff _ (fun c => c.nvs.str .hostname = some (.ofBytes hostname)) encoded
    · exact fun fails b seq a c answers accepted => hostname_of_answers pos h answers accepted
    · exact hostname_taken pos h
    · exact fun c d acts quiet run stored => (Board.exec_str quiet run).trans stored
    · exact fun d seq stored => hostname_reads stored lt seq
  rw [cut, ofBytes_pos_iff pos, CString.ofBytes_eq_iff]
  tauto

/-- The settings the API accepts that read back as they were written: those without a NUL,
and those the device never takes because they begin with one. -/
theorem settings_read_back_iff (ssid_pos : 0 < ssid.length) (ssid_le : ssid.length ≤ 32)
    (password_le : password.length ≤ 64) (hostname_pos : 0 < hostname.length)
    (hostname_le : hostname.length ≤ 32) :
    (ConfigReadsBack ssid password ↔ ssid.head? = some 0 ∨ 0 ∉ ssid ∧ 0 ∉ password) ∧
      (HostnameReadsBack hostname ↔ hostname.head? = some 0 ∨ 0 ∉ hostname) :=
  ⟨configReadsBack_iff ssid_pos ssid_le password_le, hostnameReadsBack_iff hostname_pos hostname_le⟩

theorem settings_read_back_cafe :
    ConfigReadsBack [0x63, 0x61, 0x66, 0x65] [0x70, 0x77] ∧
      HostnameReadsBack [0x65, 0x73, 0x70] := by
  have both := settings_read_back_iff (show 0 < [0x63, 0x61, 0x66, 0x65].length by decide)
    (by decide) (show [0x70, 0x77].length ≤ 64 by decide)
    (show 0 < [0x65, 0x73, 0x70].length by decide) (by decide)
  exact ⟨both.1.mpr (by decide), both.2.mpr (by decide)⟩

/-- A NUL inside a string ends it: `a\0b` is read back as `a`. -/
theorem settings_cut_at_nul :
    ¬ ConfigReadsBack [0x61, 0, 0x62] [] ∧ ¬ HostnameReadsBack [0x61, 0, 0x62] := by
  constructor
  · rw [configReadsBack_iff (by decide) (by decide) (by decide)]
    decide
  · rw [hostnameReadsBack_iff (by decide) (by decide)]
    decide

end EspNetwork.Settings
