import EspNetwork.Commands.Handlers
import EspNetwork.Serial.Codec
import EspNetwork.Settings.Credentials

/-!
# One answer for each request

Whatever the calls of ESP-IDF return, a handler sends exactly one response, and the host's parser
reads back its sequence number, command and status. The settings handlers are those of
`Settings` followed by one response. Two functions of `wifi_mgr` are the exception:
`wifi_mgr_connect` passes the result of `esp_wifi_set_config` to `ESP_ERROR_CHECK`, and it and
`wifi_mgr_scan` use the event group, although nothing checks that it could be created. A stored
configuration that the driver refuses and a missing group restart the chip before the response is
sent.
-/

namespace EspNetwork.Commands

open Serial (Byte Bytes ProtoFrame newParser hostView protoRespFlag)
open Settings (Board EspErr EspCall Failures Halt NvsKey wifiMgrSsidMax wifiMgrPassMax
  byteAt)
open Firmware (Answer WifiApRecord WifiMgrApInfo statusOk statusError statusInvalid)
open Fallible

/-! ## Answers -/

/-- What the host may see of the chip. -/
def Chip.sent (c : Chip) : List Response × List Bytes := (c.responses, c.wire)

/-- Between `c` and `d` one response to `f` was built and written; in any chunks, the host's
parser makes one frame of it, with the status of the handler. -/
def Answered (f : ProtoFrame) (c d : Chip) : Prop :=
  ∃ status data bytes, d.responses = c.responses ++ [⟨f.seq, f.cmd, status, data⟩] ∧
    d.wire = c.wire ++ [bytes] ∧ bytes ≠ [] ∧
    ∀ chunks : List Bytes, chunks.flatten = bytes →
      (newParser.feedAll chunks).2 = [⟨f.seq, f.cmd &&& 0x7F, true, status, data.getD []⟩]

/-- The program returns and has answered `f`. -/
def Answers (f : ProtoFrame) (p : Exec Unit) : Prop :=
  ∀ c, Settles p c (fun _ => Answered f c) fun _ _ => False

/-- The program returns a value with `post` and sends nothing. -/
def Quiet {ε α : Type} (p : Fallible Chip ε α) (post : α → Prop) : Prop :=
  ∀ c, Settles p c (fun a d => post a ∧ d.sent = c.sent) fun _ _ => False

variable {α ε : Type} {f : ProtoFrame} {env : Env} {c d : Chip}

theorem Answered.congr {c' : Chip} (same : c'.sent = c.sent) (h : Answered f c' d) :
    Answered f c d := by
  obtain ⟨responses, wire⟩ := Prod.mk.inj same
  unfold Answered at *
  rwa [← responses, ← wire]

theorem Quiet.bind_answers {p : Exec α} {post : α → Prop} {k : α → Exec Unit} (h : Quiet p post)
    (next : ∀ a, post a → Answers f (k a)) : Answers f (p >>= k) := by
  intro c
  rw [settles_bind]
  refine (h c).mono ?_ fun _ _ no => no
  rintro a d ⟨ha, same⟩
  exact (next a ha d).mono (fun _ _ => Answered.congr same) fun _ _ no => no

theorem answers_ite {cond : Prop} [Decidable cond] {p q : Exec Unit} (pos : cond → Answers f p)
    (neg : Answers f q) : Answers f (if cond then p else q) := by
  split
  · exact pos ‹_›
  · exact neg

/-- A response whose data the host accepts. -/
theorem answers_cdcSendResponse (status : Byte) {data : Option Bytes}
    (fits : (data.getD []).length ≤ 1023) : Answers f (cdcSendResponse f status data) := by
  intro c
  have room : 9 + (data.getD []).length ≤ Firmware.respBufSize := by
    rw [Firmware.respBufSize, Serial.protoMaxPayload]
    omega
  have built := Serial.protoBuildResponse_eq_encodeFrame f.seq f.cmd status data
    (by rw [Serial.protoMaxPayload]; omega) room
  have size : (Serial.encodeFrame
      ⟨f.seq, f.cmd ||| protoRespFlag, status :: data.getD []⟩).length ≠ 0 := by
    simp [Serial.encodeFrame_eq]
  rw [cdcSendResponse, settles_modify]
  dsimp only
  rw [built, if_neg size]
  refine ⟨status, data, _, rfl, rfl, List.length_eq_zero_iff.not.mp size, fun chunks wire => ?_⟩
  have read := @Serial.feedAll_encodeFrames
    [⟨f.seq, f.cmd ||| protoRespFlag, status :: data.getD []⟩] chunks
    (by simpa [Serial.protoMaxPayload] using Nat.lt_succ_of_le fits) (by simpa using wire)
  rw [read, List.map_singleton, Serial.hostView_response]

theorem answers_none (status : Byte) : Answers f (cdcSendResponse f status none) :=
  answers_cdcSendResponse status (by simp)

/-! ## Settings -/

/-- The response that carries the answer of a settings handler. -/
def respond (f : ProtoFrame) (a : Answer) : Exec Unit := cdcSendResponse f a.status a.data

theorem answers_respond (a : Answer) : Answers f (respond f a) :=
  answers_cdcSendResponse a.status a.fits

theorem isPart_board : IsPart Chip.board (fun c b => { c with board := b }) where
  get_set _ _ := rfl
  set_get _ := rfl
  set_set _ _ _ := rfl

@[simp] theorem onBoard_bind {β : Type} (p : Fallible Board ε α) (k : α → Fallible Board ε β) :
    onBoard (p >>= k) = onBoard p >>= fun a => onBoard (k a) := isPart_board.focus_bind k

@[simp] theorem onBoard_pure (a : α) : onBoard (pure a : Fallible Board ε α) = pure a :=
  isPart_board.focus_pure a

@[simp] theorem onBoard_check {η : Type} (toError : η → ε) (r : Except η α) :
    onBoard (check toError r) = check toError r := isPart_board.focus_check toError r

@[simp] theorem onBoard_attempt {η : Type} (p : Fallible Board ε α) :
    onBoard (attempt p : Fallible Board η _) = attempt (onBoard p) := focus_attempt

theorem respond_answerOf (ret : Except EspErr Unit) :
    respond f (Settings.answerOf ret) = cdcSendResponse f (statusOf ret) none := by
  cases ret <;> rfl

theorem handleLedSet_eq :
    handleLedSet env f = onBoard (Settings.handleLedSet env.fails f) >>= respond f := by
  simp only [handleLedSet, Settings.handleLedSet, onBoard_bind, onBoard_check, bind_assoc]
  refine bind_congr fun args => ?_
  cases args with
  | none => rfl
  | some val =>
    simp only [onBoard_bind, onBoard_attempt, bind_assoc]
    refine bind_congr fun _ => ?_
    refine bind_congr fun ret => ?_
    cases ret with
    | error e => rfl
    | ok _ =>
      simp only [onBoard_bind, onBoard_attempt, onBoard_pure, bind_assoc, pure_bind]
      rfl

theorem handleLedGet_eq : handleLedGet f = onBoard Settings.handleLedGet >>= respond f := rfl

theorem handleWifiSetConfig_eq :
    handleWifiSetConfig env f = onBoard (Settings.handleWifiSetConfig env.fails f) >>= respond f := by
  simp only [handleWifiSetConfig, Settings.handleWifiSetConfig, onBoard_bind, onBoard_check,
    bind_assoc]
  refine bind_congr fun args => ?_
  cases args with
  | none => rfl
  | some args => simp only [onBoard_bind, onBoard_pure, bind_assoc, pure_bind, respond_answerOf]

theorem handleWifiGetConfig_eq :
    handleWifiGetConfig env f = onBoard (Settings.handleWifiGetConfig env.fails) >>= respond f := by
  simp only [handleWifiGetConfig, Settings.handleWifiGetConfig, onBoard_bind, onBoard_attempt,
    bind_assoc]
  refine bind_congr fun ret => ?_
  cases ret with
  | error e => rfl
  | ok cfg =>
    simp only [onBoard_bind, onBoard_check, onBoard_pure, bind_assoc, pure_bind]
    rfl

theorem handleWifiSetHostname_eq :
    handleWifiSetHostname env f =
      onBoard (Settings.handleWifiSetHostname env.fails f) >>= respond f := by
  simp only [handleWifiSetHostname, Settings.handleWifiSetHostname, onBoard_bind, onBoard_check,
    bind_assoc]
  refine bind_congr fun args => ?_
  cases args with
  | none => rfl
  | some args => simp only [onBoard_bind, onBoard_pure, bind_assoc, pure_bind, respond_answerOf]

theorem handleWifiGetHostname_eq :
    handleWifiGetHostname env f =
      onBoard (Settings.handleWifiGetHostname env.fails) >>= respond f := by
  simp only [handleWifiGetHostname, Settings.handleWifiGetHostname, onBoard_bind, onBoard_attempt,
    bind_assoc]
  refine bind_congr fun ret => ?_
  cases ret with
  | error e => rfl
  | ok cfg =>
    simp only [onBoard_bind, onBoard_check, onBoard_pure, bind_assoc, pure_bind]
    rfl

/-! ## What is stored -/

/-- `nvs_get_str` finds a string that fits into `size` cells. -/
def StrFound (fails : Failures) (b : Board) (key : NvsKey) (size : ℕ) : Prop :=
  fails (.nvsGetStr key) = none ∧ ∃ s, b.nvs.str key = some s ∧ s.length < size

/-- `wifi_mgr_get_config` finds a configuration. -/
structure ConfigFound (fails : Failures) (b : Board) : Prop where
  opened : fails .nvsOpen = none
  ssid : StrFound fails b .ssid (wifiMgrSsidMax + 1)
  pass : StrFound fails b .pass (wifiMgrPassMax + 1)

section Settings

variable {fails : Failures}

theorem settles_nvsGetStr {size : ℕ} {key : NvsKey} {out : CharArray size} (b : Board) :
    Settles (Settings.nvsGetStr fails key out) b
      (fun a c => c = b ∧ a.Terminated ∧ StrFound fails b key size)
      fun _ _ => ¬ StrFound fails b key size := by
  rw [Settings.nvsGetStr, settles_bind, Settings.settles_espCall]
  cases read : fails (.nvsGetStr key) with
  | some e =>
    rintro ⟨ok, -⟩
    simp [read] at ok
  | none =>
    rw [settles_bind, settles_get]
    cases stored : b.nvs.str key with
    | none =>
      rintro ⟨-, s, found, -⟩
      simp [stored] at found
    | some s =>
      dsimp only
      split_ifs with fits
      · exact ⟨rfl, CharArray.terminated_store out s fits, read, s, stored, fits⟩
      · rintro ⟨-, s', found, fits'⟩
        obtain rfl : s = s' := Option.some.inj (stored.symm.trans found)
        exact fits fits'

theorem settles_wifiMgrGetConfig (b : Board) :
    Settles (Settings.wifiMgrGetConfig fails) b
      (fun cfg c => c = b ∧ cfg.ssid.Terminated ∧ cfg.password.Terminated ∧ ConfigFound fails b)
      fun _ _ => ¬ ConfigFound fails b := by
  rw [Settings.wifiMgrGetConfig, settles_bind, Settings.settles_espCall]
  cases opened : fails .nvsOpen with
  | some e =>
    intro found
    simpa [opened] using found.opened
  | none =>
    rw [settles_bind]
    refine (settles_nvsGetStr b).mono ?_ fun _ _ missing found => missing found.ssid
    rintro ssid _ ⟨rfl, ssid_ends, hssid⟩
    rw [settles_bind]
    refine (settles_nvsGetStr _).mono ?_ fun _ _ missing found => missing found.pass
    rintro pass _ ⟨rfl, pass_ends, hpass⟩
    exact ⟨rfl, ssid_ends, pass_ends, opened, hssid, hpass⟩

/-! ## Settings handlers that return -/

theorem quiet_onBoard {p : Fallible Board ε α} {post : α → Prop} (h : Returns p post) :
    Quiet (onBoard p) post := by
  intro c
  rw [onBoard, settles_focus]
  exact (h c.board).mono (fun _ _ ha => ⟨ha, rfl⟩) fun _ _ no => no

theorem answers_onBoard {p : Settings.Exec Answer} (h : Returns p fun _ => True) :
    Answers f (onBoard p >>= respond f) :=
  (quiet_onBoard h).bind_answers fun a _ => answers_respond a

theorem returns_handleLedSet : Returns (Settings.handleLedSet fails f) fun _ => True := by
  obtain ⟨-, args⟩ | ⟨-, val, args⟩ := Settings.ledSetArgs_cases f.payload
  · rw [Settings.handleLedSet_badArg args]
    exact returns_pure trivial
  · refine (returns_check args).bind ?_
    rintro _ rfl
    refine (returns_modify _).bind fun _ _ => (returns_attempt_any _).bind fun ret _ => ?_
    cases ret with
    | error e => exact returns_pure trivial
    | ok _ =>
      exact (returns_attempt_any _).bind fun _ _ => (returns_attempt_any _).bind fun _ _ =>
        returns_pure trivial

theorem returns_handleLedGet : Returns Settings.handleLedGet fun _ => True :=
  returns_get.bind fun _ _ => returns_pure trivial

theorem returns_wifiMgrSetConfig (ssid password : CString) :
    Returns (Settings.wifiMgrSetConfig fails (.string ssid) (.string password)) fun _ => True := by
  intro b
  rw [Settings.settles_wifiMgrSetConfig]
  split_ifs
  · trivial
  · split <;> trivial

/-- With lengths within the limits both arrays keep a terminator. -/
theorem returns_handleWifiSetConfig (ssid_le : byteAt f.payload 0 ≤ wifiMgrSsidMax)
    (pass_le : byteAt f.payload (1 + byteAt f.payload 0) ≤ wifiMgrPassMax) :
    Returns (Settings.handleWifiSetConfig fails f) fun _ => True := by
  obtain ⟨-, args⟩ | ⟨unbounded, -⟩ | ⟨fits, ssid, pass, args, ssid_ptr, pass_ptr⟩ :=
    Settings.wifiSetConfigArgs_cases f.payload
  · rw [Settings.handleWifiSetConfig_badArg args]
    exact returns_pure trivial
  · unfold Settings.CopiesBounded at unbounded
    omega
  · have ssid_ends : Terminates (wifiMgrSsidMax + 1) (Settings.configSsid f.payload) :=
      .inl (by rw [fits.length_configSsid]; omega)
    have pass_ends : Terminates (wifiMgrPassMax + 1) (Settings.configPass f.payload) :=
      .inl (by rw [fits.length_configPass]; omega)
    rw [CharPtr.inArray, if_pos ssid_ends] at ssid_ptr
    rw [CharPtr.inArray, if_pos pass_ends] at pass_ptr
    refine (returns_check args).bind ?_
    rintro _ rfl
    dsimp only
    rw [ssid_ptr, pass_ptr]
    exact (returns_wifiMgrSetConfig _ _).bind fun _ _ => returns_pure trivial

theorem returns_handleWifiGetConfig :
    Returns (Settings.handleWifiGetConfig fails) fun _ => True := by
  have terminated : Returns (attempt (Settings.wifiMgrGetConfig fails) : Settings.Exec _)
      fun ret => ∀ cfg, ret = .ok cfg → cfg.ssid.Terminated ∧ cfg.password.Terminated := by
    refine returns_attempt fun b => (settles_wifiMgrGetConfig b).mono ?_ (by simp)
    rintro cfg c ⟨-, ssid_ends, pass_ends, -⟩ _ ⟨⟩
    exact ⟨ssid_ends, pass_ends⟩
  refine terminated.bind fun ret ends => ?_
  cases ret with
  | error e => exact returns_pure trivial
  | ok cfg =>
    obtain ⟨hssid, hpass⟩ := ends cfg rfl
    exact (returns_check (if_pos hssid)).bind fun _ _ =>
      (returns_check (if_pos hpass)).bind fun _ _ => returns_pure trivial

theorem returns_handleWifiSetHostname :
    Returns (Settings.handleWifiSetHostname fails f) fun _ => True := by
  obtain ⟨-, args⟩ | ⟨-, hostname, args, -, hostname_ptr⟩ :=
    Settings.wifiSetHostnameArgs_cases f.payload
  · rw [Settings.handleWifiSetHostname_badArg args]
    exact returns_pure trivial
  · rw [Settings.handleWifiSetHostname_args args, hostname_ptr]
    intro b
    rw [settles_map, Settings.settles_wifiMgrSetHostname]
    split_ifs
    · trivial
    · split <;> trivial

theorem returns_handleWifiGetHostname :
    Returns (Settings.handleWifiGetHostname fails) fun _ => True := by
  have terminated : Returns (attempt (Settings.wifiMgrGetHostname fails) : Settings.Exec _)
      fun ret => ∀ hostname, ret = .ok hostname → hostname.Terminated := by
    refine returns_attempt fun b => ?_
    rw [Settings.wifiMgrGetHostname, settles_bind, Settings.settles_espCall]
    cases fails .nvsOpen with
    | some e => simp
    | none =>
      refine (settles_nvsGetStr b).mono ?_ (by simp)
      rintro hostname c ⟨-, ends, -⟩ _ ⟨⟩
      exact ends
  refine terminated.bind fun ret ends => ?_
  cases ret with
  | error e => exact returns_pure trivial
  | ok hostname =>
    exact (returns_check (if_pos (ends hostname rfl))).bind fun _ _ => returns_pure trivial

end Settings

/-! ## The other handlers -/

theorem answers_handlePing : Answers f (handlePing f) := answers_cdcSendResponse _ (by simp)

theorem answers_handleGetDevInfo (version : env.version.length ≤ 64) :
    Answers f (handleGetDevInfo env f) := by
  have small := Firmware.length_devInfoPayload_le version env.stats
  have fits : Firmware.devInfoBufSize ≤ 1023 := by decide
  rw [handleGetDevInfo, if_neg (by omega)]
  refine answers_cdcSendResponse _ ?_
  rw [Option.getD_some]
  omega

/-- The answer to `CMD_RESET` is sent before the restart. -/
theorem settles_handleReset (c : Chip) :
    Settles (handleReset f) c (fun _ _ => False) fun e d => e = .restart ∧ Answered f c d := by
  rw [handleReset, settles_bind]
  exact (answers_none statusOk c).mono (fun _ _ answered => ⟨rfl, answered⟩) fun _ _ no => no.elim

theorem answers_handleWifiDisconnect : Answers f (handleWifiDisconnect env f) := by
  have quiet : Quiet (wifiMgrDisconnect env) fun _ => True := by
    intro c
    rw [wifiMgrDisconnect, settles_bind]
    have disconnected : Returns (Settings.wifiMgrDisconnect env.fails) fun _ => True :=
      (returns_modify _).bind fun _ _ => (returns_attempt_any _).bind fun ret _ => by
        cases ret with
        | error e => exact returns_pure trivial
        | ok _ => exact (returns_modify _).bind fun _ _ => returns_pure trivial
    refine (quiet_onBoard disconnected c).mono ?_ fun _ _ no => no
    rintro ret d ⟨-, same⟩
    cases ret <;> exact ⟨trivial, same⟩
  exact quiet.bind_answers fun ret _ => answers_none _

theorem answers_handleWifiGetStatus : Answers f (handleWifiGetStatus env f) := by
  have quiet : Quiet (get : Exec Chip) fun _ => True := fun c => ⟨trivial, rfl⟩
  refine quiet.bind_answers fun c _ => answers_cdcSendResponse _ ?_
  simp [Firmware.wifiStatusPayload]

theorem quiet_check {η : Type} {toError : η → Halt} {r : Except η α} {a : α} (ok : r = .ok a) :
    Quiet (check toError r : Exec α) (· = a) := by
  subst ok
  exact fun c => ⟨rfl, rfl⟩

theorem tcpMgrConnect_returns (r : RelayResult) {host : CharArray 256} (ends : host.Terminated)
    (port : UInt16) : ∃ ret, tcpMgrConnect r host.ptr port = .ok ret := by
  rw [CharArray.ptr, if_pos ends]
  simp only [tcpMgrConnect, CharPtr.read, Except.ok_bind]
  split_ifs <;> exact ⟨_, rfl⟩

theorem answers_handleProxyConnect : Answers f (handleProxyConnect env f) := by
  obtain ⟨-, args⟩ | ⟨-, host, port, args, ends⟩ :=
    Settings.proxyConnectArgs_cases env.host f.payload
  · refine (quiet_check args).bind_answers ?_
    rintro _ rfl
    exact answers_none _
  · obtain ⟨ret, connected⟩ := tcpMgrConnect_returns env.relay ends port
    refine (quiet_check args).bind_answers ?_
    rintro _ rfl
    refine (quiet_check connected).bind_answers ?_
    rintro ret rfl
    split_ifs <;> exact answers_none _

theorem answers_handleProxyGetStatus : Answers f (handleProxyGetStatus env f) :=
  answers_cdcSendResponse _ (by simp)

/-- `handle_proxy_send` returns without an answer, whatever becomes of the data. -/
theorem quiet_handleProxySend : Quiet (handleProxySend env f) fun _ => True := by
  intro c
  unfold handleProxySend
  split_ifs <;> exact ⟨trivial, rfl⟩

/-! ## Connecting and scanning -/

/-- `wifi_mgr_connect` has a configuration to pass on, but no event group, or a driver that
refuses it. -/
def ConnectAborts (fails : Failures) (b : Board) : Prop :=
  ConfigFound fails b ∧ (b.sWifiEg = false ∨ fails .wifiSetConfig ≠ none)

/-- `wifi_mgr_scan` is called, and there is no event group. -/
def ScanAborts (env : Env) (b : Board) : Prop := env.mallocAps = true ∧ b.sWifiEg = false

/-- The only ways out of `wifi_mgr_connect` besides its result are the assertion of the event
group and the `ESP_ERROR_CHECK`. -/
theorem settles_wifiMgrConnect {fails : Failures} (b : Board) :
    Settles (Settings.wifiMgrConnect fails) b (fun _ _ => ¬ ConnectAborts fails b)
      fun _ _ => ConnectAborts fails b := by
  rw [Settings.wifiMgrConnect, settles_bind, settles_attempt]
  refine (settles_wifiMgrGetConfig b).mono ?_ fun _ _ missing aborts => missing aborts.1
  rintro cfg c ⟨rfl, -, -, found⟩
  rw [settles_bind, Settings.settles_xEventGroupBits]
  by_cases group : c.sWifiEg = true
  swap
  · rw [if_neg group]
    exact ⟨found, .inl (by simpa using group)⟩
  rw [if_pos group, settles_bind, settles_modify, settles_bind, settles_attempt, Settings.espWifiSetConfig,
    settles_bind, settles_modify, Settings.settles_espCall]
  cases passed : fails .wifiSetConfig with
  | some e => exact ⟨found, .inr (by simp [passed])⟩
  | none =>
    rw [settles_bind, settles_attempt, Settings.settles_espCall]
    cases fails .wifiConnect <;> simp [ConnectAborts, group, passed]

theorem settles_handleWifiConnect (c : Chip) :
    Settles (handleWifiConnect env f) c
      (fun _ d => Answered f c d ∧ ¬ ConnectAborts env.fails c.board)
      fun _ _ => ConnectAborts env.fails c.board := by
  rw [handleWifiConnect, settles_bind, onBoard, settles_focus]
  refine (settles_wifiMgrConnect c.board).mono ?_ fun _ _ aborts => aborts
  intro ret b accepted
  refine (answers_none _ _).mono (fun _ d answered => ?_) fun _ _ no => no.elim
  exact ⟨answered.congr rfl, accepted⟩

theorem settles_xEventGroupBits {c : Chip} {done : Unit → Chip → Prop}
    {failed : Halt → Chip → Prop} :
    Settles (onBoard Settings.xEventGroupBits) c done failed ↔
      if c.board.sWifiEg then done () c else failed .restart c := by
  rw [onBoard, settles_focus, Settings.settles_xEventGroupBits]

/-- With its event group the scan returns nothing, or entries as the copy loop leaves them. -/
theorem settles_wifiMgrScan (r : ScanResult) (c : Chip) :
    Settles (wifiMgrScan r) c
      (fun ret d => d = c ∧ c.board.sWifiEg = true ∧
        ∀ aps, ret = some aps → List.Forall₂ Firmware.Copied r.records aps)
      fun _ _ => c.board.sWifiEg = false := by
  obtain ⟨aps, copied, entries⟩ := Firmware.copyRecords_eq r.mem 0 r.records
  cases group : c.board.sWifiEg
  · simp [wifiMgrScan, settles_xEventGroupBits, group]
  · simp [wifiMgrScan, settles_xEventGroupBits, group, copied, settles_ite, entries]

/-- The answer to a scan fits one frame. -/
theorem answers_scanPayload {aps : List WifiMgrApInfo} {records : List WifiApRecord}
    (copied : List.Forall₂ Firmware.Copied records aps)
    (few : records.length ≤ Firmware.wifiMgrScanMax) :
    Answers f (check .fault (Firmware.scanPayload aps) >>= fun buf =>
      cdcSendResponse f statusOk (some buf)) := by
  have bounded := Firmware.bounded_of_copied copied
  have count : aps.length ≤ 20 := copied.length_eq ▸ few
  have size := Firmware.length_flatten_apBytes_le fun ap mem => (bounded ap mem).2
  have payload := @Firmware.putAps_eq [UInt8.ofNat aps.length] aps bounded
    (by rw [Serial.protoMaxPayload, List.length_singleton]; omega)
  refine (quiet_check payload).bind_answers ?_
  rintro _ rfl
  refine answers_cdcSendResponse _ ?_
  rw [Option.getD_some, List.length_append, List.length_singleton]
  omega

theorem settles_handleWifiScan (few : env.scan.records.length ≤ Firmware.wifiMgrScanMax)
    (c : Chip) :
    Settles (handleWifiScan env f) c (fun _ d => Answered f c d ∧ ¬ ScanAborts env c.board)
      fun _ _ => ScanAborts env c.board := by
  rw [handleWifiScan]
  by_cases oom : ¬ env.mallocAps
  · rw [if_pos oom]
    exact (answers_none _ c).mono (fun _ _ answered => ⟨answered, fun aborts => oom aborts.1⟩)
      fun _ _ no => no.elim
  rw [if_neg oom, settles_bind]
  refine (settles_wifiMgrScan env.scan c).mono ?_ fun _ _ missing => ⟨not_not.mp oom, missing⟩
  rintro ret d ⟨rfl, group, entries⟩
  have there : ¬ ScanAborts env d.board := fun aborts => absurd aborts.2 (by simp [group])
  cases ret with
  | none =>
    exact (answers_none _ _).mono (fun _ _ answered => ⟨answered, there⟩) fun _ _ no => no.elim
  | some aps =>
    exact (answers_scanPayload (entries aps rfl) few _).mono
      (fun _ _ answered => ⟨answered, there⟩) fun _ _ no => no.elim

/-! ## Every request -/

/-- What is assumed of a request, and of what its handler reads. -/
structure Assumed (env : Env) (f : ProtoFrame) : Prop where
  ssidLen : f.cmd = Settings.cmdWifiSetConfig → byteAt f.payload 0 ≤ wifiMgrSsidMax
  passLen : f.cmd = Settings.cmdWifiSetConfig →
    byteAt f.payload (1 + byteAt f.payload 0) ≤ wifiMgrPassMax
  version : env.version.length ≤ 64
  records : env.scan.records.length ≤ Firmware.wifiMgrScanMax

/-- `CMD_PROXY_SEND` is not answered and any other request once; `CMD_RESET` restarts the chip
behind its answer. -/
def Responds (env : Env) (f : ProtoFrame) (c : Chip) : Prop :=
  if f.cmd = Firmware.cmdProxySend then
    Settles (onFrame env f) c (fun _ d => d.sent = c.sent) fun _ _ => False
  else
    Settles (onFrame env f) c (fun _ => Answered f c)
      fun e d => f.cmd = Firmware.cmdReset ∧ e = .restart ∧ Answered f c d

theorem answers_onFrame (h : Assumed env f) (reset : f.cmd ≠ Firmware.cmdReset)
    (connect : f.cmd ≠ Settings.cmdWifiConnect) (scan : f.cmd ≠ cmdWifiScan)
    (send : f.cmd ≠ Firmware.cmdProxySend) :
    Answers f (onFrame env f) := by
  unfold onFrame
  refine answers_ite (fun _ => answers_handlePing) ?_
  refine answers_ite (fun _ => answers_handleGetDevInfo h.version) ?_
  refine answers_ite (fun cmd => absurd cmd reset) ?_
  refine answers_ite (fun _ => handleLedSet_eq ▸ answers_onBoard returns_handleLedSet) ?_
  refine answers_ite (fun _ => handleLedGet_eq ▸ answers_onBoard returns_handleLedGet) ?_
  refine answers_ite (fun cmd => handleWifiSetConfig_eq ▸
    answers_onBoard (returns_handleWifiSetConfig (h.ssidLen cmd) (h.passLen cmd))) ?_
  refine answers_ite
    (fun _ => handleWifiGetConfig_eq ▸ answers_onBoard returns_handleWifiGetConfig) ?_
  refine answers_ite (fun cmd => absurd cmd connect) ?_
  refine answers_ite (fun _ => answers_handleWifiDisconnect) ?_
  refine answers_ite (fun _ => answers_handleWifiGetStatus) ?_
  refine answers_ite (fun cmd => absurd cmd scan) ?_
  refine answers_ite
    (fun _ => handleWifiSetHostname_eq ▸ answers_onBoard returns_handleWifiSetHostname) ?_
  refine answers_ite
    (fun _ => handleWifiGetHostname_eq ▸ answers_onBoard returns_handleWifiGetHostname) ?_
  refine answers_ite (fun _ => answers_handleProxyConnect) ?_
  refine answers_ite (fun cmd => absurd cmd send) ?_
  refine answers_ite (fun _ => answers_none _) ?_
  exact answers_ite (fun _ => answers_handleProxyGetStatus) (answers_none _)

theorem onFrame_reset (cmd : f.cmd = Firmware.cmdReset) : onFrame env f = handleReset f := by
  simp only [onFrame, cmd]
  rfl

theorem onFrame_connect (cmd : f.cmd = Settings.cmdWifiConnect) :
    onFrame env f = handleWifiConnect env f := by
  simp only [onFrame, cmd]
  rfl

theorem onFrame_scan (cmd : f.cmd = cmdWifiScan) : onFrame env f = handleWifiScan env f := by
  simp only [onFrame, cmd]
  rfl

theorem onFrame_proxySend (cmd : f.cmd = Firmware.cmdProxySend) :
    onFrame env f = handleProxySend env f := by
  simp only [onFrame, cmd]
  rfl

/-- A handler that answers exactly when it does not abort. -/
theorem responds_iff_of_settles {aborts : Prop} {c : Chip} (send : f.cmd ≠ Firmware.cmdProxySend)
    (reset : f.cmd ≠ Firmware.cmdReset)
    (settled : Settles (onFrame env f) c (fun _ d => Answered f c d ∧ ¬ aborts)
      fun _ _ => aborts) : Responds env f c ↔ ¬ aborts := by
  rw [Responds, if_neg send]
  constructor
  · intro responds refuses
    -- neither a return nor the restart of `CMD_RESET` is left
    apply not_settles_false (onFrame env f) c
    refine (responds.and settled).mono ?_ fun _ _ ends => reset ends.1.1
    rintro _ _ ⟨-, -, accepted⟩
    exact accepted refuses
  · intro accepted
    exact settled.mono (fun _ _ ends => ends.1) fun _ _ refuses => absurd refuses accepted

theorem responds_connect (connect : f.cmd = Settings.cmdWifiConnect) (c : Chip) :
    Responds env f c ↔ ¬ ConnectAborts env.fails c.board :=
  responds_iff_of_settles (by rw [connect]; decide) (by rw [connect]; decide)
    (onFrame_connect connect ▸ settles_handleWifiConnect c)

theorem responds_scan (scan : f.cmd = cmdWifiScan)
    (few : env.scan.records.length ≤ Firmware.wifiMgrScanMax) (c : Chip) :
    Responds env f c ↔ ¬ ScanAborts env c.board :=
  responds_iff_of_settles (by rw [scan]; decide) (by rw [scan]; decide)
    (onFrame_scan scan ▸ settles_handleWifiScan few c)

/-- A request is answered once, unless it is `CMD_WIFI_CONNECT` or `CMD_WIFI_SCAN` and
`wifi_mgr` aborts. -/
theorem responds_iff (h : Assumed env f) (c : Chip) :
    Responds env f c ↔
      ¬ (f.cmd = Settings.cmdWifiConnect ∧ ConnectAborts env.fails c.board) ∧
        ¬ (f.cmd = cmdWifiScan ∧ ScanAborts env c.board) := by
  by_cases connect : f.cmd = Settings.cmdWifiConnect
  · have scan : f.cmd ≠ cmdWifiScan := by rw [connect]; decide
    rw [responds_connect connect]
    exact ⟨fun passed => ⟨fun aborts => passed aborts.2, fun aborts => scan aborts.1⟩,
      fun passed aborts => passed.1 ⟨connect, aborts⟩⟩
  by_cases scan : f.cmd = cmdWifiScan
  · rw [responds_scan scan h.records]
    exact ⟨fun passed => ⟨fun aborts => connect aborts.1, fun aborts => passed aborts.2⟩,
      fun passed aborts => passed.2 ⟨scan, aborts⟩⟩
  refine iff_of_true ?_ ⟨fun aborts => connect aborts.1, fun aborts => scan aborts.1⟩
  by_cases send : f.cmd = Firmware.cmdProxySend
  · rw [Responds, if_pos send, onFrame_proxySend send]
    exact (quiet_handleProxySend c).mono (fun _ _ quiet => quiet.2) fun _ _ no => no
  rw [Responds, if_neg send]
  by_cases reset : f.cmd = Firmware.cmdReset
  · rw [onFrame_reset reset]
    exact (settles_handleReset c).mono (fun _ _ no => no.elim) fun _ _ ends => ⟨reset, ends⟩
  · exact (answers_onFrame h reset connect scan send c).mono (fun _ _ answered => answered)
      fun _ _ no => no.elim

/-- A board on a desk, where only the calls in `fails` fail. -/
def deskEnv (fails : Failures) : Env where
  fails := fails
  version := ⟨[0x35, 0x2E, 0x31], by decide⟩
  stats := ⟨200000, 320000, 180000, 7, 60, 12, 0, 0, -5, 240⟩
  apInfo := none
  mallocAps := true
  scan := ⟨true, true, true, true, [⟨.zero 33, -60, 3⟩], fun _ => .zero 33⟩
  host := .zero 256
  relay := ⟨false, true, true, false, true, true, false, true, true⟩

def deskChip (b : Board) : Chip := ⟨b, .replicate 4 0, [], []⟩

theorem responds_iff_scan :
    Responds (deskEnv Settings.noFailures) ⟨7, cmdWifiScan, []⟩ (deskChip Settings.erased) :=
  (responds_iff ⟨by decide, by decide, by decide, by decide⟩ _).mpr
    ⟨fun aborts => absurd aborts.1 (by decide), fun aborts => absurd aborts.2.2 (by decide)⟩

/-- A password of four characters, which the driver does not take for WPA2. -/
def pin : CString := ⟨[0x31, 0x32, 0x33, 0x34], by decide⟩

/-- It is stored, and the next `CMD_WIFI_CONNECT` restarts the chip without an answer. -/
theorem connect_unanswered :
    let refuses : Failures := fun call => if call = .wifiSetConfig then some (.other 0x300B) else none
    let chip := deskChip ((Settings.erased.setStr .ssid Settings.cafe).setStr .pass pin)
    Assumed (deskEnv refuses) ⟨7, Settings.cmdWifiConnect, []⟩ ∧
      ¬ Responds (deskEnv refuses) ⟨7, Settings.cmdWifiConnect, []⟩ chip := by
  refine ⟨⟨by decide, by decide, by decide, by decide⟩, ?_⟩
  rw [responds_connect rfl]
  refine not_not_intro ⟨⟨rfl, ⟨rfl, Settings.cafe, rfl, by decide⟩, ⟨rfl, pin, rfl, by decide⟩⟩, ?_⟩
  simp [deskEnv]

end EspNetwork.Commands
