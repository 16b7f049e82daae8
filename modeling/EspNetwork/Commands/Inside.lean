import EspNetwork.Commands.Answers

/-!
# The handlers and their arrays

A handler that takes a payload apart stays inside when nothing it does, up to its answer and in
the functions it calls, reads behind the payload or an array or writes behind one, and when a
length byte that promises more than the payload or the array holds is refused at once. Three of
the four handlers do so for every frame. `handle_wifi_set_config` compares its length bytes with
the payload only: it writes behind `ssid[33]` and `pass[65]`, and what fills them without a
terminator `wifi_mgr_set_config` reads past their end.
-/

namespace EspNetwork.Commands

open Serial (Byte Bytes ProtoFrame protoParserCreate protoParserFeedAll encodeFrame)
open Settings (byteAt wifiMgrSsidMax wifiMgrPassMax wifiMgrHostnameMax ConnectFits ConfigCopied
  CopiesBounded cmdLedSet cmdWifiSetConfig cmdWifiSetHostname)
open Firmware (cmdProxyConnect statusInvalid)
open Fallible

/-! ## What the length bytes say -/

def LedFits (payload : Bytes) : Prop := 1 ≤ payload.length

/-- Both strings are in the payload, and the arrays hold them with their terminators. -/
def ConfigFits (payload : Bytes) : Prop :=
  let ssidLen := byteAt payload 0
  let passLen := byteAt payload (1 + ssidLen)
  2 + ssidLen + passLen ≤ payload.length ∧ ssidLen ≤ wifiMgrSsidMax ∧ passLen ≤ wifiMgrPassMax

def HostnameFits (payload : Bytes) : Prop :=
  1 + byteAt payload 0 ≤ payload.length ∧ byteAt payload 0 ≤ wifiMgrHostnameMax

/-- What a handler that takes its payload apart needs of it. -/
structure Fits (f : ProtoFrame) : Prop where
  ledSet : f.cmd = cmdLedSet → LedFits f.payload
  setConfig : f.cmd = cmdWifiSetConfig → ConfigFits f.payload
  setHostname : f.cmd = cmdWifiSetHostname → HostnameFits f.payload
  proxyConnect : f.cmd = cmdProxyConnect → ConnectFits f.payload

def TakesApart (f : ProtoFrame) : Prop :=
  f.cmd = cmdLedSet ∨ f.cmd = cmdWifiSetConfig ∨ f.cmd = cmdWifiSetHostname ∨
    f.cmd = cmdProxyConnect

/-- The length bytes with which `handle_wifi_set_config` refuses the payload before it has copied
more than an array holds, or calls `wifi_mgr_set_config` with two terminated strings. -/
def ConfigBounded (payload : Bytes) : Prop :=
  let ssidLen := byteAt payload 0
  let passLen := byteAt payload (1 + ssidLen)
  payload.length < 2 + ssidLen ∨
    ssidLen ≤ wifiMgrSsidMax + 1 ∧ payload.length < 2 + ssidLen + passLen ∨
    ssidLen ≤ wifiMgrSsidMax ∧ passLen ≤ wifiMgrPassMax

instance (payload : Bytes) : Decidable (ConfigBounded payload) := by
  unfold ConfigBounded; infer_instance

/-! ## Handlers that stay inside -/

/-- The handler's whole effect is the answer `PROTO_STATUS_INVALID`. -/
def Refuses (f : ProtoFrame) (handler : Env → Exec Unit) : Prop :=
  ∀ env, handler env = cdcSendResponse f statusInvalid none

/-- Whatever is stored, and whatever fails, no access is out of bounds. -/
def NoFault (handler : Env → Exec Unit) : Prop :=
  ∀ env c, Settles (handler env) c (fun _ _ => True) fun e _ => ∀ m, e ≠ .fault m

/-- The handling of a frame up to its answer accesses nothing out of bounds, and a frame with a
length byte that does not fit is refused before anything is called. -/
structure StaysInside (f : ProtoFrame) : Prop where
  noFault : TakesApart f → NoFault fun env => onFrame env f
  refuses : ¬ Fits f → Refuses f fun env => onFrame env f

variable {f : ProtoFrame} {env : Env}

theorem noFault_of_answers {handler : Env → Exec Unit} (h : ∀ env, Answers f (handler env)) :
    NoFault handler := fun env c => (h env c).mono (fun _ _ _ => trivial) fun _ _ no => no.elim

theorem onFrame_ledSet (cmd : f.cmd = cmdLedSet) : onFrame env f = handleLedSet env f := by
  simp only [onFrame, cmd]
  rfl

theorem onFrame_setConfig (cmd : f.cmd = cmdWifiSetConfig) :
    onFrame env f = handleWifiSetConfig env f := by
  simp only [onFrame, cmd]
  rfl

theorem onFrame_setHostname (cmd : f.cmd = cmdWifiSetHostname) :
    onFrame env f = handleWifiSetHostname env f := by
  simp only [onFrame, cmd]
  rfl

theorem onFrame_proxyConnect (cmd : f.cmd = cmdProxyConnect) :
    onFrame env f = handleProxyConnect env f := by
  simp only [onFrame, cmd]
  rfl

theorem noFault_ledSet : NoFault fun env => handleLedSet env f :=
  noFault_of_answers fun _ => handleLedSet_eq ▸ answers_onBoard returns_handleLedSet

theorem refuses_ledSet (unfit : ¬ LedFits f.payload) : Refuses f fun env => handleLedSet env f := by
  intro env
  obtain ⟨-, args⟩ | ⟨fits, -⟩ := Settings.ledSetArgs_cases f.payload
  · simp [handleLedSet, args, check]
  · exact absurd fits unfit

theorem noFault_setHostname : NoFault fun env => handleWifiSetHostname env f :=
  noFault_of_answers fun _ =>
    handleWifiSetHostname_eq ▸ answers_onBoard returns_handleWifiSetHostname

theorem refuses_setHostname (unfit : ¬ HostnameFits f.payload) :
    Refuses f fun env => handleWifiSetHostname env f := by
  intro env
  obtain ⟨-, args⟩ | ⟨accepted, -⟩ := Settings.wifiSetHostnameArgs_cases f.payload
  · simp [handleWifiSetHostname, args, check]
  · refine absurd ?_ unfit
    unfold Settings.HostnameRefused at accepted
    unfold HostnameFits
    omega

theorem noFault_proxyConnect : NoFault fun env => handleProxyConnect env f :=
  noFault_of_answers fun _ => answers_handleProxyConnect

theorem refuses_proxyConnect (unfit : ¬ ConnectFits f.payload) :
    Refuses f fun env => handleProxyConnect env f := by
  intro env
  obtain ⟨-, args⟩ | ⟨fits, -⟩ := Settings.proxyConnectArgs_cases env.host f.payload
  · simp [handleProxyConnect, args, check]
  · exact absurd fits unfit

/-! ## The configuration -/

theorem ConfigBounded.copiesBounded {payload : Bytes} (h : ConfigBounded payload) :
    CopiesBounded payload := by
  unfold ConfigBounded at h
  unfold CopiesBounded
  omega

/-- Strings that have been copied stay inside exactly when the arrays hold their terminators. -/
theorem configFits_iff_of_copied {payload : Bytes} (copied : ConfigCopied payload) :
    ConfigFits payload ↔ ConfigBounded payload := by
  unfold ConfigCopied at copied
  unfold ConfigFits ConfigBounded
  omega

/-- Arguments are passed on, and the result is not `PROTO_STATUS_INVALID`. -/
theorem not_refuses_of_args {ssid pass}
    (args : Settings.wifiSetConfigArgs f.payload = .ok (some (ssid, pass))) :
    ¬ Refuses f fun env => handleWifiSetConfig env f := by
  intro refuses
  let c : Chip := deskChip Settings.erased
  let env := deskEnv Settings.noFailures
  have passedOn : Settles (handleWifiSetConfig env f) c
      (fun _ d => ∃ ret, d.responses = [⟨f.seq, f.cmd, statusOf ret, none⟩]) fun _ _ => True := by
    simp only [handleWifiSetConfig, args, settles_bind, settles_check, onBoard, settles_focus]
    exact (settles_trivial _ _).mono (fun ret _ _ => ⟨ret, rfl⟩) fun _ _ _ => trivial
  have refused : Settles (handleWifiSetConfig env f) c
      (fun _ d => d.responses = [⟨f.seq, f.cmd, statusInvalid, none⟩]) fun _ _ => False := by
    have answer : handleWifiSetConfig env f = _ := refuses env
    rw [answer]
    rfl
  apply not_settles_false (handleWifiSetConfig env f) c
  refine (passedOn.and refused).mono ?_ fun _ _ no => no.2
  rintro _ d ⟨⟨ret, answer⟩, invalid⟩
  rw [answer] at invalid
  cases ret <;>
    exact absurd invalid
      (by simp [statusOf, Firmware.statusOk, Firmware.statusError, statusInvalid])

theorem setConfig_inside_iff :
    NoFault (fun env => handleWifiSetConfig env f) ∧
        (¬ ConfigFits f.payload → Refuses f fun env => handleWifiSetConfig env f) ↔
      ConfigBounded f.payload := by
  obtain ⟨refused, args⟩ | ⟨unbounded, args⟩ | ⟨copied, ssid, pass, args, -⟩ :=
    Settings.wifiSetConfigArgs_cases f.payload
  · have refuses : Refuses f fun env => handleWifiSetConfig env f := fun env => by
      simp [handleWifiSetConfig, args, check]
    refine iff_of_true ⟨noFault_of_answers (f := f) fun env => ?_, fun _ => refuses⟩ ?_
    · have answer : handleWifiSetConfig env f = _ := refuses env
      rw [answer]
      exact answers_none _
    · unfold Settings.ConfigRefused at refused
      unfold ConfigBounded
      omega
  · refine iff_of_false ?_ fun bounded => unbounded bounded.copiesBounded
    rintro ⟨noFault, -⟩
    have faults := noFault (deskEnv Settings.noFailures) (deskChip Settings.erased)
    simp only [handleWifiSetConfig, args] at faults
    exact faults .write rfl
  · rw [← configFits_iff_of_copied copied]
    constructor
    · rintro ⟨-, refuses⟩
      by_contra unfit
      exact not_refuses_of_args args (refuses unfit)
    · intro fits
      refine ⟨noFault_of_answers (f := f) fun env => ?_, fun unfit => absurd fits unfit⟩
      exact handleWifiSetConfig_eq ▸
        answers_onBoard (returns_handleWifiSetConfig fits.2.1 fits.2.2)

theorem StaysInside.configBounded (inside : StaysInside f) (cmd : f.cmd = cmdWifiSetConfig) :
    ConfigBounded f.payload := by
  have noFault := inside.noFault (.inr (.inl cmd))
  simp only [onFrame_setConfig cmd] at noFault
  refine setConfig_inside_iff.mp ⟨noFault, fun unfit => ?_⟩
  have refuses := inside.refuses fun fits => unfit (fits.setConfig cmd)
  simpa only [onFrame_setConfig cmd] using refuses

/-- Every frame is handled inside the arrays, except the requests to set a configuration whose
length bytes fit the payload but not the arrays. -/
theorem handlers_stay_inside (f : ProtoFrame) :
    StaysInside f ↔ (f.cmd = cmdWifiSetConfig → ConfigBounded f.payload) := by
  refine ⟨StaysInside.configBounded, fun bounded => ⟨?_, fun unfit => ?_⟩⟩
  · rintro (cmd | cmd | cmd | cmd)
    · simpa only [onFrame_ledSet cmd] using noFault_ledSet
    · simpa only [onFrame_setConfig cmd] using (setConfig_inside_iff.mpr (bounded cmd)).1
    · simpa only [onFrame_setHostname cmd] using noFault_setHostname
    · simpa only [onFrame_proxyConnect cmd] using noFault_proxyConnect
  · by_contra accepted
    refine unfit ⟨fun cmd => ?_, fun cmd => ?_, fun cmd => ?_, fun cmd => ?_⟩ <;>
      refine by_contra fun bad => accepted ?_
    · simpa only [onFrame_ledSet cmd] using refuses_ledSet bad
    · simpa only [onFrame_setConfig cmd] using (setConfig_inside_iff.mpr (bounded cmd)).2 bad
    · simpa only [onFrame_setHostname cmd] using refuses_setHostname bad
    · simpa only [onFrame_proxyConnect cmd] using refuses_proxyConnect bad

/-- An SSID of 34 characters, and no password. -/
def wideFrame : ProtoFrame := ⟨0, cmdWifiSetConfig, 34 :: (List.replicate 34 0x61 ++ [0])⟩

/-- An SSID of 33 characters, which fill the array. -/
def fullFrame : ProtoFrame := ⟨0, cmdWifiSetConfig, 33 :: (List.replicate 33 0x61 ++ [0])⟩

/-- How the handling of a frame ends on a board on a desk. -/
def ending (f : ProtoFrame) : Except Settings.Halt Unit :=
  ((onFrame (deskEnv Settings.noFailures) f).outcome (deskChip Settings.erased)).1

/-- The parser delivers both. The handler writes the one behind `ssid[33]`, and
`wifi_mgr_set_config` reads the other past its end. -/
theorem handler_overruns :
    (protoParserFeedAll protoParserCreate [encodeFrame wideFrame, encodeFrame fullFrame]).2 =
        [wideFrame, fullFrame] ∧
      ending wideFrame = .error (.fault .write) ∧ ending fullFrame = .error (.fault .read) ∧
      ¬ StaysInside wideFrame ∧ ¬ StaysInside fullFrame := by
  have fits : ∀ f ∈ [wideFrame, fullFrame], f.payload.length ≤ Serial.protoMaxPayload := by
    simp [wideFrame, fullFrame, Serial.protoMaxPayload]
  refine ⟨(Serial.protoParserFeedAll_encodeFrames fits (by simp)).1, by decide +kernel,
    by decide +kernel, fun inside => ?_, fun inside => ?_⟩
  · exact absurd (inside.configBounded rfl) (by decide)
  · exact absurd (inside.configBounded rfl) (by decide)

end EspNetwork.Commands
