import EspNetwork.Base.Focus
import EspNetwork.Firmware.Reports
import EspNetwork.Settings.Buffers

/-!
# The command handlers

Every handler of `main/esp32-network.c` with each of its calls of `cdc_send_response`, and the
switch of `on_frame` over all of them. The results of malloc, of the Wi-Fi driver and of the
sockets are choices of the environment; the settings are on the board of `Settings`.
-/

namespace EspNetwork.Commands

open Serial (Byte Bytes ProtoFrame)
open Settings (Board EspErr EspCall Failures Halt wifiMgrSsidMax)
open Firmware (DevStats WifiApRecord WifiMgrApInfo statusOk statusError statusBusy statusInvalid)
open Fallible

/-! ## State and environment -/

/-- A call of `cdc_send_response`. -/
structure Response where
  seq : Byte
  cmd : Byte
  status : Byte
  data : Option Bytes
  deriving DecidableEq, Repr

structure Chip where
  board : Board
  sIp : Vector Byte 4
  /-- The calls of `cdc_send_response`. -/
  responses : List Response
  /-- What was handed to `cdc_write_locked`. -/
  wire : List Bytes

/-- What `wifi_mgr_scan` meets. -/
structure ScanResult where
  scanStart : Bool
  scanDone : Bool
  malloc : Bool
  getApRecords : Bool
  records : List WifiApRecord
  mem : ℕ → CharArray (wifiMgrSsidMax + 1)

/-- What the functions of `tcp_mgr` meet: whether there is a relay connection, and which calls
succeed. -/
structure RelayResult where
  connected : Bool
  getaddrinfo : Bool
  socket : Bool
  /-- `connect` is neither done nor in progress. -/
  connectFails : Bool
  connectInProgress : Bool
  select : Bool
  soError : Bool
  malloc : Bool
  xQueueSend : Bool

structure Env where
  fails : Failures
  version : CString
  stats : DevStats
  apInfo : Option Int8
  mallocAps : Bool
  scan : ScanResult
  /-- The array `host` before it is written. -/
  host : CharArray 256
  relay : RelayResult

abbrev Exec := Fallible Chip Halt

/-- A function that knows the board only. -/
def onBoard {ε α : Type} (p : Fallible Board ε α) : Fallible Chip ε α :=
  focus Chip.board (fun c b => { c with board := b }) p

/-- `cdc_send_response` with the sequence number and command of the request. -/
def cdcSendResponse (f : ProtoFrame) (status : Byte) (data : Option Bytes) : Exec Unit :=
  modify fun c =>
    let buf := Serial.protoBuildResponse f.seq f.cmd status data (data.getD []).length
      Firmware.respBufSize
    { c with
      responses := c.responses ++ [⟨f.seq, f.cmd, status, data⟩]
      wire := if buf.length = 0 then c.wire else c.wire ++ [buf] }

/-! ## System -/

def cmdPing : Byte := 0x01
def cmdGetDevInfo : Byte := 0x02
def cmdWifiGetStatus : Byte := 0x14
def cmdWifiScan : Byte := 0x15

variable (env : Env) (f : ProtoFrame)

/-- `handle_ping`. -/
def handlePing : Exec Unit := cdcSendResponse f statusOk (some [0x50, 0x4F, 0x4E, 0x47])

/-- `handle_get_dev_info`; a version that is too long is copied behind the buffer. -/
def handleGetDevInfo : Exec Unit := do
  let buf := Firmware.devInfoPayload env.version env.stats
  if buf.length > Firmware.devInfoBufSize then throw (.fault .write)
  else cdcSendResponse f statusOk (some buf)

/-- `handle_reset`. -/
def handleReset : Exec Unit := do
  cdcSendResponse f statusOk none
  throw .restart

/-- `handle_led_set`. -/
def handleLedSet : Exec Unit := do
  match ← check .fault (Settings.ledSetArgs f.payload) with
  | none => cdcSendResponse f statusInvalid none
  | some val =>
    onBoard (modify fun b => { b with sLedEnabled := val })
    match ← attempt (onBoard (Settings.espCall env.fails .nvsOpen)) with
    | .ok () =>
      let _ ← attempt (onBoard (Settings.nvsSetU8 env.fails val))
      let _ ← attempt (onBoard (Settings.espCall env.fails .nvsCommit))
      cdcSendResponse f statusOk none
    | .error _ => cdcSendResponse f statusOk none

/-- `handle_led_get`. -/
def handleLedGet : Exec Unit := do
  let enabled := (← get).board.sLedEnabled
  cdcSendResponse f statusOk (some [enabled])

/-! ## Wi-Fi -/

/-- `ret == ESP_OK ? PROTO_STATUS_OK : PROTO_STATUS_ERROR`. -/
def statusOf : Except EspErr Unit → Byte
  | .ok () => statusOk
  | .error _ => statusError

/-- `handle_wifi_set_config`. -/
def handleWifiSetConfig : Exec Unit := do
  match ← check .fault (Settings.wifiSetConfigArgs f.payload) with
  | none => cdcSendResponse f statusInvalid none
  | some (ssid, pass) =>
    let ret ← onBoard (Settings.wifiMgrSetConfig env.fails ssid.ptr pass.ptr)
    cdcSendResponse f (statusOf ret) none

/-- `handle_wifi_get_config`. -/
def handleWifiGetConfig : Exec Unit := do
  match ← attempt (onBoard (Settings.wifiMgrGetConfig env.fails)) with
  | .error _ => cdcSendResponse f statusError none
  | .ok cfg =>
    let ssidLen := UInt8.ofNat (← check .fault cfg.ssid.strlen)
    let passLen := UInt8.ofNat (← check .fault cfg.password.strlen)
    cdcSendResponse f statusOk (some (ssidLen :: cfg.ssid.cells.take ssidLen.toNat ++
      passLen :: cfg.password.cells.take passLen.toNat))

/-- `handle_wifi_connect`. -/
def handleWifiConnect : Exec Unit := do
  let ret ← onBoard (Settings.wifiMgrConnect env.fails)
  cdcSendResponse f (statusOf ret) none

/-- `wifi_mgr_disconnect` with the address it clears. -/
def wifiMgrDisconnect : Exec (Except EspErr Unit) := do
  let ret ← onBoard (Settings.wifiMgrDisconnect env.fails)
  match ret with
  | .ok () => modify fun c => { c with sIp := #v[0, 0, 0, 0] }
  | .error _ => pure ()
  return ret

/-- `handle_wifi_disconnect`. -/
def handleWifiDisconnect : Exec Unit := do
  let ret ← wifiMgrDisconnect env
  cdcSendResponse f (statusOf ret) none

/-- `handle_wifi_get_status`. -/
def handleWifiGetStatus : Exec Unit := do
  let c ← get
  let st := Firmware.wifiMgrGetStatus c.board.sState c.sIp env.apInfo
  cdcSendResponse f statusOk (some (Firmware.wifiStatusPayload st))

/-- `handle_wifi_set_hostname`. -/
def handleWifiSetHostname : Exec Unit := do
  match ← check .fault (Settings.wifiSetHostnameArgs f.payload) with
  | none => cdcSendResponse f statusInvalid none
  | some hostname =>
    let ret ← onBoard (Settings.wifiMgrSetHostname env.fails hostname.ptr)
    cdcSendResponse f (statusOf ret) none

/-- `handle_wifi_get_hostname`. -/
def handleWifiGetHostname : Exec Unit := do
  match ← attempt (onBoard (Settings.wifiMgrGetHostname env.fails)) with
  | .error _ => cdcSendResponse f statusError none
  | .ok hostname =>
    let hlen := UInt8.ofNat (← check .fault hostname.strlen)
    cdcSendResponse f statusOk (some (hlen :: hostname.cells.take hlen.toNat))

/-- `wifi_mgr_scan`; `none` is the result -1. -/
def wifiMgrScan (r : ScanResult) : Exec (Option (List WifiMgrApInfo)) := do
  onBoard Settings.xEventGroupBits
  if ¬ r.scanStart then return none
  else
    onBoard Settings.xEventGroupBits
    if ¬ r.scanDone then return none
    else if ¬ r.malloc then return none
    else if ¬ r.getApRecords then return none
    else some <$> check .fault (Firmware.copyRecords r.mem 0 r.records)

/-- `handle_wifi_scan`. -/
def handleWifiScan : Exec Unit := do
  if ¬ env.mallocAps then cdcSendResponse f statusError none
  else
    match ← wifiMgrScan env.scan with
    | none => cdcSendResponse f statusError none
    | some aps =>
      let buf ← check .fault (Firmware.scanPayload aps)
      cdcSendResponse f statusOk (some buf)

/-! ## Relay -/

/-- `tcp_mgr_connect`; the handler does not use the address. -/
def tcpMgrConnect (r : RelayResult) : CharPtr → UInt16 → Except MemFault Int
  | .null, _ => return -1
  | host, _ => do
    if (← host.read).length > 255 then return -1
    else if r.connected then return -2
    else if ¬ r.getaddrinfo then return -1
    else if ¬ r.socket then return -1
    else if r.connectFails then return -1
    else if r.connectInProgress ∧ ¬ r.select then return -1
    else if r.connectInProgress ∧ r.soError then return -1
    else return 0

/-- `tcp_mgr_send`, whose result nobody reads. -/
def tcpMgrSend (r : RelayResult) (data : Bytes) : Int :=
  if data.length = 0 then -1
  else if ¬ r.connected then -1
  else if ¬ r.malloc then -1
  else if ¬ r.xQueueSend then -1
  else 0

/-- `handle_proxy_connect`. -/
def handleProxyConnect : Exec Unit := do
  match ← check .fault (Settings.proxyConnectArgs env.host f.payload) with
  | none => cdcSendResponse f statusInvalid none
  | some (host, port) =>
    let ret ← check .fault (tcpMgrConnect env.relay host.ptr port)
    if ret = -2 then cdcSendResponse f statusBusy none
    else cdcSendResponse f (if ret = 0 then statusOk else statusError) none

/-- `handle_proxy_send`. -/
def handleProxySend : Exec Unit := do
  if f.payload.length = 0 then return ()
  else
    let _ := tcpMgrSend env.relay f.payload
    return ()

/-- `handle_proxy_disconnect`. -/
def handleProxyDisconnect : Exec Unit := cdcSendResponse f statusOk none

/-- `handle_proxy_get_status`. -/
def handleProxyGetStatus : Exec Unit :=
  cdcSendResponse f statusOk (some [if env.relay.connected then 1 else 0])

/-! ## Dispatcher -/

/-- `on_frame`. -/
def onFrame : Exec Unit :=
  if f.cmd = cmdPing then handlePing f
  else if f.cmd = cmdGetDevInfo then handleGetDevInfo env f
  else if f.cmd = Firmware.cmdReset then handleReset f
  else if f.cmd = Settings.cmdLedSet then handleLedSet env f
  else if f.cmd = Settings.cmdLedGet then handleLedGet f
  else if f.cmd = Settings.cmdWifiSetConfig then handleWifiSetConfig env f
  else if f.cmd = Settings.cmdWifiGetConfig then handleWifiGetConfig env f
  else if f.cmd = Settings.cmdWifiConnect then handleWifiConnect env f
  else if f.cmd = Settings.cmdWifiDisconnect then handleWifiDisconnect env f
  else if f.cmd = cmdWifiGetStatus then handleWifiGetStatus env f
  else if f.cmd = cmdWifiScan then handleWifiScan env f
  else if f.cmd = Settings.cmdWifiSetHostname then handleWifiSetHostname env f
  else if f.cmd = Settings.cmdWifiGetHostname then handleWifiGetHostname env f
  else if f.cmd = Firmware.cmdProxyConnect then handleProxyConnect env f
  else if f.cmd = Firmware.cmdProxySend then handleProxySend env f
  else if f.cmd = Firmware.cmdProxyDisconnect then handleProxyDisconnect f
  else if f.cmd = Firmware.cmdProxyGetStatus then handleProxyGetStatus env f
  else cdcSendResponse f statusInvalid none

end EspNetwork.Commands
