import EspNetwork.Api.Auth
import EspNetwork.Api.Reports
import EspNetwork.Commands.Answers
import EspNetwork.Commands.Inside
import EspNetwork.Ctrl.Connect
import EspNetwork.Ctrl.Manage
import EspNetwork.Ctrl.WriteLock
import EspNetwork.Firmware.CdcWrite
import EspNetwork.Firmware.CpuMonitor
import EspNetwork.Firmware.Snapshots
import EspNetwork.Firmware.Stream
import EspNetwork.Firmware.UsbOrder
import EspNetwork.Host.Matching
import EspNetwork.Host.Shutdown
import EspNetwork.Proxy.Announce
import EspNetwork.Proxy.Chain
import EspNetwork.Proxy.Replay
import EspNetwork.Proxy.Table
import EspNetwork.Proxy.Teardown
import EspNetwork.Proxy.Upstream
import EspNetwork.Serial.Builders
import EspNetwork.Serial.Crc
import EspNetwork.Serial.Resync
import EspNetwork.Session.Matching
import EspNetwork.Settings.Api
import EspNetwork.Settings.Atomic
import EspNetwork.Socks.Forward
import EspNetwork.Socks.Relay
import EspNetwork.Stack.Delivery
import EspNetwork.Tunnel.Downlink
import EspNetwork.Tunnel.FailStop
import EspNetwork.Tunnel.Handover
import EspNetwork.Tunnel.Target
import EspNetwork.Tunnel.Uplink
import EspNetwork.Tunnel.WriteSize
import EspNetwork.Virtual.Flush
import EspNetwork.Wifi.Reconnect
import EspNetwork.Wifi.Status
