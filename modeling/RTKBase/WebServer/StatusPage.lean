import Mathlib.Data.Int.Log
import RTKBase.TcpServer.Server
import RTKBase.WebServer.ConfigPage

namespace rtkbase.web_server

open lib.cstring nvs_config
open tcp_server (decimalText)

/-- The string that bytes in memory make. -/
def textOf (bytes : List UInt8) : CString := strlcpy 4294967294 bytes

/-- The nearest whole number, and the even one of two. -/
def roundHalfEven (value : ℚ) : Int :=
  let down := value.floor
  let rest := value - down
  if rest < 1 / 2 ∨ (rest = 1 / 2 ∧ down % 2 = 0) then down else down + 1

/-- The nearest number with 53 significant bits: a conversion to `double`, or the
result of one operation on it, away from the ends of its range. -/
def toDouble (value : ℚ) : ℚ :=
  let unit : ℚ := 2 ^ (Int.log 2 |value| - 52)
  roundHalfEven (value / unit) * unit

inductive esp_reset_reason_t where
  | ESP_RST_UNKNOWN
  | ESP_RST_POWERON
  | ESP_RST_EXT
  | ESP_RST_SW
  | ESP_RST_PANIC
  | ESP_RST_INT_WDT
  | ESP_RST_TASK_WDT
  | ESP_RST_WDT
  | ESP_RST_DEEPSLEEP
  | ESP_RST_BROWNOUT
  | ESP_RST_SDIO
  | other

open esp_reset_reason_t in
def reset_reason_name : esp_reset_reason_t → String
  | ESP_RST_UNKNOWN | other => "UNKNOWN"
  | ESP_RST_POWERON => "POWERON"
  | ESP_RST_EXT => "EXTERNAL"
  | ESP_RST_SW => "SOFTWARE"
  | ESP_RST_PANIC => "PANIC"
  | ESP_RST_INT_WDT => "INTERRUPT_WATCHDOG"
  | ESP_RST_TASK_WDT => "TASK_WATCHDOG"
  | ESP_RST_WDT => "OTHER_WATCHDOG"
  | ESP_RST_DEEPSLEEP => "DEEPSLEEP"
  | ESP_RST_BROWNOUT => "BROWNOUT"
  | ESP_RST_SDIO => "SDIO"

inductive SockType where
  | SOCK_STREAM
  | SOCK_DGRAM
  | SOCK_RAW
  | other

def SOCKTYPE_NAME : SockType → String
  | .SOCK_STREAM => "TCP"
  | .SOCK_DGRAM => "UDP"
  | .SOCK_RAW => "RAW"
  | .other => "???"

/-- The eight blocks of an IPv6 address. -/
abbrev esp_ip6_addr_t := Vector UInt16 8

inductive sockaddr where
  | sockaddr_in (sin_addr : UInt32) (sin_port : UInt16)
  | sockaddr_in6 (sin6_addr : esp_ip6_addr_t) (sin6_port : UInt16)
  | other

/-- What `IPSTR` prints. -/
def ip4Text (ip : UInt32) : List UInt8 :=
  decimalText (esp_ip4_addr_get_byte ip 0).toNat ++ 46 ::
    decimalText (esp_ip4_addr_get_byte ip 1).toNat ++ 46 ::
    decimalText (esp_ip4_addr_get_byte ip 2).toNat ++ 46 ::
    decimalText (esp_ip4_addr_get_byte ip 3).toNat

/-- What `%02x` prints. -/
def hexByte (b : UInt8) : List UInt8 := [lowerHexDigit (b / 16), lowerHexDigit (b % 16)]

/-- What `IPV6STR` prints: `%04x` for each block. -/
def ip6Text (ip : esp_ip6_addr_t) : List UInt8 :=
  [58].intercalate (ip.toList.map fun block : UInt16 =>
    hexByte (block >>> 8).toUInt8 ++ hexByte block.toUInt8)

/-- The IPv4 address in an IPv6 one that maps it. -/
def ipv4Mapped (ip : esp_ip6_addr_t) : Option UInt32 :=
  match ip.toList with
  | [0, 0, 0, 0, 0, 0xffff, high, low] =>
    some (ip4_addr (high >>> 8).toUInt32 (high &&& 0xff).toUInt32 (low >>> 8).toUInt32
      (low &&& 0xff).toUInt32)
  | _ => none

structure SocketStatus where
  socktype : SockType
  /-- What `getsockname` and `getpeername` found. -/
  sockname : Option sockaddr
  peername : Option sockaddr

structure stream_stats_values_t where
  name : CString
  total_in : UInt32
  total_out : UInt32
  rate_in : UInt32
  rate_out : UInt32

structure tcp_server_diag_t where
  dropped_frames : UInt32
  dropped_bytes : UInt32
  send_block_events : UInt32
  send_deferred_events : UInt32
  send_fatal_errors : UInt32
  pending_bytes : UInt32
  queue_fill : UInt32
  queue_depth : UInt32

/-- The entries of `ntrip_client_diag_t` for one uplink. -/
structure UplinkDiag where
  queue_drops : UInt32
  queue_fill : UInt32
  send_block_events : UInt32
  send_fatal_errors : UInt32
  reconnect_events : UInt32

structure ntrip_client_diag_t where
  uplink1 : UplinkDiag
  uplink2 : UplinkDiag
  queue_depth : UInt32
  connected_mask : UInt32

structure ntrip_caster_diag_t where
  queue_drops : UInt32
  queue_fill : UInt32
  queue_depth : UInt32
  rover_slow_drops : UInt32
  rover_block_events : UInt32
  rover_send_errors : UInt32
  active_rovers : UInt32

structure gnss_uart_diag_t where
  rtcm_frames : UInt32
  last_rtcm_ms : UInt64
  rtcm_bad_len_count : UInt32
  rtcm_crc_fail_count : UInt32

structure wifi_ap_status_t where
  active : Bool
  ssid : CString
  authmode : wifi_auth_mode_t
  devices : UInt8
  ip4_addr : UInt32
  ip6_addr : esp_ip6_addr_t

structure wifi_sta_status_t where
  active : Bool
  connected : Bool
  ssid : CString
  authmode : wifi_auth_mode_t
  rssi : Int8
  ip4_addr : UInt32
  ip6_addr : esp_ip6_addr_t

structure wifi_sta_diag_t where
  connect_count : UInt32
  disconnect_count : UInt32
  last_disconnect_reason : Int32
  last_disconnect_reason_name : CString
  last_rssi : Int8
  last_channel : UInt8
  last_bssid : Vector UInt8 6
  last_bssid_valid : Bool
  last_disconnect_ms : UInt64

structure HeapStatus where
  total_size : UInt32
  free_size : UInt32
  minimum_free_size : UInt32
  largest_free_block : UInt32

structure timeval where
  tv_sec : Int64
  tv_usec : Int32

/-- All that `status_get_handler` reads. -/
structure DeviceStatus where
  esp_timer_get_time : Int64
  esp_reset_reason : esp_reset_reason_t
  tv : timeval
  time_valid : Bool
  /-- What `strftime` makes of the local time. -/
  time_text : CString
  heap : HeapStatus
  streams : List stream_stats_values_t
  tcp_server_client_connected : Bool
  tcp_server_client_endpoint : CString
  tcp_diag : tcp_server_diag_t
  ntrip_client_diag : ntrip_client_diag_t
  ntrip_caster_diag : ntrip_caster_diag_t
  gnss_diag : gnss_uart_diag_t
  version : CString
  sockets : List SocketStatus
  ap_status : wifi_ap_status_t
  sta_status : wifi_sta_status_t
  sta_diag : wifi_sta_diag_t

def jsonString (s : String) : cJSON := .cJSON_String (literal s)

def jsonDouble (value : ℚ) : cJSON := .cJSON_Number (.finite value)

/-- An object of 32-bit counters. -/
def countersJson (counters : List (String × UInt32)) : cJSON :=
  jsonObject (counters.map fun counter => (counter.1, jsonNumber counter.2.toNat))

def heapJson (heap : HeapStatus) : cJSON :=
  countersJson [("total", heap.total_size), ("free", heap.free_size),
    ("min_free", heap.minimum_free_size), ("largest_free_block", heap.largest_free_block)]

def streamJson (values : stream_stats_values_t) : cJSON :=
  jsonObject [("total", countersJson [("in", values.total_in), ("out", values.total_out)]),
    ("rate", countersJson [("in", values.rate_in), ("out", values.rate_out)])]

def streamsJson (streams : List stream_stats_values_t) : cJSON :=
  .cJSON_Object (streams.map fun values => (values.name, streamJson values))

def tcp_diag_json (tcp_diag : tcp_server_diag_t) : cJSON :=
  countersJson [("dropped_frames", tcp_diag.dropped_frames),
    ("dropped_bytes", tcp_diag.dropped_bytes),
    ("send_block_events", tcp_diag.send_block_events),
    ("send_deferred_events", tcp_diag.send_deferred_events),
    ("send_fatal_errors", tcp_diag.send_fatal_errors),
    ("pending_bytes", tcp_diag.pending_bytes),
    ("queue_fill", tcp_diag.queue_fill), ("queue_depth", tcp_diag.queue_depth)]

def uplinkJson (connected : Bool) (queue_depth : UInt32) (uplink : UplinkDiag) : cJSON :=
  jsonObject [("connected", .cJSON_Bool connected),
    ("queue_drops", jsonNumber uplink.queue_drops.toNat),
    ("queue_fill", jsonNumber uplink.queue_fill.toNat),
    ("queue_depth", jsonNumber queue_depth.toNat),
    ("send_block_events", jsonNumber uplink.send_block_events.toNat),
    ("send_fatal_errors", jsonNumber uplink.send_fatal_errors.toNat),
    ("reconnect_events", jsonNumber uplink.reconnect_events.toNat)]

def ntripClientsJson (diag : ntrip_client_diag_t) : cJSON :=
  jsonObject [
    ("uplink1", uplinkJson (diag.connected_mask &&& 1 != 0) diag.queue_depth diag.uplink1),
    ("uplink2", uplinkJson (diag.connected_mask &&& 2 != 0) diag.queue_depth diag.uplink2)]

def ntripCasterJson (diag : ntrip_caster_diag_t) : cJSON :=
  countersJson [("queue_drops", diag.queue_drops), ("queue_fill", diag.queue_fill),
    ("queue_depth", diag.queue_depth), ("rover_slow_drops", diag.rover_slow_drops),
    ("rover_block_events", diag.rover_block_events),
    ("rover_send_errors", diag.rover_send_errors), ("active_rovers", diag.active_rovers)]

/-- The milliseconds since an event, -1 when there was none. -/
def ageMs (happened : Bool) (uptime_ms last_ms : UInt64) : ℚ :=
  if happened = true ∧ 0 < last_ms ∧ last_ms ≤ uptime_ms then
    toDouble (uptime_ms - last_ms).toNat
  else -1

def gnssJson (uptime_ms : UInt64) (diag : gnss_uart_diag_t) : cJSON :=
  jsonObject [("rtcm_frames", jsonNumber diag.rtcm_frames.toNat),
    ("last_rtcm_ms", jsonDouble (toDouble diag.last_rtcm_ms.toNat)),
    ("last_rtcm_age_ms", jsonDouble (ageMs (0 < diag.rtcm_frames) uptime_ms diag.last_rtcm_ms)),
    ("rtcm_bad_len_count", jsonNumber diag.rtcm_bad_len_count.toNat),
    ("rtcm_crc_fail_count", jsonNumber diag.rtcm_crc_fail_count.toNat)]

def apJson (ap_status : wifi_ap_status_t) : cJSON :=
  jsonObject (("active", .cJSON_Bool ap_status.active) ::
    if ap_status.active then
      [("ssid", .cJSON_String ap_status.ssid),
        ("authmode", jsonString (wifi_auth_mode_name ap_status.authmode)),
        ("devices", jsonNumber ap_status.devices.toNat),
        ("ip4", .cJSON_String (textOf (ip4Text ap_status.ip4_addr))),
        ("ip6", .cJSON_String (textOf (ip6Text ap_status.ip6_addr)))]
    else [])

def staJson (sta_status : wifi_sta_status_t) : cJSON :=
  jsonObject (("active", .cJSON_Bool sta_status.active) ::
    if sta_status.active then
      ("connected", .cJSON_Bool sta_status.connected) ::
        if sta_status.connected then
          [("ssid", .cJSON_String sta_status.ssid),
            ("authmode", jsonString (wifi_auth_mode_name sta_status.authmode)),
            ("rssi", jsonInt sta_status.rssi.toInt),
            ("ip4", .cJSON_String (textOf (ip4Text sta_status.ip4_addr))),
            ("ip6", .cJSON_String (textOf (ip6Text sta_status.ip6_addr)))]
        else []
    else [])

/-- What `MACSTR` prints. -/
def macText (bssid : Vector UInt8 6) : List UInt8 := [58].intercalate (bssid.toList.map hexByte)

def sta_diag_json (uptime_ms : UInt64) (diag : wifi_sta_diag_t) : cJSON :=
  jsonObject [("connect_count", jsonNumber diag.connect_count.toNat),
    ("disconnect_count", jsonNumber diag.disconnect_count.toNat),
    ("last_disconnect_reason", jsonInt diag.last_disconnect_reason.toInt),
    ("last_disconnect_reason_name", .cJSON_String diag.last_disconnect_reason_name),
    ("last_disconnect_ms", jsonDouble (toDouble diag.last_disconnect_ms.toNat)),
    ("last_disconnect_age_ms", jsonDouble (ageMs true uptime_ms diag.last_disconnect_ms)),
    ("last_rssi", jsonInt diag.last_rssi.toInt),
    ("last_channel", jsonNumber diag.last_channel.toNat),
    ("last_bssid", .cJSON_String
      (if diag.last_bssid_valid then textOf (macText diag.last_bssid) else literal ""))]

namespace DeviceStatus

def uptime_ms (d : DeviceStatus) : UInt64 := (d.esp_timer_get_time / 1000).toUInt64

/-- The seconds as an `int`. -/
def uptime (d : DeviceStatus) : Int := (d.uptime_ms / 1000).toUInt32.toInt32.toInt

def unix (d : DeviceStatus) : ℚ := toDouble d.tv.tv_sec.toInt

/-- `(double)tv.tv_sec * 1000.0 + (double)tv.tv_usec / 1000.0`. -/
def unix_ms (d : DeviceStatus) : ℚ :=
  toDouble (toDouble (d.unix * 1000) + toDouble (d.tv.tv_usec.toInt / 1000))

/-- The member `local` of the time. -/
def local_time (d : DeviceStatus) : CString :=
  if d.time_valid then d.time_text else literal "not synchronized"

end DeviceStatus

def time_json (d : DeviceStatus) : cJSON :=
  jsonObject [("valid", .cJSON_Bool d.time_valid), ("unix", jsonDouble d.unix),
    ("unix_ms", jsonDouble d.unix_ms), ("local", .cJSON_String d.local_time)]

section

variable (inet_ntop6 : esp_ip6_addr_t → List UInt8)

/-- The texts of IPv6 addresses are those of the network stack. -/
def sockaddrtostr : sockaddr → List UInt8
  | .sockaddr_in sin_addr sin_port => ip4Text sin_addr ++ 58 :: decimalText sin_port.toNat
  | .sockaddr_in6 sin6_addr sin6_port =>
    match ipv4Mapped sin6_addr with
    | some sin_addr => ip4Text sin_addr ++ 58 :: decimalText sin6_port.toNat
    | none => 91 :: inet_ntop6 sin6_addr ++ 93 :: 58 :: decimalText sin6_port.toNat
  | .other => ascii "UNKNOWN"

/-- The member for an address, when there is one. -/
def addressMember (key : String) (address : Option sockaddr) : List (String × cJSON) :=
  address.toList.map fun a => (key, .cJSON_String (textOf (sockaddrtostr inet_ntop6 a)))

def socketJson (socket : SocketStatus) : cJSON :=
  jsonObject (("type", jsonString (SOCKTYPE_NAME socket.socktype)) ::
    (addressMember inet_ntop6 "local" socket.sockname ++
      addressMember inet_ntop6 "peer" socket.peername))

/-- The object of `status_get_handler`. -/
def statusJson (d : DeviceStatus) : cJSON :=
  jsonObject [("uptime", jsonInt d.uptime),
    ("uptime_ms", jsonDouble (toDouble d.uptime_ms.toNat)),
    ("reset_reason", jsonString (reset_reason_name d.esp_reset_reason)),
    ("time", time_json d),
    ("heap", heapJson d.heap),
    ("streams", streamsJson d.streams),
    ("tcp_server", jsonObject [("connected", .cJSON_Bool d.tcp_server_client_connected),
      ("endpoint", .cJSON_String d.tcp_server_client_endpoint),
      ("diag", tcp_diag_json d.tcp_diag)]),
    ("ntrip_clients", ntripClientsJson d.ntrip_client_diag),
    ("ntrip_caster", ntripCasterJson d.ntrip_caster_diag),
    ("gnss", gnssJson d.uptime_ms d.gnss_diag),
    ("firmware", jsonObject [("version", .cJSON_String d.version)]),
    ("sockets", .cJSON_Array (d.sockets.map (socketJson inet_ntop6))),
    ("wifi", jsonObject [("ap", apJson d.ap_status), ("sta", staJson d.sta_status),
      ("sta_diag", sta_diag_json d.uptime_ms d.sta_diag)])]

def status_get_handler (printer : JsonPrinter) (d : DeviceStatus) :=
  pageHandler printer (some (statusJson inet_ntop6 d))

end

end rtkbase.web_server
