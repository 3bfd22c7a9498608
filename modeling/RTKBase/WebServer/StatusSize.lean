import Mathlib.Tactic.Ring
import RTKBase.WebServer.StatusPage

namespace rtkbase.web_server

open lib.cstring nvs_config

def streamSize (values : stream_stats_values_t) : Nat :=
  46 + intSize values.total_in.toNat + intSize values.total_out.toNat +
    intSize values.rate_in.toNat + intSize values.rate_out.toNat

def streamsSize (streams : List stream_stats_values_t) : Nat :=
  enclosedSize (streams.map fun values => escapedSize values.name.bytes + 3 + streamSize values)

/-- The characters that a network brings, besides those of its signal or its
devices. -/
def networkSize (ssid : CString) (authmode : wifi_auth_mode_t) (ip4_addr : UInt32)
    (ip6_addr : esp_ip6_addr_t) : Nat :=
  36 + stringSize ssid + (wifi_auth_mode_name authmode).length +
    stringSize (textOf (ip4Text ip4_addr)) + stringSize (textOf (ip6Text ip6_addr))

def apSize (ap_status : wifi_ap_status_t) : Nat :=
  11 + boolSize ap_status.active +
    if ap_status.active then
      11 + intSize ap_status.devices.toNat + networkSize ap_status.ssid ap_status.authmode
        ap_status.ip4_addr ap_status.ip6_addr
    else 0

def staSize (sta_status : wifi_sta_status_t) : Nat :=
  11 + boolSize sta_status.active +
    if sta_status.active then
      13 + boolSize sta_status.connected +
        if sta_status.connected then
          8 + intSize sta_status.rssi.toInt + networkSize sta_status.ssid sta_status.authmode
            sta_status.ip4_addr sta_status.ip6_addr
        else 0
    else 0

namespace DeviceStatus

/-- The 32-bit counters that every status page has. -/
def counters (d : DeviceStatus) : List UInt32 :=
  [d.heap.total_size, d.heap.free_size, d.heap.minimum_free_size, d.heap.largest_free_block,
    d.tcp_diag.dropped_frames, d.tcp_diag.dropped_bytes, d.tcp_diag.send_block_events,
    d.tcp_diag.send_deferred_events, d.tcp_diag.send_fatal_errors, d.tcp_diag.pending_bytes,
    d.tcp_diag.queue_fill, d.tcp_diag.queue_depth,
    d.ntrip_client_diag.uplink1.queue_drops, d.ntrip_client_diag.uplink1.queue_fill,
    d.ntrip_client_diag.queue_depth, d.ntrip_client_diag.uplink1.send_block_events,
    d.ntrip_client_diag.uplink1.send_fatal_errors, d.ntrip_client_diag.uplink1.reconnect_events,
    d.ntrip_client_diag.uplink2.queue_drops, d.ntrip_client_diag.uplink2.queue_fill,
    d.ntrip_client_diag.queue_depth, d.ntrip_client_diag.uplink2.send_block_events,
    d.ntrip_client_diag.uplink2.send_fatal_errors, d.ntrip_client_diag.uplink2.reconnect_events,
    d.ntrip_caster_diag.queue_drops, d.ntrip_caster_diag.queue_fill,
    d.ntrip_caster_diag.queue_depth, d.ntrip_caster_diag.rover_slow_drops,
    d.ntrip_caster_diag.rover_block_events, d.ntrip_caster_diag.rover_send_errors,
    d.ntrip_caster_diag.active_rovers, d.gnss_diag.rtcm_frames, d.gnss_diag.rtcm_bad_len_count,
    d.gnss_diag.rtcm_crc_fail_count, d.sta_diag.connect_count, d.sta_diag.disconnect_count]

/-- The other whole numbers of at most 32 bits. -/
def integers (d : DeviceStatus) : List Int :=
  [d.uptime, d.sta_diag.last_disconnect_reason.toInt, d.sta_diag.last_rssi.toInt,
    d.sta_diag.last_channel.toNat]

/-- The times and ages. -/
def times (d : DeviceStatus) : List ℚ :=
  [toDouble d.uptime_ms.toNat, d.unix, d.unix_ms, toDouble d.gnss_diag.last_rtcm_ms.toNat,
    ageMs (0 < d.gnss_diag.rtcm_frames) d.uptime_ms d.gnss_diag.last_rtcm_ms,
    toDouble d.sta_diag.last_disconnect_ms.toNat,
    ageMs true d.uptime_ms d.sta_diag.last_disconnect_ms]

def flags (d : DeviceStatus) : List Bool :=
  [d.time_valid, d.tcp_server_client_connected, d.ntrip_client_diag.connected_mask &&& 1 != 0,
    d.ntrip_client_diag.connected_mask &&& 2 != 0]

def texts (d : DeviceStatus) : List CString :=
  [literal (reset_reason_name d.esp_reset_reason), d.local_time, d.tcp_server_client_endpoint,
    d.version, d.sta_diag.last_disconnect_reason_name,
    if d.sta_diag.last_bssid_valid then textOf (macText d.sta_diag.last_bssid) else literal ""]

end DeviceStatus

section

variable (inet_ntop6 : esp_ip6_addr_t → List UInt8)

/-- The characters of an address with those of its key. -/
def addressSize (key : String) (address : Option sockaddr) : Nat :=
  (address.map fun a => key.length + 4 + stringSize (textOf (sockaddrtostr inet_ntop6 a))).getD 0

def socketSize (socket : SocketStatus) : Nat :=
  14 + addressSize inet_ntop6 "local" socket.sockname +
    addressSize inet_ntop6 "peer" socket.peername

variable (printer : JsonPrinter)

/-- The characters of the status page. -/
def statusSize (d : DeviceStatus) : Nat :=
  1134 + (d.counters.map fun counter => intSize counter.toNat).sum +
    (d.integers.map intSize).sum +
    (d.times.map fun time => numberSize printer (.finite time)).sum +
    (d.flags.map boolSize).sum + (d.texts.map stringSize).sum + streamsSize d.streams +
    enclosedSize (d.sockets.map (socketSize inet_ntop6)) +
    apSize d.ap_status + staSize d.sta_status

end

section

variable (printer : JsonPrinter)

theorem counters_length {counters : List (String × UInt32)} (hcounters : counters ≠ []) :
    (printer.cJSON_PrintUnformatted (countersJson counters)).length =
      keysSize (counters.map Prod.fst) +
        (counters.map fun counter => intSize counter.2.toNat).sum := by
  have hnumber : ∀ counter : String × UInt32,
      (printer.cJSON_PrintUnformatted (jsonNumber counter.2.toNat)).length =
        intSize counter.2.toNat :=
    fun counter => small_number_length printer counter.2.toNat_lt
  rw [countersJson, jsonObject_length printer (by simpa using hcounters), List.map_map,
    List.map_map]
  simp only [Function.comp_def, hnumber]

theorem i8_length (number : Int8) :
    (printer.cJSON_PrintUnformatted (jsonInt number.toInt)).length = intSize number.toInt := by
  have hlow := number.le_toInt
  have hhigh := number.toInt_lt
  exact int_length printer (by omega)

theorem i32_length (number : Int32) :
    (printer.cJSON_PrintUnformatted (jsonInt number.toInt)).length = intSize number.toInt := by
  have hlow := number.le_toInt
  have hhigh := number.toInt_lt
  exact int_length printer (by omega)

theorem u8_length (number : UInt8) :
    (printer.cJSON_PrintUnformatted (jsonNumber number.toNat)).length = intSize number.toNat := by
  have hlt := number.toNat_lt
  exact small_number_length printer (by omega)

theorem u32_length (number : UInt32) :
    (printer.cJSON_PrintUnformatted (jsonNumber number.toNat)).length = intSize number.toNat :=
  small_number_length printer number.toNat_lt

theorem double_length (value : ℚ) :
    (printer.cJSON_PrintUnformatted (jsonDouble value)).length =
      numberSize printer (.finite value) := rfl

theorem stream_length (values : stream_stats_values_t) :
    (printer.cJSON_PrintUnformatted (streamJson values)).length = streamSize values := by
  have hkeys : keysSize ["total", "rate"] = 18 := rfl
  have hcounters : keysSize ["in", "out"] = 14 := rfl
  rw [streamJson, jsonObject_length printer (List.cons_ne_nil _ _)]
  simp only [List.map_cons, List.map_nil, List.sum_cons, List.sum_nil, hkeys, hcounters,
    counters_length printer (List.cons_ne_nil _ _), streamSize]
  omega

theorem streams_length (streams : List stream_stats_values_t) :
    (printer.cJSON_PrintUnformatted (streamsJson streams)).length = streamsSize streams := by
  rw [streamsJson, object_length, streamsSize, List.map_map]
  simp only [Function.comp_def, stream_length]

theorem uplink_length (connected : Bool) (queue_depth : UInt32) (uplink : UplinkDiag) :
    (printer.cJSON_PrintUnformatted (uplinkJson connected queue_depth uplink)).length =
      120 + boolSize connected + intSize uplink.queue_drops.toNat +
        intSize uplink.queue_fill.toNat + intSize queue_depth.toNat +
        intSize uplink.send_block_events.toNat + intSize uplink.send_fatal_errors.toNat +
        intSize uplink.reconnect_events.toNat := by
  have hkeys : keysSize ["connected", "queue_drops", "queue_fill", "queue_depth",
      "send_block_events", "send_fatal_errors", "reconnect_events"] = 120 := rfl
  rw [uplinkJson, jsonObject_length printer (List.cons_ne_nil _ _)]
  simp only [List.map_cons, List.map_nil, List.sum_cons, List.sum_nil, hkeys, bool_length,
    u32_length]
  omega

theorem ap_length (ap_status : wifi_ap_status_t) :
    (printer.cJSON_PrintUnformatted (apJson ap_status)).length = apSize ap_status := by
  have hidle : keysSize ["active"] = 11 := rfl
  have hkeys : keysSize ["active", "ssid", "authmode", "devices", "ip4", "ip6"] = 56 := rfl
  rw [apJson, jsonObject_length printer (List.cons_ne_nil _ _), apSize, networkSize]
  split
  case isTrue =>
    simp only [List.map_cons, List.map_nil, List.sum_cons, List.sum_nil, hkeys, bool_length,
      jsonString, string_length, authmode_size, u8_length]
    omega
  case isFalse =>
    simp only [List.map_cons, List.map_nil, List.sum_cons, List.sum_nil, hidle, bool_length]
    omega

theorem sta_length (sta_status : wifi_sta_status_t) :
    (printer.cJSON_PrintUnformatted (staJson sta_status)).length = staSize sta_status := by
  have hidle : keysSize ["active"] = 11 := rfl
  have hactive : keysSize ["active", "connected"] = 24 := rfl
  have hkeys : keysSize ["active", "connected", "ssid", "authmode", "rssi", "ip4", "ip6"] = 66 := rfl
  rw [staJson, jsonObject_length printer (List.cons_ne_nil _ _), staSize, networkSize]
  split
  case isTrue =>
    split
    case isTrue =>
      simp only [List.map_cons, List.map_nil, List.sum_cons, List.sum_nil, hkeys, bool_length,
        jsonString, string_length, authmode_size, i8_length]
      omega
    case isFalse =>
      simp only [List.map_cons, List.map_nil, List.sum_cons, List.sum_nil, hactive, bool_length]
      omega
  case isFalse =>
    simp only [List.map_cons, List.map_nil, List.sum_cons, List.sum_nil, hidle, bool_length]
    omega

theorem socktype_size (type : SockType) : stringSize (literal (SOCKTYPE_NAME type)) = 5 := by
  cases type <;> rfl

variable (inet_ntop6 : esp_ip6_addr_t → List UInt8)

theorem address_length {key : String} (hkey : escapedSize (literal key).bytes = key.length)
    (address : Option sockaddr) :
    ((addressMember inet_ntop6 key address).map fun member =>
      escapedSize (literal member.1).bytes + 4 +
        (printer.cJSON_PrintUnformatted member.2).length).sum =
      addressSize inet_ntop6 key address := by
  cases address with
  | none => rfl
  | some a =>
    simp only [addressMember, addressSize, Option.toList_some, List.map_cons, List.map_nil,
      List.sum_cons, List.sum_nil, Option.map_some, Option.getD_some, hkey, string_length]
    omega

theorem socket_length (socket : SocketStatus) :
    (printer.cJSON_PrintUnformatted (socketJson inet_ntop6 socket)).length =
      socketSize inet_ntop6 socket := by
  have htype : escapedSize (literal "type").bytes = 4 := rfl
  have hlocal := address_length printer inet_ntop6
    (show escapedSize (literal "local").bytes = "local".length from rfl) socket.sockname
  have hpeer := address_length printer inet_ntop6
    (show escapedSize (literal "peer").bytes = "peer".length from rfl) socket.peername
  rw [socketJson, jsonObject_members printer (List.cons_ne_nil _ _), List.map_cons,
    List.sum_cons, List.map_append, List.sum_append, hlocal, hpeer, htype, jsonString,
    string_length, socktype_size, socketSize]
  omega

theorem time_length (d : DeviceStatus) :
    (printer.cJSON_PrintUnformatted (time_json d)).length =
      38 + boolSize d.time_valid + numberSize printer (.finite d.unix) +
        numberSize printer (.finite d.unix_ms) + stringSize d.local_time := by
  have hkeys : keysSize ["valid", "unix", "unix_ms", "local"] = 38 := rfl
  rw [time_json, jsonObject_length printer (List.cons_ne_nil _ _)]
  simp only [List.map_cons, List.map_nil, List.sum_cons, List.sum_nil, hkeys, bool_length,
    double_length, string_length]
  omega

theorem gnss_length (uptime_ms : UInt64) (diag : gnss_uart_diag_t) :
    (printer.cJSON_PrintUnformatted (gnssJson uptime_ms diag)).length =
      97 + intSize diag.rtcm_frames.toNat +
        numberSize printer (.finite (toDouble diag.last_rtcm_ms.toNat)) +
        numberSize printer (.finite (ageMs (0 < diag.rtcm_frames) uptime_ms diag.last_rtcm_ms)) +
        intSize diag.rtcm_bad_len_count.toNat + intSize diag.rtcm_crc_fail_count.toNat := by
  have hkeys : keysSize ["rtcm_frames", "last_rtcm_ms", "last_rtcm_age_ms",
      "rtcm_bad_len_count", "rtcm_crc_fail_count"] = 97 := rfl
  rw [gnssJson, jsonObject_length printer (List.cons_ne_nil _ _)]
  simp only [List.map_cons, List.map_nil, List.sum_cons, List.sum_nil, hkeys, double_length,
    u32_length]
  omega

theorem sta_diag_length (uptime_ms : UInt64) (diag : wifi_sta_diag_t) :
    (printer.cJSON_PrintUnformatted (sta_diag_json uptime_ms diag)).length =
      186 + intSize diag.connect_count.toNat + intSize diag.disconnect_count.toNat +
        intSize diag.last_disconnect_reason.toInt +
        stringSize diag.last_disconnect_reason_name +
        numberSize printer (.finite (toDouble diag.last_disconnect_ms.toNat)) +
        numberSize printer (.finite (ageMs true uptime_ms diag.last_disconnect_ms)) +
        intSize diag.last_rssi.toInt + intSize diag.last_channel.toNat +
        stringSize (if diag.last_bssid_valid then textOf (macText diag.last_bssid)
          else literal "") := by
  have hkeys : keysSize ["connect_count", "disconnect_count", "last_disconnect_reason",
      "last_disconnect_reason_name", "last_disconnect_ms", "last_disconnect_age_ms", "last_rssi",
      "last_channel", "last_bssid"] = 186 := rfl
  rw [sta_diag_json, jsonObject_length printer (List.cons_ne_nil _ _)]
  simp only [List.map_cons, List.map_nil, List.sum_cons, List.sum_nil, hkeys, double_length,
    u32_length, u8_length, i8_length, i32_length, string_length]
  omega

/-- The page of every status takes its size. -/
theorem statusJson_length (d : DeviceStatus) :
    (printer.cJSON_PrintUnformatted (statusJson inet_ntop6 d)).length =
      statusSize inet_ntop6 printer d := by
  have hpage : keysSize ["uptime", "uptime_ms", "reset_reason", "time", "heap", "streams",
      "tcp_server", "ntrip_clients", "ntrip_caster", "gnss", "firmware", "sockets", "wifi"] = 153 := rfl
  have hserver : keysSize ["connected", "endpoint", "diag"] = 34 := rfl
  have huplinks : keysSize ["uplink1", "uplink2"] = 23 := rfl
  have hfirmware : keysSize ["version"] = 12 := rfl
  have hwifi : keysSize ["ap", "sta", "sta_diag"] = 26 := rfl
  have hheap : keysSize ["total", "free", "min_free", "largest_free_block"] = 52 := rfl
  have htcp_diag : keysSize ["dropped_frames", "dropped_bytes", "send_block_events",
      "send_deferred_events", "send_fatal_errors", "pending_bytes", "queue_fill",
      "queue_depth"] = 148 := rfl
  have hcaster : keysSize ["queue_drops", "queue_fill", "queue_depth", "rover_slow_drops",
      "rover_block_events", "rover_send_errors", "active_rovers"] = 125 := rfl
  have huptime : (printer.cJSON_PrintUnformatted (jsonInt d.uptime)).length = intSize d.uptime :=
    i32_length printer _
  have hsockets : (printer.cJSON_PrintUnformatted
      (.cJSON_Array (d.sockets.map (socketJson inet_ntop6)))).length =
        enclosedSize (d.sockets.map (socketSize inet_ntop6)) := by
    rw [array_length, List.map_map]
    simp only [Function.comp_def, socket_length]
  rw [statusJson, jsonObject_length printer (List.cons_ne_nil _ _)]
  simp only [ntripClientsJson, heapJson, tcp_diag_json, ntripCasterJson,
    jsonObject_length printer (List.cons_ne_nil _ _),
    counters_length printer (List.cons_ne_nil _ _), List.map_cons, List.map_nil, List.sum_cons,
    List.sum_nil, hpage, hserver, huplinks, hfirmware, hwifi, hheap, htcp_diag, hcaster, huptime,
    hsockets, jsonString, double_length, string_length, bool_length, time_length, streams_length,
    uplink_length, gnss_length, ap_length, sta_length, sta_diag_length, statusSize,
    DeviceStatus.counters, DeviceStatus.integers, DeviceStatus.times, DeviceStatus.flags,
    DeviceStatus.texts]
  ring

end

end rtkbase.web_server
