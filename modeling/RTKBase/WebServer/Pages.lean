import RTKBase.Startup.Bootable
import RTKBase.WebServer.StatusSize

namespace rtkbase.web_server

open lib.cstring lib.lts nvs_config startup

/-- Each page is shown exactly if its size leaves room for the terminator and the
bytes that the library wants to spare: the configuration page for every
configuration that accepted JSON objects lead to from the factory defaults, the
other pages for every scan and every status. -/
theorem pages_shown_iff (printer : JsonPrinter) (inet_ntop6 : esp_ip6_addr_t → List UInt8)
    {mac4 mac5 : UInt8} {store : Nvs}
    (hreach : Reach acceptStep Anywhere (factoryDefaults mac4 mac5) store)
    (version : CString) (ap_records : List wifi_ap_record_t) (d : DeviceStatus) :
    (∃ root, configJson version store = some root ∧
      (Shown printer root (config_get_handler printer version store) ↔
        configSize version store + 1 + printer.spare ≤ BUFFER_SIZE)) ∧
    (Shown printer (wifiScanJson ap_records) (wifi_scan_get_handler printer ap_records) ↔
      wifiScanSize ap_records + 1 + printer.spare ≤ BUFFER_SIZE) ∧
    (Shown printer (statusJson inet_ntop6 d) (status_get_handler inet_ntop6 printer d) ↔
      statusSize inet_ntop6 printer d + 1 + printer.spare ≤ BUFFER_SIZE) := by
  have hcomplete : Complete store := accepted_complete hreach
  obtain ⟨root, hroot, hlength⟩ := configJson_length printer hcomplete version
  refine ⟨⟨root, hroot, ?_⟩, ?_, ?_⟩
  · rw [config_get_handler, hroot, shown_iff, hlength]
  · rw [wifi_scan_get_handler, shown_iff, wifiScanJson_length]
  · rw [status_get_handler, shown_iff, statusJson_length]

mutual

/-- A compact text in which numbers are cut to whole ones. -/
def printed : cJSON → List UInt8
  | .cJSON_NULL => ascii "null"
  | .cJSON_Bool value => ascii (if value then "true" else "false")
  | .cJSON_Number (.finite value) => ascii (toString value.floor)
  | .cJSON_Number (.infinite _) => ascii "null"
  | .cJSON_String s => quoted s
  | .cJSON_Array items => 91 :: [44].intercalate (printedItems items) ++ [93]
  | .cJSON_Object members => 123 :: [44].intercalate (printedMembers members) ++ [125]

def printedItems : List cJSON → List (List UInt8)
  | [] => []
  | item :: items => printed item :: printedItems items

def printedMembers : List (CString × cJSON) → List (List UInt8)
  | [] => []
  | (key, item) :: members => (quoted key ++ 58 :: printed item) :: printedMembers members

end

theorem printedItems_eq (items : List cJSON) : printedItems items = items.map printed := by
  induction items with
  | nil => rfl
  | cons item items ih => rw [printedItems, ih, List.map_cons]

theorem printedMembers_eq (members : List (CString × cJSON)) :
    printedMembers members =
      members.map fun member => quoted member.1 ++ 58 :: printed member.2 := by
  induction members with
  | nil => rfl
  | cons member members ih => rw [printedMembers, ih, List.map_cons]

/-- A library that wants one byte to spare. -/
def samplePrinter : JsonPrinter where
  cJSON_PrintUnformatted := printed
  cJSON_PrintPreallocated root size :=
    if (printed root).length + 1 + 1 ≤ size then some (printed root) else none
  spare := 1
  spare_le := by decide
  preallocated _ _ := rfl
  null_text := rfl
  bool_text _ := rfl
  number_text number _ := by rw [printed, Rat.floor_intCast]
  string_text _ := rfl
  array_text items := by rw [printed, printedItems_eq]
  object_text members := by rw [printed, printedMembers_eq]

def sampleNtop6 (_ : esp_ip6_addr_t) : List UInt8 := ascii "fe80::1"

/-- A scan that found one access point. -/
def sampleRecords : List wifi_ap_record_t := [⟨literal "RTK", -60, .WIFI_AUTH_WPA2_PSK⟩]

def sampleUplink : UplinkDiag := ⟨0, 0, 0, 0, 0⟩

def sampleIp6 : esp_ip6_addr_t := Vector.replicate 8 0

/-- A device with these sockets and nothing in its counters yet. -/
def sampleDevice (sockets : List SocketStatus) : DeviceStatus where
  esp_timer_get_time := 0
  esp_reset_reason := .ESP_RST_POWERON
  tv := ⟨0, 0⟩
  time_valid := false
  time_text := literal ""
  heap := ⟨300000, 120000, 90000, 60000⟩
  streams := []
  tcp_server_client_connected := true
  tcp_server_client_endpoint := literal "192.168.4.2:51000"
  tcp_diag := ⟨0, 0, 0, 0, 0, 0, 0, 64⟩
  ntrip_client_diag := ⟨sampleUplink, sampleUplink, 16, 3⟩
  ntrip_caster_diag := ⟨0, 0, 16, 0, 0, 0, 4⟩
  gnss_diag := ⟨0, 0, 0, 0⟩
  version := literal "1.0"
  sockets := sockets
  ap_status := ⟨true, literal "RTK_1234", .WIFI_AUTH_OPEN, 1, 0x0104a8c0, sampleIp6⟩
  sta_status := ⟨false, false, literal "", .WIFI_AUTH_OPEN, 0, 0, sampleIp6⟩
  sta_diag := ⟨0, 0, 0, literal "", 0, 0, Vector.replicate 6 0, false, 0⟩

/-- A TCP connection from the access point's network. -/
def sampleSocket : SocketStatus :=
  ⟨.SOCK_STREAM, some (.sockaddr_in 0x0104a8c0 2101), some (.sockaddr_in 0x0204a8c0 51000)⟩

/-- The host name of an uplink with some characters, as the web interface posts it. -/
def hostForm (length : Nat) : List (CString × cJSON) :=
  [(literal KEY_CONFIG_NTRIP1_HOST, .cJSON_String (textOf (List.replicate length 97)))]

/-- With a host name of 200 characters and one connection all pages are shown. -/
theorem pages_shown_of_host_form : ∃ store,
    acceptStep (factoryDefaults 0x12 0x34) (allSucceed, hostForm 200) = some store ∧
    (∃ root, configJson (literal "1.0") store = some root ∧
      Shown samplePrinter root (config_get_handler samplePrinter (literal "1.0") store)) ∧
    Shown samplePrinter (wifiScanJson sampleRecords)
      (wifi_scan_get_handler samplePrinter sampleRecords) ∧
    Shown samplePrinter (statusJson sampleNtop6 (sampleDevice [sampleSocket]))
      (status_get_handler sampleNtop6 samplePrinter (sampleDevice [sampleSocket])) := by
  have hsizes : ((acceptStep (factoryDefaults 0x12 0x34) (allSucceed, hostForm 200)).map
      (fun store => decide (configSize (literal "1.0") store + 1 + samplePrinter.spare ≤
        BUFFER_SIZE))) = some true ∧
      wifiScanSize sampleRecords + 1 + samplePrinter.spare ≤ BUFFER_SIZE ∧
      statusSize sampleNtop6 samplePrinter (sampleDevice [sampleSocket]) + 1 +
        samplePrinter.spare ≤ BUFFER_SIZE := by
    decide +kernel
  obtain ⟨hconfig_size, hscan_size, hstatus_size⟩ := hsizes
  obtain ⟨store, hstore, hfits⟩ := Option.map_eq_some_iff.mp hconfig_size
  obtain ⟨⟨root, hroot, hconfig⟩, hscan, hstatus⟩ := pages_shown_iff samplePrinter sampleNtop6
    (.next .refl trivial hstore : Reach acceptStep Anywhere (factoryDefaults 0x12 0x34) store)
    (literal "1.0") sampleRecords (sampleDevice [sampleSocket])
  exact ⟨store, hstore, ⟨root, hroot, hconfig.mpr (of_decide_eq_true hfits)⟩,
    hscan.mpr hscan_size, hstatus.mpr hstatus_size⟩

def crowdedScan : List wifi_ap_record_t := (List.replicate 50 sampleRecords).flatten

def busyDevice : DeviceStatus := sampleDevice (List.replicate 16 sampleSocket)

/-- One accepted request leads to a configuration that is not shown, and neither
are fifty access points nor the status of a device with sixteen connections. -/
theorem busy_pages_not_shown :
    (∃ store root, Reach acceptStep Anywhere (factoryDefaults 0x12 0x34) store ∧
      configJson (literal "1.0") store = some root ∧
      ¬ Shown samplePrinter root (config_get_handler samplePrinter (literal "1.0") store)) ∧
    ¬ Shown samplePrinter (wifiScanJson crowdedScan)
      (wifi_scan_get_handler samplePrinter crowdedScan) ∧
    ¬ Shown samplePrinter (statusJson sampleNtop6 busyDevice)
      (status_get_handler sampleNtop6 samplePrinter busyDevice) := by
  have hsizes : ((acceptStep (factoryDefaults 0x12 0x34) (allSucceed, hostForm 800)).map
      (fun store => decide (BUFFER_SIZE < configSize (literal "1.0") store))) = some true ∧
      BUFFER_SIZE < wifiScanSize crowdedScan ∧
      BUFFER_SIZE < statusSize sampleNtop6 samplePrinter busyDevice := by
    decide +kernel
  obtain ⟨hconfig, hscan, hstatus⟩ := hsizes
  refine ⟨?_, ?_, ?_⟩
  · obtain ⟨store, hstore, hlong⟩ := Option.map_eq_some_iff.mp hconfig
    have hreach : Reach acceptStep Anywhere (factoryDefaults 0x12 0x34) store :=
      .next .refl trivial hstore
    obtain ⟨root, hroot, hlength⟩ :=
      configJson_length samplePrinter (accepted_complete hreach) (literal "1.0")
    refine ⟨store, root, hreach, hroot, ?_⟩
    rw [config_get_handler, hroot, shown_iff, hlength]
    have hlong := of_decide_eq_true hlong
    omega
  · rw [wifi_scan_get_handler, shown_iff, wifiScanJson_length]
    omega
  · rw [status_get_handler, shown_iff, statusJson_length]
    omega

end rtkbase.web_server
