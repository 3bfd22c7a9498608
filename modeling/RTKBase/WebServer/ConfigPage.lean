import RTKBase.WebServer.JsonText

namespace rtkbase.web_server

open lib.cstring nvs_config

/-- The object of `config_get_handler`, with the version from the application
description. -/
def configJson (version : CString) (store : Nvs) : Option cJSON :=
  (cfg_to_json store [(literal "version", .cJSON_String version)]).map .cJSON_Object

def config_get_handler (printer : JsonPrinter) (version : CString) (store : Nvs) :=
  pageHandler printer (configJson version store)

/-- The characters of an address as an array of four octets. -/
def ip4ArraySize (ip : UInt32) : Nat :=
  5 + intSize (esp_ip4_addr_get_byte ip 0).toNat + intSize (esp_ip4_addr_get_byte ip 1).toNat +
    intSize (esp_ip4_addr_get_byte ip 2).toNat + intSize (esp_ip4_addr_get_byte ip 3).toNat

/-- The characters of a stored value. A secret always takes those of
`CFG_VALUE_UNCHANGED`. -/
def valueSize (type : config_item_type_t) (value : NvsValue) : Nat :=
  match type, value with
  | .TYPE_CFG_ITEM_SECRET_STR, _ => 50
  | .TYPE_CFG_ITEM_BOOL, .u8 value => boolSize (value != 0)
  | .TYPE_CFG_ITEM_IP, .u32 value => ip4ArraySize value
  | _, .u8 value => intSize value.toNat
  | _, .u16 value => intSize value.toNat
  | _, .u32 value => intSize value.toNat
  | _, .str value => stringSize value

/-- The characters of a setting, next to those of its key. -/
def itemSize (store : Nvs) (item : config_item_t) : Nat :=
  ((store item.key).map (valueSize item.type)).getD 4

/-- The characters of the configuration page. -/
def configSize (version : CString) (store : Nvs) : Nat :=
  785 + stringSize version + (CONFIG_ITEMS.map (itemSize store)).sum

inductive wifi_auth_mode_t where
  | WIFI_AUTH_OPEN
  | WIFI_AUTH_WEP
  | WIFI_AUTH_WPA_PSK
  | WIFI_AUTH_WPA2_PSK
  | WIFI_AUTH_WPA_WPA2_PSK
  | WIFI_AUTH_WPA2_ENTERPRISE
  | other

def wifi_auth_mode_name : wifi_auth_mode_t → String
  | .WIFI_AUTH_OPEN => "OPEN"
  | .WIFI_AUTH_WEP => "WEP"
  | .WIFI_AUTH_WPA_PSK => "WPA_PSK"
  | .WIFI_AUTH_WPA2_PSK => "WPA2_PSK"
  | .WIFI_AUTH_WPA_WPA2_PSK => "WPA/2_PSK"
  | .WIFI_AUTH_WPA2_ENTERPRISE => "WPA2_ENTERPRISE"
  | .other => "Unknown"

structure wifi_ap_record_t where
  ssid : CString
  rssi : Int8
  authmode : wifi_auth_mode_t

def apRecordJson (ap_record : wifi_ap_record_t) : cJSON :=
  jsonObject [("ssid", .cJSON_String ap_record.ssid), ("rssi", jsonInt ap_record.rssi.toInt),
    ("authmode", .cJSON_String (literal (wifi_auth_mode_name ap_record.authmode)))]

/-- The array of `wifi_scan_get_handler`, from what `wifi_scan` returned. -/
def wifiScanJson (ap_records : List wifi_ap_record_t) : cJSON :=
  .cJSON_Array (ap_records.map apRecordJson)

def wifi_scan_get_handler (printer : JsonPrinter) (ap_records : List wifi_ap_record_t) :=
  pageHandler printer (some (wifiScanJson ap_records))

/-- The characters of an access point. -/
def apRecordSize (ap_record : wifi_ap_record_t) : Nat :=
  31 + stringSize ap_record.ssid + intSize ap_record.rssi.toInt +
    (wifi_auth_mode_name ap_record.authmode).length

/-- The characters of the scan page. -/
def wifiScanSize (ap_records : List wifi_ap_record_t) : Nat :=
  enclosedSize (ap_records.map apRecordSize)

theorem jsonNumber_eq_int (n : Nat) : jsonNumber n = jsonInt n := by
  rw [jsonNumber, jsonInt, Int.cast_natCast]

/-- The name of an enumerator is printed as it is. -/
theorem authmode_size (authmode : wifi_auth_mode_t) :
    stringSize (literal (wifi_auth_mode_name authmode)) =
      (wifi_auth_mode_name authmode).length + 2 := by
  cases authmode <;> rfl

section

variable (printer : JsonPrinter)

theorem small_number_length {n : Nat} (hsmall : n < 4294967296) :
    (printer.cJSON_PrintUnformatted (jsonNumber n)).length = intSize n := by
  rw [jsonNumber_eq_int, int_length printer (by omega)]

theorem ip4_array_length (ip : UInt32) :
    (printer.cJSON_PrintUnformatted (jsonIp4Array ip)).length = ip4ArraySize ip := by
  have hoctet : ∀ b, (printer.cJSON_PrintUnformatted
      (jsonNumber (esp_ip4_addr_get_byte ip b).toNat)).length =
        intSize (esp_ip4_addr_get_byte ip b).toNat := by
    intro b
    have hlt := (esp_ip4_addr_get_byte ip b).toNat_lt
    exact small_number_length printer (by omega)
  rw [jsonIp4Array, array_length printer]
  simp only [enclosedSize, List.map_cons, List.map_nil, List.sum_cons, List.sum_nil, hoctet,
    ip4ArraySize, reduceCtorEq, if_false]
  omega

/-- What the web interface is given for a value takes its size. -/
theorem render_length (type : config_item_type_t) (value : NvsValue) :
    (printer.cJSON_PrintUnformatted (type.render value)).length = valueSize type value := by
  have hsecret : (printer.cJSON_PrintUnformatted (.cJSON_String CFG_VALUE_UNCHANGED)).length = 50 := by
    rw [string_length]
    decide +kernel
  cases value with
  | u8 value =>
    have hsmall : value.toNat < 4294967296 := by
      have hlt := value.toNat_lt
      omega
    cases type with
    | TYPE_CFG_ITEM_SECRET_STR => exact hsecret
    | TYPE_CFG_ITEM_BOOL => exact bool_length printer _
    | _ => exact small_number_length printer hsmall
  | u16 value =>
    have hsmall : value.toNat < 4294967296 := by
      have hlt := value.toNat_lt
      omega
    cases type with
    | TYPE_CFG_ITEM_SECRET_STR => exact hsecret
    | _ => exact small_number_length printer hsmall
  | u32 value =>
    cases type with
    | TYPE_CFG_ITEM_SECRET_STR => exact hsecret
    | TYPE_CFG_ITEM_IP => exact ip4_array_length printer value
    | _ => exact small_number_length printer value.toNat_lt
  | str value =>
    cases type with
    | TYPE_CFG_ITEM_SECRET_STR => exact hsecret
    | _ => exact string_length printer value

theorem member_length (store : Nvs) (item : config_item_t) :
    (printer.cJSON_PrintUnformatted (item.member store).2).length = itemSize store item := by
  unfold config_item_t.member itemSize
  cases store item.key with
  | none =>
    rw [Option.map_none, Option.map_none, Option.getD_none, Option.getD_none, printer.null_text]
    rfl
  | some value =>
    rw [Option.map_some, Option.map_some, Option.getD_some, Option.getD_some]
    exact render_length printer item.type value

/-- The page of a complete configuration takes its size. -/
theorem configJson_length {store : Nvs} (hcomplete : Complete store) (version : CString) :
    ∃ root, configJson version store = some root ∧
      (printer.cJSON_PrintUnformatted root).length = configSize version store := by
  refine ⟨_, by rw [configJson, cfg_to_json_of_complete hcomplete, Option.map_some], ?_⟩
  have hkeys : escapedSize (literal "version").bytes + 4 +
      (CONFIG_ITEMS.map fun item => escapedSize (literal item.key).bytes + 4).sum = 784 := by
    decide +kernel
  have hmembers : (CONFIG_ITEMS.map fun item =>
      escapedSize (item.member store).1.bytes + 3 +
        (printer.cJSON_PrintUnformatted (item.member store).2).length + 1).sum =
        (CONFIG_ITEMS.map fun item => escapedSize (literal item.key).bytes + 4).sum +
          (CONFIG_ITEMS.map (itemSize store)).sum := by
    rw [← List.sum_map_add]
    apply congrArg List.sum
    apply List.map_congr_left
    intro item _
    have hkey : (item.member store).1 = literal item.key := rfl
    rw [member_length, hkey]
    omega
  rw [object_length, List.singleton_append, List.map_cons, enclosedSize, if_neg (List.cons_ne_nil _ _),
    List.map_cons, List.sum_cons, List.map_map, List.map_map, string_length]
  simp only [Function.comp_def] at hmembers ⊢
  rw [hmembers, configSize]
  omega

theorem ap_record_length (ap_record : wifi_ap_record_t) :
    (printer.cJSON_PrintUnformatted (apRecordJson ap_record)).length =
      apRecordSize ap_record := by
  have hkeys : keysSize ["ssid", "rssi", "authmode"] = 29 := rfl
  have hrssi : ap_record.rssi.toInt.natAbs < 10 ^ 15 := by
    have hlow := ap_record.rssi.le_toInt
    have hhigh := ap_record.rssi.toInt_lt
    omega
  rw [apRecordJson, jsonObject_length printer (List.cons_ne_nil _ _)]
  simp only [List.map_cons, List.map_nil, List.sum_cons, List.sum_nil, hkeys, string_length,
    int_length printer hrssi, authmode_size, apRecordSize]
  omega

theorem wifiScanJson_length (ap_records : List wifi_ap_record_t) :
    (printer.cJSON_PrintUnformatted (wifiScanJson ap_records)).length =
      wifiScanSize ap_records := by
  rw [wifiScanJson, wifiScanSize, array_length, List.map_map]
  congr 1
  apply List.map_congr_left
  intro ap_record _
  rw [Function.comp_apply, ap_record_length]

end

end rtkbase.web_server
