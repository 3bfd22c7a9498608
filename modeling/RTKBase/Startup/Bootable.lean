import RTKBase.Boot
import RTKBase.Startup.Routines

namespace rtkbase.startup

open lib.cstring lib.lts nvs_config

/-- A JSON object that is posted and accepted. -/
def acceptStep (store : Nvs) (post : NvsResults × List (CString × cJSON)) : Option Nvs :=
  match cfg_json_to_nvs post.1 store (some (.cJSON_Object post.2)) with
  | (store, .ESP_OK) => some store
  | _ => none

def factoryDefaults (mac4 mac5 : UInt8) : Nvs := nvs_cfg_init (fun _ => true) mac4 mac5 erased

/-- The configurations with which the device starts. -/
structure Bootable (idf : EspIdf) (store : Nvs) : Prop where
  authmode : (wifi_read_startup_config store).ap_enabled = true →
    ∀ mode, cfg_get_u8 store KEY_CONFIG_WIFI_AP_AUTH_MODE = some mode → idf.wpaMode mode = false
  host_name : (wifi_read_startup_config store).sta_enabled = true →
    ∀ name, cfg_get_str store KEY_CONFIG_STATION_HOSTNAME = some name → name.bytes.length ≤ 32
  uart_num : ∀ port, cfg_get_u8 store KEY_CONFIG_UART_NUM = some port → port < 3
  data_bits : ∀ bits, cfg_get_u8 store KEY_CONFIG_UART_DATA_BITS = some bits → bits ≤ 3

section

variable {store : Nvs} {item : config_item_t}

theorem Complete.set {value : NvsValue} (hcomplete : Complete store)
    (hitem : item ∈ CONFIG_ITEMS) (hholds : item.type.Holds value) :
    Complete (store.set item.key value) := by
  intro other hother
  by_cases hkey : other.key = item.key
  · obtain rfl := List.inj_on_of_nodup_map config_items_nodup hother hitem hkey
    exact ⟨value, by simp [Nvs.set], hholds⟩
  · obtain ⟨stored, hstored, htyped⟩ := hcomplete other hother
    exact ⟨stored, by rwa [Nvs.set, Function.update_of_ne hkey], htyped⟩

theorem saveItem_complete {results : NvsResults} {root : Option cJSON} {state : Nvs × Bool}
    (hitem : item ∈ CONFIG_ITEMS) (hcomplete : Complete state.1) :
    Complete (saveItem results root state item).1 := by
  unfold saveItem
  split
  case h_1 => exact hcomplete
  case h_2 json hjson =>
    split
    case h_1 => exact hcomplete
    case h_2 => exact hcomplete
    case h_3 value hparse =>
      split
      case isTrue => exact Complete.set hcomplete hitem (config_item_type_t.parse_holds hparse)
      case isFalse => exact hcomplete

/-- What an accepted object leaves behind. -/
theorem acceptStep_store {post : NvsResults × List (CString × cJSON)} {store' : Nvs}
    (hstep : acceptStep store post = some store') :
    (CONFIG_ITEMS.foldl (saveItem post.1 (some (.cJSON_Object post.2))) (store, false)).1 = store' := by
  rw [save_items_eq_run, ← cfg_json_to_nvs_store]
  unfold acceptStep at hstep
  split at hstep
  case h_1 heq => rw [heq, Option.some.inj hstep]
  case h_2 => cases hstep

theorem acceptStep_complete {post : NvsResults × List (CString × cJSON)} {store' : Nvs}
    (hcomplete : Complete store) (hstep : acceptStep store post = some store') :
    Complete store' := by
  rw [← acceptStep_store hstep]
  exact List.foldlRecOn (motive := fun state : Nvs × Bool => Complete state.1) CONFIG_ITEMS _
    hcomplete fun _ hbefore _ hitem => saveItem_complete hitem hbefore

theorem accepted_complete {mac4 mac5 : UInt8}
    (hreach : Reach acceptStep Anywhere (factoryDefaults mac4 mac5) store) : Complete store := by
  apply hreach.invariant
  · exact nvs_cfg_init_complete mac4 mac5 (fun _ => rfl) .refl
  · intro s post s' hs _ hstep
    exact acceptStep_complete hs hstep

/-- A boot changes nothing in a complete configuration. -/
theorem nvs_cfg_init_of_complete (nvs_set : String → Bool) (mac4 mac5 : UInt8)
    (hcomplete : Complete store) : nvs_cfg_init nvs_set mac4 mac5 store = store := by
  have hstored : ∀ item ∈ CONFIG_ITEMS, item.isStored store = true := by
    intro item hitem
    obtain ⟨value, hvalue, hholds⟩ := hcomplete item hitem
    unfold config_item_t.isStored
    cases value <;> cases htype : item.type <;>
      simp_all [config_item_type_t.Holds, cfg_get_u8, cfg_get_u16, cfg_get_u32, cfg_get_str]
  refine List.foldlRecOn (motive := fun store' => store' = store) CONFIG_ITEMS _ rfl ?_
  rintro _ rfl item hitem
  simp [initItem, hstored item hitem]

theorem complete_get_u8 {key : String} (hcomplete : Complete store)
    (hitem : ∃ item ∈ CONFIG_ITEMS, item.key = key ∧ item.type = .TYPE_CFG_ITEM_UINT8) :
    ∃ value, cfg_get_u8 store key = some value := by
  obtain ⟨item, hitem, rfl, htype⟩ := hitem
  obtain ⟨value, hvalue, hholds⟩ := hcomplete item hitem
  rw [htype] at hholds
  cases value with
  | u8 value => exact ⟨value, by simp [cfg_get_u8, hvalue]⟩
  | _ => cases hholds

theorem complete_get_str {key : String} (hcomplete : Complete store)
    (hitem : ∃ item ∈ CONFIG_ITEMS, item.key = key ∧
      (item.type = .TYPE_CFG_ITEM_STR ∨ item.type = .TYPE_CFG_ITEM_SECRET_STR)) :
    ∃ value, cfg_get_str store key = some value := by
  obtain ⟨item, hitem, rfl, htype⟩ := hitem
  exact complete_str hcomplete hitem htype

end

theorem check_iff {res : esp_err_t} : ESP_ERROR_CHECK res = some () ↔ res = .ESP_OK := by
  cases res <;> simp [ESP_ERROR_CHECK]

theorem then_iff {first rest : Option Unit} :
    (first >>= fun _ => rest) = some () ↔ first = some () ∧ rest = some () := by
  cases first <;> simp

theorem whenEnabled_iff {enabled : Bool} {routine : Option Unit} :
    whenEnabled enabled routine = some () ↔ (enabled = true → routine = some ()) := by
  cases enabled <;> simp [whenEnabled]

section

variable {idf : EspIdf} {store : Nvs}

theorem netInitSta_iff (hidf : idf.Documented) {name : CString}
    (hname : cfg_get_str store KEY_CONFIG_STATION_HOSTNAME = some name) :
    netInitSta idf store = some () ↔ name.bytes.length ≤ 32 := by
  have hstatic : netInitStaticIp idf store = some () := by
    simp only [netInitStaticIp, then_iff, check_iff, hidf.esp_netif_set_ip_info,
      hidf.esp_netif_set_dns_info, and_self]
  rw [netInitSta, hname]
  simp only [Option.bind_eq_bind, Option.bind_some]
  rw [← Option.bind_eq_bind, then_iff, check_iff, hidf.esp_netif_set_hostname, whenEnabled_iff]
  simp [hstatic]

theorem net_init_iff (hidf : idf.Documented) {name : CString}
    (hname : cfg_get_str store KEY_CONFIG_STATION_HOSTNAME = some name) :
    net_init idf store = some () ↔
      ((wifi_read_startup_config store).sta_enabled = true → name.bytes.length ≤ 32) := by
  have hap : netInitAp idf store = some () := by
    simp only [netInitAp, check_iff, hidf.esp_netif_set_ip_info]
  simp only [net_init, then_iff, whenEnabled_iff, hap, implies_true, true_and,
    netInitSta_iff hidf hname]

/-- The password is still the empty one. -/
theorem wifiInitAp_iff (hidf : idf.Documented) {ssid : CString} {mode : UInt8}
    (hssid : cfg_get_str store KEY_CONFIG_WIFI_AP_SSID = some ssid)
    (hmode : cfg_get_u8 store KEY_CONFIG_WIFI_AP_AUTH_MODE = some mode) :
    wifiInitAp idf store = some () ↔ idf.wpaMode mode = false := by
  have hpassword : (cstr config_ap.password).length < 8 := by decide
  simp only [wifiInitAp, hssid, Option.bind_eq_bind, Option.bind_some, check_iff,
    hidf.esp_wifi_set_config_ap, cfg_get_u8_or_default, hmode, Option.getD_some]
  simp [hpassword]

theorem wifi_init_iff (hidf : idf.Documented) {ap_ssid sta_ssid sta_password : CString}
    {mode : UInt8} (hap_ssid : cfg_get_str store KEY_CONFIG_WIFI_AP_SSID = some ap_ssid)
    (hmode : cfg_get_u8 store KEY_CONFIG_WIFI_AP_AUTH_MODE = some mode)
    (hsta_ssid : cfg_get_str store KEY_CONFIG_WIFI_STA_SSID = some sta_ssid)
    (hsta_password : cfg_get_str store KEY_CONFIG_WIFI_STA_PASSWORD = some sta_password) :
    wifi_init idf store = some () ↔
      ((wifi_read_startup_config store).ap_enabled = true → idf.wpaMode mode = false) := by
  have hsta : wifiInitSta idf store = some () := by
    simp only [wifiInitSta, hsta_ssid, hsta_password, Option.bind_eq_bind, Option.bind_some,
      check_iff, hidf.esp_wifi_set_config_sta]
  simp only [wifi_init, then_iff, whenEnabled_iff, check_iff, hidf.esp_wifi_set_mode, hsta,
    wifiInitAp_iff hidf hap_ssid hmode, implies_true, true_and, and_true]

theorem task_gnss_reader_iff (hidf : idf.Documented) (cfg_var : config_item_value_t)
    {port bits : UInt8} (hport : cfg_get_u8 store KEY_CONFIG_UART_NUM = some port)
    (hbits : cfg_get_u8 store KEY_CONFIG_UART_DATA_BITS = some bits) :
    task_gnss_reader idf store cfg_var = some () ↔ port < 3 ∧ bits ≤ 3 := by
  simp only [task_gnss_reader, then_iff, check_iff, hidf.uart_param_config, hidf.uart_set_pin,
    hidf.uart_driver_install, hidf.uart_flush_input, and_true,
    config_item_value_t.nvs_get_u8_uint8 _ hport, config_item_value_t.nvs_get_u8_uint8 _ hbits]

/-- With a complete configuration the device starts exactly if it is bootable. -/
theorem boot_iff_of_complete (hidf : idf.Documented) (hcomplete : Complete store)
    (cfg_var : config_item_value_t) : boot idf store cfg_var = some () ↔ Bootable idf store := by
  obtain ⟨name, hname⟩ : ∃ name, cfg_get_str store KEY_CONFIG_STATION_HOSTNAME = some name :=
    complete_get_str hcomplete ⟨.str KEY_CONFIG_STATION_HOSTNAME "RTK_", by simp [CONFIG_ITEMS], rfl,
      .inl rfl⟩
  obtain ⟨ap_ssid, hap_ssid⟩ : ∃ ssid, cfg_get_str store KEY_CONFIG_WIFI_AP_SSID = some ssid :=
    complete_get_str hcomplete ⟨.str KEY_CONFIG_WIFI_AP_SSID "RTK_", by simp [CONFIG_ITEMS], rfl,
      .inl rfl⟩
  obtain ⟨sta_ssid, hsta_ssid⟩ : ∃ ssid, cfg_get_str store KEY_CONFIG_WIFI_STA_SSID = some ssid :=
    complete_get_str hcomplete ⟨.str KEY_CONFIG_WIFI_STA_SSID "", by simp [CONFIG_ITEMS], rfl,
      .inl rfl⟩
  obtain ⟨sta_password, hsta_password⟩ :
      ∃ password, cfg_get_str store KEY_CONFIG_WIFI_STA_PASSWORD = some password :=
    complete_get_str hcomplete ⟨.secretStr KEY_CONFIG_WIFI_STA_PASSWORD "", by simp [CONFIG_ITEMS],
      rfl, .inr rfl⟩
  obtain ⟨mode, hmode⟩ : ∃ mode, cfg_get_u8 store KEY_CONFIG_WIFI_AP_AUTH_MODE = some mode :=
    complete_get_u8 hcomplete ⟨.uint8 KEY_CONFIG_WIFI_AP_AUTH_MODE WIFI_AUTH_OPEN,
      by simp [CONFIG_ITEMS], rfl, rfl⟩
  obtain ⟨port, hport⟩ : ∃ port, cfg_get_u8 store KEY_CONFIG_UART_NUM = some port :=
    complete_get_u8 hcomplete ⟨.uint8 KEY_CONFIG_UART_NUM UART_NUM_1, by simp [CONFIG_ITEMS], rfl, rfl⟩
  obtain ⟨bits, hbits⟩ : ∃ bits, cfg_get_u8 store KEY_CONFIG_UART_DATA_BITS = some bits :=
    complete_get_u8 hcomplete ⟨.uint8 KEY_CONFIG_UART_DATA_BITS UART_DATA_8_BITS,
      by simp [CONFIG_ITEMS], rfl, rfl⟩
  simp only [boot, then_iff, net_init_iff hidf hname,
    wifi_init_iff hidf hap_ssid hmode hsta_ssid hsta_password,
    task_gnss_reader_iff hidf cfg_var hport hbits]
  constructor
  · rintro ⟨hname_le, hmode_open, hport_lt, hbits_le⟩
    refine ⟨fun hap mode' hmode' => ?_, fun hsta name' hname' => ?_, fun port' hport' => ?_,
      fun bits' hbits' => ?_⟩
    · rw [← Option.some.inj (hmode.symm.trans hmode')]
      exact hmode_open hap
    · rw [← Option.some.inj (hname.symm.trans hname')]
      exact hname_le hsta
    · rwa [← Option.some.inj (hport.symm.trans hport')]
    · rwa [← Option.some.inj (hbits.symm.trans hbits')]
  · intro hbootable
    exact ⟨fun hsta => hbootable.host_name hsta name hname,
      fun hap => hbootable.authmode hap mode hmode, hbootable.uart_num port hport,
      hbootable.data_bits bits hbits⟩

/-- For every configuration that accepted JSON objects lead to from the factory
defaults: the next boot gets past every check of the network and of the UART
exactly if the configuration is bootable. -/
theorem boot_passes_iff (hidf : idf.Documented) {mac4 mac5 : UInt8}
    (hreach : Reach acceptStep Anywhere (factoryDefaults mac4 mac5) store)
    (nvs_set : String → Bool) (cfg_var : config_item_value_t) :
    boot idf (nvs_cfg_init nvs_set mac4 mac5 store) cfg_var = some () ↔ Bootable idf store := by
  have hcomplete := accepted_complete hreach
  rw [nvs_cfg_init_of_complete nvs_set mac4 mac5 hcomplete]
  exact boot_iff_of_complete hidf hcomplete cfg_var

end

/-- The drivers with just the failures that are documented. -/
def sampleIdf : EspIdf where
  esp_netif_set_ip_info _ := .ESP_OK
  esp_netif_set_hostname name := if name.length ≤ 32 then .ESP_OK else .ESP_FAIL
  esp_netif_set_dns_info _ := .ESP_OK
  esp_wifi_set_mode _ := .ESP_OK
  esp_wifi_set_config_ap config :=
    if (config.authmode = 2 ∨ config.authmode = 3 ∨ config.authmode = 4) ∧
        (cstr config.password).length < 8 then .ESP_FAIL
    else .ESP_OK
  esp_wifi_set_config_sta _ := .ESP_OK
  uart_param_config port config :=
    if port < 3 ∧ config.data_bits ≤ 3 then .ESP_OK else .ESP_FAIL
  uart_set_pin _ _ _ _ _ := .ESP_OK
  uart_driver_install _ := .ESP_OK
  uart_flush_input _ := .ESP_OK
  wpaMode mode := mode = 2 ∨ mode = 3 ∨ mode = 4

theorem sampleIdf_documented : sampleIdf.Documented where
  wpaMode_open := rfl
  esp_netif_set_ip_info _ := rfl
  esp_netif_set_hostname name := by
    simp only [sampleIdf]
    split <;> simp_all
  esp_netif_set_dns_info _ := rfl
  esp_wifi_set_mode _ := rfl
  esp_wifi_set_config_ap config := by
    simp only [sampleIdf]
    split <;> simp_all
  esp_wifi_set_config_sta _ := rfl
  uart_param_config port config := by
    simp only [sampleIdf]
    split <;> simp_all
  uart_set_pin _ _ _ _ _ := rfl
  uart_driver_install _ := rfl
  uart_flush_input _ := rfl

/-- A form that turns on the station, with a host name. -/
def stationForm : List (CString × cJSON) :=
  [(literal KEY_CONFIG_WIFI_STA_ACTIVE, .cJSON_String (literal "1")),
    (literal KEY_CONFIG_WIFI_STA_SSID, .cJSON_String (literal "field")),
    (literal KEY_CONFIG_STATION_HOSTNAME, .cJSON_String (literal "base"))]

/-- The form is accepted, and the device starts as a station. -/
theorem boot_passes_of_station_form :
    ∃ store, Reach acceptStep Anywhere (factoryDefaults 0x12 0x34) store ∧
      (wifi_read_startup_config store).sta_enabled = true ∧
      boot sampleIdf (nvs_cfg_init (fun _ => false) 0x12 0x34 store) ⟨0⟩ = some () := by
  have hform : (acceptStep (factoryDefaults 0x12 0x34) (allSucceed, stationForm)).map
      (fun store => ((wifi_read_startup_config store).sta_enabled,
        cfg_get_str store KEY_CONFIG_STATION_HOSTNAME,
        cfg_get_u8 store KEY_CONFIG_WIFI_AP_AUTH_MODE, cfg_get_u8 store KEY_CONFIG_UART_NUM,
        cfg_get_u8 store KEY_CONFIG_UART_DATA_BITS)) =
      some (true, some (literal "base"), some 0, some 1, some 3) := by
    decide +kernel
  obtain ⟨store, hstore, hsettings⟩ := Option.map_eq_some_iff.mp hform
  simp only [Prod.mk.injEq] at hsettings
  obtain ⟨hstation, hname, hmode, hport, hbits⟩ := hsettings
  have hreach : Reach acceptStep Anywhere (factoryDefaults 0x12 0x34) store :=
    .next .refl trivial hstore
  refine ⟨store, hreach, hstation,
    (boot_passes_iff sampleIdf_documented hreach (fun _ => false) ⟨0⟩).mpr
      ⟨fun _ mode hget => ?_, fun _ name hget => ?_, fun port hget => ?_, fun bits hget => ?_⟩⟩
  · rw [← Option.some.inj (hmode.symm.trans hget)]
    rfl
  · rw [← Option.some.inj (hname.symm.trans hget)]
    decide
  · rw [← Option.some.inj (hport.symm.trans hget)]
    decide
  · rw [← Option.some.inj (hbits.symm.trans hget)]
    decide

/-- A WPA2 access point with a password, as the web interface posts it. -/
def wpa2Form : List (CString × cJSON) :=
  [(literal KEY_CONFIG_WIFI_AP_AUTH_MODE, .cJSON_String (literal "3")),
    (literal KEY_CONFIG_WIFI_AP_PASSWORD, .cJSON_String (literal "12345678"))]

/-- The form is accepted, and the device does not start any more. -/
theorem boot_aborts_after_wpa2_form :
    sampleIdf.Documented ∧
      ∃ store, Reach acceptStep Anywhere (factoryDefaults 0x12 0x34) store ∧
        boot sampleIdf (nvs_cfg_init (fun _ => true) 0x12 0x34 store) ⟨0⟩ = none := by
  refine ⟨sampleIdf_documented, ?_⟩
  have hboot : ((acceptStep (factoryDefaults 0x12 0x34) (allSucceed, wpa2Form)).map fun store =>
      boot sampleIdf (nvs_cfg_init (fun _ => true) 0x12 0x34 store) ⟨0⟩) = some none := by
    decide +kernel
  obtain ⟨store, hstore, hboot⟩ := Option.map_eq_some_iff.mp hboot
  exact ⟨store, .next .refl trivial hstore, hboot⟩

end rtkbase.startup
