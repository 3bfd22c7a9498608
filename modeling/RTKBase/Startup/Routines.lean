import RTKBase.NvsConfig.Export

namespace rtkbase.startup

open lib.cstring nvs_config

structure esp_netif_ip_info_t where
  ip : UInt32
  gw : UInt32
  netmask : UInt32

inductive wifi_mode_t where
  | WIFI_MODE_STA
  | WIFI_MODE_AP
  | WIFI_MODE_APSTA

/-- The member `ap` of a `wifi_config_t`. -/
structure wifi_ap_config_t where
  ssid : List UInt8
  password : List UInt8
  ssid_len : UInt8
  authmode : UInt8
  ssid_hidden : UInt8
  max_connection : UInt8

/-- The member `sta` of a `wifi_config_t`. -/
structure wifi_sta_config_t where
  ssid : List UInt8
  password : List UInt8
  scan_method : UInt8

structure uart_config_t where
  baud_rate : UInt32
  data_bits : UInt8
  parity : UInt8
  stop_bits : UInt8
  flow_ctrl : UInt8

/-- The calls into ESP-IDF that are handed values of the configuration, and
which authentication modes are WPA or WPA2 modes. -/
structure EspIdf where
  esp_netif_set_ip_info : esp_netif_ip_info_t → esp_err_t
  esp_netif_set_hostname : List UInt8 → esp_err_t
  esp_netif_set_dns_info : UInt32 → esp_err_t
  esp_wifi_set_mode : wifi_mode_t → esp_err_t
  esp_wifi_set_config_ap : wifi_ap_config_t → esp_err_t
  esp_wifi_set_config_sta : wifi_sta_config_t → esp_err_t
  uart_param_config : UInt8 → uart_config_t → esp_err_t
  uart_set_pin : UInt8 → UInt8 → UInt8 → UInt8 → UInt8 → esp_err_t
  uart_driver_install : UInt8 → esp_err_t
  uart_flush_input : UInt8 → esp_err_t
  wpaMode : UInt8 → Bool

/-- Which of the calls fail. An open network is not a WPA one. -/
structure EspIdf.Documented (idf : EspIdf) : Prop where
  wpaMode_open : idf.wpaMode WIFI_AUTH_OPEN = false
  esp_netif_set_ip_info : ∀ ip_info, idf.esp_netif_set_ip_info ip_info = .ESP_OK
  esp_netif_set_hostname : ∀ name, idf.esp_netif_set_hostname name = .ESP_OK ↔ name.length ≤ 32
  esp_netif_set_dns_info : ∀ addr, idf.esp_netif_set_dns_info addr = .ESP_OK
  esp_wifi_set_mode : ∀ mode, idf.esp_wifi_set_mode mode = .ESP_OK
  esp_wifi_set_config_ap : ∀ config, idf.esp_wifi_set_config_ap config = .ESP_OK ↔
    ¬ (idf.wpaMode config.authmode = true ∧ (cstr config.password).length < 8)
  esp_wifi_set_config_sta : ∀ config, idf.esp_wifi_set_config_sta config = .ESP_OK
  uart_param_config : ∀ port config, idf.uart_param_config port config = .ESP_OK ↔
    port < 3 ∧ config.data_bits ≤ 3
  uart_set_pin : ∀ port tx rx rts cts, idf.uart_set_pin port tx rx rts cts = .ESP_OK
  uart_driver_install : ∀ port, idf.uart_driver_install port = .ESP_OK
  uart_flush_input : ∀ port, idf.uart_flush_input port = .ESP_OK

/-- `none` is the reboot. -/
def ESP_ERROR_CHECK : esp_err_t → Option Unit
  | .ESP_OK => some ()
  | _ => none

def whenEnabled (enabled : Bool) (routine : Option Unit) : Option Unit :=
  if enabled then routine else some ()

/-- `strncpy` into an array of `size` bytes, which it fills up with NULs. -/
def strncpy (size : Nat) (src : List UInt8) : List UInt8 :=
  (src ++ List.replicate size 0).take size

def cfg_get_u8_or_default (store : Nvs) (key : String) (default_value : UInt8) : UInt8 :=
  (cfg_get_u8 store key).getD default_value

def cfg_get_u32_or_default (store : Nvs) (key : String) (default_value : UInt32) : UInt32 :=
  (cfg_get_u32 store key).getD default_value

structure wifi_startup_config_t where
  ap_enabled : Bool
  sta_enabled : Bool
  forced_ap_fallback : Bool

def wifi_read_startup_config (store : Nvs) : wifi_startup_config_t :=
  let ap_enabled := cfg_get_u8_or_default store KEY_CONFIG_WIFI_AP_ACTIVE 1 != 0
  let sta_enabled := cfg_get_u8_or_default store KEY_CONFIG_WIFI_STA_ACTIVE 0 != 0
  if !ap_enabled && !sta_enabled then ⟨true, sta_enabled, true⟩ else ⟨ap_enabled, sta_enabled, false⟩

def esp_netif_htonl (v : UInt32) : UInt32 :=
  v <<< 24 ||| (v <<< 8) &&& (0xFF0000 : UInt32) ||| (v >>> 8) &&& (0xFF00 : UInt32) ||| v >>> 24

/-- The netmask of a prefix length. The processor shifts by the lowest five
bits of the count. -/
def netmaskOf (subnet : UInt8) : UInt32 := esp_netif_htonl (0xFFFFFFFF <<< (32 - subnet.toUInt32))

section

variable (idf : EspIdf) (store : Nvs)

def netInitAp : Option Unit :=
  let ip := cfg_get_u32_or_default store KEY_CONFIG_WIFI_AP_GATEWAY (ip4_addr 192 168 4 1)
  let subnet := cfg_get_u8_or_default store KEY_CONFIG_WIFI_AP_SUBNET 24
  ESP_ERROR_CHECK (idf.esp_netif_set_ip_info ⟨ip, ip, netmaskOf subnet⟩)

def netInitStaticIp : Option Unit := do
  let ip := cfg_get_u32_or_default store KEY_CONFIG_WIFI_STA_IP (ip4_addr 192 168 0 100)
  let gw := cfg_get_u32_or_default store KEY_CONFIG_WIFI_STA_GATEWAY (ip4_addr 192 168 0 1)
  let subnet := cfg_get_u8_or_default store KEY_CONFIG_WIFI_STA_SUBNET 24
  let main := cfg_get_u32_or_default store KEY_CONFIG_WIFI_STA_DNS_A (ip4_addr 192 168 178 1)
  let backup := cfg_get_u32_or_default store KEY_CONFIG_WIFI_STA_DNS_B (ip4_addr 8 8 8 8)
  ESP_ERROR_CHECK (idf.esp_netif_set_ip_info ⟨ip, gw, netmaskOf subnet⟩)
  ESP_ERROR_CHECK (idf.esp_netif_set_dns_info main)
  ESP_ERROR_CHECK (idf.esp_netif_set_dns_info backup)

def netInitSta : Option Unit := do
  let hostname ← cfg_get_str store KEY_CONFIG_STATION_HOSTNAME
  ESP_ERROR_CHECK (idf.esp_netif_set_hostname hostname.bytes)
  whenEnabled (cfg_get_u8_or_default store KEY_CONFIG_WIFI_STA_STATIC 0 != 0)
    (netInitStaticIp idf store)

/-- The part of `net_init` that depends on the configuration. -/
def net_init : Option Unit := do
  let startup := wifi_read_startup_config store
  whenEnabled startup.ap_enabled (netInitAp idf store)
  whenEnabled startup.sta_enabled (netInitSta idf store)

def wifi_mode (startup : wifi_startup_config_t) : wifi_mode_t :=
  if startup.sta_enabled && startup.ap_enabled then .WIFI_MODE_APSTA
  else if startup.ap_enabled then .WIFI_MODE_AP
  else if startup.sta_enabled then .WIFI_MODE_STA
  else .WIFI_MODE_AP

/-- `config_ap` in the zeroed static memory. -/
def config_ap : wifi_ap_config_t := ⟨List.replicate 32 0, List.replicate 64 0, 0, 0, 0, 0⟩

/-- The password is not among the fields that are set. -/
def wifiInitAp : Option Unit := do
  let ssid ← cfg_get_str store KEY_CONFIG_WIFI_AP_SSID
  ESP_ERROR_CHECK (idf.esp_wifi_set_config_ap { config_ap with
    max_connection := 4
    ssid_len := 0
    ssid := strncpy 32 ssid.bytes
    ssid_hidden := cfg_get_u8_or_default store KEY_CONFIG_WIFI_AP_SSID_HIDDEN 0
    authmode := cfg_get_u8_or_default store KEY_CONFIG_WIFI_AP_AUTH_MODE WIFI_AUTH_OPEN })

def wifiInitSta : Option Unit := do
  let ssid ← cfg_get_str store KEY_CONFIG_WIFI_STA_SSID
  let password ← cfg_get_str store KEY_CONFIG_WIFI_STA_PASSWORD
  ESP_ERROR_CHECK (idf.esp_wifi_set_config_sta
    { ssid := strncpy 32 ssid.bytes
      password := strncpy 64 password.bytes
      scan_method := cfg_get_u8_or_default store KEY_CONFIG_WIFI_STA_SCAN_MODE_ALL 0 })

/-- The part of `wifi_init` that depends on the configuration. -/
def wifi_init : Option Unit := do
  let startup := wifi_read_startup_config store
  ESP_ERROR_CHECK (idf.esp_wifi_set_mode (wifi_mode startup))
  whenEnabled startup.ap_enabled (wifiInitAp idf store)
  whenEnabled startup.sta_enabled (wifiInitSta idf store)

/-- `task_gnss_reader` up to its loop, from a union `cfg_var` that holds
whatever was on the stack. -/
def task_gnss_reader (cfg_var : config_item_value_t) : Option Unit := do
  let cfg_var := cfg_var.nvs_get_u32 store KEY_CONFIG_UART_BAUD_RATE
  let baud_rate := cfg_var.uint32
  let cfg_var := cfg_var.nvs_get_u8 store KEY_CONFIG_UART_DATA_BITS
  let data_bits := cfg_var.uint8
  let cfg_var := cfg_var.nvs_get_u8 store KEY_CONFIG_UART_PARITY
  let parity := cfg_var.uint8
  let cfg_var := cfg_var.nvs_get_u8 store KEY_CONFIG_UART_STOP_BITS
  let stop_bits := cfg_var.uint8
  let cfg_var := cfg_var.nvs_get_u8 store KEY_CONFIG_UART_FLOW_CTRL_RTS
  let flow_ctrl_rts : UInt8 := if cfg_var.enabled then 1 else 0
  let cfg_var := cfg_var.nvs_get_u8 store KEY_CONFIG_UART_FLOW_CTRL_CTS
  let flow_ctrl_cts : UInt8 := if cfg_var.enabled then 2 else 0
  let cfg_var := cfg_var.nvs_get_u8 store KEY_CONFIG_UART_NUM
  let uart_port := cfg_var.uint8
  let cfg_var := cfg_var.nvs_get_u8 store KEY_CONFIG_UART_TX_PIN
  let pin_tx := cfg_var.uint8
  let cfg_var := cfg_var.nvs_get_u8 store KEY_CONFIG_UART_RX_PIN
  let pin_rx := cfg_var.uint8
  let cfg_var := cfg_var.nvs_get_u8 store KEY_CONFIG_UART_RTS_PIN
  let pin_rts := cfg_var.uint8
  let cfg_var := cfg_var.nvs_get_u8 store KEY_CONFIG_UART_CTS_PIN
  let pin_cts := cfg_var.uint8
  ESP_ERROR_CHECK (idf.uart_param_config uart_port
    ⟨baud_rate, data_bits, parity, stop_bits, flow_ctrl_rts ||| flow_ctrl_cts⟩)
  ESP_ERROR_CHECK (idf.uart_set_pin uart_port pin_tx pin_rx pin_rts pin_cts)
  ESP_ERROR_CHECK (idf.uart_driver_install uart_port)
  ESP_ERROR_CHECK (idf.uart_flush_input uart_port)

/-- What `app_main` runs of this, and the task it starts. -/
def boot (cfg_var : config_item_value_t) : Option Unit := do
  net_init idf store
  wifi_init idf store
  task_gnss_reader idf store cfg_var

end

end rtkbase.startup
