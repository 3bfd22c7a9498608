import RTKBase.NvsConfig.Store

namespace rtkbase.nvs_config

open lib.cstring

def KEY_CONFIG_STATION_HOSTNAME : String := "host_name"
def KEY_CONFIG_ADMIN_USERNAME : String := "adm_user"
def KEY_CONFIG_ADMIN_PASSWORD : String := "adm_pass"
def KEY_CONFIG_ADMIN_AUTH : String := "adm_auth"
def KEY_CONFIG_TIMEZONE : String := "time_tz"
def KEY_CONFIG_NTRIP1_ACTIVE : String := "ntrip1_active"
def KEY_CONFIG_NTRIP1_HOST : String := "ntrip1_host"
def KEY_CONFIG_NTRIP1_PORT : String := "ntrip1_port"
def KEY_CONFIG_NTRIP1_MOUNTPOINT : String := "ntrip1_mp"
def KEY_CONFIG_NTRIP1_USERNAME : String := "ntrip1_user"
def KEY_CONFIG_NTRIP1_PASSWORD : String := "ntrip1_pass"
def KEY_CONFIG_NTRIP2_ACTIVE : String := "ntrip2_active"
def KEY_CONFIG_NTRIP2_HOST : String := "ntrip2_host"
def KEY_CONFIG_NTRIP2_PORT : String := "ntrip2_port"
def KEY_CONFIG_NTRIP2_MOUNTPOINT : String := "ntrip2_mp"
def KEY_CONFIG_NTRIP2_USERNAME : String := "ntrip2_user"
def KEY_CONFIG_NTRIP2_PASSWORD : String := "ntrip2_pass"
def KEY_CONFIG_CASTER_ACTIVE : String := "caster_active"
def KEY_CONFIG_CASTER_PORT : String := "caster_port"
def KEY_CONFIG_CASTER_MOUNTPOINT : String := "caster_mp"
def KEY_CONFIG_CASTER_USERNAME : String := "caster_user"
def KEY_CONFIG_CASTER_PASSWORD : String := "caster_pass"
def KEY_CONFIG_TCP_SERVER_ACTIVE : String := "tcp_srv_active"
def KEY_CONFIG_TCP_SERVER_PORT : String := "tcp_srv_port"
def KEY_CONFIG_UART_NUM : String := "uart_num"
def KEY_CONFIG_UART_TX_PIN : String := "uart_tx_pin"
def KEY_CONFIG_UART_RX_PIN : String := "uart_rx_pin"
def KEY_CONFIG_UART_RTS_PIN : String := "uart_rts_pin"
def KEY_CONFIG_UART_CTS_PIN : String := "uart_cts_pin"
def KEY_CONFIG_UART_BAUD_RATE : String := "uart_baud_rate"
def KEY_CONFIG_UART_DATA_BITS : String := "uart_data_bits"
def KEY_CONFIG_UART_STOP_BITS : String := "uart_stop_bits"
def KEY_CONFIG_UART_PARITY : String := "uart_parity"
def KEY_CONFIG_UART_FLOW_CTRL_RTS : String := "uart_fc_rts"
def KEY_CONFIG_UART_FLOW_CTRL_CTS : String := "uart_fc_cts"
def KEY_CONFIG_WIFI_AP_ACTIVE : String := "w_ap_active"
def KEY_CONFIG_WIFI_AP_SSID : String := "w_ap_ssid"
def KEY_CONFIG_WIFI_AP_SSID_HIDDEN : String := "w_ap_ssid_hid"
def KEY_CONFIG_WIFI_AP_AUTH_MODE : String := "w_ap_auth_mode"
def KEY_CONFIG_WIFI_AP_PASSWORD : String := "w_ap_pass"
def KEY_CONFIG_WIFI_AP_GATEWAY : String := "w_ap_gw"
def KEY_CONFIG_WIFI_AP_SUBNET : String := "w_ap_subnet"
def KEY_CONFIG_WIFI_STA_ACTIVE : String := "w_sta_active"
def KEY_CONFIG_WIFI_STA_SSID : String := "w_sta_ssid"
def KEY_CONFIG_WIFI_STA_PASSWORD : String := "w_sta_pass"
def KEY_CONFIG_WIFI_STA_SCAN_MODE_ALL : String := "w_sta_scan_mode"
def KEY_CONFIG_WIFI_STA_STATIC : String := "w_sta_static"
def KEY_CONFIG_WIFI_STA_IP : String := "w_sta_ip"
def KEY_CONFIG_WIFI_STA_GATEWAY : String := "w_sta_gw"
def KEY_CONFIG_WIFI_STA_SUBNET : String := "w_sta_subnet"
def KEY_CONFIG_WIFI_STA_DNS_A : String := "w_sta_dns_a"
def KEY_CONFIG_WIFI_STA_DNS_B : String := "w_sta_dns_b"

def UART_NUM_1 : UInt8 := 1
def UART_DATA_8_BITS : UInt8 := 3
def UART_STOP_BITS_1 : UInt8 := 1
def UART_PARITY_DISABLE : UInt8 := 0
def GPIO_NUM_14 : UInt8 := 14
def GPIO_NUM_16 : UInt8 := 16
def GPIO_NUM_17 : UInt8 := 17
def GPIO_NUM_33 : UInt8 := 33
def WIFI_AUTH_OPEN : UInt8 := 0

inductive config_item_type_t where
  | TYPE_CFG_ITEM_BOOL
  | TYPE_CFG_ITEM_UINT8
  | TYPE_CFG_ITEM_UINT16
  | TYPE_CFG_ITEM_UINT32
  | TYPE_CFG_ITEM_STR
  | TYPE_CFG_ITEM_SECRET_STR
  | TYPE_CFG_ITEM_IP
deriving DecidableEq

/-- The values that NVS may hold for an item of the type. -/
def config_item_type_t.Holds : config_item_type_t → NvsValue → Prop
  | .TYPE_CFG_ITEM_BOOL, .u8 value => value = 0 ∨ value = 1
  | .TYPE_CFG_ITEM_UINT8, .u8 _ => True
  | .TYPE_CFG_ITEM_UINT16, .u16 _ => True
  | .TYPE_CFG_ITEM_UINT32, .u32 _ => True
  | .TYPE_CFG_ITEM_STR, .str _ => True
  | .TYPE_CFG_ITEM_SECRET_STR, .str _ => True
  | .TYPE_CFG_ITEM_IP, .u32 _ => True
  | _, _ => False

/-- A setting, with a default of its type. -/
structure config_item_t where
  key : String
  type : config_item_type_t
  default : NvsValue
  typed : type.Holds default

/-- An IPv4 address with its first octet lowest, as in network byte order. -/
def ip4_addr (octet0 octet1 octet2 octet3 : UInt32) : UInt32 :=
  octet0 ||| octet1 <<< 8 ||| octet2 <<< 16 ||| octet3 <<< 24

namespace config_item_t

def bool (key : String) (enabled : Bool) : config_item_t where
  key := key
  type := .TYPE_CFG_ITEM_BOOL
  default := .u8 (if enabled then 1 else 0)
  typed := by cases enabled <;> simp [config_item_type_t.Holds]

def uint8 (key : String) (uint8 : UInt8) : config_item_t where
  key := key
  type := .TYPE_CFG_ITEM_UINT8
  default := .u8 uint8
  typed := trivial

def uint16 (key : String) (uint16 : UInt16) : config_item_t where
  key := key
  type := .TYPE_CFG_ITEM_UINT16
  default := .u16 uint16
  typed := trivial

def uint32 (key : String) (uint32 : UInt32) : config_item_t where
  key := key
  type := .TYPE_CFG_ITEM_UINT32
  default := .u32 uint32
  typed := trivial

def str (key : String) (str : String) : config_item_t where
  key := key
  type := .TYPE_CFG_ITEM_STR
  default := .str (literal str)
  typed := trivial

def secretStr (key : String) (str : String) : config_item_t where
  key := key
  type := .TYPE_CFG_ITEM_SECRET_STR
  default := .str (literal str)
  typed := trivial

def ip (key : String) (octet0 octet1 octet2 octet3 : UInt32) : config_item_t where
  key := key
  type := .TYPE_CFG_ITEM_IP
  default := .u32 (ip4_addr octet0 octet1 octet2 octet3)
  typed := trivial

end config_item_t

def CONFIG_ITEMS : List config_item_t := [
  .uint8 KEY_CONFIG_ADMIN_AUTH 0,
  .str KEY_CONFIG_ADMIN_USERNAME "",
  .secretStr KEY_CONFIG_ADMIN_PASSWORD "",
  .str KEY_CONFIG_TIMEZONE "CET-1CEST,M3.5.0/2,M10.5.0/3",
  .str KEY_CONFIG_STATION_HOSTNAME "RTK_",
  .bool KEY_CONFIG_NTRIP1_ACTIVE false,
  .str KEY_CONFIG_NTRIP1_HOST "",
  .uint16 KEY_CONFIG_NTRIP1_PORT 2101,
  .str KEY_CONFIG_NTRIP1_MOUNTPOINT "",
  .str KEY_CONFIG_NTRIP1_USERNAME "",
  .secretStr KEY_CONFIG_NTRIP1_PASSWORD "",
  .bool KEY_CONFIG_NTRIP2_ACTIVE false,
  .str KEY_CONFIG_NTRIP2_HOST "",
  .uint16 KEY_CONFIG_NTRIP2_PORT 2101,
  .str KEY_CONFIG_NTRIP2_MOUNTPOINT "",
  .str KEY_CONFIG_NTRIP2_USERNAME "",
  .secretStr KEY_CONFIG_NTRIP2_PASSWORD "",
  .bool KEY_CONFIG_CASTER_ACTIVE false,
  .uint16 KEY_CONFIG_CASTER_PORT 2101,
  .str KEY_CONFIG_CASTER_MOUNTPOINT "",
  .str KEY_CONFIG_CASTER_USERNAME "",
  .secretStr KEY_CONFIG_CASTER_PASSWORD "",
  .bool KEY_CONFIG_TCP_SERVER_ACTIVE false,
  .uint16 KEY_CONFIG_TCP_SERVER_PORT 5015,
  .uint8 KEY_CONFIG_UART_NUM UART_NUM_1,
  .uint8 KEY_CONFIG_UART_RX_PIN GPIO_NUM_16,
  .uint8 KEY_CONFIG_UART_TX_PIN GPIO_NUM_17,
  .uint8 KEY_CONFIG_UART_RTS_PIN GPIO_NUM_14,
  .uint8 KEY_CONFIG_UART_CTS_PIN GPIO_NUM_33,
  .uint32 KEY_CONFIG_UART_BAUD_RATE 115200,
  .uint8 KEY_CONFIG_UART_DATA_BITS UART_DATA_8_BITS,
  .uint8 KEY_CONFIG_UART_STOP_BITS UART_STOP_BITS_1,
  .uint8 KEY_CONFIG_UART_PARITY UART_PARITY_DISABLE,
  .bool KEY_CONFIG_UART_FLOW_CTRL_RTS false,
  .bool KEY_CONFIG_UART_FLOW_CTRL_CTS false,
  .bool KEY_CONFIG_WIFI_AP_ACTIVE true,
  .str KEY_CONFIG_WIFI_AP_SSID "RTK_",
  .bool KEY_CONFIG_WIFI_AP_SSID_HIDDEN false,
  .uint8 KEY_CONFIG_WIFI_AP_AUTH_MODE WIFI_AUTH_OPEN,
  .secretStr KEY_CONFIG_WIFI_AP_PASSWORD "",
  .ip KEY_CONFIG_WIFI_AP_GATEWAY 192 168 4 1,
  .uint8 KEY_CONFIG_WIFI_AP_SUBNET 24,
  .bool KEY_CONFIG_WIFI_STA_ACTIVE false,
  .str KEY_CONFIG_WIFI_STA_SSID "",
  .secretStr KEY_CONFIG_WIFI_STA_PASSWORD "",
  .bool KEY_CONFIG_WIFI_STA_SCAN_MODE_ALL false,
  .bool KEY_CONFIG_WIFI_STA_STATIC false,
  .ip KEY_CONFIG_WIFI_STA_IP 192 168 0 100,
  .ip KEY_CONFIG_WIFI_STA_GATEWAY 192 168 0 1,
  .uint8 KEY_CONFIG_WIFI_STA_SUBNET 24,
  .ip KEY_CONFIG_WIFI_STA_DNS_A 192 168 178 1,
  .ip KEY_CONFIG_WIFI_STA_DNS_B 8 8 8 8]

theorem config_items_nodup : (CONFIG_ITEMS.map (·.key)).Nodup := by
  decide +kernel

end rtkbase.nvs_config
