import RTKBase.WebServer.ConfigPost

namespace rtkbase.web_server.hotspot

open lib lib.cstring nvs_config

/-- An address in the order of the network, as lwIP keeps it in a word. -/
abbrev esp_ip4_addr_t := UInt32

/-- What `getpeername` writes: a client of an IPv4 or of a dual-stack socket. -/
inductive sockaddr where
  | AF_INET (sin_addr : esp_ip4_addr_t)
  | AF_INET6 (u32_addr0 u32_addr1 u32_addr2 u32_addr3 : UInt32)
deriving DecidableEq

structure wifi_sta_info_t where
  mac : Vector UInt8 6
deriving DecidableEq

structure esp_netif_pair_mac_ip_t where
  mac : Vector UInt8 6
  ip : esp_ip4_addr_t
deriving DecidableEq

/-- What the driver and the sockets tell about a request. A list that is `none`
came with an error. -/
structure HotspotCalls where
  getpeername : sockaddr
  esp_wifi_ap_get_sta_list : Option (List wifi_sta_info_t)
  esp_wifi_ap_get_sta_list_with_ip : List wifi_sta_info_t → Option (List esp_netif_pair_mac_ip_t)

/-- What the handler returns and sends, and the stations that it logs.
`ESP_ERROR_CHECK` restarts the device on an error. -/
def hotspot_auth (calls : HotspotCalls) :
    Option ((esp_err_t × Option HttpdResp) × List esp_netif_pair_mac_ip_t) := do
  let wifi_sta_list ← calls.esp_wifi_ap_get_sta_list
  let mac_ip_list ← calls.esp_wifi_ap_get_sta_list_with_ip wifi_sta_list
  return ((.ESP_FAIL, some hotspotAuthRequired), mac_ip_list)

section

variable {httpd_req_t : Type} (httpd : HttpdHeaders httpd_req_t)

def check_auth (calls : HotspotCalls) (s : ServerAuth) (req : httpd_req_t)
    (block : Option (List UInt8)) : Option (esp_err_t × Option HttpdResp) :=
  if s.auth_method = AUTH_METHOD_HOTSPOT then (hotspot_auth calls).map (·.1)
  else if s.auth_method = AUTH_METHOD_BASIC then basic_auth httpd s req block
  else some (.ESP_OK, none)

/-- The list of the stations makes no difference, unless there is none. -/
theorem check_auth_eq {calls : HotspotCalls} {wifi_sta_list : List wifi_sta_info_t}
    {mac_ip_list : List esp_netif_pair_mac_ip_t}
    (hlist : calls.esp_wifi_ap_get_sta_list = some wifi_sta_list)
    (hlist_with_ip : calls.esp_wifi_ap_get_sta_list_with_ip wifi_sta_list = some mac_ip_list)
    (s : ServerAuth) (req : httpd_req_t) (block : Option (List UInt8)) :
    check_auth httpd calls s req block = web_server.check_auth httpd s req block := by
  simp [check_auth, web_server.check_auth, hotspot_auth, web_server.hotspot_auth, hlist,
    hlist_with_ip]

/-- Whoever asks, nobody is admitted. -/
theorem hotspot_refuses (calls : HotspotCalls) {s : ServerAuth}
    (hmethod : s.auth_method = AUTH_METHOD_HOTSPOT) (req : httpd_req_t)
    (block : Option (List UInt8)) (resp : Option HttpdResp) :
    check_auth httpd calls s req block ≠ some (.ESP_OK, resp) := by
  rw [check_auth, if_pos hmethod]
  intro hadmitted
  obtain ⟨⟨outcome, logged⟩, hstations, houtcome⟩ := Option.map_eq_some_iff.mp hadmitted
  simp only [hotspot_auth, Option.bind_eq_bind, Option.bind_eq_some_iff,
    Option.pure_def, Option.some.injEq, Prod.mk.injEq] at hstations
  obtain ⟨_, _, _, _, hrefused, _⟩ := hstations
  subst hrefused
  cases houtcome

/-- So the setting cannot be changed over the network any more. -/
theorem hotspot_keeps_setting (parser : JsonLibrary) (results : PostResults) {s : ServerAuth}
    (hmethod : s.auth_method = AUTH_METHOD_HOTSPOT) (req : httpd_req_t)
    (block : Option (List UInt8)) (store : Nvs) (restart_scheduled : Bool) (body : List UInt8)
    (delivery : RecvResult) :
    config_post_handler parser results httpd s req block store restart_scheduled body delivery =
      some ⟨.ESP_FAIL, [.unauthorized hotspotAuthRequired], store, restart_scheduled⟩ := by
  have hrefused : web_server.check_auth httpd s req block =
      some (.ESP_FAIL, some hotspotAuthRequired) := by
    rw [web_server.check_auth, if_pos hmethod, web_server.hotspot_auth]
  unfold config_post_handler
  rw [hrefused]
  rfl

end

/-- The IPv4 address of a client, which an IPv6 address may hold. -/
def clientIp4 : sockaddr → Option esp_ip4_addr_t
  | .AF_INET sin_addr => some sin_addr
  | .AF_INET6 u32_addr0 u32_addr1 u32_addr2 u32_addr3 =>
    if u32_addr0 = 0 ∧ u32_addr1 = 0 ∧ u32_addr2 = 0xffff0000 then some u32_addr3 else none

/-- The client has the address of a station in the list. -/
def HotspotDevice (client : sockaddr) (mac_ip_list : List esp_netif_pair_mac_ip_t) : Prop :=
  ∃ e ∈ mac_ip_list, clientIp4 client = some e.ip

instance (client : sockaddr) (mac_ip_list : List esp_netif_pair_mac_ip_t) :
    Decidable (HotspotDevice client mac_ip_list) :=
  inferInstanceAs (Decidable (∃ e ∈ mac_ip_list, clientIp4 client = some e.ip))

/-- With access for hotspot devices only, exactly these are admitted as long as the
client is none of them. -/
theorem hotspot_admits_iff {httpd_req_t : Type} (httpd : HttpdHeaders httpd_req_t)
    (mbedtls_base64_encode : List UInt8 → List UInt8) {store : Nvs}
    (hmethod : cfg_get_u8 store KEY_CONFIG_ADMIN_AUTH = some AUTH_METHOD_HOTSPOT) :
    ∃ s, web_server_start mbedtls_base64_encode store = some s ∧
      ∀ (req : httpd_req_t) (block : Option (List UInt8)) (calls : HotspotCalls)
        (wifi_sta_list : List wifi_sta_info_t) (mac_ip_list : List esp_netif_pair_mac_ip_t),
        calls.esp_wifi_ap_get_sta_list = some wifi_sta_list →
        calls.esp_wifi_ap_get_sta_list_with_ip wifi_sta_list = some mac_ip_list →
        (((∃ resp, check_auth httpd calls s req block = some (.ESP_OK, resp)) ↔
          HotspotDevice calls.getpeername mac_ip_list) ↔
        ¬ HotspotDevice calls.getpeername mac_ip_list) := by
  refine ⟨⟨AUTH_METHOD_HOTSPOT, []⟩, ?_, fun req block calls wifi_sta_list mac_ip_list _ _ => ?_⟩
  · have hbasic : AUTH_METHOD_HOTSPOT ≠ AUTH_METHOD_BASIC := by decide
    simp [web_server_start, hmethod, hbasic]
  · have hrefused : ¬ ∃ resp, check_auth httpd calls ⟨AUTH_METHOD_HOTSPOT, []⟩ req block =
        some (.ESP_OK, resp) := by
      intro hadmitted
      obtain ⟨resp, hadmitted⟩ := hadmitted
      exact hotspot_refuses httpd calls rfl req block resp hadmitted
    constructor
    · intro hexact hdevice
      exact hrefused (hexact.mpr hdevice)
    · intro hstranger
      exact ⟨fun hadmitted => absurd hadmitted hrefused,
        fun hdevice => absurd hdevice hstranger⟩

def hotspotStore : Nvs := fun key =>
  if key = KEY_CONFIG_ADMIN_AUTH then some (.u8 AUTH_METHOD_HOTSPOT) else none

/-- One station, which is at 192.168.4.2. -/
def oneStation (getpeername : sockaddr) : HotspotCalls where
  getpeername := getpeername
  esp_wifi_ap_get_sta_list := some [⟨#v[2, 0, 0, 0, 0, 1]⟩]
  esp_wifi_ap_get_sta_list_with_ip := fun wifi_sta_list =>
    some (wifi_sta_list.map fun sta => ⟨sta.mac, 0x0204a8c0⟩)

/-- A client at another address. -/
theorem hotspot_admits_of_stranger :
    ∃ s, web_server_start base64.encode hotspotStore = some s ∧
      ((∃ resp, check_auth sampleHeaders (oneStation (.AF_INET 0x0304a8c0)) s none none =
        some (.ESP_OK, resp)) ↔
      HotspotDevice (.AF_INET 0x0304a8c0) [⟨#v[2, 0, 0, 0, 0, 1], 0x0204a8c0⟩]) := by
  have hmethod : cfg_get_u8 hotspotStore KEY_CONFIG_ADMIN_AUTH = some AUTH_METHOD_HOTSPOT := rfl
  obtain ⟨s, hstart, hadmits⟩ := hotspot_admits_iff sampleHeaders base64.encode hmethod
  refine ⟨s, hstart, (hadmits none none (oneStation (.AF_INET 0x0304a8c0)) _ _ rfl rfl).mpr ?_⟩
  decide

/-- The station itself is turned away. -/
theorem hotspot_refuses_station :
    ∃ s, web_server_start base64.encode hotspotStore = some s ∧
      ¬ ((∃ resp, check_auth sampleHeaders
        (oneStation (.AF_INET6 0 0 0xffff0000 0x0204a8c0)) s none none = some (.ESP_OK, resp)) ↔
      HotspotDevice (.AF_INET6 0 0 0xffff0000 0x0204a8c0) [⟨#v[2, 0, 0, 0, 0, 1], 0x0204a8c0⟩]) := by
  refine ⟨⟨AUTH_METHOD_HOTSPOT, []⟩, rfl, fun hexact => ?_⟩
  obtain ⟨resp, hadmitted⟩ := hexact.mpr (by decide)
  exact hotspot_refuses sampleHeaders _ rfl none none resp hadmitted

end rtkbase.web_server.hotspot
