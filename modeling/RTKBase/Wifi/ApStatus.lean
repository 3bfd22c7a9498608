import RTKBase.Startup.Routines
import RTKBase.WebServer.StatusPage
import Mathlib.Data.List.GetD

namespace rtkbase.wifi

open lib.cstring nvs_config startup web_server

/-- The hotspot's status as it stands in memory, where the caller leaves it
uninitialised. -/
structure ap_status_t where
  active : Bool
  ssid : Vector UInt8 33
  authmode : UInt8
  devices : UInt8
  ip4_addr : UInt32
  ip6_addr : esp_ip6_addr_t

/-- What the driver tells about the hotspot. It need not have a link-local address. -/
structure ApCalls where
  esp_wifi_ap_get_sta_list : UInt8
  esp_netif_get_ip_info : UInt32
  esp_netif_get_ip6_linklocal : Option esp_ip6_addr_t

/-- `memcpy` of the 32 bytes of a configured name. -/
def memcpy (dst : Vector UInt8 33) (src : List UInt8) : Vector UInt8 33 :=
  Vector.ofFn fun i => if i.val < 32 then src.getD i.val 0 else dst[i]

def wifi_ap_status (ap_active : Bool) (config_ap : wifi_ap_config_t) (calls : ApCalls)
    (status : ap_status_t) : ap_status_t :=
  let status := { status with active := ap_active }
  if !ap_active then status
  else { status with
    ssid := memcpy status.ssid config_ap.ssid
    authmode := config_ap.authmode
    devices := calls.esp_wifi_ap_get_sta_list
    ip4_addr := calls.esp_netif_get_ip_info
    ip6_addr := calls.esp_netif_get_ip6_linklocal.getD status.ip6_addr }

/-- The configuration that `wifi_init` sets for the hotspot. -/
def configuredAp (store : Nvs) : Option wifi_ap_config_t := do
  let ssid ← cfg_get_str store KEY_CONFIG_WIFI_AP_SSID
  return { config_ap with
    max_connection := 4
    ssid_len := 0
    ssid := strncpy 32 ssid.bytes
    ssid_hidden := cfg_get_u8_or_default store KEY_CONFIG_WIFI_AP_SSID_HIDDEN 0
    authmode := cfg_get_u8_or_default store KEY_CONFIG_WIFI_AP_AUTH_MODE WIFI_AUTH_OPEN }

theorem wifiInitAp_eq (idf : EspIdf) (store : Nvs) :
    wifiInitAp idf store = (configuredAp store).bind fun config =>
      ESP_ERROR_CHECK (idf.esp_wifi_set_config_ap config) := by
  unfold wifiInitAp configuredAp
  cases cfg_get_str store KEY_CONFIG_WIFI_AP_SSID <;> rfl

/-- The text that the status page takes the name for, with the memory behind the field. -/
def statusSsid (status : ap_status_t) (behind : List UInt8) : List UInt8 :=
  cstr (status.ssid.toList ++ behind)

/-- The field holds a string, the configured name up to its 32nd byte. -/
structure ReportsName (ssid : CString) (status : ap_status_t) : Prop where
  terminated : 0 ∈ status.ssid.toList
  name : cstr status.ssid.toList = ssid.bytes.take 32

theorem strncpy_length (size : Nat) (src : List UInt8) : (strncpy size src).length = size := by
  simp [strncpy]

/-- The name goes before the last byte of the field, which stays. -/
theorem memcpy_toList (dst : Vector UInt8 33) {src : List UInt8} (hlength : src.length = 32) :
    (memcpy dst src).toList = src ++ [dst[32]] := by
  apply List.ext_getElem
  · simp [hlength]
  · intro i hi hi'
    simp only [memcpy, Vector.toList_ofFn, List.getElem_ofFn]
    by_cases hin : i < 32
    · rw [if_pos hin, List.getElem_append_left (by omega), List.getD_eq_getElem _ _ (by omega)]
    · have hlast : i = 32 := by
        simp only [List.length_append, hlength, List.length_singleton] at hi'
        omega
      subst hlast
      simp [hlength]

/-- A name of less than 32 bytes brings its terminator, a longer one needs that of the
field. -/
theorem field_holds_iff (ssid : CString) (last : UInt8) :
    (0 ∈ strncpy 32 ssid.bytes ++ [last] ∧
      cstr (strncpy 32 ssid.bytes ++ [last]) = ssid.bytes.take 32) ↔
    ssid.bytes.length < 32 ∨ last = 0 := by
  have hfree := ssid.nul_free
  by_cases hshort : ssid.bytes.length < 32
  · have hpadded : strncpy 32 ssid.bytes =
        ssid.bytes ++ 0 :: List.replicate (31 - ssid.bytes.length) 0 := by
      have hzeros : 32 - ssid.bytes.length = 31 - ssid.bytes.length + 1 := by omega
      rw [strncpy, List.take_append, List.take_of_length_le hshort.le, List.take_replicate,
        Nat.min_eq_left (Nat.sub_le 32 _), hzeros, List.replicate_succ]
    rw [hpadded, List.append_assoc, List.cons_append, cstr_terminated, cstr_of_nul_free hfree,
      List.take_of_length_le hshort.le]
    simp [hshort]
  · have hcut : strncpy 32 ssid.bytes = ssid.bytes.take 32 :=
      List.take_append_of_le_length (by omega)
    have hfree' : ∀ b ∈ ssid.bytes.take 32, b ≠ 0 :=
      fun b hb => hfree b (List.mem_of_mem_take hb)
    rw [hcut]
    constructor
    · intro hholds
      obtain hname | hlast := List.mem_append.mp hholds.1
      · exact absurd rfl (hfree' 0 hname)
      · exact .inr (List.mem_singleton.mp hlast).symm
    · intro hcase
      obtain hlast := hcase.resolve_left hshort
      subst hlast
      rw [cstr_terminated, cstr_of_nul_free hfree']
      simp

/-- A page that shows such a field reads nothing else. -/
theorem statusSsid_of_reports {ssid : CString} {status : ap_status_t}
    (hreports : ReportsName ssid status) (behind : List UInt8) :
    statusSsid status behind = ssid.bytes.take 32 := by
  obtain ⟨before, after, hsplit⟩ := List.append_of_mem hreports.terminated
  rw [← hreports.name, statusSsid, hsplit, List.append_assoc, List.cons_append, cstr_terminated,
    cstr_terminated]

/-- Whatever was in the structure, an active hotspot's name is in its field, exactly when
it is shorter than 32 bytes or the last byte of the field was NUL. -/
theorem wifi_ap_status_reports_iff {store : Nvs} {ssid : CString}
    (hssid : cfg_get_str store KEY_CONFIG_WIFI_AP_SSID = some ssid) :
    ∃ config, configuredAp store = some config ∧
      ∀ (ap_active : Bool) (calls : ApCalls) (status : ap_status_t),
        ((wifi_ap_status ap_active config calls status).active = true →
          ReportsName ssid (wifi_ap_status ap_active config calls status)) ↔
        (ap_active = true → ssid.bytes.length < 32 ∨ status.ssid[32] = 0) := by
  refine ⟨_, by rw [configuredAp, hssid]; rfl, fun ap_active calls status => ?_⟩
  cases ap_active with
  | false => simp [wifi_ap_status]
  | true =>
    have hlength := strncpy_length 32 ssid.bytes
    rw [← field_holds_iff ssid, ← memcpy_toList status.ssid hlength]
    constructor
    · intro hreports _
      have hfield := hreports rfl
      exact ⟨hfield.terminated, hfield.name⟩
    · intro hholds _
      exact ⟨(hholds rfl).1, (hholds rfl).2⟩

def ssidStore (ssid : String) : Nvs := fun key =>
  if key = KEY_CONFIG_WIFI_AP_SSID then some (.str (literal ssid)) else none

def noDevices : ApCalls := ⟨0, 0, none⟩

/-- A structure on a stack that held nothing but `0xa5`. -/
def usedStack : ap_status_t where
  active := false
  ssid := Vector.replicate 33 0xa5
  authmode := 0xa5
  devices := 0xa5
  ip4_addr := 0xa5a5a5a5
  ip6_addr := Vector.replicate 8 0xa5a5

theorem wifi_ap_status_reports_short_name :
    ∃ config, configuredAp (ssidStore "RTK Base") = some config ∧
      ReportsName (literal "RTK Base") (wifi_ap_status true config noDevices usedStack) := by
  have hssid : cfg_get_str (ssidStore "RTK Base") KEY_CONFIG_WIFI_AP_SSID =
      some (literal "RTK Base") := rfl
  obtain ⟨config, hconfig, hreports⟩ := wifi_ap_status_reports_iff hssid
  exact ⟨config, hconfig, (hreports true noDevices usedStack).mpr
    (fun _ => .inl (by decide)) rfl⟩

/-- A name of 32 characters is not terminated. -/
theorem wifi_ap_status_leaves_name_open :
    ∃ config, configuredAp (ssidStore "RTK Base at the end of the road!") = some config ∧
      (wifi_ap_status true config noDevices usedStack).active = true ∧
      ¬ ReportsName (literal "RTK Base at the end of the road!")
        (wifi_ap_status true config noDevices usedStack) := by
  refine ⟨_, rfl, rfl, fun hreports => ?_⟩
  have hterminated := hreports.terminated
  revert hterminated
  decide

end rtkbase.wifi
