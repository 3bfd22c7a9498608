import RTKBase.NvsConfig.Defaults
import RTKBase.NtripCaster.Config
import RTKBase.WebServer.BasicAuth

namespace rtkbase

open lib.cstring nvs_config

section

variable {store : Nvs} {item : config_item_t}

theorem complete_u16 (hcomplete : Complete store) (hitem : item ∈ CONFIG_ITEMS)
    (htype : item.type = .TYPE_CFG_ITEM_UINT16) : ∃ value, cfg_get_u16 store item.key = some value := by
  obtain ⟨value, hvalue, hholds⟩ := hcomplete item hitem
  rw [htype] at hholds
  cases value with
  | u16 value => exact ⟨value, by simp [cfg_get_u16, hvalue]⟩
  | _ => cases hholds

theorem complete_str (hcomplete : Complete store) (hitem : item ∈ CONFIG_ITEMS)
    (htype : item.type = .TYPE_CFG_ITEM_STR ∨ item.type = .TYPE_CFG_ITEM_SECRET_STR) :
    ∃ value, cfg_get_str store item.key = some value := by
  obtain ⟨value, hvalue, hholds⟩ := hcomplete item hitem
  cases value with
  | str value => exact ⟨value, by simp [cfg_get_str, hvalue]⟩
  | _ => obtain htype | htype := htype <;> rw [htype] at hholds <;> cases hholds

/-- With a complete configuration the caster finds its settings. -/
theorem load_caster_config_of_complete (hcomplete : Complete store) :
    ∃ s_cfg, ntrip_caster.load_caster_config (cfg_get_u16 store)
      (fun key => (cfg_get_str store key).map (·.bytes)) = some s_cfg := by
  have hport : config_item_t.uint16 KEY_CONFIG_CASTER_PORT 2101 ∈ CONFIG_ITEMS := by
    simp [CONFIG_ITEMS]
  have hmountpoint : config_item_t.str KEY_CONFIG_CASTER_MOUNTPOINT "" ∈ CONFIG_ITEMS := by
    simp [CONFIG_ITEMS]
  have husername : config_item_t.str KEY_CONFIG_CASTER_USERNAME "" ∈ CONFIG_ITEMS := by
    simp [CONFIG_ITEMS]
  have hpassword : config_item_t.secretStr KEY_CONFIG_CASTER_PASSWORD "" ∈ CONFIG_ITEMS := by
    simp [CONFIG_ITEMS]
  obtain ⟨port, hport⟩ := complete_u16 hcomplete hport rfl
  obtain ⟨mountpoint, hmountpoint⟩ := complete_str hcomplete hmountpoint (.inl rfl)
  obtain ⟨username, husername⟩ := complete_str hcomplete husername (.inl rfl)
  obtain ⟨password, hpassword⟩ := complete_str hcomplete hpassword (.inr rfl)
  simp only [config_item_t.uint16] at hport
  simp only [config_item_t.str, config_item_t.secretStr] at hmountpoint husername hpassword
  simp [ntrip_caster.load_caster_config, ntrip_caster.load_cfg_string, hport, hmountpoint,
    husername, hpassword]

/-- And the web server never uses a user name or a password that it could not
read. -/
theorem web_server_start_of_complete (mbedtls_base64_encode : List UInt8 → List UInt8)
    (hcomplete : Complete store) :
    ∃ s, web_server.web_server_start mbedtls_base64_encode store = some s := by
  have husername : config_item_t.str KEY_CONFIG_ADMIN_USERNAME "" ∈ CONFIG_ITEMS := by
    simp [CONFIG_ITEMS]
  have hpassword : config_item_t.secretStr KEY_CONFIG_ADMIN_PASSWORD "" ∈ CONFIG_ITEMS := by
    simp [CONFIG_ITEMS]
  obtain ⟨username, husername⟩ := complete_str hcomplete husername (.inl rfl)
  obtain ⟨password, hpassword⟩ := complete_str hcomplete hpassword (.inr rfl)
  simp only [config_item_t.str, config_item_t.secretStr] at husername hpassword
  unfold web_server.web_server_start
  dsimp only
  split
  · simp [husername, hpassword]
  · simp

end

end rtkbase
