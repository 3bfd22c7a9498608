import RTKBase.NvsConfig.Items

namespace rtkbase.ntrip_caster

open lib.cstring nvs_config

structure caster_config_t where
  loaded : Bool
  auth_required : Bool
  port : UInt16
  mountpoint : CStr 33
  identifier : CStr 33
  username : CStr 33
  password : CStr 65

/-- `;`, CR and LF would break a line of the sourcetable. -/
def sanitizeSourcetableChar (b : UInt8) : UInt8 :=
  if b = 59 ∨ b = 13 ∨ b = 10 then 95 else b

def sanitize_sourcetable_field {size : Nat} (value : CStr size) : CStr size where
  bytes := value.bytes.map sanitizeSourcetableChar
  nul_free b hb := by
    obtain ⟨c, hc, rfl⟩ := List.mem_map.mp hb
    have hne := value.nul_free c hc
    unfold sanitizeSourcetableChar
    split
    · decide
    · exact hne
  fits := by simpa using value.fits

section

variable (cfg_get_u16 : String → Option UInt16) (cfg_get_str : String → Option (List UInt8))

/-- `load_cfg_string` for an array of `size + 1` bytes. -/
def load_cfg_string (key : String) (size : Nat) : Option (CStr (size + 1)) :=
  (cfg_get_str key).map (strlcpy size)

/-- The host name, or a default where it cannot be read or is empty. -/
def loadIdentifier : CStr 33 :=
  match load_cfg_string cfg_get_str KEY_CONFIG_STATION_HOSTNAME 32 with
  | none => strlcpy 32 (ascii "RTK Base")
  | some identifier => if identifier.bytes = [] then strlcpy 32 (ascii "RTK Base") else identifier

def load_caster_config : Option caster_config_t := do
  let port ← cfg_get_u16 KEY_CONFIG_CASTER_PORT
  let mountpoint ← load_cfg_string cfg_get_str KEY_CONFIG_CASTER_MOUNTPOINT 32
  let identifier := sanitize_sourcetable_field (loadIdentifier cfg_get_str)
  let username ← load_cfg_string cfg_get_str KEY_CONFIG_CASTER_USERNAME 32
  let password ← load_cfg_string cfg_get_str KEY_CONFIG_CASTER_PASSWORD 64
  return ⟨true, !password.bytes.isEmpty, port, mountpoint, identifier, username, password⟩

/-- A loaded configuration asks for credentials exactly when it has a password. -/
theorem load_caster_config_auth {s_cfg : caster_config_t}
    (hload : load_caster_config cfg_get_u16 cfg_get_str = some s_cfg) :
    s_cfg.loaded = true ∧ (s_cfg.auth_required = true ↔ s_cfg.password.bytes ≠ []) := by
  unfold load_caster_config at hload
  simp only [Option.bind_eq_bind, Option.bind_eq_some_iff, Option.pure_def,
    Option.some.injEq] at hload
  obtain ⟨port, _, mountpoint, _, username, _, password, _, rfl⟩ := hload
  simp

end

end rtkbase.ntrip_caster
