import RTKBase.Startup.Bootable

namespace rtkbase.startup

open lib lib.cstring lib.lts nvs_config

/-- The value of a setting does not keep a device from starting. -/
structure SafeSetting (idf : EspIdf) (key : String) (value : NvsValue) : Prop where
  authmode : key = KEY_CONFIG_WIFI_AP_AUTH_MODE → ∀ mode, value = .u8 mode → idf.wpaMode mode = false
  host_name : key = KEY_CONFIG_STATION_HOSTNAME → ∀ name, value = .str name → name.bytes.length ≤ 32
  uart_num : key = KEY_CONFIG_UART_NUM → ∀ port, value = .u8 port → port < 3
  data_bits : key = KEY_CONFIG_UART_DATA_BITS → ∀ bits, value = .u8 bits → bits ≤ 3

def SafeConfig (idf : EspIdf) (store : Nvs) : Prop :=
  ∀ key value, store key = some value → SafeSetting idf key value

/-- Whatever a JSON object asks for is safe. -/
def SafePost (idf : EspIdf) (_ : Nvs) (post : NvsResults × List (CString × cJSON)) : Prop :=
  ∀ item ∈ CONFIG_ITEMS, ∀ json value,
    cJSON_GetObjectItem (some (.cJSON_Object post.2)) item.key = some json →
      item.type.parse json = .value value → SafeSetting idf item.key value

section

variable {idf : EspIdf} {store : Nvs}

theorem SafeConfig.set {key : String} {value : NvsValue} (hsafe : SafeConfig idf store)
    (hvalue : SafeSetting idf key value) : SafeConfig idf (store.set key value) := by
  intro other stored hstored
  by_cases hkey : other = key
  · subst hkey
    simp only [Nvs.set, Function.update_self, Option.some.injEq] at hstored
    rwa [← hstored]
  · rw [Nvs.set, Function.update_of_ne hkey] at hstored
    exact hsafe other stored hstored

theorem SafeConfig.bootable (hsafe : SafeConfig idf store) : Bootable idf store := by
  have hu8 : ∀ {key value}, cfg_get_u8 store key = some value → store key = some (.u8 value) := by
    intro key value hget
    unfold cfg_get_u8 at hget
    split at hget <;> cases hget
    assumption
  have hstr : ∀ {key value}, cfg_get_str store key = some value → store key = some (.str value) := by
    intro key value hget
    unfold cfg_get_str at hget
    split at hget <;> cases hget
    assumption
  exact {
    authmode := fun _ mode hmode => (hsafe _ _ (hu8 hmode)).authmode rfl mode rfl
    host_name := fun _ name hname => (hsafe _ _ (hstr hname)).host_name rfl name rfl
    uart_num := fun port hport => (hsafe _ _ (hu8 hport)).uart_num rfl port rfl
    data_bits := fun bits hbits => (hsafe _ _ (hu8 hbits)).data_bits rfl bits rfl }

theorem acceptStep_safe {post : NvsResults × List (CString × cJSON)} {store' : Nvs}
    (hsafe : SafeConfig idf store) (hpost : SafePost idf store post)
    (hstep : acceptStep store post = some store') : SafeConfig idf store' := by
  rw [← acceptStep_store hstep]
  refine List.foldlRecOn (motive := fun state : Nvs × Bool => SafeConfig idf state.1) CONFIG_ITEMS _
    hsafe ?_
  intro state hstate item hitem
  unfold saveItem
  split
  case h_1 => exact hstate
  case h_2 json hjson =>
    split
    case h_1 => exact hstate
    case h_2 => exact hstate
    case h_3 value hparse =>
      split
      case isTrue => exact hstate.set (hpost item hitem json value hjson hparse)
      case isFalse => exact hstate

/-- Every default is safe, and so is the generated name. -/
theorem initial_safe (hidf : idf.Documented) (mac4 mac5 : UInt8) :
    ∀ item ∈ CONFIG_ITEMS, SafeSetting idf item.key (item.initial (str_buf mac4 mac5)) := by
  have hname : (str_buf mac4 mac5).bytes.length ≤ 32 := by
    have hbegins : (ascii "RTKBase_").length = 8 := by decide
    have hcut : (str_buf mac4 mac5).bytes.length ≤ (ascii "RTKBase_" ++ [hexDigit (mac4 / 16),
        hexDigit (mac4 % 16), hexDigit (mac5 / 16), hexDigit (mac5 % 16)]).length :=
      (List.length_take_le' _ _).trans (List.takeWhile_prefix _).length_le
    simp only [List.length_append, hbegins, List.length_cons, List.length_nil] at hcut
    omega
  have hunique : ∀ item ∈ CONFIG_ITEMS, ∀ other ∈ CONFIG_ITEMS, item.key = other.key → item = other :=
    fun item hitem other hother hkey => List.inj_on_of_nodup_map config_items_nodup hitem hother hkey
  intro item hitem
  constructor
  · intro hkey mode hmode
    obtain rfl := hunique item hitem (.uint8 KEY_CONFIG_WIFI_AP_AUTH_MODE WIFI_AUTH_OPEN)
      (by simp [CONFIG_ITEMS]) hkey
    cases hmode
    exact hidf.wpaMode_open
  · intro hkey name hstr
    obtain rfl := hunique item hitem (.str KEY_CONFIG_STATION_HOSTNAME "RTK_")
      (by simp [CONFIG_ITEMS]) hkey
    rw [config_item_t.initial, config_item_t.str] at hstr
    simp only [or_true, if_true, NvsValue.str.injEq] at hstr
    rwa [← hstr]
  · intro hkey port hport
    obtain rfl := hunique item hitem (.uint8 KEY_CONFIG_UART_NUM UART_NUM_1)
      (by simp [CONFIG_ITEMS]) hkey
    cases hport
    decide
  · intro hkey bits hbits
    obtain rfl := hunique item hitem (.uint8 KEY_CONFIG_UART_DATA_BITS UART_DATA_8_BITS)
      (by simp [CONFIG_ITEMS]) hkey
    cases hbits
    decide

theorem factoryDefaults_safe (hidf : idf.Documented) (mac4 mac5 : UInt8) :
    SafeConfig idf (factoryDefaults mac4 mac5) := by
  have herased : SafeConfig idf erased := by
    intro key value hstored
    cases hstored
  have hitems : ∀ store, SafeConfig idf store → ∀ item ∈ CONFIG_ITEMS,
      SafeConfig idf (initItem (fun _ => true) (str_buf mac4 mac5) store item) := by
    intro store hsafe item hitem
    unfold initItem
    split
    · exact hsafe.set (initial_safe hidf mac4 mac5 item hitem)
    · exact hsafe
  unfold factoryDefaults nvs_cfg_init
  exact List.foldlRecOn (motive := SafeConfig idf) CONFIG_ITEMS _ herased hitems

/-- In every run in which only safe values are posted, a device that starts
with the factory defaults keeps starting. -/
theorem boot_passes_of_safe_posts (hidf : idf.Documented) {mac4 mac5 : UInt8}
    (hreach : Reach acceptStep (SafePost idf) (factoryDefaults mac4 mac5) store)
    (nvs_set : String → Bool) (cfg_var : config_item_value_t) :
    boot idf (nvs_cfg_init nvs_set mac4 mac5 store) cfg_var = some () := by
  have hinvariant : Reach acceptStep Anywhere (factoryDefaults mac4 mac5) store ∧
      SafeConfig idf store := by
    apply hreach.invariant
    · exact ⟨.refl, factoryDefaults_safe hidf mac4 mac5⟩
    · intro s post s' hs hpost hstep
      exact ⟨.next hs.1 trivial hstep, acceptStep_safe hs.2 hpost hstep⟩
  exact (boot_passes_iff hidf hinvariant.1 nvs_set cfg_var).mpr hinvariant.2.bootable

end

end rtkbase.startup
