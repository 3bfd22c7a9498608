import RTKBase.Lib.Lts
import RTKBase.NvsConfig.Update

namespace rtkbase.nvs_config

open lib.cstring lib.lts

def hexDigit (n : UInt8) : UInt8 := if n < 10 then 48 + n else 55 + n

/-- `sprintf(str_buf, "RTKBase_%02X%02X", …)` on the last two bytes of the MAC
address. -/
def str_buf (mac4 mac5 : UInt8) : CString :=
  strlcpy 4294967294 (ascii "RTKBase_" ++
    [hexDigit (mac4 / 16), hexDigit (mac4 % 16), hexDigit (mac5 / 16), hexDigit (mac5 % 16)])

/-- Whether the value stored for an item is one that its type reads. -/
def config_item_t.isStored (store : Nvs) (item : config_item_t) : Bool :=
  match item.type with
  | .TYPE_CFG_ITEM_UINT8 | .TYPE_CFG_ITEM_BOOL => (cfg_get_u8 store item.key).isSome
  | .TYPE_CFG_ITEM_UINT16 => (cfg_get_u16 store item.key).isSome
  | .TYPE_CFG_ITEM_UINT32 | .TYPE_CFG_ITEM_IP => (cfg_get_u32 store item.key).isSome
  | .TYPE_CFG_ITEM_STR | .TYPE_CFG_ITEM_SECRET_STR => (cfg_get_str store item.key).isSome

/-- What `nvs_cfg_init` writes for an item: the default, or the generated name. -/
def config_item_t.initial (name : CString) (item : config_item_t) : NvsValue :=
  match item.type with
  | .TYPE_CFG_ITEM_STR | .TYPE_CFG_ITEM_SECRET_STR =>
    if item.key = KEY_CONFIG_WIFI_AP_SSID ∨ item.key = KEY_CONFIG_STATION_HOSTNAME then .str name
    else item.default
  | _ => item.default

/-- One turn of the loop. That `nvs_set_*` fails goes unnoticed. -/
def initItem (nvs_set : String → Bool) (name : CString) (store : Nvs) (item : config_item_t) :
    Nvs :=
  if item.isStored store = false ∧ nvs_set item.key = true then
    store.set item.key (item.initial name)
  else store

def nvs_cfg_init (nvs_set : String → Bool) (mac4 mac5 : UInt8) (store : Nvs) : Nvs :=
  CONFIG_ITEMS.foldl (initItem nvs_set (str_buf mac4 mac5)) store

/-- What is stored for a setting is a value of its type. -/
def Typed (store : Nvs) : Prop :=
  ∀ item ∈ CONFIG_ITEMS, ∀ value, store item.key = some value → item.type.Holds value

theorem Typed.set {store : Nvs} {item : config_item_t} {value : NvsValue} (htyped : Typed store)
    (hitem : item ∈ CONFIG_ITEMS) (hholds : item.type.Holds value) :
    Typed (store.set item.key value) := by
  intro other hother stored hstored
  by_cases hkey : other.key = item.key
  · obtain rfl := List.inj_on_of_nodup_map config_items_nodup hother hitem hkey
    simp only [Nvs.set, Function.update_self, Option.some.injEq] at hstored
    rwa [← hstored]
  · rw [Nvs.set, Function.update_of_ne hkey] at hstored
    exact htyped other hother stored hstored

theorem config_item_t.initial_holds (name : CString) (item : config_item_t) :
    item.type.Holds (item.initial name) := by
  have htyped := item.typed
  unfold config_item_t.initial
  split
  case h_1 htype =>
    split
    · rw [htype]
      trivial
    · exact htyped
  case h_2 htype =>
    split
    · rw [htype]
      trivial
    · exact htyped
  case h_3 => exact htyped

theorem initItem_typed {nvs_set : String → Bool} {name : CString} {store : Nvs}
    {item : config_item_t} (hitem : item ∈ CONFIG_ITEMS) (htyped : Typed store) :
    Typed (initItem nvs_set name store item) := by
  unfold initItem
  split
  · exact htyped.set hitem (item.initial_holds name)
  · exact htyped

theorem nvs_cfg_init_typed (nvs_set : String → Bool) (mac4 mac5 : UInt8) {store : Nvs}
    (htyped : Typed store) : Typed (nvs_cfg_init nvs_set mac4 mac5 store) :=
  List.foldlRecOn CONFIG_ITEMS _ htyped fun _ hbefore _ hitem => initItem_typed hitem hbefore

theorem json_get_bool_compat_bit {item : cJSON} {value : UInt8}
    (hget : json_get_bool_compat item = some value) : value = 0 ∨ value = 1 := by
  unfold json_get_bool_compat at hget
  split at hget
  case h_1 value =>
    cases hget
    cases value <;> simp
  case h_2 =>
    split at hget
    · cases hget
      exact .inl rfl
    · split at hget <;> cases hget
      exact .inr rfl
  case h_3 =>
    split at hget
    · cases hget
      exact .inl rfl
    · split at hget <;> cases hget
      exact .inr rfl
  case h_4 => cases hget

/-- What `cfg_json_to_nvs` takes from an item is a value of its type. -/
theorem config_item_type_t.parse_holds {type : config_item_type_t} {item : cJSON}
    {value : NvsValue} (hparse : type.parse item = .value value) : type.Holds value := by
  cases type with
  | TYPE_CFG_ITEM_BOOL =>
    obtain ⟨bit, hget, rfl⟩ := ParsedItem.ofOption_map_eq_value hparse
    exact json_get_bool_compat_bit hget
  | TYPE_CFG_ITEM_STR =>
    simp only [config_item_type_t.parse] at hparse
    split at hparse <;> cases hparse
    trivial
  | TYPE_CFG_ITEM_SECRET_STR =>
    simp only [config_item_type_t.parse] at hparse
    split at hparse
    case h_1 => split at hparse <;> cases hparse; trivial
    case h_2 => cases hparse
  | _ =>
    obtain ⟨number, _, rfl⟩ := ParsedItem.ofOption_map_eq_value hparse
    trivial

theorem saveItem_typed {results : NvsResults} {root : Option cJSON} {state : Nvs × Bool}
    {item : config_item_t} (hitem : item ∈ CONFIG_ITEMS) (htyped : Typed state.1) :
    Typed (saveItem results root state item).1 := by
  unfold saveItem
  split
  case h_1 => exact htyped
  case h_2 json hjson =>
    split
    case h_1 => exact htyped
    case h_2 => exact htyped
    case h_3 value hparse =>
      split
      case isTrue => exact htyped.set hitem (config_item_type_t.parse_holds hparse)
      case isFalse => exact htyped

theorem cfg_json_to_nvs_typed (results : NvsResults) (root : Option cJSON) {store : Nvs}
    (htyped : Typed store) : Typed (cfg_json_to_nvs results store root).1 := by
  have hsaved : Typed (CONFIG_ITEMS.foldl (saveItem results root) (store, false)).1 :=
    List.foldlRecOn (motive := fun state : Nvs × Bool => Typed state.1) CONFIG_ITEMS _ htyped
      fun _ hbefore _ hitem => saveItem_typed hitem hbefore
  unfold cfg_json_to_nvs
  dsimp only
  split
  · exact hsaved
  · split <;> exact hsaved

/-- What happens to the configuration: a boot, a form that is posted, a factory
reset. -/
inductive ConfigAction where
  | nvs_cfg_init (nvs_set : String → Bool) (mac4 mac5 : UInt8)
  | cfg_json_to_nvs (results : NvsResults) (root : Option cJSON)
  | cfg_reset_restart

def configStep (store : Nvs) : ConfigAction → Option Nvs
  | .nvs_cfg_init nvs_set mac4 mac5 => some (nvs_config.nvs_cfg_init nvs_set mac4 mac5 store)
  | .cfg_json_to_nvs results root => some (nvs_config.cfg_json_to_nvs results store root).1
  | .cfg_reset_restart => some erased

theorem erased_typed : Typed erased := by
  intro item _ value hstored
  simp [erased] at hstored

/-- In every run from erased flash, whatever is stored for a setting is a value
of its type. -/
theorem config_typed {store : Nvs} (hreach : Reach configStep Anywhere erased store) :
    Typed store := by
  apply hreach.invariant erased_typed
  intro s a s' htyped _ hstep
  cases a with
  | nvs_cfg_init nvs_set mac4 mac5 =>
    obtain rfl := Option.some.inj hstep
    exact nvs_cfg_init_typed nvs_set mac4 mac5 htyped
  | cfg_json_to_nvs results root =>
    obtain rfl := Option.some.inj hstep
    exact cfg_json_to_nvs_typed results root htyped
  | cfg_reset_restart =>
    obtain rfl := Option.some.inj hstep
    exact erased_typed

/-- A later item leaves the items before it stored. -/
theorem initItem_keeps {nvs_set : String → Bool} {name : CString} {store : Nvs} {key : String}
    (item : config_item_t) (hstored : (store key).isSome) :
    (initItem nvs_set name store item key).isSome := by
  unfold initItem
  split
  · by_cases hkey : key = item.key
    · subst hkey
      simp [Nvs.set]
    · rwa [Nvs.set, Function.update_of_ne hkey]
  · exact hstored

theorem isStored_isSome {store : Nvs} {item : config_item_t}
    (hstored : item.isStored store = true) : (store item.key).isSome := by
  unfold config_item_t.isStored cfg_get_u8 cfg_get_u16 cfg_get_u32 cfg_get_str at hstored
  cases hnone : store item.key with
  | none => cases htype : item.type <;> simp [hnone, htype] at hstored
  | some value => rfl

theorem initItem_stores {nvs_set : String → Bool} {name : CString} {store : Nvs}
    {item : config_item_t} (hset : nvs_set item.key = true) :
    (initItem nvs_set name store item item.key).isSome := by
  unfold initItem
  split
  case isTrue => simp [Nvs.set]
  case isFalse hstored =>
    apply isStored_isSome
    simpa [hset] using hstored

theorem init_items_store {nvs_set : String → Bool} {name : CString}
    (hset : ∀ key, nvs_set key = true) {items : List config_item_t} {item : config_item_t}
    (hitem : item ∈ items) (store : Nvs) :
    (items.foldl (initItem nvs_set name) store item.key).isSome := by
  induction items generalizing store with
  | nil => cases hitem
  | cons first rest ih =>
    cases hitem with
    | head =>
      exact List.foldlRecOn (motive := fun store : Nvs => (store item.key).isSome) rest _
        (initItem_stores (hset item.key)) fun _ hbefore other _ => initItem_keeps other hbefore
    | tail _ hitem => exact ih hitem _

/-- Every setting has a value of its type. -/
def Complete (store : Nvs) : Prop :=
  ∀ item ∈ CONFIG_ITEMS, ∃ value, store item.key = some value ∧ item.type.Holds value

/-- After a boot whose calls to NVS succeed, whatever was posted before, the
configuration is complete. -/
theorem nvs_cfg_init_complete {nvs_set : String → Bool} (mac4 mac5 : UInt8) {store : Nvs}
    (hset : ∀ key, nvs_set key = true) (hreach : Reach configStep Anywhere erased store) :
    Complete (nvs_cfg_init nvs_set mac4 mac5 store) := by
  intro item hitem
  have hstored : (nvs_cfg_init nvs_set mac4 mac5 store item.key).isSome :=
    init_items_store hset hitem store
  obtain ⟨value, hvalue⟩ := Option.isSome_iff_exists.mp hstored
  exact ⟨value, hvalue, nvs_cfg_init_typed nvs_set mac4 mac5 (config_typed hreach) item hitem value
    hvalue⟩

end rtkbase.nvs_config
