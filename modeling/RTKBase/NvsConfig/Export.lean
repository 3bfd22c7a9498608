import RTKBase.NvsConfig.Defaults

namespace rtkbase.nvs_config

open lib lib.cstring

/-- The union of the values of an item: a narrow value is in its lowest bytes,
and the other bytes stay as they are when it is written. -/
structure config_item_value_t where
  word : UInt32

namespace config_item_value_t

def enabled (v : config_item_value_t) : Bool := v.word.toUInt8 != 0
def uint8 (v : config_item_value_t) : UInt8 := v.word.toUInt8
def uint16 (v : config_item_value_t) : UInt16 := v.word.toUInt16
def uint32 (v : config_item_value_t) : UInt32 := v.word

/-- `nvs_get_u8` into the union, which a failure leaves as it is. -/
def nvs_get_u8 (v : config_item_value_t) (store : Nvs) (key : String) : config_item_value_t :=
  match cfg_get_u8 store key with
  | some value => ⟨v.word &&& 0xFFFFFF00 ||| value.toUInt32⟩
  | none => v

def nvs_get_u16 (v : config_item_value_t) (store : Nvs) (key : String) : config_item_value_t :=
  match cfg_get_u16 store key with
  | some value => ⟨v.word &&& 0xFFFF0000 ||| value.toUInt32⟩
  | none => v

def nvs_get_u32 (v : config_item_value_t) (store : Nvs) (key : String) : config_item_value_t :=
  match cfg_get_u32 store key with
  | some value => ⟨value⟩
  | none => v

theorem nvs_get_u8_uint8 (v : config_item_value_t) {store : Nvs} {key : String} {value : UInt8}
    (hvalue : cfg_get_u8 store key = some value) : (v.nvs_get_u8 store key).uint8 = value := by
  have hlow : UInt32.toUInt8 0xFFFFFF00 = 0 := rfl
  simp only [uint8, nvs_get_u8, hvalue]
  rw [UInt32.toUInt8_or, UInt32.toUInt8_and, hlow, UInt8.toUInt8_toUInt32]
  simp

theorem nvs_get_u16_uint16 (v : config_item_value_t) {store : Nvs} {key : String} {value : UInt16}
    (hvalue : cfg_get_u16 store key = some value) : (v.nvs_get_u16 store key).uint16 = value := by
  have hlow : UInt32.toUInt16 0xFFFF0000 = 0 := rfl
  simp only [uint16, nvs_get_u16, hvalue]
  rw [UInt32.toUInt16_or, UInt32.toUInt16_and, hlow, UInt16.toUInt16_toUInt32]
  simp

theorem nvs_get_u32_uint32 (v : config_item_value_t) {store : Nvs} {key : String} {value : UInt32}
    (hvalue : cfg_get_u32 store key = some value) : (v.nvs_get_u32 store key).uint32 = value := by
  simp only [uint32, nvs_get_u32, hvalue]

end config_item_value_t

/-- The variables of `cfg_to_json`: the union `cfg_value`, the address `ip` from
when one has been read, and the members of the object so far. -/
structure CfgExport where
  cfg_value : config_item_value_t
  ip : Option UInt32
  root : List (CString × cJSON)

def CfgExport.nvsGetIp (s : CfgExport) (store : Nvs) (key : String) : CfgExport :=
  match cfg_get_u32 store key with
  | some addr => { s with ip := some addr }
  | none => s

/-- `cJSON_Add…ToObject`: a new last member. -/
def CfgExport.add (s : CfgExport) (key : String) (item : cJSON) : CfgExport :=
  { s with root := s.root ++ [(literal key, item)] }

@[simp]
theorem CfgExport.add_root (s : CfgExport) (key : String) (item : cJSON) :
    (s.add key item).root = s.root ++ [(literal key, item)] := rfl

def jsonNumber (n : Nat) : cJSON := .cJSON_Number (.finite n)

def esp_ip4_addr_get_byte (ip : UInt32) (b : UInt32) : UInt8 := (ip >>> (b * 8)).toUInt8

def jsonIp4Array (ip : UInt32) : cJSON :=
  .cJSON_Array [jsonNumber (esp_ip4_addr_get_byte ip 0).toNat,
    jsonNumber (esp_ip4_addr_get_byte ip 1).toNat,
    jsonNumber (esp_ip4_addr_get_byte ip 2).toNat,
    jsonNumber (esp_ip4_addr_get_byte ip 3).toNat]

/-- One turn of the loop of `cfg_to_json`. A string or an address that could
not be read would be memory never written: `none`. -/
def exportItem (store : Nvs) (s : CfgExport) (item : config_item_t) : Option CfgExport :=
  match item.type with
  | .TYPE_CFG_ITEM_SECRET_STR => some (s.add item.key (.cJSON_String CFG_VALUE_UNCHANGED))
  | .TYPE_CFG_ITEM_STR =>
    (cfg_get_str store item.key).map fun str => s.add item.key (.cJSON_String str)
  | .TYPE_CFG_ITEM_IP =>
    let s := s.nvsGetIp store item.key
    s.ip.map fun ip => s.add item.key (jsonIp4Array ip)
  | .TYPE_CFG_ITEM_BOOL =>
    let cfg_value := s.cfg_value.nvs_get_u8 store item.key
    some ({ s with cfg_value := cfg_value }.add item.key (.cJSON_Bool cfg_value.enabled))
  | .TYPE_CFG_ITEM_UINT8 =>
    let cfg_value := s.cfg_value.nvs_get_u8 store item.key
    some ({ s with cfg_value := cfg_value }.add item.key (jsonNumber cfg_value.uint8.toNat))
  | .TYPE_CFG_ITEM_UINT16 =>
    let cfg_value := s.cfg_value.nvs_get_u16 store item.key
    some ({ s with cfg_value := cfg_value }.add item.key (jsonNumber cfg_value.uint16.toNat))
  | .TYPE_CFG_ITEM_UINT32 =>
    let cfg_value := s.cfg_value.nvs_get_u32 store item.key
    some ({ s with cfg_value := cfg_value }.add item.key (jsonNumber cfg_value.uint32.toNat))

/-- The members of the object afterwards. -/
def cfg_to_json (store : Nvs) (root : List (CString × cJSON)) :
    Option (List (CString × cJSON)) :=
  (CONFIG_ITEMS.foldlM (exportItem store) ⟨⟨0⟩, none, root⟩).map (·.root)

/-- What the web interface is given for a stored value. -/
def config_item_type_t.render (type : config_item_type_t) (value : NvsValue) : cJSON :=
  match type, value with
  | .TYPE_CFG_ITEM_SECRET_STR, _ => .cJSON_String CFG_VALUE_UNCHANGED
  | .TYPE_CFG_ITEM_BOOL, .u8 value => .cJSON_Bool (value != 0)
  | .TYPE_CFG_ITEM_IP, .u32 value => jsonIp4Array value
  | _, .u8 value => jsonNumber value.toNat
  | _, .u16 value => jsonNumber value.toNat
  | _, .u32 value => jsonNumber value.toNat
  | _, .str value => .cJSON_String value

/-- The member that an item with a value becomes. -/
def config_item_t.member (store : Nvs) (item : config_item_t) : CString × cJSON :=
  (literal item.key, ((store item.key).map item.type.render).getD .cJSON_NULL)

/-- A stored item of its type is added as the web interface is given it. -/
theorem exportItem_spec {store : Nvs} {item : config_item_t} {value : NvsValue}
    (hvalue : store item.key = some value) (hholds : item.type.Holds value) (s : CfgExport) :
    ∃ s', exportItem store s item = some s' ∧ s'.root = s.root ++ [item.member store] := by
  have hmember : item.member store = (literal item.key, item.type.render value) := by
    simp [config_item_t.member, hvalue]
  rw [hmember]
  unfold exportItem
  cases htype : item.type with
  | TYPE_CFG_ITEM_BOOL =>
    cases value with
    | u8 value =>
      have hread := s.cfg_value.nvs_get_u8_uint8 (show cfg_get_u8 store item.key = some value by
        simp [cfg_get_u8, hvalue])
      refine ⟨_, rfl, ?_⟩
      rw [CfgExport.add_root, config_item_value_t.enabled, ← config_item_value_t.uint8, hread]
      rfl
    | _ => simp [htype, config_item_type_t.Holds] at hholds
  | TYPE_CFG_ITEM_UINT8 =>
    cases value with
    | u8 value =>
      have hread := s.cfg_value.nvs_get_u8_uint8 (show cfg_get_u8 store item.key = some value by
        simp [cfg_get_u8, hvalue])
      refine ⟨_, rfl, ?_⟩
      rw [CfgExport.add_root, hread]
      rfl
    | _ => simp [htype, config_item_type_t.Holds] at hholds
  | TYPE_CFG_ITEM_UINT16 =>
    cases value with
    | u16 value =>
      have hread := s.cfg_value.nvs_get_u16_uint16 (show cfg_get_u16 store item.key = some value by
        simp [cfg_get_u16, hvalue])
      refine ⟨_, rfl, ?_⟩
      rw [CfgExport.add_root, hread]
      rfl
    | _ => simp [htype, config_item_type_t.Holds] at hholds
  | TYPE_CFG_ITEM_UINT32 =>
    cases value with
    | u32 value =>
      have hread := s.cfg_value.nvs_get_u32_uint32 (show cfg_get_u32 store item.key = some value by
        simp [cfg_get_u32, hvalue])
      refine ⟨_, rfl, ?_⟩
      rw [CfgExport.add_root, hread]
      rfl
    | _ => simp [htype, config_item_type_t.Holds] at hholds
  | TYPE_CFG_ITEM_STR =>
    cases value with
    | str value =>
      have hread : cfg_get_str store item.key = some value := by simp [cfg_get_str, hvalue]
      refine ⟨s.add item.key (.cJSON_String value), ?_, rfl⟩
      simp only [hread, Option.map_some]
    | _ => simp [htype, config_item_type_t.Holds] at hholds
  | TYPE_CFG_ITEM_SECRET_STR => exact ⟨_, rfl, rfl⟩
  | TYPE_CFG_ITEM_IP =>
    cases value with
    | u32 value =>
      have hread : s.nvsGetIp store item.key = { s with ip := some value } := by
        simp [CfgExport.nvsGetIp, cfg_get_u32, hvalue]
      refine ⟨CfgExport.add { s with ip := some value } item.key (jsonIp4Array value), ?_, rfl⟩
      simp only [hread, Option.map_some]
    | _ => simp [htype, config_item_type_t.Holds] at hholds

/-- A complete configuration is given to the web interface item by item. -/
theorem cfg_to_json_of_complete {store : Nvs} (hcomplete : Complete store)
    (root : List (CString × cJSON)) :
    cfg_to_json store root = some (root ++ CONFIG_ITEMS.map (·.member store)) := by
  have hloop : ∀ (items : List config_item_t) (s : CfgExport), (∀ item ∈ items, item ∈ CONFIG_ITEMS) →
      ∃ s', items.foldlM (exportItem store) s = some s' ∧
        s'.root = s.root ++ items.map (·.member store) := by
    intro items
    induction items with
    | nil => exact fun s _ => ⟨s, rfl, by simp⟩
    | cons item rest ih =>
      intro s hitems
      obtain ⟨value, hvalue, hholds⟩ := hcomplete item (hitems item List.mem_cons_self)
      obtain ⟨s₁, hitem, hroot₁⟩ := exportItem_spec hvalue hholds s
      obtain ⟨s', hrest, hroot⟩ := ih s₁ fun other hother => hitems other (List.mem_cons_of_mem _ hother)
      refine ⟨s', by simpa [hitem] using hrest, ?_⟩
      rw [hroot, hroot₁]
      simp
  obtain ⟨s', hfold, hroot⟩ := hloop CONFIG_ITEMS ⟨⟨0⟩, none, root⟩ fun _ hitem => hitem
  simp [cfg_to_json, hfold, hroot]

/-- A number in range is read back. -/
theorem json_get_u32_compat_number {max_value value : UInt32} (hle : value.toNat ≤ max_value.toNat) :
    json_get_u32_compat (jsonNumber value.toNat) max_value = some value := by
  have hrange : ¬ ((value.toNat : ℚ) < 0 ∨ (value.toNat : ℚ) > max_value.toNat) := by
    rw [not_or, not_lt, not_lt, Nat.cast_le]
    exact ⟨Nat.cast_nonneg _, hle⟩
  have hfloor : (value.toNat : ℚ).floor = value.toNat :=
    Int.floor_natCast (R := ℚ) value.toNat
  simp only [json_get_u32_compat, jsonNumber]
  rw [if_neg hrange, hfloor, if_neg (by simp)]
  simp

theorem esp_ip4_addr_get_byte_toNat (ip : UInt32) {b : UInt32} (hb : b.toNat < 4) :
    (esp_ip4_addr_get_byte ip b).toNat = ip.toNat / 256 ^ b.toNat % 256 := by
  have hbits : (b * 8).toNat % 32 = 8 * b.toNat := by
    have height : UInt32.toNat 8 = 8 := rfl
    rw [UInt32.toNat_mul, height]
    omega
  rw [esp_ip4_addr_get_byte, UInt32.toNat_toUInt8, UInt32.toNat_shiftRight, hbits,
    Nat.shiftRight_eq_div_pow, Nat.pow_mul]

/-- The octets of an address make the address again. -/
theorem json_get_ip4_array_octets_of (ip : UInt32) :
    json_get_ip4_array (jsonIp4Array ip) = some ip := by
  have hoctet : ∀ octet : UInt8,
      json_get_u32_compat (jsonNumber octet.toNat) 255 = some octet.toUInt32 := by
    intro octet
    have hlt := octet.toNat_lt
    have hmax : UInt32.toNat 255 = 255 := rfl
    rw [← UInt8.toNat_toUInt32]
    apply json_get_u32_compat_number
    rw [UInt8.toNat_toUInt32]
    omega
  have hle : ∀ octet : UInt8, octet.toUInt32.toNat ≤ 255 := by
    intro octet
    have hlt := octet.toNat_lt
    rw [UInt8.toNat_toUInt32]
    omega
  simp only [json_get_ip4_array, jsonIp4Array, hoctet, Option.bind_eq_bind, Option.bind_some,
    Option.pure_def, Option.some.injEq]
  rw [← UInt32.toNat_inj, ip4_addr_toNat (hle _) (hle _) (hle _) (hle _)]
  simp only [UInt8.toNat_toUInt32]
  have h0 := esp_ip4_addr_get_byte_toNat ip (b := 0) (by decide)
  have h1 := esp_ip4_addr_get_byte_toNat ip (b := 1) (by decide)
  have h2 := esp_ip4_addr_get_byte_toNat ip (b := 2) (by decide)
  have h3 := esp_ip4_addr_get_byte_toNat ip (b := 3) (by decide)
  have hlt := ip.toNat_lt
  have hone : UInt32.toNat 1 = 1 := rfl
  have htwo : UInt32.toNat 2 = 2 := rfl
  have hthree : UInt32.toNat 3 = 3 := rfl
  simp only [UInt32.toNat_zero, hone, htwo, hthree] at h0 h1 h2 h3
  omega

end rtkbase.nvs_config
