import RTKBase.NvsConfig.Update

namespace rtkbase.nvs_config

open lib.cstring lib.numeral

/-- The value that an item of a JSON object gives for a setting of the type. -/
inductive config_item_type_t.Gives : config_item_type_t → cJSON → NvsValue → Prop where
  | str (value : CString) : Gives .TYPE_CFG_ITEM_STR (.cJSON_String value) (.str value)
  | secretStr (value : CString) :
    Gives .TYPE_CFG_ITEM_SECRET_STR (.cJSON_String value) (.str value)
  | bool (value : Bool) :
    Gives .TYPE_CFG_ITEM_BOOL (.cJSON_Bool value) (.u8 (if value then 1 else 0))
  | boolNumber {item : cJSON} {value : UInt8} (hbit : value = 0 ∨ value = 1)
      (hgiven : numberGiven item = some value.toNat) :
    Gives .TYPE_CFG_ITEM_BOOL item (.u8 value)
  | boolWord {text : CString} (value : Bool)
      (hword : strcasecmp text.bytes (ascii (if value then "true" else "false"))) :
    Gives .TYPE_CFG_ITEM_BOOL (.cJSON_String text) (.u8 (if value then 1 else 0))
  | uint8 {item : cJSON} {value : UInt8} (hgiven : numberGiven item = some value.toNat) :
    Gives .TYPE_CFG_ITEM_UINT8 item (.u8 value)
  | uint16 {item : cJSON} {value : UInt16} (hgiven : numberGiven item = some value.toNat) :
    Gives .TYPE_CFG_ITEM_UINT16 item (.u16 value)
  | uint32 {item : cJSON} {value : UInt32} (hgiven : numberGiven item = some value.toNat) :
    Gives .TYPE_CFG_ITEM_UINT32 item (.u32 value)
  | ip {part0 part1 part2 part3 : cJSON} {octet0 octet1 octet2 octet3 : Nat} {value : UInt32}
      (h0 : numberGiven part0 = some octet0) (h1 : numberGiven part1 = some octet1)
      (h2 : numberGiven part2 = some octet2) (h3 : numberGiven part3 = some octet3)
      (hle : octet0 ≤ 255 ∧ octet1 ≤ 255 ∧ octet2 ≤ 255 ∧ octet3 ≤ 255)
      (hvalue : value.toNat = octet0 + octet1 * 256 + octet2 * 65536 + octet3 * 16777216) :
    Gives .TYPE_CFG_ITEM_IP (.cJSON_Array [part0, part1, part2, part3]) (.u32 value)

/-- The numbers in an item, for the types that are numbers. -/
def config_item_type_t.numbers (type : config_item_type_t) (item : cJSON) : List cJSON :=
  match type, item with
  | .TYPE_CFG_ITEM_UINT8, _ | .TYPE_CFG_ITEM_UINT16, _ | .TYPE_CFG_ITEM_UINT32, _ => [item]
  | .TYPE_CFG_ITEM_IP, .cJSON_Array parts => parts
  | _, _ => []

/-- No number in the item is negative. -/
def config_item_type_t.NonNegative (type : config_item_type_t) (item : cJSON) : Prop :=
  ∀ part ∈ type.numbers item, ∀ number, numberGiven part = some number → 0 ≤ number

theorem nonneg_of_given {part : cJSON} {number : ℚ} {value : Nat}
    (hgiven : numberGiven part = some (value : ℚ)) (hnumber : numberGiven part = some number) :
    0 ≤ number := by
  rw [hgiven] at hnumber
  cases hnumber
  exact Nat.cast_nonneg value

/-- No setting has a negative value. -/
theorem config_item_type_t.Gives.nonNegative {type : config_item_type_t} {item : cJSON}
    {value : NvsValue} (hgives : type.Gives item value) : type.NonNegative item := by
  intro part hpart number hnumber
  cases hgives with
  | uint8 hgiven =>
    obtain rfl := List.mem_singleton.mp hpart
    exact nonneg_of_given hgiven hnumber
  | uint16 hgiven =>
    obtain rfl := List.mem_singleton.mp hpart
    exact nonneg_of_given hgiven hnumber
  | uint32 hgiven =>
    obtain rfl := List.mem_singleton.mp hpart
    exact nonneg_of_given hgiven hnumber
  | ip h0 h1 h2 h3 =>
    simp only [config_item_type_t.numbers, List.mem_cons, List.not_mem_nil, or_false] at hpart
    obtain rfl | rfl | rfl | rfl := hpart
    · exact nonneg_of_given h0 hnumber
    · exact nonneg_of_given h1 hnumber
    · exact nonneg_of_given h2 hnumber
    · exact nonneg_of_given h3 hnumber
  | _ => cases hpart

/-- What `json_get_u32_compat` takes is the number given, unless that is
negative. -/
theorem u32_given_of_nonneg {item : cJSON} {max_value value : UInt32}
    (hget : json_get_u32_compat item max_value = some value)
    (hnonneg : ∀ number, numberGiven item = some number → 0 ≤ number) :
    value.toNat ≤ max_value.toNat ∧ numberGiven item = some value.toNat := by
  obtain ⟨hrange, number, hnumber, hvalue | hnegative⟩ := json_get_u32_compat_given hget
  · rw [hnumber, hvalue]
    exact ⟨hrange, rfl⟩
  · exact absurd hnegative (not_lt.mpr (hnonneg number hnumber))

theorem json_get_bool_compat_gives {item : cJSON} {value : UInt8}
    (hget : json_get_bool_compat item = some value) :
    config_item_type_t.TYPE_CFG_ITEM_BOOL.Gives item (.u8 value) := by
  unfold json_get_bool_compat at hget
  split at hget
  case h_1 value =>
    cases hget
    exact .bool value
  case h_2 number =>
    split at hget
    case isTrue hzero =>
      cases hget
      exact .boolNumber (.inl rfl) (by simp [numberGiven, hzero])
    case isFalse =>
      split at hget
      case isTrue hone =>
        cases hget
        exact .boolNumber (.inr rfl) (by simp [numberGiven, hone])
      case isFalse => cases hget
  case h_3 text =>
    split at hget
    case isTrue hfalse =>
      cases hget
      obtain hzero | hword := hfalse
      · refine .boolNumber (.inl rfl) ?_
        have hinteger : integerText (ascii "0") = some 0 := by decide
        simp [numberGiven, hzero, hinteger]
      · exact .boolWord false hword
    case isFalse =>
      split at hget
      case isTrue htrue =>
        cases hget
        obtain hone | hword := htrue
        · refine .boolNumber (.inr rfl) ?_
          have hinteger : integerText (ascii "1") = some 1 := by decide
          simp [numberGiven, hone, hinteger]
        · exact .boolWord true hword
      case isFalse => cases hget
  case h_4 => cases hget

theorem json_get_ip4_array_gives {item : cJSON} {value : UInt32}
    (hget : json_get_ip4_array item = some value)
    (hnonneg : config_item_type_t.TYPE_CFG_ITEM_IP.NonNegative item) :
    config_item_type_t.TYPE_CFG_ITEM_IP.Gives item (.u32 value) := by
  obtain ⟨part0, part1, part2, part3, octet0, octet1, octet2, octet3, rfl, h0, h1, h2, h3, rfl⟩ :=
    json_get_ip4_array_octets hget
  have hparts : ∀ part ∈ [part0, part1, part2, part3], ∀ number,
      numberGiven part = some number → 0 ≤ number := hnonneg
  obtain ⟨hle0, hgiven0⟩ := u32_given_of_nonneg h0 (hparts part0 (by simp))
  obtain ⟨hle1, hgiven1⟩ := u32_given_of_nonneg h1 (hparts part1 (by simp))
  obtain ⟨hle2, hgiven2⟩ := u32_given_of_nonneg h2 (hparts part2 (by simp))
  obtain ⟨hle3, hgiven3⟩ := u32_given_of_nonneg h3 (hparts part3 (by simp))
  exact .ip hgiven0 hgiven1 hgiven2 hgiven3 ⟨hle0, hle1, hle2, hle3⟩
    (ip4_addr_toNat hle0 hle1 hle2 hle3)

/-- What `cfg_json_to_nvs` takes from an item is the value it gives, unless a
number in it is negative. -/
theorem config_item_type_t.gives_of_parse {type : config_item_type_t} {item : cJSON}
    {value : NvsValue} (hparse : type.parse item = .value value)
    (hnonneg : type.NonNegative item) : type.Gives item value := by
  cases type with
  | TYPE_CFG_ITEM_BOOL =>
    obtain ⟨value, hget, rfl⟩ := ParsedItem.ofOption_map_eq_value hparse
    exact json_get_bool_compat_gives hget
  | TYPE_CFG_ITEM_UINT8 =>
    obtain ⟨value, hget, rfl⟩ := ParsedItem.ofOption_map_eq_value hparse
    obtain ⟨hle, hgiven⟩ := u32_given_of_nonneg hget (hnonneg item List.mem_cons_self)
    have hmax : UInt32.toNat 255 = 255 := rfl
    refine .uint8 ?_
    rw [hgiven, UInt32.toNat_toUInt8, Nat.mod_eq_of_lt (by omega)]
  | TYPE_CFG_ITEM_UINT16 =>
    obtain ⟨value, hget, rfl⟩ := ParsedItem.ofOption_map_eq_value hparse
    obtain ⟨hle, hgiven⟩ := u32_given_of_nonneg hget (hnonneg item List.mem_cons_self)
    have hmax : UInt32.toNat 65535 = 65535 := rfl
    refine .uint16 ?_
    rw [hgiven, UInt32.toNat_toUInt16, Nat.mod_eq_of_lt (by omega)]
  | TYPE_CFG_ITEM_UINT32 =>
    obtain ⟨value, hget, rfl⟩ := ParsedItem.ofOption_map_eq_value hparse
    exact .uint32 (u32_given_of_nonneg hget (hnonneg item List.mem_cons_self)).2
  | TYPE_CFG_ITEM_STR =>
    simp only [config_item_type_t.parse] at hparse
    split at hparse
    case h_1 text =>
      cases hparse
      exact .str text
    case h_2 => cases hparse
  | TYPE_CFG_ITEM_SECRET_STR =>
    simp only [config_item_type_t.parse] at hparse
    split at hparse
    case h_1 text =>
      split at hparse
      case isTrue => cases hparse
      case isFalse =>
        cases hparse
        exact .secretStr text
    case h_2 => cases hparse
  | TYPE_CFG_ITEM_IP =>
    obtain ⟨value, hget, rfl⟩ := ParsedItem.ofOption_map_eq_value hparse
    exact json_get_ip4_array_gives hget hnonneg

theorem config_item_type_t.parse_eq_unchanged {type : config_item_type_t} {item : cJSON}
    (hparse : type.parse item = .unchanged) :
    type = .TYPE_CFG_ITEM_SECRET_STR ∧ item = .cJSON_String CFG_VALUE_UNCHANGED := by
  have hoption : ∀ parsed, ParsedItem.ofOption parsed ≠ .unchanged := by
    intro parsed
    cases parsed <;> simp [ParsedItem.ofOption]
  cases type with
  | TYPE_CFG_ITEM_STR =>
    simp only [config_item_type_t.parse] at hparse
    split at hparse <;> cases hparse
  | TYPE_CFG_ITEM_SECRET_STR =>
    simp only [config_item_type_t.parse] at hparse
    split at hparse
    case h_1 text =>
      split at hparse
      case isTrue hunchanged => exact ⟨rfl, by rw [hunchanged]⟩
      case isFalse => cases hparse
    case h_2 => cases hparse
  | _ => exact absurd hparse (hoption _)

end rtkbase.nvs_config
