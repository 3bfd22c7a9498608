import RTKBase.NvsConfig.Update

namespace rtkbase.nvs_config

open lib lib.cstring lib.numeral

/-- The text is a decimal numeral for the number, behind white space and a plus sign
if it likes. -/
def Numeral (text : List UInt8) (number : Nat) : Prop :=
  ∃ digits, (Written [] digits text ∨ Written [43] digits text) ∧ decimal digits = number

/-- The text is a numeral with a minus sign, and its negation in 32 bits is small
enough. -/
def TakenNegative (text : List UInt8) (max_value : UInt32) : Prop :=
  ∃ digits, Written [45] digits text ∧ decimal digits < 4294967296 ∧
    0 - UInt32.ofNat (decimal digits) ≤ max_value

/-- A number up to a bound that a value takes from a string in an item. -/
inductive config_item_type_t.Takes :
    config_item_type_t → cJSON → NvsValue → CString → UInt32 → Nat → Prop where
  | uint8 (text : CString) (value : UInt8) :
    Takes .TYPE_CFG_ITEM_UINT8 (.cJSON_String text) (.u8 value) text 255 value.toNat
  | uint16 (text : CString) (value : UInt16) :
    Takes .TYPE_CFG_ITEM_UINT16 (.cJSON_String text) (.u16 value) text 65535 value.toNat
  | uint32 (text : CString) (value : UInt32) :
    Takes .TYPE_CFG_ITEM_UINT32 (.cJSON_String text) (.u32 value) text 4294967295 value.toNat
  | ip {parts : List cJSON} {b : Nat} {text : CString} (hpart : parts[b]? = some (.cJSON_String text))
      (value : UInt32) :
    Takes .TYPE_CFG_ITEM_IP (.cJSON_Array parts) (.u32 value) text 255 (value.toNat / 256 ^ b % 256)

/-- Wherever a string is taken for a number up to a bound, it is the numeral of that
number. -/
structure TakenAsTyped (results : NvsResults) (store : Nvs) (root : Option cJSON) (text : CString)
    (max_value : UInt32) : Prop where
  json_get_u32_compat : ∀ value, json_get_u32_compat (.cJSON_String text) max_value = some value →
    value.toNat ≤ max_value.toNat ∧ Numeral text.bytes value.toNat
  json_get_ip4_array : max_value = 255 → ∀ parts value b,
    json_get_ip4_array (.cJSON_Array parts) = some value → parts[b]? = some (.cJSON_String text) →
      Numeral text.bytes (value.toNat / 256 ^ b % 256)
  cfg_json_to_nvs : ∀ item ∈ CONFIG_ITEMS, ∀ json value,
    cJSON_GetObjectItem root item.key = some json →
    itemOutcome results root item = .write value →
      (cfg_json_to_nvs results store root).1 item.key = some value ∧
      ∀ number, item.type.Takes json value text max_value number → Numeral text.bytes number

section

variable {text : CString} {max_value value : UInt32}

/-- What `json_get_u32_compat` takes from a string is typed, unless a minus sign is. -/
theorem json_get_u32_compat_typed
    (hget : json_get_u32_compat (.cJSON_String text) max_value = some value) :
    value.toNat ≤ max_value.toNat ∧
      (Numeral text.bytes value.toNat ∨ TakenNegative text.bytes max_value) := by
  unfold json_get_u32_compat at hget
  dsimp only at hget
  split at hget
  case isTrue => cases hget
  case isFalse htext =>
    split at hget
    case isTrue => cases hget
    case isFalse hwhole =>
      cases hget
      simp only [not_or, Bool.not_eq_true, not_not, UInt32.not_lt] at hwhole
      obtain ⟨herange, _, hend, hrange⟩ := hwhole
      refine ⟨UInt32.le_iff_toNat_le.mp hrange, ?_⟩
      obtain ⟨digits, hdigits, ⟨hwritten, hvalue⟩ | hminus⟩ := strtoul_written htext herange hend
      · exact .inl ⟨digits, hwritten, hvalue.symm⟩
      · rw [strtoul_minus hminus hdigits] at hrange
        exact .inr ⟨digits, hminus, hdigits, hrange⟩

/-- And where one is, the string is taken for a number that nobody typed. -/
theorem json_get_u32_compat_of_negative (hnegative : TakenNegative text.bytes max_value) :
    ∃ value, json_get_u32_compat (.cJSON_String text) max_value = some value ∧
      ∀ number, ¬ Numeral text.bytes number := by
  obtain ⟨digits, hminus, hdigits, hrange⟩ := hnegative
  have hstrtoul := strtoul_minus hminus hdigits
  have htext : text.bytes ≠ [] := by
    intro hnone
    have hbehind := hminus.behind_space (.inr (.inr rfl))
    rw [hnone] at hbehind
    cases hbehind
  refine ⟨0 - UInt32.ofNat (decimal digits), ?_, fun number htyped => ?_⟩
  · unfold json_get_u32_compat
    dsimp only
    rw [if_neg htext, hstrtoul, if_neg]
    simp only [Bool.false_eq_true, false_or, not_or, not_not, UInt32.not_lt]
    exact ⟨fun hend => htext hend.symm, trivial, hrange⟩
  · obtain ⟨typed, hwritten | hwritten, _⟩ := htyped
    · exact hwritten.no_minus (.inl rfl) hminus
    · exact hwritten.no_minus (.inr rfl) hminus

/-- The octet of an array that a string gives. -/
theorem json_get_ip4_array_octet {parts : List cJSON} {b : Nat}
    (hget : json_get_ip4_array (.cJSON_Array parts) = some value)
    (hpart : parts[b]? = some (.cJSON_String text)) :
    ∃ octet, json_get_u32_compat (.cJSON_String text) 255 = some octet ∧
      value.toNat / 256 ^ b % 256 = octet.toNat := by
  obtain ⟨part0, part1, part2, part3, octet0, octet1, octet2, octet3, hitem, h0, h1, h2, h3, rfl⟩ :=
    json_get_ip4_array_octets hget
  cases hitem
  have hle : ∀ part octet, json_get_u32_compat part 255 = some octet → octet.toNat ≤ 255 :=
    fun part octet hoctet => (json_get_u32_compat_given hoctet).1
  have hle0 := hle part0 octet0 h0
  have hle1 := hle part1 octet1 h1
  have hle2 := hle part2 octet2 h2
  have hle3 := hle part3 octet3 h3
  rw [ip4_addr_toNat hle0 hle1 hle2 hle3]
  match b, hpart with
  | 0, hpart =>
    cases hpart
    exact ⟨octet0, h0, by omega⟩
  | 1, hpart =>
    cases hpart
    exact ⟨octet1, h1, by omega⟩
  | 2, hpart =>
    cases hpart
    exact ⟨octet2, h2, by omega⟩
  | 3, hpart =>
    cases hpart
    exact ⟨octet3, h3, by omega⟩

theorem json_get_u32_compat_exact (hnonnegative : ¬ TakenNegative text.bytes max_value)
    (hget : json_get_u32_compat (.cJSON_String text) max_value = some value) :
    value.toNat ≤ max_value.toNat ∧ Numeral text.bytes value.toNat := by
  obtain ⟨hle, htaken⟩ := json_get_u32_compat_typed hget
  exact ⟨hle, htaken.resolve_right hnonnegative⟩

theorem json_get_ip4_array_exact {parts : List cJSON} {b : Nat}
    (hnonnegative : ¬ TakenNegative text.bytes 255)
    (hget : json_get_ip4_array (.cJSON_Array parts) = some value)
    (hpart : parts[b]? = some (.cJSON_String text)) :
    Numeral text.bytes (value.toNat / 256 ^ b % 256) := by
  obtain ⟨octet, hoctet, hvalue⟩ := json_get_ip4_array_octet hget hpart
  rw [hvalue]
  exact (json_get_u32_compat_exact hnonnegative hoctet).2

/-- The numbers of a form are those of its strings. -/
theorem config_item_type_t.Takes.exact {type : config_item_type_t} {json : cJSON}
    {value : NvsValue} {number : Nat} (htakes : type.Takes json value text max_value number)
    (hparse : type.parse json = .value value) (hnonnegative : ¬ TakenNegative text.bytes max_value) :
    Numeral text.bytes number := by
  cases htakes with
  | uint8 value =>
    obtain ⟨taken, hget, hvalue⟩ := ParsedItem.ofOption_map_eq_value hparse
    obtain ⟨hle, htyped⟩ := json_get_u32_compat_exact hnonnegative hget
    cases hvalue
    have hmax : UInt32.toNat 255 = 255 := rfl
    rwa [UInt32.toNat_toUInt8, Nat.mod_eq_of_lt (by omega)]
  | uint16 value =>
    obtain ⟨taken, hget, hvalue⟩ := ParsedItem.ofOption_map_eq_value hparse
    obtain ⟨hle, htyped⟩ := json_get_u32_compat_exact hnonnegative hget
    cases hvalue
    have hmax : UInt32.toNat 65535 = 65535 := rfl
    rwa [UInt32.toNat_toUInt16, Nat.mod_eq_of_lt (by omega)]
  | uint32 value =>
    obtain ⟨taken, hget, hvalue⟩ := ParsedItem.ofOption_map_eq_value hparse
    cases hvalue
    exact (json_get_u32_compat_exact hnonnegative hget).2
  | ip hpart value =>
    obtain ⟨taken, hget, hvalue⟩ := ParsedItem.ofOption_map_eq_value hparse
    cases hvalue
    exact json_get_ip4_array_exact hnonnegative hget hpart

end

/-- A string is taken for the number that it writes, by itself, in an address and in a
form, exactly when it is no negative number that wraps into the range. -/
theorem takenAsTyped_iff (results : NvsResults) (store : Nvs) (root : Option cJSON)
    (text : CString) (max_value : UInt32) :
    TakenAsTyped results store root text max_value ↔ ¬ TakenNegative text.bytes max_value := by
  constructor
  · intro htyped hnegative
    obtain ⟨value, hget, hnone⟩ := json_get_u32_compat_of_negative hnegative
    exact hnone _ (htyped.json_get_u32_compat value hget).2
  · intro hnonnegative
    refine ⟨fun value hget => json_get_u32_compat_exact hnonnegative hget, ?_, ?_⟩
    · rintro rfl parts value b hget hpart
      exact json_get_ip4_array_exact hnonnegative hget hpart
    · intro item hitem json value hjson hwrite
      obtain ⟨_, hjson', hparse, hset⟩ := itemOutcome_write.mp hwrite
      rw [hjson] at hjson'
      cases hjson'
      exact ⟨cfg_json_to_nvs_saved hitem hjson hparse hset,
        fun number htakes => htakes.exact hparse hnonnegative⟩

/-- The form asks for the caster's port 1, it says. -/
def negativePort : cJSON :=
  .cJSON_Object [(literal KEY_CONFIG_CASTER_PORT, .cJSON_String (literal "-4294967295"))]

/-- A negative number becomes the port 1. -/
theorem negative_number_taken :
    ¬ TakenAsTyped ⟨fun _ => true, true⟩ (fun _ => none) (some negativePort)
      (literal "-4294967295") 65535 := by
  intro htyped
  have hget : json_get_u32_compat (.cJSON_String (literal "-4294967295")) 65535 = some 1 := by
    decide +kernel
  have hminus : Written [45] (ascii "4294967295") (literal "-4294967295").bytes :=
    ⟨⟨[], rfl, by decide +kernel⟩, by decide, by decide⟩
  obtain ⟨_, digits, hwritten | hwritten, _⟩ := htyped.json_get_u32_compat 1 hget
  · exact hwritten.no_minus (.inl rfl) hminus
  · exact hwritten.no_minus (.inr rfl) hminus

end rtkbase.nvs_config
