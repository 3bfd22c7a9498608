import RTKBase.NvsConfig.Export

namespace rtkbase.nvs_config

open lib lib.cstring lib.lts

/-- What the web interface is given for a value reads as the value. -/
theorem config_item_type_t.parse_render {type : config_item_type_t} {value : NvsValue}
    (hholds : type.Holds value) (htype : type ≠ .TYPE_CFG_ITEM_SECRET_STR) :
    type.parse (type.render value) = .value value := by
  cases type with
  | TYPE_CFG_ITEM_SECRET_STR => exact absurd rfl htype
  | TYPE_CFG_ITEM_BOOL =>
    cases value with
    | u8 value => obtain rfl | rfl := hholds <;> rfl
    | _ => cases hholds
  | TYPE_CFG_ITEM_UINT8 =>
    cases value with
    | u8 value =>
      have hmax : UInt32.toNat 255 = 255 := rfl
      have hlt := value.toNat_lt
      have hread : json_get_u32_compat (jsonNumber value.toNat) 255 = some value.toUInt32 := by
        rw [← UInt8.toNat_toUInt32]
        apply json_get_u32_compat_number
        rw [UInt8.toNat_toUInt32]
        omega
      simp [config_item_type_t.parse, config_item_type_t.render, hread, ParsedItem.ofOption]
    | _ => cases hholds
  | TYPE_CFG_ITEM_UINT16 =>
    cases value with
    | u16 value =>
      have hmax : UInt32.toNat 65535 = 65535 := rfl
      have hlt := value.toNat_lt
      have hread : json_get_u32_compat (jsonNumber value.toNat) 65535 = some value.toUInt32 := by
        rw [← UInt16.toNat_toUInt32]
        apply json_get_u32_compat_number
        rw [UInt16.toNat_toUInt32]
        omega
      simp [config_item_type_t.parse, config_item_type_t.render, hread, ParsedItem.ofOption]
    | _ => cases hholds
  | TYPE_CFG_ITEM_UINT32 =>
    cases value with
    | u32 value =>
      have hmax : UInt32.toNat 4294967295 = 4294967295 := rfl
      have hlt := value.toNat_lt
      have hread : json_get_u32_compat (jsonNumber value.toNat) 4294967295 = some value :=
        json_get_u32_compat_number (by omega)
      simp [config_item_type_t.parse, config_item_type_t.render, hread, ParsedItem.ofOption]
    | _ => cases hholds
  | TYPE_CFG_ITEM_STR =>
    cases value with
    | str value => rfl
    | _ => cases hholds
  | TYPE_CFG_ITEM_IP =>
    cases value with
    | u32 value =>
      simp [config_item_type_t.parse, config_item_type_t.render, json_get_ip4_array_octets_of,
        ParsedItem.ofOption]
    | _ => cases hholds

/-- Members of other names do not hide a member behind them. -/
theorem cJSON_GetObjectItem_append {earlier members : List (CString × cJSON)} {key : String}
    (hearlier : ∀ member ∈ earlier, ¬ strcasecmp member.1.bytes (ascii key)) :
    cJSON_GetObjectItem (some (.cJSON_Object (earlier ++ members))) key =
      cJSON_GetObjectItem (some (.cJSON_Object members)) key := by
  have hnone : (earlier.find? fun member => decide (strcasecmp member.1.bytes (ascii key))) = none := by
    rw [List.find?_eq_none]
    simpa using hearlier
  simp [cJSON_GetObjectItem, List.find?_append, hnone]

/-- A member is found under its name where no other has the name in any letter
case. -/
theorem cJSON_GetObjectItem_of_mem {members : List (CString × cJSON)} {name : CString}
    {json : cJSON} {key : String}
    (hnodup : (members.map fun member => member.1.bytes.map tolower).Nodup)
    (hmem : (name, json) ∈ members) (hname : strcasecmp name.bytes (ascii key)) :
    cJSON_GetObjectItem (some (.cJSON_Object members)) key = some json := by
  have hfind : (members.find? fun member => decide (strcasecmp member.1.bytes (ascii key))) =
      some (name, json) := by
    induction members with
    | nil => cases hmem
    | cons first rest ih =>
      obtain ⟨hfirst, hrest⟩ := List.nodup_cons.mp hnodup
      cases hmem with
      | head => exact List.find?_cons_of_pos (by simpa using hname)
      | tail _ hmem =>
        rw [List.find?_cons_of_neg, ih hrest hmem]
        intro hcase
        have hsame : strcasecmp name.bytes first.1.bytes :=
          hname.trans (of_decide_eq_true hcase : strcasecmp first.1.bytes (ascii key)).symm
        exact hfirst (List.mem_map.mpr ⟨(name, json), hmem, hsame⟩)
  simp [cJSON_GetObjectItem, hfind]

/-- No two keys are the same in any letter case. -/
theorem config_keys_nodup :
    (CONFIG_ITEMS.map fun item => (literal item.key).bytes.map tolower).Nodup := by
  decide +kernel

theorem literal_key_bytes :
    ∀ item ∈ CONFIG_ITEMS, (literal item.key).bytes = ascii item.key := by
  decide +kernel

/-- Every item finds its own member in the object. -/
theorem cJSON_GetObjectItem_member {store : Nvs} {earlier : List (CString × cJSON)}
    {item : config_item_t} (hitem : item ∈ CONFIG_ITEMS)
    (hearlier : ∀ member ∈ earlier, ¬ strcasecmp member.1.bytes (ascii item.key)) :
    cJSON_GetObjectItem (some (.cJSON_Object (earlier ++ CONFIG_ITEMS.map (·.member store))))
      item.key = some (item.member store).2 := by
  rw [cJSON_GetObjectItem_append hearlier]
  apply cJSON_GetObjectItem_of_mem
  · rw [List.map_map]
    exact config_keys_nodup
  · exact List.mem_map_of_mem (f := config_item_t.member store) hitem
  · rw [strcasecmp, literal_key_bytes item hitem]

/-- Saving the object that was read: every secret is skipped, and every other
item writes what is stored. -/
theorem itemOutcome_of_export {results : NvsResults} {store : Nvs}
    {earlier : List (CString × cJSON)} {item : config_item_t} (hcomplete : Complete store)
    (hitem : item ∈ CONFIG_ITEMS)
    (hearlier : ∀ member ∈ earlier, ¬ strcasecmp member.1.bytes (ascii item.key)) :
    ∃ value, store item.key = some value ∧
      itemOutcome results
          (some (.cJSON_Object (earlier ++ CONFIG_ITEMS.map (·.member store)))) item =
        if item.type = .TYPE_CFG_ITEM_SECRET_STR then .skip
        else if results.nvs_set item.key then .write value else .fail := by
  obtain ⟨value, hvalue, hholds⟩ := hcomplete item hitem
  have hmember : (item.member store).2 = item.type.render value := by
    simp [config_item_t.member, hvalue]
  refine ⟨value, hvalue, ?_⟩
  rw [itemOutcome, cJSON_GetObjectItem_member hitem hearlier, hmember]
  by_cases hsecret : item.type = .TYPE_CFG_ITEM_SECRET_STR
  · have hunchanged : item.type.parse (item.type.render value) = .unchanged := by
      rw [hsecret]
      rfl
    simp only [hunchanged, if_pos hsecret]
  · simp only [config_item_type_t.parse_render hholds hsecret, if_neg hsecret]

/-- Reading a complete configuration and saving it again leaves it as it is,
and succeeds where the calls to NVS do. The object may have members of other
names before those of the configuration. -/
theorem config_round_trip {store : Nvs} {earlier : List (CString × cJSON)}
    (hcomplete : Complete store)
    (hearlier : ∀ member ∈ earlier, ∀ item ∈ CONFIG_ITEMS,
      ¬ strcasecmp member.1.bytes (ascii item.key)) (results : NvsResults) :
    ∃ root, cfg_to_json store earlier = some root ∧
      (cfg_json_to_nvs results store (some (.cJSON_Object root))).1 = store ∧
      ((∀ key, results.nvs_set key = true) → results.nvs_commit = true →
        (cfg_json_to_nvs results store (some (.cJSON_Object root))).2 = .ESP_OK) := by
  have houtcome : ∀ item ∈ CONFIG_ITEMS, ∃ value, store item.key = some value ∧
      itemOutcome results
          (some (.cJSON_Object (earlier ++ CONFIG_ITEMS.map (·.member store)))) item =
        if item.type = .TYPE_CFG_ITEM_SECRET_STR then .skip
        else if results.nvs_set item.key then .write value else .fail := fun item hitem =>
    itemOutcome_of_export hcomplete hitem fun member hmember => hearlier member hmember item hitem
  refine ⟨_, cfg_to_json_of_complete hcomplete earlier, ?_, ?_⟩
  · rw [cfg_json_to_nvs_unchanged_iff]
    intro item hitem written hwrite
    obtain ⟨value, hvalue, hitem⟩ := houtcome item hitem
    rw [hitem] at hwrite
    split at hwrite
    · cases hwrite
    · split at hwrite <;> cases hwrite
      exact hvalue
  · intro hset hcommit
    rw [cfg_json_to_nvs_ok_iff]
    refine ⟨fun item hitem hfail => ?_, hcommit⟩
    obtain ⟨value, hvalue, hitem⟩ := houtcome item hitem
    rw [hitem, hset] at hfail
    split at hfail <;> cases hfail

/-- What the web server puts in front of the configuration. -/
def versionMember : CString × cJSON := (literal "version", .cJSON_String (literal "1.0"))

def newDevice : Nvs := nvs_cfg_init (fun _ => true) 0x12 0x34 erased

theorem config_round_trip_of_new_device :
    ∃ root, cfg_to_json newDevice [versionMember] = some root ∧
      (cfg_json_to_nvs allSucceed newDevice (some (.cJSON_Object root))).1 = newDevice ∧
      (cfg_json_to_nvs allSucceed newDevice (some (.cJSON_Object root))).2 = .ESP_OK := by
  have hcomplete : Complete newDevice := nvs_cfg_init_complete _ _ (fun _ => rfl) .refl
  have hversion : ∀ item ∈ CONFIG_ITEMS, ¬ strcasecmp versionMember.1.bytes (ascii item.key) := by
    decide +kernel
  have hearlier : ∀ member ∈ [versionMember], ∀ item ∈ CONFIG_ITEMS,
      ¬ strcasecmp member.1.bytes (ascii item.key) := by
    intro member hmember
    obtain rfl := List.mem_singleton.mp hmember
    exact hversion
  obtain ⟨root, hroot, hsame, hok⟩ := config_round_trip hcomplete hearlier allSucceed
  exact ⟨root, hroot, hsame, hok (fun _ => rfl) rfl⟩

end rtkbase.nvs_config
