import RTKBase.Lib.Batch
import RTKBase.NvsConfig.Json

namespace rtkbase.nvs_config

open lib lib.cstring

/-- The placeholder for a secret that is not to change. -/
def CFG_VALUE_UNCHANGED : CString := literal "\x1a\x1a\x1a\x1a\x1a\x1a\x1a\x1a"

/-- What `cfg_json_to_nvs` makes of an item of the JSON object. -/
inductive ParsedItem where
  | invalid
  | unchanged
  | value (value : NvsValue)
deriving DecidableEq

def ParsedItem.ofOption : Option NvsValue → ParsedItem
  | none => .invalid
  | some taken => .value taken

def config_item_type_t.parse (type : config_item_type_t) (item : cJSON) : ParsedItem :=
  match type with
  | .TYPE_CFG_ITEM_STR =>
    match item with
    | .cJSON_String value => .value (.str value)
    | _ => .invalid
  | .TYPE_CFG_ITEM_SECRET_STR =>
    match item with
    | .cJSON_String value =>
      if value = CFG_VALUE_UNCHANGED then .unchanged else .value (.str value)
    | _ => .invalid
  | .TYPE_CFG_ITEM_BOOL => .ofOption ((json_get_bool_compat item).map .u8)
  | .TYPE_CFG_ITEM_UINT8 =>
    .ofOption ((json_get_u32_compat item 255).map fun value => .u8 value.toUInt8)
  | .TYPE_CFG_ITEM_UINT16 =>
    .ofOption ((json_get_u32_compat item 65535).map fun value => .u16 value.toUInt16)
  | .TYPE_CFG_ITEM_UINT32 => .ofOption ((json_get_u32_compat item 4294967295).map .u32)
  | .TYPE_CFG_ITEM_IP => .ofOption ((json_get_ip4_array item).map .u32)

/-- Which of its calls to NVS succeed while a configuration is saved: `nvs_set_*`
for a key, and `nvs_commit`. -/
structure NvsResults where
  nvs_set : String → Bool
  nvs_commit : Bool

/-- One turn of the loop over the items: the store, and whether there was an
error. -/
def saveItem (results : NvsResults) (root : Option cJSON) (state : Nvs × Bool)
    (item : config_item_t) : Nvs × Bool :=
  match cJSON_GetObjectItem root item.key with
  | none => state
  | some json =>
    match item.type.parse json with
    | .invalid => (state.1, true)
    | .unchanged => state
    | .value value =>
      if results.nvs_set item.key then (state.1.set item.key value, state.2) else (state.1, true)

/-- The configuration afterwards, and the result. -/
def cfg_json_to_nvs (results : NvsResults) (store : Nvs) (root : Option cJSON) :
    Nvs × esp_err_t :=
  let saved := CONFIG_ITEMS.foldl (saveItem results root) (store, false)
  if saved.2 then (saved.1, .ESP_ERR_INVALID_ARG)
  else if results.nvs_commit then (saved.1, .ESP_OK) else (saved.1, .ESP_ERR_INVALID_ARG)

theorem ParsedItem.ofOption_map_eq_value {α : Type} {parsed : Option α} {f : α → NvsValue}
    {value : NvsValue} (hvalue : ParsedItem.ofOption (parsed.map f) = .value value) :
    ∃ taken, parsed = some taken ∧ f taken = value := by
  cases parsed with
  | none => cases hvalue
  | some taken =>
    cases hvalue
    exact ⟨taken, rfl, rfl⟩

/-- The loop as a batch. -/
def itemOutcome (results : NvsResults) (root : Option cJSON) (item : config_item_t) :
    batch.Outcome NvsValue :=
  match cJSON_GetObjectItem root item.key with
  | none => .skip
  | some json =>
    match item.type.parse json with
    | .invalid => .fail
    | .unchanged => .skip
    | .value value => if results.nvs_set item.key then .write value else .fail

section

variable {results : NvsResults} {store : Nvs} {root : Option cJSON} {item : config_item_t}

theorem saveItem_eq_step (state : Nvs × Bool) :
    saveItem results root state item =
      batch.step (·.key) (itemOutcome results root) state item := by
  unfold saveItem batch.step itemOutcome
  cases cJSON_GetObjectItem root item.key with
  | none => rfl
  | some json =>
    dsimp only
    cases item.type.parse json with
    | invalid => rfl
    | unchanged => rfl
    | value value => cases results.nvs_set item.key <;> rfl

theorem save_items_eq_run :
    CONFIG_ITEMS.foldl (saveItem results root) (store, false) =
      batch.run (·.key) (itemOutcome results root) CONFIG_ITEMS (store, false) := by
  have hstep : saveItem results root = batch.step (·.key) (itemOutcome results root) := by
    funext state item
    exact saveItem_eq_step state
  rw [hstep]
  rfl

theorem itemOutcome_write {value : NvsValue} :
    itemOutcome results root item = .write value ↔
      ∃ json, cJSON_GetObjectItem root item.key = some json ∧
        item.type.parse json = .value value ∧ results.nvs_set item.key = true := by
  unfold itemOutcome
  cases cJSON_GetObjectItem root item.key with
  | none => simp
  | some json =>
    simp only [Option.some.injEq, exists_eq_left']
    cases item.type.parse json with
    | invalid => simp
    | unchanged => simp
    | value other => cases results.nvs_set item.key <;> simp

theorem itemOutcome_fail :
    itemOutcome results root item = .fail ↔
      ∃ json, cJSON_GetObjectItem root item.key = some json ∧
        (item.type.parse json = .invalid ∨
          ∃ value, item.type.parse json = .value value ∧ results.nvs_set item.key = false) := by
  unfold itemOutcome
  cases cJSON_GetObjectItem root item.key with
  | none => simp
  | some json =>
    simp only [Option.some.injEq, exists_eq_left']
    cases item.type.parse json with
    | invalid => simp
    | unchanged => simp
    | value other => cases results.nvs_set item.key <;> simp

/-- What `cfg_json_to_nvs` leaves behind is what the batch leaves behind,
whatever it returns. -/
theorem cfg_json_to_nvs_store :
    (cfg_json_to_nvs results store root).1 =
      (batch.run (·.key) (itemOutcome results root) CONFIG_ITEMS (store, false)).1 := by
  rw [← save_items_eq_run]
  unfold cfg_json_to_nvs
  dsimp only
  split
  · rfl
  · split <;> rfl

theorem cfg_json_to_nvs_ok_iff :
    (cfg_json_to_nvs results store root).2 = .ESP_OK ↔
      (∀ item ∈ CONFIG_ITEMS, itemOutcome results root item ≠ .fail) ∧
        results.nvs_commit = true := by
  have hfailed : (CONFIG_ITEMS.foldl (saveItem results root) (store, false)).2 = true ↔
      ∃ item ∈ CONFIG_ITEMS, itemOutcome results root item = .fail := by
    rw [save_items_eq_run, batch.run_failed]
    simp
  have hnone : (∀ item ∈ CONFIG_ITEMS, itemOutcome results root item ≠ .fail) ↔
      ¬ (CONFIG_ITEMS.foldl (saveItem results root) (store, false)).2 = true := by
    rw [hfailed]
    simp
  rw [hnone]
  unfold cfg_json_to_nvs
  dsimp only
  split
  case isTrue hsaved => simp [hsaved]
  case isFalse hsaved => split <;> simp_all

theorem cfg_json_to_nvs_result :
    (cfg_json_to_nvs results store root).2 = .ESP_OK ∨
      (cfg_json_to_nvs results store root).2 = .ESP_ERR_INVALID_ARG := by
  unfold cfg_json_to_nvs
  dsimp only
  split
  · exact .inr rfl
  · split
    · exact .inl rfl
    · exact .inr rfl

/-- Every value that an item of the object asks for is saved, when its
`nvs_set_*` succeeds. -/
theorem cfg_json_to_nvs_saved (hitem : item ∈ CONFIG_ITEMS) {json : cJSON} {value : NvsValue}
    (hjson : cJSON_GetObjectItem root item.key = some json)
    (hparse : item.type.parse json = .value value) (hset : results.nvs_set item.key = true) :
    (cfg_json_to_nvs results store root).1 item.key = some value := by
  rw [cfg_json_to_nvs_store]
  exact batch.run_of_written config_items_nodup hitem
    (itemOutcome_write.mpr ⟨json, hjson, hparse, hset⟩)

theorem cfg_json_to_nvs_unchanged_iff :
    (cfg_json_to_nvs results store root).1 = store ↔
      ∀ item ∈ CONFIG_ITEMS, ∀ value, itemOutcome results root item = .write value →
        store item.key = some value := by
  rw [cfg_json_to_nvs_store]
  exact batch.run_unchanged_iff config_items_nodup

/-- Nothing is saved from what is no object. -/
theorem cfg_json_to_nvs_null : (cfg_json_to_nvs results store none).1 = store := by
  rw [cfg_json_to_nvs_unchanged_iff]
  intro item _ value hwrite
  obtain ⟨json, hjson, _⟩ := itemOutcome_write.mp hwrite
  cases hjson

end

/-- Where some item is invalid, `cfg_json_to_nvs` returns an error, and the
configuration that can be read is the one before exactly when every other item
that it writes was already there. -/
theorem config_update_atomic_iff {results : NvsResults} {store : Nvs}
    {members : List (CString × cJSON)}
    (hinvalid : ∃ item ∈ CONFIG_ITEMS, ∃ json,
      cJSON_GetObjectItem (some (.cJSON_Object members)) item.key = some json ∧
        item.type.parse json = .invalid) :
    (cfg_json_to_nvs results store (some (.cJSON_Object members))).2 = .ESP_ERR_INVALID_ARG ∧
      (SameConfig store (cfg_json_to_nvs results store (some (.cJSON_Object members))).1 ↔
        ∀ item ∈ CONFIG_ITEMS, ∀ json value,
          cJSON_GetObjectItem (some (.cJSON_Object members)) item.key = some json →
          item.type.parse json = .value value → results.nvs_set item.key = true →
          store item.key = some value) := by
  constructor
  · obtain ⟨item, hitem, json, hjson, hparse⟩ := hinvalid
    apply cfg_json_to_nvs_result.resolve_left
    intro hok
    exact (cfg_json_to_nvs_ok_iff.mp hok).1 item hitem
      (itemOutcome_fail.mpr ⟨json, hjson, .inl hparse⟩)
  · rw [sameConfig_iff, cfg_json_to_nvs_unchanged_iff]
    constructor
    · intro hthere item hitem json value hjson hparse hset
      exact hthere item hitem value (itemOutcome_write.mpr ⟨json, hjson, hparse, hset⟩)
    · intro hthere item hitem value hwrite
      obtain ⟨json, hjson, hparse, hset⟩ := itemOutcome_write.mp hwrite
      exact hthere item hitem json value hjson hparse hset

/-- A form with a port that is no number. -/
def formWithBadPort : List (CString × cJSON) :=
  [(literal KEY_CONFIG_ADMIN_USERNAME, .cJSON_String (literal "u")),
    (literal KEY_CONFIG_CASTER_PORT, .cJSON_String (literal "x"))]

def allSucceed : NvsResults where
  nvs_set _ := true
  nvs_commit := true

def erased : Nvs := fun _ => none

theorem bad_port_invalid : ∃ item ∈ CONFIG_ITEMS, ∃ json,
    cJSON_GetObjectItem (some (.cJSON_Object formWithBadPort)) item.key = some json ∧
      item.type.parse json = .invalid := by
  refine ⟨.uint16 KEY_CONFIG_CASTER_PORT 2101, ?_, .cJSON_String (literal "x"), ?_, ?_⟩
  · simp [CONFIG_ITEMS]
  · rfl
  · decide +kernel

/-- The name is changed although the port is invalid. -/
theorem config_partially_updated :
    (cfg_json_to_nvs allSucceed erased (some (.cJSON_Object formWithBadPort))).2 =
        .ESP_ERR_INVALID_ARG ∧
      ¬ SameConfig erased
        (cfg_json_to_nvs allSucceed erased (some (.cJSON_Object formWithBadPort))).1 := by
  constructor
  · decide +kernel
  · intro hsame
    have hstr := hsame.str KEY_CONFIG_ADMIN_USERNAME
    revert hstr
    decide +kernel

def sameName : Nvs := erased.set KEY_CONFIG_ADMIN_USERNAME (.str (literal "u"))

/-- The name in the form is the one that is stored. -/
theorem config_kept_of_same_name :
    SameConfig sameName
      (cfg_json_to_nvs allSucceed sameName (some (.cJSON_Object formWithBadPort))).1 := by
  apply (config_update_atomic_iff bad_port_invalid).2.mpr
  have hthere : ∀ item ∈ CONFIG_ITEMS,
      ((cJSON_GetObjectItem (some (.cJSON_Object formWithBadPort)) item.key).map
        item.type.parse).all (fun parsed => parsed = .invalid ∨
          parsed = .ofOption (sameName item.key)) = true := by
    decide +kernel
  intro item hitem json value hjson hparse _
  have hitem := hthere item hitem
  cases hstored : sameName item.key <;>
    simp [hjson, hparse, hstored, ParsedItem.ofOption] at hitem
  rw [hitem]

end rtkbase.nvs_config
