import RTKBase.NvsConfig.Defaults
import Mathlib.Data.List.Induction

namespace rtkbase.nvs_config

open lib lib.cstring lib.lts

/-- A setting by itself: what is stored for it, or nothing. -/
def settingStep (item : config_item_t) (stored : Option NvsValue) :
    ConfigAction → Option NvsValue
  | .nvs_cfg_init nvs_set mac4 mac5 =>
    if stored = none ∧ nvs_set item.key = true then some (item.initial (str_buf mac4 mac5))
    else stored
  | .cfg_json_to_nvs results root =>
    match itemOutcome results root item with
    | .write value => some value
    | _ => stored
  | .cfg_reset_restart => none

section Init

variable {nvs_set : String → Bool} {name : CString} {store store' : Nvs} {item : config_item_t}

theorem initItem_self :
    initItem nvs_set name store item item.key =
      if item.isStored store = false ∧ nvs_set item.key = true then some (item.initial name)
      else store item.key := by
  unfold initItem
  split <;> simp [Nvs.set]

theorem initItem_other {key : String} (hkey : key ≠ item.key) :
    initItem nvs_set name store item key = store key := by
  unfold initItem
  split
  · rw [Nvs.set, Function.update_of_ne hkey]
  · rfl

theorem isStored_congr (hsame : store' item.key = store item.key) :
    item.isStored store' = item.isStored store := by
  simp only [config_item_t.isStored, cfg_get_u8, cfg_get_u16, cfg_get_u32, cfg_get_str, hsame]

theorem init_items_other {items : List config_item_t} {key : String}
    (hkey : key ∉ items.map (·.key)) (store : Nvs) :
    items.foldl (initItem nvs_set name) store key = store key := by
  refine List.foldlRecOn (motive := fun store' : Nvs => store' key = store key) items _ rfl ?_
  intro store' hsame other hother
  have hne : key ≠ other.key := by
    rintro rfl
    exact hkey (List.mem_map_of_mem hother)
  rw [initItem_other hne, hsame]

/-- The loop comes to a setting once, and finds it as it was. -/
theorem init_items_self {items : List config_item_t} (hnodup : (items.map (·.key)).Nodup)
    (hitem : item ∈ items) (store : Nvs) :
    items.foldl (initItem nvs_set name) store item.key =
      initItem nvs_set name store item item.key := by
  induction items generalizing store with
  | nil => cases hitem
  | cons first rest ih =>
    obtain ⟨hfirst, hrest⟩ := List.nodup_cons.mp hnodup
    cases hitem with
    | head => exact init_items_other hfirst _
    | tail _ hitem =>
      have hkey : item.key ≠ first.key := by
        intro heq
        apply hfirst
        rw [show (fun x : config_item_t => x.key) first = item.key from heq.symm]
        exact List.mem_map_of_mem hitem
      have hsame : initItem nvs_set name store first item.key = store item.key :=
        initItem_other hkey
      rw [List.foldl_cons, ih hrest hitem, initItem_self, initItem_self, isStored_congr hsame,
        hsame]

/-- Of a stored value the type is always right. -/
theorem Typed.isStored (htyped : Typed store) (hitem : item ∈ CONFIG_ITEMS) :
    item.isStored store = (store item.key).isSome := by
  have hholds := htyped item hitem
  unfold config_item_t.isStored cfg_get_u8 cfg_get_u16 cfg_get_u32 cfg_get_str
  cases hstored : store item.key with
  | none => cases item.type <;> rfl
  | some value =>
    have hvalue := hholds value hstored
    cases htype : item.type <;> rw [htype] at hvalue <;> cases value <;>
      first | rfl | cases hvalue

end Init

/-- Whatever happens to the configuration happens to each setting by itself. -/
theorem configStep_setting {store store' : Nvs} {a : ConfigAction} (htyped : Typed store)
    (hstep : configStep store a = some store') {item : config_item_t} (hitem : item ∈ CONFIG_ITEMS) :
    store' item.key = settingStep item (store item.key) a := by
  cases a with
  | nvs_cfg_init nvs_set mac4 mac5 =>
    obtain rfl := Option.some.inj hstep
    rw [nvs_cfg_init, init_items_self config_items_nodup hitem, initItem_self,
      htyped.isStored hitem]
    simp [settingStep]
  | cfg_json_to_nvs results root =>
    obtain rfl := Option.some.inj hstep
    rw [cfg_json_to_nvs_store]
    simp only [settingStep]
    split
    case h_1 value houtcome => exact batch.run_of_written config_items_nodup hitem houtcome
    case h_2 hunwritten =>
      apply batch.run_of_not_written
      intro other hother hkey value houtcome
      obtain rfl := List.inj_on_of_nodup_map config_items_nodup hother hitem hkey
      exact hunwritten value houtcome
  | cfg_reset_restart =>
    obtain rfl := Option.some.inj hstep
    rfl

/-- The history of a setting: its value is what its own history makes of it. -/
theorem setting_history {actions : List ConfigAction} {store store' : Nvs}
    (hreach : Reach configStep Anywhere erased store)
    (hruns : runs configStep Anywhere store actions = some store') {item : config_item_t}
    (hitem : item ∈ CONFIG_ITEMS) :
    store' item.key = actions.foldl (settingStep item) (store item.key) := by
  induction actions generalizing store with
  | nil =>
    cases hruns
    rfl
  | cons a rest ih =>
    rw [runs, if_pos (show Anywhere store a from trivial)] at hruns
    cases hstep : configStep store a with
    | none =>
      rw [hstep] at hruns
      cases hruns
    | some store₁ =>
      rw [hstep] at hruns
      rw [ih (hreach.next trivial hstep) hruns, List.foldl_cons,
        configStep_setting (config_typed hreach) hstep hitem]

/-- The event gives the setting the value, when it is an event that writes. -/
def config_item_t.SetBy (item : config_item_t) (value : NvsValue) : ConfigAction → Prop
  | .nvs_cfg_init nvs_set mac4 mac5 =>
    nvs_set item.key = true ∧ item.initial (str_buf mac4 mac5) = value
  | .cfg_json_to_nvs results root =>
    ∃ json, cJSON_GetObjectItem root item.key = some json ∧ item.type.parse json = .value value ∧
      results.nvs_set item.key = true
  | .cfg_reset_restart => False

/-- Behind whatever gave the setting a value there is a reset. -/
def config_item_t.Unset (item : config_item_t) (actions : List ConfigAction) : Prop :=
  ∀ before a after value, actions = before ++ a :: after → item.SetBy value a →
    .cfg_reset_restart ∈ after

/-- A boot gives a value only where there is none, a form always. -/
def config_item_t.Applies (item : config_item_t) (before : List ConfigAction) :
    ConfigAction → Prop
  | .nvs_cfg_init _ _ _ => item.Unset before
  | _ => True

/-- The event is no reset, and no form that gives the setting a value. -/
def config_item_t.Leaves (item : config_item_t) : ConfigAction → Prop
  | .nvs_cfg_init _ _ _ => True
  | .cfg_json_to_nvs results root => ∀ value, ¬ item.SetBy value (.cfg_json_to_nvs results root)
  | .cfg_reset_restart => False

/-- The last event that gave the setting a value gave it this one. -/
def config_item_t.LastSet (item : config_item_t) (actions : List ConfigAction)
    (value : NvsValue) : Prop :=
  ∃ before a after, actions = before ++ a :: after ∧ item.SetBy value a ∧
    item.Applies before a ∧ ∀ a' ∈ after, item.Leaves a'

section LastSet

variable {item : config_item_t} {actions : List ConfigAction} {a : ConfigAction}
  {value : NvsValue}

theorem config_item_t.unset_concat :
    item.Unset (actions ++ [a]) ↔
      a = .cfg_reset_restart ∨ (item.Unset actions ∧ ∀ value, ¬ item.SetBy value a) := by
  constructor
  · intro hunset
    by_cases hreset : a = .cfg_reset_restart
    · exact .inl hreset
    refine .inr ⟨?_, fun value hset => ?_⟩
    · rintro before b after value rfl hset
      have hmem := hunset before b (after ++ [a]) value (by simp) hset
      simpa [Ne.symm hreset] using hmem
    · cases hunset actions a [] value rfl hset
  · rintro hunset before b after value heq hset
    obtain ⟨rfl, rfl, rfl⟩ | ⟨rest, rfl, rfl⟩ := append_split heq
    · rcases hunset with rfl | ⟨_, hnone⟩
      · cases hset
      · exact absurd hset (hnone value)
    · rcases hunset with rfl | ⟨hunset, _⟩
      · simp
      · exact List.mem_append_left _ (hunset before b rest value rfl hset)

theorem config_item_t.lastSet_concat :
    item.LastSet (actions ++ [a]) value ↔
      (item.SetBy value a ∧ item.Applies actions a) ∨
        (item.LastSet actions value ∧ item.Leaves a) := by
  constructor
  · rintro ⟨before, b, after, heq, hset, happlies, hleaves⟩
    obtain ⟨rfl, rfl, rfl⟩ | ⟨rest, rfl, rfl⟩ := append_split heq
    · exact .inl ⟨hset, happlies⟩
    · exact .inr ⟨⟨before, b, rest, rfl, hset, happlies,
        fun a' ha' => hleaves a' (List.mem_append_left _ ha')⟩, hleaves a (by simp)⟩
  · rintro (⟨hset, happlies⟩ | ⟨⟨before, b, rest, rfl, hset, happlies, hleaves⟩, hlast⟩)
    · exact ⟨actions, a, [], rfl, hset, happlies, by simp⟩
    · refine ⟨before, b, rest ++ [a], by simp, hset, happlies, fun a' ha' => ?_⟩
      rcases List.mem_append.mp ha' with ha' | ha'
      · exact hleaves a' ha'
      · rwa [List.mem_singleton.mp ha']

/-- A step of the setting, told by what gives it values. -/
theorem settingStep_eq_none {stored : Option NvsValue} :
    settingStep item stored a = none ↔
      a = .cfg_reset_restart ∨ (stored = none ∧ ∀ value, ¬ item.SetBy value a) := by
  cases a with
  | nvs_cfg_init nvs_set mac4 mac5 =>
    cases stored <;> cases hset : nvs_set item.key <;>
      simp [settingStep, config_item_t.SetBy, hset]
  | cfg_json_to_nvs results root =>
    simp only [settingStep, config_item_t.SetBy, ← itemOutcome_write]
    cases itemOutcome results root item <;> simp
  | cfg_reset_restart => simp [settingStep]

theorem settingStep_eq_some {stored : Option NvsValue} :
    settingStep item stored a = some value ↔
      (item.SetBy value a ∧ (stored = none ∨ ∃ results root, a = .cfg_json_to_nvs results root)) ∨
        (stored = some value ∧ item.Leaves a) := by
  cases a with
  | nvs_cfg_init nvs_set mac4 mac5 =>
    cases stored <;> cases hset : nvs_set item.key <;>
      simp [settingStep, config_item_t.SetBy, config_item_t.Leaves, hset]
  | cfg_json_to_nvs results root =>
    simp only [settingStep, config_item_t.SetBy, config_item_t.Leaves, ← itemOutcome_write]
    cases itemOutcome results root item <;> simp
  | cfg_reset_restart => simp [settingStep, config_item_t.SetBy, config_item_t.Leaves]

/-- A setting by itself has the value that it was last given, and none before. -/
theorem setting_of_history :
    (actions.foldl (settingStep item) none = none ↔ item.Unset actions) ∧
      ∀ value, actions.foldl (settingStep item) none = some value ↔ item.LastSet actions value := by
  induction actions using List.reverseRecOn with
  | nil => simp [config_item_t.Unset, config_item_t.LastSet]
  | append_singleton actions a ih =>
    obtain ⟨ihunset, ihlast⟩ := ih
    rw [List.foldl_append]
    refine ⟨?_, fun value => ?_⟩
    · rw [config_item_t.unset_concat, ← ihunset]
      exact settingStep_eq_none
    · rw [config_item_t.lastSet_concat, ← ihlast, List.foldl_cons, List.foldl_nil,
        settingStep_eq_some, ihunset]
      cases a <;> simp [config_item_t.Applies, config_item_t.SetBy]

end LastSet

/-- What is stored for a setting is what it was last given. -/
theorem stored_iff_lastSet {actions : List ConfigAction} {store : Nvs}
    (hruns : runs configStep Anywhere erased actions = some store) {item : config_item_t}
    (hitem : item ∈ CONFIG_ITEMS) (value : NvsValue) :
    store item.key = some value ↔ item.LastSet actions value := by
  rw [setting_history .refl hruns hitem]
  exact setting_of_history.2 value

end rtkbase.nvs_config
