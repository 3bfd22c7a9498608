import RTKBase.Lib.CString
import Mathlib.Logic.Function.Basic

namespace rtkbase.nvs_config

open lib.cstring

inductive esp_err_t where
  | ESP_OK
  | ESP_FAIL
  | ESP_ERR_INVALID_ARG
deriving DecidableEq

/-- Any error code of the library, also one that has no name here. -/
abbrev EspErr := Int

def EspErr.ESP_OK : EspErr := 0

def EspErr.ESP_FAIL : EspErr := -1

def SIZE_MAX : Nat := 4294967295

/-- A C string anywhere in memory. -/
abbrev CString := CStr SIZE_MAX

/-- The string of a literal in the source. -/
def literal (s : String) : CString := strlcpy 4294967294 (ascii s)

instance : DecidableEq CString := fun a b =>
  decidable_of_iff (a.bytes = b.bytes) ⟨fun heq => by cases a; cases b; cases heq; rfl, congrArg _⟩

inductive NvsValue where
  | u8 (value : UInt8)
  | u16 (value : UInt16)
  | u32 (value : UInt32)
  | str (value : CString)
deriving DecidableEq

/-- The namespace `CONFIG_PREFERENCES`: what later reads see for a key. -/
abbrev Nvs := String → Option NvsValue

/-- `nvs_set_*` on a handle of the namespace, when it returns `ESP_OK`. -/
def Nvs.set (store : Nvs) (key : String) (value : NvsValue) : Nvs :=
  Function.update store key (some value)

def cfg_get_u8 (store : Nvs) (key : String) : Option UInt8 :=
  match store key with
  | some (.u8 value) => some value
  | _ => none

def cfg_get_u16 (store : Nvs) (key : String) : Option UInt16 :=
  match store key with
  | some (.u16 value) => some value
  | _ => none

def cfg_get_u32 (store : Nvs) (key : String) : Option UInt32 :=
  match store key with
  | some (.u32 value) => some value
  | _ => none

def cfg_get_str (store : Nvs) (key : String) : Option CString :=
  match store key with
  | some (.str value) => some value
  | _ => none

/-- Every `cfg_get_*` call gives in `store'` what it gives in `store`. -/
structure SameConfig (store store' : Nvs) : Prop where
  u8 : ∀ key, cfg_get_u8 store' key = cfg_get_u8 store key
  u16 : ∀ key, cfg_get_u16 store' key = cfg_get_u16 store key
  u32 : ∀ key, cfg_get_u32 store' key = cfg_get_u32 store key
  str : ∀ key, cfg_get_str store' key = cfg_get_str store key

/-- The calls see all that is stored. -/
theorem sameConfig_iff {store store' : Nvs} : SameConfig store store' ↔ store' = store := by
  constructor
  · intro hsame
    funext key
    have hu8 := hsame.u8 key
    have hu16 := hsame.u16 key
    have hu32 := hsame.u32 key
    have hstr := hsame.str key
    simp only [cfg_get_u8, cfg_get_u16, cfg_get_u32, cfg_get_str] at hu8 hu16 hu32 hstr
    generalize store key = before at hu8 hu16 hu32 hstr ⊢
    generalize store' key = after at hu8 hu16 hu32 hstr ⊢
    cases before with
    | none =>
      cases after with
      | none => rfl
      | some value => cases value <;> simp at hu8 hu16 hu32 hstr
    | some value =>
      cases after with
      | none => cases value <;> simp at hu8 hu16 hu32 hstr
      | some value' => cases value <;> cases value' <;> simp_all
  · rintro rfl
    exact ⟨fun _ => rfl, fun _ => rfl, fun _ => rfl, fun _ => rfl⟩

end rtkbase.nvs_config
