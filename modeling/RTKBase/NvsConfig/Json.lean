import RTKBase.Lib.Numeral
import RTKBase.NvsConfig.Items
import Mathlib.Data.Rat.Floor

namespace rtkbase.nvs_config

open lib.cstring lib.numeral

/-- A `double` as a JSON number gives it. -/
inductive double where
  | finite (value : ℚ)
  | infinite (negative : Bool)

inductive cJSON where
  | cJSON_NULL
  | cJSON_Bool (value : Bool)
  | cJSON_Number (valuedouble : double)
  | cJSON_String (valuestring : CString)
  | cJSON_Array (items : List cJSON)
  | cJSON_Object (members : List (CString × cJSON))

/-- The first member of the name, in any letter case. NULL, like everything that
is no object, has no members. -/
def cJSON_GetObjectItem (root : Option cJSON) (key : String) : Option cJSON :=
  match root with
  | some (.cJSON_Object members) =>
    (members.find? fun member => decide (strcasecmp member.1.bytes (ascii key))).map Prod.snd
  | _ => none

def json_get_bool_compat (item : cJSON) : Option UInt8 :=
  match item with
  | .cJSON_Bool value => some (if value then 1 else 0)
  | .cJSON_Number (.finite number) =>
    if number = 0 then some 0 else if number = 1 then some 1 else none
  | .cJSON_String value =>
    if value.bytes = ascii "0" ∨ strcasecmp value.bytes (ascii "false") then some 0
    else if value.bytes = ascii "1" ∨ strcasecmp value.bytes (ascii "true") then some 1
    else none
  | _ => none

def json_get_u32_compat (item : cJSON) (max_value : UInt32) : Option UInt32 :=
  match item with
  | .cJSON_Number (.finite number) =>
    if number < 0 ∨ number > max_value.toNat then none
    else
      let value := UInt32.ofNat number.floor.toNat
      if (value.toNat : ℚ) ≠ number then none else some value
  | .cJSON_String value =>
    if value.bytes = [] then none
    else
      let parsed := strtoul value.bytes
      if parsed.erange = true ∨ parsed.endptr = value.bytes ∨ parsed.endptr ≠ [] ∨
          parsed.value > max_value then none
      else some parsed.value
  | _ => none

/-- The octets of an array of four, the first one lowest. -/
def json_get_ip4_array (item : cJSON) : Option UInt32 :=
  match item with
  | .cJSON_Array [part0, part1, part2, part3] => do
    let octet0 ← json_get_u32_compat part0 255
    let octet1 ← json_get_u32_compat part1 255
    let octet2 ← json_get_u32_compat part2 255
    let octet3 ← json_get_u32_compat part3 255
    return ip4_addr octet0 octet1 octet2 octet3
  | _ => none

/-- The number that an item gives, as a number or as a text. -/
def numberGiven (item : cJSON) : Option ℚ :=
  match item with
  | .cJSON_Number (.finite number) => some number
  | .cJSON_String value => (integerText value.bytes).map Int.cast
  | _ => none

/-- What `json_get_u32_compat` takes is in range, and is the number given unless
that is negative. -/
theorem json_get_u32_compat_given {item : cJSON} {max_value value : UInt32}
    (hget : json_get_u32_compat item max_value = some value) :
    value.toNat ≤ max_value.toNat ∧
      ∃ number, numberGiven item = some number ∧ (number = value.toNat ∨ number < 0) := by
  unfold json_get_u32_compat at hget
  split at hget
  case h_1 number =>
    split at hget
    case isTrue => cases hget
    case isFalse hrange =>
      dsimp only at hget
      split at hget
      case isTrue => cases hget
      case isFalse hexact =>
        cases hget
        rw [not_not] at hexact
        rw [not_or, not_lt, not_lt, ← hexact, Nat.cast_le] at hrange
        exact ⟨hrange.2, number, rfl, .inl hexact.symm⟩
  case h_2 text =>
    split at hget
    case isTrue => cases hget
    case isFalse htext =>
      dsimp only at hget
      split at hget
      case isTrue => cases hget
      case isFalse hwhole =>
        cases hget
        simp only [not_or, Bool.not_eq_true, not_not, UInt32.not_lt] at hwhole
        obtain ⟨herange, _, hend, hrange⟩ := hwhole
        obtain ⟨z, hz, hvalue⟩ := strtoul_whole htext herange hend
        refine ⟨UInt32.le_iff_toNat_le.mp hrange, z, by simp [numberGiven, hz], ?_⟩
        obtain hvalue | hnegative := hvalue
        · left
          rw [hvalue, Int.cast_natCast]
        · right
          exact_mod_cast hnegative
  case h_3 => cases hget

theorem or_shiftLeft_toNat {low octet : UInt32} (bits : Nat) (hbits : bits < 32)
    (hlow : low.toNat < 2 ^ bits) (hoctet : octet.toNat * 2 ^ bits < 4294967296) :
    (low ||| octet <<< UInt32.ofNat bits).toNat = low.toNat + octet.toNat * 2 ^ bits := by
  have hmod : (UInt32.ofNat bits).toNat % 32 = bits := by
    rw [UInt32.toNat_ofNat']
    omega
  have hshift : (octet <<< UInt32.ofNat bits).toNat = octet.toNat * 2 ^ bits := by
    rw [UInt32.toNat_shiftLeft, hmod, Nat.shiftLeft_eq, Nat.mod_eq_of_lt hoctet]
  rw [UInt32.toNat_or, hshift, Nat.or_comm, Nat.mul_comm, ← Nat.two_pow_add_eq_or_of_lt hlow,
    Nat.add_comm]

theorem ip4_addr_toNat {octet0 octet1 octet2 octet3 : UInt32} (h0 : octet0.toNat ≤ 255)
    (h1 : octet1.toNat ≤ 255) (h2 : octet2.toNat ≤ 255) (h3 : octet3.toNat ≤ 255) :
    (ip4_addr octet0 octet1 octet2 octet3).toNat =
      octet0.toNat + octet1.toNat * 256 + octet2.toNat * 65536 + octet3.toNat * 16777216 := by
  have hone : (octet0 ||| octet1 <<< 8).toNat = octet0.toNat + octet1.toNat * 256 :=
    or_shiftLeft_toNat 8 (by omega) (by omega) (by omega)
  have htwo : (octet0 ||| octet1 <<< 8 ||| octet2 <<< 16).toNat =
      (octet0 ||| octet1 <<< 8).toNat + octet2.toNat * 65536 :=
    or_shiftLeft_toNat 16 (by omega) (by omega) (by omega)
  have hthree : (octet0 ||| octet1 <<< 8 ||| octet2 <<< 16 ||| octet3 <<< 24).toNat =
      (octet0 ||| octet1 <<< 8 ||| octet2 <<< 16).toNat + octet3.toNat * 16777216 :=
    or_shiftLeft_toNat 24 (by omega) (by omega) (by omega)
  unfold ip4_addr
  omega

/-- What `json_get_ip4_array` takes is an array of four octets. -/
theorem json_get_ip4_array_octets {item : cJSON} {value : UInt32}
    (hget : json_get_ip4_array item = some value) :
    ∃ part0 part1 part2 part3 octet0 octet1 octet2 octet3,
      item = .cJSON_Array [part0, part1, part2, part3] ∧
      json_get_u32_compat part0 255 = some octet0 ∧ json_get_u32_compat part1 255 = some octet1 ∧
      json_get_u32_compat part2 255 = some octet2 ∧ json_get_u32_compat part3 255 = some octet3 ∧
      value = ip4_addr octet0 octet1 octet2 octet3 := by
  unfold json_get_ip4_array at hget
  split at hget
  case h_1 part0 part1 part2 part3 =>
    simp only [Option.bind_eq_bind, Option.bind_eq_some_iff, Option.pure_def,
      Option.some.injEq] at hget
    obtain ⟨octet0, h0, octet1, h1, octet2, h2, octet3, h3, rfl⟩ := hget
    exact ⟨part0, part1, part2, part3, octet0, octet1, octet2, octet3, rfl, h0, h1, h2, h3, rfl⟩
  case h_2 => cases hget

end rtkbase.nvs_config
