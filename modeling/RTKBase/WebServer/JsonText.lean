import Mathlib.Algebra.Order.Ring.Nat
import RTKBase.NvsConfig.Export
import RTKBase.WebServer.ConfigPost

namespace rtkbase.web_server

open lib.cstring nvs_config

def lowerHexDigit (n : UInt8) : UInt8 := if n < 10 then 48 + n else 87 + n

/-- How a byte of a string is written in a JSON text. -/
def escape (b : UInt8) : List UInt8 :=
  if b = 34 ∨ b = 92 then [92, b]
  else if b = 8 then [92, 98]
  else if b = 12 then [92, 102]
  else if b = 10 then [92, 110]
  else if b = 13 then [92, 114]
  else if b = 9 then [92, 116]
  else if b < 32 then [92, 117, 48, 48, lowerHexDigit (b / 16), lowerHexDigit (b % 16)]
  else [b]

def quoted (s : CString) : List UInt8 := 34 :: s.bytes.flatMap escape ++ [34]

/-- The printing half of the JSON library, as documented: the compact text of a
tree, and the call that writes it to a given array. That call may ask for up to
five bytes more than the text and its terminator take. -/
structure JsonPrinter where
  cJSON_PrintUnformatted : cJSON → List UInt8
  cJSON_PrintPreallocated : cJSON → Nat → Option (List UInt8)
  spare : Nat
  spare_le : spare ≤ 5
  preallocated : ∀ root size, cJSON_PrintPreallocated root size =
    if (cJSON_PrintUnformatted root).length + 1 + spare ≤ size then
      some (cJSON_PrintUnformatted root)
    else none
  null_text : cJSON_PrintUnformatted .cJSON_NULL = ascii "null"
  bool_text : ∀ value : Bool, cJSON_PrintUnformatted (.cJSON_Bool value) =
    ascii (if value then "true" else "false")
  number_text : ∀ number : Int, number.natAbs < 10 ^ 15 →
    cJSON_PrintUnformatted (.cJSON_Number (.finite number)) = ascii (toString number)
  string_text : ∀ s, cJSON_PrintUnformatted (.cJSON_String s) = quoted s
  array_text : ∀ items, cJSON_PrintUnformatted (.cJSON_Array items) =
    91 :: [44].intercalate (items.map cJSON_PrintUnformatted) ++ [93]
  object_text : ∀ members, cJSON_PrintUnformatted (.cJSON_Object members) =
    123 :: [44].intercalate (members.map fun member =>
      quoted member.1 ++ 58 :: cJSON_PrintUnformatted member.2) ++ [125]

inductive PageReply where
  | unauthorized (resp : HttpdResp)
  | httpd_resp_send_err (error : String) (message : String)
  | httpd_resp_send (text : List UInt8)
deriving DecidableEq

def notEnoughSpace : PageReply :=
  .httpd_resp_send_err "HTTPD_500_INTERNAL_SERVER_ERROR" "Not enough space in buffer to output JSON"

/-- What the calls of the server return. -/
structure PageResults where
  httpd_resp_set_type : esp_err_t
  httpd_resp_send : esp_err_t

section

variable (printer : JsonPrinter)

def json_response (results : PageResults) (root : cJSON) : esp_err_t × List PageReply :=
  if results.httpd_resp_set_type ≠ .ESP_OK then (results.httpd_resp_set_type, [])
  else
    match printer.cJSON_PrintPreallocated root BUFFER_SIZE with
    | none => (.ESP_FAIL, [notEnoughSpace])
    | some text => (results.httpd_resp_send, [.httpd_resp_send (cstr text)])

/-- A handler that answers with a JSON page, with what `check_auth` returned. The
page is `none` when memory never written would get into it. -/
def pageHandler (root : Option cJSON) (results : PageResults)
    (auth : esp_err_t × Option HttpdResp) : Option (esp_err_t × List PageReply) :=
  match auth with
  | (.ESP_FAIL, resp) => some (.ESP_FAIL, resp.toList.map .unauthorized)
  | _ => root.map (json_response printer results)

/-- The text of a page fits in `buffer` with its terminator, and its handler never
runs out of space. -/
def Shown (root : cJSON) (handler : PageResults → esp_err_t × Option HttpdResp →
    Option (esp_err_t × List PageReply)) : Prop :=
  (printer.cJSON_PrintUnformatted root).length + 1 ≤ BUFFER_SIZE ∧
    ∀ results auth outcome, handler results auth = some outcome → notEnoughSpace ∉ outcome.2

/-- The length of a number that need not be whole. -/
def numberSize (number : double) : Nat :=
  (printer.cJSON_PrintUnformatted (.cJSON_Number number)).length

end

/-- The characters that a byte of a string takes. -/
def escapeSize (b : UInt8) : Nat :=
  if 92 < b ∨ 34 < b ∧ b < 92 then 1
  else if b = 34 ∨ b = 92 ∨ b = 8 ∨ b = 12 ∨ b = 10 ∨ b = 13 ∨ b = 9 then 2
  else if b < 32 then 6 else 1

def escapedSize (bytes : List UInt8) : Nat := (bytes.map escapeSize).sum

def stringSize (s : CString) : Nat := escapedSize s.bytes + 2

def boolSize (value : Bool) : Nat := if value then 4 else 5

/-- The digits of a whole number, with its sign. -/
def intSize (number : Int) : Nat := (ascii (toString number)).length

def jsonInt (number : Int) : cJSON := .cJSON_Number (.finite number)

/-- An object built member by member. -/
def jsonObject (members : List (String × cJSON)) : cJSON :=
  .cJSON_Object (members.map fun member => (literal member.1, member.2))

/-- The characters of an array or an object around parts with separators. -/
def enclosedSize (parts : List Nat) : Nat := if parts = [] then 2 else 1 + (parts.map (· + 1)).sum

/-- The characters of an object that are not of its values. -/
def keysSize (keys : List String) : Nat :=
  1 + (keys.map fun key => escapedSize (literal key).bytes + 4).sum

theorem escape_length (b : UInt8) : (escape b).length = escapeSize b := by
  unfold escape escapeSize
  split_ifs <;> grind

theorem quoted_length (s : CString) : (quoted s).length = stringSize s := by
  have hescape : (fun b => (escape b).length) = escapeSize := funext escape_length
  rw [quoted, List.cons_append, List.length_cons, List.length_append, List.length_flatMap, hescape]
  rfl

/-- Each part between two separators is counted with one of them. -/
theorem intercalate_length {α : Type} (separator : α) (parts : List (List α)) :
    ([separator].intercalate parts).length + 2 = enclosedSize (parts.map List.length) := by
  induction parts with
  | nil => rfl
  | cons part rest ih =>
    cases rest with
    | nil =>
      simp only [enclosedSize, List.intercalate_singleton, List.map_cons, List.map_nil, List.sum_cons,
        List.sum_nil, reduceCtorEq, if_false]
      omega
    | cons next rest =>
      rw [List.intercalate_cons_cons, List.length_append, List.length_append]
      simp only [enclosedSize, List.map_cons, List.sum_cons, List.length_singleton, reduceCtorEq,
        if_false] at ih ⊢
      omega

section

variable (printer : JsonPrinter)

theorem bool_length (value : Bool) :
    (printer.cJSON_PrintUnformatted (.cJSON_Bool value)).length = boolSize value := by
  rw [printer.bool_text]
  cases value <;> rfl

theorem int_length {number : Int} (hsmall : number.natAbs < 10 ^ 15) :
    (printer.cJSON_PrintUnformatted (jsonInt number)).length = intSize number := by
  rw [jsonInt, printer.number_text number hsmall, intSize]

theorem string_length (s : CString) :
    (printer.cJSON_PrintUnformatted (.cJSON_String s)).length = stringSize s := by
  rw [printer.string_text, quoted_length]

theorem array_length (items : List cJSON) :
    (printer.cJSON_PrintUnformatted (.cJSON_Array items)).length =
      enclosedSize (items.map fun item => (printer.cJSON_PrintUnformatted item).length) := by
  have hjoined := intercalate_length (44 : UInt8) (items.map printer.cJSON_PrintUnformatted)
  rw [List.map_map] at hjoined
  rw [printer.array_text, List.cons_append, List.length_cons, List.length_append,
    List.length_singleton, Nat.add_assoc, hjoined]
  rfl

theorem object_length (members : List (CString × cJSON)) :
    (printer.cJSON_PrintUnformatted (.cJSON_Object members)).length =
      enclosedSize (members.map fun member => escapedSize member.1.bytes + 3 +
        (printer.cJSON_PrintUnformatted member.2).length) := by
  have hjoined := intercalate_length (44 : UInt8) (members.map fun member =>
    quoted member.1 ++ 58 :: printer.cJSON_PrintUnformatted member.2)
  rw [List.map_map] at hjoined
  rw [printer.object_text, List.cons_append, List.length_cons, List.length_append,
    List.length_singleton, Nat.add_assoc, hjoined]
  congr 1
  apply List.map_congr_left
  intro member _
  rw [Function.comp_apply, List.length_append, List.length_cons, quoted_length,
    stringSize]
  omega

/-- Every member brings its key, its value and four characters around them. -/
theorem jsonObject_members {members : List (String × cJSON)} (hmembers : members ≠ []) :
    (printer.cJSON_PrintUnformatted (jsonObject members)).length =
      1 + (members.map fun member => escapedSize (literal member.1).bytes + 4 +
        (printer.cJSON_PrintUnformatted member.2).length).sum := by
  rw [jsonObject, object_length, enclosedSize, if_neg (by simpa using hmembers), List.map_map,
    List.map_map]
  congr 2
  apply List.map_congr_left
  intro member _
  simp only [Function.comp_apply]
  omega

theorem jsonObject_length {members : List (String × cJSON)} (hmembers : members ≠ []) :
    (printer.cJSON_PrintUnformatted (jsonObject members)).length =
      keysSize (members.map Prod.fst) +
        (members.map fun member => (printer.cJSON_PrintUnformatted member.2).length).sum := by
  rw [jsonObject_members printer hmembers, keysSize, Nat.add_assoc, List.map_map,
    ← List.sum_map_add]
  rfl

/-- The library writes the text of a page exactly if there is room for it, its
terminator and what the library wants to spare. -/
theorem shown_iff (root : cJSON) :
    Shown printer root (pageHandler printer (some root)) ↔
      (printer.cJSON_PrintUnformatted root).length + 1 + printer.spare ≤ BUFFER_SIZE := by
  constructor
  · rintro ⟨_, hspace⟩
    by_contra hshort
    have houtcome : pageHandler printer (some root) ⟨.ESP_OK, .ESP_OK⟩ (.ESP_OK, none) =
        some (.ESP_FAIL, [notEnoughSpace]) := by
      simp [pageHandler, json_response, printer.preallocated, hshort]
    exact hspace _ _ _ houtcome (List.mem_singleton_self _)
  · intro hroom
    refine ⟨by omega, fun results auth outcome houtcome => ?_⟩
    unfold pageHandler at houtcome
    split at houtcome
    case h_1 resp =>
      cases houtcome
      cases resp <;> simp [notEnoughSpace]
    case h_2 =>
      cases houtcome
      unfold json_response
      split
      case isTrue => simp
      case isFalse => simp [printer.preallocated, hroom, notEnoughSpace]

end

end rtkbase.web_server
