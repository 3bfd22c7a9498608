import RTKBase.NvsConfig.Given
import RTKBase.WebServer.BasicAuth

namespace rtkbase.web_server

open lib.cstring nvs_config

def BUFFER_SIZE : Nat := 2048

/-- The JSON library, as documented. `jsonText` gives the value of a complete
JSON text; `cJSON_Parse` returns NULL on any other text. Behind an object there
is only white space. -/
structure JsonLibrary where
  jsonText : List UInt8 → Option cJSON
  cJSON_Parse : List UInt8 → Option cJSON
  complete : ∀ text root, cJSON_Parse text = some root → jsonText text = some root
  closed : ∀ text rest root members, jsonText text = some root →
    jsonText (text ++ rest) = some (.cJSON_Object members) → root = .cJSON_Object members

/-- How the one call of `httpd_req_recv` ends: with up to `count` bytes of the
body, or an error. -/
inductive RecvResult where
  | received (count : Nat)
  | HTTPD_SOCK_ERR_TIMEOUT
  | HTTPD_SOCK_ERR_FAIL

/-- The calls of the handler that may fail. -/
structure PostResults where
  nvs : NvsResults
  httpd_resp_send : Bool
  xTaskCreate : Bool

inductive HttpdReply where
  | unauthorized (resp : HttpdResp)
  | httpd_resp_send_408
  | httpd_resp_send_err (error : String) (message : String)
  | json (text : String)
deriving DecidableEq

structure PostOutcome where
  ret : esp_err_t
  replies : List HttpdReply
  store : Nvs
  restart_scheduled : Bool

/-- A task that restarts the device is created once. -/
def schedule_restart (restart_scheduled xTaskCreate : Bool) : esp_err_t × Bool :=
  if restart_scheduled then (.ESP_OK, true)
  else if xTaskCreate then (.ESP_OK, true) else (.ESP_FAIL, false)

/-- The text in `buffer` when `cJSON_Parse` gets it. -/
def receivedText (body : List UInt8) (count : Nat) : List UInt8 :=
  cstr (body.take (min count (BUFFER_SIZE - 1)))

section

variable (parser : JsonLibrary) (results : PostResults)

/-- The handler behind `check_auth` and `httpd_req_recv`. -/
def configPostReceived (store : Nvs) (restart_scheduled : Bool) (text : List UInt8) :
    PostOutcome :=
  let saved := cfg_json_to_nvs results.nvs store (parser.cJSON_Parse text)
  if saved.2 ≠ .ESP_OK then
    ⟨.ESP_FAIL, [.httpd_resp_send_err "HTTPD_400_BAD_REQUEST" "Failed to save config from JSON"],
      saved.1, restart_scheduled⟩
  else if results.httpd_resp_send = false then ⟨.ESP_FAIL, [], saved.1, restart_scheduled⟩
  else
    let scheduled := schedule_restart restart_scheduled results.xTaskCreate
    ⟨scheduled.1, [.json "\x7b\"success\":true\x7d"], saved.1, scheduled.2⟩

variable {httpd_req_t : Type} (httpd : HttpdHeaders httpd_req_t)

def config_post_handler (s : ServerAuth) (req : httpd_req_t) (block : Option (List UInt8))
    (store : Nvs) (restart_scheduled : Bool) (body : List UInt8) (delivery : RecvResult) :
    Option PostOutcome :=
  match check_auth httpd s req block with
  | none => none
  | some (.ESP_FAIL, resp) =>
    some ⟨.ESP_FAIL, resp.toList.map .unauthorized, store, restart_scheduled⟩
  | some _ =>
    match delivery with
    | .HTTPD_SOCK_ERR_TIMEOUT =>
      some ⟨.ESP_FAIL, [.httpd_resp_send_408], store, restart_scheduled⟩
    | .HTTPD_SOCK_ERR_FAIL => some ⟨.ESP_FAIL, [], store, restart_scheduled⟩
    | .received count =>
      if body.take (min count (BUFFER_SIZE - 1)) = [] then
        some ⟨.ESP_FAIL, [], store, restart_scheduled⟩
      else
        some (configPostReceived parser results store restart_scheduled
          (receivedText body count))

end

section

variable {parser : JsonLibrary} {results : PostResults} {store : Nvs} {restart_scheduled : Bool}

theorem configPostReceived_ok {text : List UInt8}
    (hok : (configPostReceived parser results store restart_scheduled text).ret = .ESP_OK) :
    (cfg_json_to_nvs results.nvs store (parser.cJSON_Parse text)).2 = .ESP_OK ∧
      (configPostReceived parser results store restart_scheduled text).store =
        (cfg_json_to_nvs results.nvs store (parser.cJSON_Parse text)).1 ∧
      (configPostReceived parser results store restart_scheduled text).restart_scheduled =
        true := by
  unfold configPostReceived at hok ⊢
  dsimp only at hok ⊢
  split at hok
  case isTrue => cases hok
  case isFalse hsaved =>
    split at hok
    case isTrue => cases hok
    case isFalse hsent =>
      rw [if_neg hsaved, if_neg hsent]
      refine ⟨not_not.mp hsaved, rfl, ?_⟩
      unfold schedule_restart at hok ⊢
      cases restart_scheduled with
      | true => rfl
      | false =>
        cases hcreate : results.xTaskCreate with
        | true => simp
        | false => simp [hcreate] at hok

end

/-- The store holds what the members give for the settings, except for a secret
that is not to change. As in `cJSON_GetObjectItem`, of members whose names differ in
case only the first one counts, and a string ends at its first NUL. -/
def HoldsGiven (store : Nvs) (members : List (CString × cJSON)) : Prop :=
  ∀ item ∈ CONFIG_ITEMS, ∀ json,
    cJSON_GetObjectItem (some (.cJSON_Object members)) item.key = some json →
    ¬ (item.type = .TYPE_CFG_ITEM_SECRET_STR ∧ json = .cJSON_String CFG_VALUE_UNCHANGED) →
    ∃ value, item.type.Gives json value ∧ store item.key = some value

/-- No numeric setting among the members is negative, where again the first member of a
name counts, in any case of its letters. -/
def NonNegativeGiven (members : List (CString × cJSON)) : Prop :=
  ∀ item ∈ CONFIG_ITEMS, ∀ json,
    cJSON_GetObjectItem (some (.cJSON_Object members)) item.key = some json →
    item.type.NonNegative json

/-- The body is a JSON object and the store holds what it gives. -/
def Saved (parser : JsonLibrary) (body : List UInt8) (store : Nvs) : Prop :=
  ∃ members, parser.jsonText body = some (.cJSON_Object members) ∧ HoldsGiven store members

/-- The body is a JSON object, and either what was received of it is taken, with
no negative number, or all it gives is in the store already. -/
def TakenWhole (parser : JsonLibrary) (body : List UInt8) (count : Nat) (store : Nvs) : Prop :=
  ∃ members, parser.jsonText body = some (.cJSON_Object members) ∧
    ((parser.cJSON_Parse (receivedText body count)).isSome → NonNegativeGiven members) ∧
    (parser.cJSON_Parse (receivedText body count) = none → HoldsGiven store members)

/-- Items without errors are all stored, as given when they are not negative. -/
theorem holdsGiven_iff_of_saved {results : NvsResults} {store : Nvs}
    {members : List (CString × cJSON)}
    (hok : (cfg_json_to_nvs results store (some (.cJSON_Object members))).2 = .ESP_OK) :
    HoldsGiven (cfg_json_to_nvs results store (some (.cJSON_Object members))).1 members ↔
      NonNegativeGiven members := by
  constructor
  · intro hholds item hitem json hjson
    by_cases hsecret : item.type = .TYPE_CFG_ITEM_SECRET_STR ∧ json = .cJSON_String CFG_VALUE_UNCHANGED
    · intro part hpart
      rw [hsecret.1] at hpart
      cases hpart
    · obtain ⟨value, hgives, _⟩ := hholds item hitem json hjson hsecret
      exact hgives.nonNegative
  · intro hnonneg item hitem json hjson hsecret
    have hnofail := (cfg_json_to_nvs_ok_iff.mp hok).1 item hitem
    cases hparse : item.type.parse json with
    | invalid =>
      exact absurd (itemOutcome_fail.mpr ⟨json, hjson, .inl hparse⟩) hnofail
    | unchanged => exact absurd (config_item_type_t.parse_eq_unchanged hparse) hsecret
    | value value =>
      have hset : results.nvs_set item.key = true := by
        by_contra hset
        exact hnofail (itemOutcome_fail.mpr
          ⟨json, hjson, .inr ⟨value, hparse, eq_false_of_ne_true hset⟩⟩)
      exact ⟨value, config_item_type_t.gives_of_parse hparse (hnonneg item hitem json hjson),
        cfg_json_to_nvs_saved hitem hjson hparse hset⟩

theorem receivedText_prefix (body : List UInt8) (count : Nat) :
    ∃ rest, body = receivedText body count ++ rest := by
  obtain ⟨behind, hbehind⟩ := cstr_append_rest (body.take (min count (BUFFER_SIZE - 1)))
  refine ⟨behind ++ body.drop (min count (BUFFER_SIZE - 1)), ?_⟩
  rw [receivedText, ← List.append_assoc, ← hbehind, List.take_append_drop]

/-- What is taken of a body that is an object is that object. -/
theorem parsed_object {parser : JsonLibrary} {body : List UInt8} {count : Nat} {root : cJSON}
    {members : List (CString × cJSON)}
    (hparse : parser.cJSON_Parse (receivedText body count) = some root)
    (hbody : parser.jsonText body = some (.cJSON_Object members)) :
    root = .cJSON_Object members := by
  obtain ⟨rest, hrest⟩ := receivedText_prefix body count
  rw [hrest] at hbody
  exact parser.closed _ rest root members (parser.complete _ root hparse) hbody

theorem saved_iff_takenWhole {parser : JsonLibrary} {results : NvsResults} {store : Nvs}
    {body : List UInt8} {count : Nat}
    (hok : (cfg_json_to_nvs results store
      (parser.cJSON_Parse (receivedText body count))).2 = .ESP_OK) :
    Saved parser body (cfg_json_to_nvs results store
      (parser.cJSON_Parse (receivedText body count))).1 ↔ TakenWhole parser body count store := by
  apply exists_congr
  intro members
  apply and_congr_right
  intro hbody
  cases hparse : parser.cJSON_Parse (receivedText body count) with
  | none =>
    rw [cfg_json_to_nvs_null]
    simp
  | some root =>
    obtain rfl := parsed_object hparse hbody
    rw [hparse] at hok
    rw [holdsGiven_iff_of_saved hok]
    simp

theorem config_post_handler_ok {httpd_req_t : Type} {httpd : HttpdHeaders httpd_req_t}
    {parser : JsonLibrary} {results : PostResults} {s : ServerAuth} {req : httpd_req_t}
    {block : Option (List UInt8)} {store : Nvs} {restart_scheduled : Bool} {body : List UInt8}
    {delivery : RecvResult} {outcome : PostOutcome}
    (hhandler : config_post_handler parser results httpd s req block store restart_scheduled body
      delivery = some outcome)
    (hok : outcome.ret = .ESP_OK) :
    ∃ count, delivery = .received count ∧
      outcome = configPostReceived parser results store restart_scheduled
        (receivedText body count) := by
  unfold config_post_handler at hhandler
  split at hhandler
  case h_1 => cases hhandler
  case h_2 =>
    cases hhandler
    cases hok
  case h_3 =>
    split at hhandler
    case h_1 =>
      cases hhandler
      cases hok
    case h_2 =>
      cases hhandler
      cases hok
    case h_3 count =>
      split at hhandler
      case isTrue =>
        cases hhandler
        cases hok
      case isFalse =>
        cases hhandler
        exact ⟨count, rfl, rfl⟩

/-- A request that is answered with success, and restarts the device, has saved
its configuration exactly when its body was taken whole. -/
theorem config_saved_iff {httpd_req_t : Type} {httpd : HttpdHeaders httpd_req_t}
    {parser : JsonLibrary} {results : PostResults} {s : ServerAuth} {req : httpd_req_t}
    {block : Option (List UInt8)} {store : Nvs} {restart_scheduled : Bool} {body : List UInt8}
    {delivery : RecvResult} {outcome : PostOutcome}
    (hhandler : config_post_handler parser results httpd s req block store restart_scheduled body
      delivery = some outcome)
    (hok : outcome.ret = .ESP_OK) :
    outcome.restart_scheduled = true ∧ ∃ count, delivery = .received count ∧
      (Saved parser body outcome.store ↔ TakenWhole parser body count store) := by
  obtain ⟨count, hdelivery, rfl⟩ := config_post_handler_ok hhandler hok
  obtain ⟨hsaved, hstore, hscheduled⟩ := configPostReceived_ok hok
  refine ⟨hscheduled, count, hdelivery, ?_⟩
  rw [hstore]
  exact saved_iff_takenWhole hsaved

def sampleBody : List UInt8 := ascii "\x7b\"adm_user\":\"u\"\x7d"

def sampleMembers : List (CString × cJSON) :=
  [(literal KEY_CONFIG_ADMIN_USERNAME, .cJSON_String (literal "u"))]

/-- A parser on the one text of the requests below. -/
def sampleJson : JsonLibrary where
  jsonText text := if text = sampleBody then some (.cJSON_Object sampleMembers) else none
  cJSON_Parse text := if text = sampleBody then some (.cJSON_Object sampleMembers) else none
  complete _ _ hparse := hparse
  closed text rest root members htext hclosed := by
    split at htext
    case isFalse => cases htext
    case isTrue =>
      split at hclosed
      case isFalse => cases hclosed
      case isTrue =>
        cases htext
        cases hclosed
        rfl

def allSent : PostResults where
  nvs := allSucceed
  httpd_resp_send := true
  xTaskCreate := true

def openServer : ServerAuth := ⟨AUTH_METHOD_OPEN, []⟩

/-- Five bytes of the body arrive first. The request is answered with success and
nothing is stored. -/
theorem config_lost_after_short_recv :
    ∃ outcome, config_post_handler sampleJson allSent sampleHeaders openServer none none
        erased false sampleBody (.received 5) = some outcome ∧
      outcome.ret = .ESP_OK ∧ outcome.restart_scheduled = true ∧
      ¬ Saved sampleJson sampleBody outcome.store := by
  have hrun : (config_post_handler sampleJson allSent sampleHeaders openServer none none
      erased false sampleBody (.received 5)).map (fun outcome => (outcome.ret,
        outcome.restart_scheduled, outcome.store KEY_CONFIG_ADMIN_USERNAME)) =
        some (.ESP_OK, true, none) := by
    decide +kernel
  obtain ⟨outcome, houtcome, hshape⟩ := Option.map_eq_some_iff.mp hrun
  simp only [Prod.mk.injEq] at hshape
  obtain ⟨hret, hscheduled, hstore⟩ := hshape
  refine ⟨outcome, houtcome, hret, hscheduled, fun hsaved => ?_⟩
  obtain ⟨members, hbody, hholds⟩ := hsaved
  obtain rfl : members = sampleMembers := by
    simp only [sampleJson, if_true, Option.some.injEq, cJSON.cJSON_Object.injEq] at hbody
    exact hbody.symm
  obtain ⟨value, _, hvalue⟩ := hholds (.str KEY_CONFIG_ADMIN_USERNAME "") (by simp [CONFIG_ITEMS])
    (.cJSON_String (literal "u")) rfl (by simp [config_item_t.str])
  have hkey : (config_item_t.str KEY_CONFIG_ADMIN_USERNAME "").key = KEY_CONFIG_ADMIN_USERNAME :=
    rfl
  rw [hkey, hstore] at hvalue
  cases hvalue

/-- The whole body arrives at once. -/
theorem config_saved_of_whole_body :
    ∃ outcome, config_post_handler sampleJson allSent sampleHeaders openServer none none
        erased false sampleBody (.received 100) = some outcome ∧
      outcome.ret = .ESP_OK ∧ Saved sampleJson sampleBody outcome.store := by
  have hrun : (config_post_handler sampleJson allSent sampleHeaders openServer none none
      erased false sampleBody (.received 100)).map (·.ret) = some .ESP_OK := by
    decide +kernel
  obtain ⟨outcome, houtcome, hret⟩ := Option.map_eq_some_iff.mp hrun
  obtain ⟨_, count, hcount, hsaved⟩ := config_saved_iff houtcome hret
  cases hcount
  refine ⟨outcome, houtcome, hret, hsaved.mpr ⟨sampleMembers, ?_, fun _ => ?_, ?_⟩⟩
  · simp [sampleJson]
  · have hnumbers : ∀ item ∈ CONFIG_ITEMS,
        ((cJSON_GetObjectItem (some (.cJSON_Object sampleMembers)) item.key).map
          item.type.numbers).all List.isEmpty = true := by
      decide +kernel
    intro item hitem json hjson part hpart
    have hnone := hnumbers item hitem
    simp only [hjson, Option.map_some, Option.all_some, List.isEmpty_iff] at hnone
    rw [hnone] at hpart
    cases hpart
  · intro hnull
    have htext : receivedText sampleBody 100 = sampleBody := by decide +kernel
    simp [sampleJson, htext] at hnull

end rtkbase.web_server
