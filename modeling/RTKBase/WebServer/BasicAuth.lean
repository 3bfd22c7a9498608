import RTKBase.Lib.Base64
import RTKBase.NvsConfig.Items

namespace rtkbase.web_server

open lib lib.cstring nvs_config

def AUTH_METHOD_OPEN : UInt8 := 0
def AUTH_METHOD_HOTSPOT : UInt8 := 1
def AUTH_METHOD_BASIC : UInt8 := 2

structure HttpdResp where
  status : String
  hdr : List (String × String)
  body : String
deriving DecidableEq

/-- The header fields of a request, as the HTTP server library gives them: a
length of 0 stands for a missing field too, and the value is copied into a
buffer `val` of `val_size` bytes only when the field is there. -/
structure HttpdHeaders (httpd_req_t : Type) where
  header : httpd_req_t → String → Option CString
  httpd_req_get_hdr_value_len : httpd_req_t → String → Nat
  httpd_req_get_hdr_value_str : httpd_req_t → String → List UInt8 → Nat → List UInt8
  len_of_found : ∀ req field value, header req field = some value →
    httpd_req_get_hdr_value_len req field = value.bytes.length
  len_of_missing : ∀ req field, header req field = none →
    httpd_req_get_hdr_value_len req field = 0
  str_of_found : ∀ req field value val val_size, header req field = some value →
    value.bytes.length < val_size →
      httpd_req_get_hdr_value_str req field val val_size =
        value.bytes ++ 0 :: val.drop (value.bytes.length + 1)
  str_of_missing : ∀ req field val val_size, header req field = none →
    httpd_req_get_hdr_value_str req field val val_size = val

/-- The static state behind the access control. `basic_authentication` is used
with `AUTH_METHOD_BASIC` only. -/
structure ServerAuth where
  auth_method : UInt8
  basic_authentication : List UInt8

/-- The user name and the password as `http_auth_basic_header` encodes them. -/
def user_info (username password : CString) : List UInt8 :=
  username.bytes ++ ascii ":" ++ password.bytes

section

variable (mbedtls_base64_encode : List UInt8 → List UInt8)

def http_auth_basic_header (username password : CString) : List UInt8 :=
  ascii "Basic " ++ mbedtls_base64_encode (user_info username password)

/-- The access control that `web_server_start` sets up. There is none when a
string cannot be read: its pointer is used uninitialised. -/
def web_server_start (store : Nvs) : Option ServerAuth :=
  let auth_method := (cfg_get_u8 store KEY_CONFIG_ADMIN_AUTH).getD AUTH_METHOD_OPEN
  if auth_method = AUTH_METHOD_BASIC then do
    let username ← cfg_get_str store KEY_CONFIG_ADMIN_USERNAME
    let password ← cfg_get_str store KEY_CONFIG_ADMIN_PASSWORD
    return ⟨auth_method, http_auth_basic_header mbedtls_base64_encode username password⟩
  else return ⟨auth_method, []⟩

end

section

variable {httpd_req_t : Type} (httpd : HttpdHeaders httpd_req_t)

def basicAuthRequired : HttpdResp where
  status := "401"
  hdr := [("WWW-Authenticate", "Basic realm=\"ESP32 XBee Config\"")]
  body := "401 Unauthorized - Incorrect or no password provided"

def hotspotAuthRequired : HttpdResp where
  status := "401"
  hdr := []
  body := "401 Unauthorized - Configured to only accept connections from hotspot devices"

/-- The length of the header and its NUL, in 32 bits. -/
def authorization_length (req : httpd_req_t) : UInt32 :=
  UInt32.ofNat (httpd.httpd_req_get_hdr_value_len req "Authorization") + 1

/-- `block` is the memory from the address on that `malloc` returns, if it
returns one. There is no result when a NULL pointer is read. -/
def basic_auth (s : ServerAuth) (req : httpd_req_t) (block : Option (List UInt8)) :
    Option (esp_err_t × Option HttpdResp) :=
  let length := authorization_length httpd req
  if length = 0 then some (.ESP_FAIL, some basicAuthRequired)
  else
    match block with
    | none => none
    | some memory =>
      let authorization_header :=
        httpd.httpd_req_get_hdr_value_str req "Authorization" memory length.toNat
      if strcasecmp s.basic_authentication (cstr authorization_header) then some (.ESP_OK, none)
      else some (.ESP_FAIL, some basicAuthRequired)

def hotspot_auth : esp_err_t × Option HttpdResp := (.ESP_FAIL, some hotspotAuthRequired)

def check_auth (s : ServerAuth) (req : httpd_req_t) (block : Option (List UInt8)) :
    Option (esp_err_t × Option HttpdResp) :=
  if s.auth_method = AUTH_METHOD_HOTSPOT then some hotspot_auth
  else if s.auth_method = AUTH_METHOD_BASIC then basic_auth httpd s req block
  else some (.ESP_OK, none)

/-- The test for a missing header never fires. -/
theorem authorization_length_ne_zero (req : httpd_req_t) : authorization_length httpd req ≠ 0 := by
  have hlen : httpd.httpd_req_get_hdr_value_len req "Authorization" < SIZE_MAX := by
    cases hheader : httpd.header req "Authorization" with
    | none =>
      rw [httpd.len_of_missing req _ hheader]
      decide
    | some value =>
      rw [httpd.len_of_found req _ value hheader]
      exact value.fits
  intro hzero
  have htoNat := congrArg UInt32.toNat hzero
  unfold SIZE_MAX at hlen
  simp only [authorization_length, UInt32.toNat_add, UInt32.toNat_ofNat'] at htoNat
  have hone : UInt32.toNat 1 = 1 := rfl
  have hnone : UInt32.toNat 0 = 0 := rfl
  omega

variable {httpd}

theorem authorization_length_of_found {req : httpd_req_t} {value : CString}
    (hheader : httpd.header req "Authorization" = some value) :
    (authorization_length httpd req).toNat = value.bytes.length + 1 := by
  have hfits := value.fits
  unfold SIZE_MAX at hfits
  rw [authorization_length, httpd.len_of_found req _ value hheader, UInt32.toNat_add,
    UInt32.toNat_ofNat']
  have hone : UInt32.toNat 1 = 1 := rfl
  omega

/-- A header that is there is compared up to case. -/
theorem basic_auth_of_found (s : ServerAuth) {req : httpd_req_t} {value : CString}
    (hheader : httpd.header req "Authorization" = some value) (block : Option (List UInt8)) :
    (∃ resp, basic_auth httpd s req block = some (.ESP_OK, resp)) ↔
      block.isSome ∧ strcasecmp s.basic_authentication value.bytes := by
  unfold basic_auth
  rw [if_neg (authorization_length_ne_zero httpd req), authorization_length_of_found hheader]
  cases block with
  | none => simp
  | some memory =>
    have hstr := httpd.str_of_found req "Authorization" value memory (value.bytes.length + 1)
      hheader (Nat.lt_succ_self _)
    simp only [hstr, cstr_terminated, cstr_of_nul_free value.nul_free]
    split <;> simp [*]

/-- Without a header the memory that was there before is compared. -/
theorem basic_auth_of_missing (s : ServerAuth) {req : httpd_req_t}
    (hheader : httpd.header req "Authorization" = none) (block : Option (List UInt8)) :
    (∃ resp, basic_auth httpd s req block = some (.ESP_OK, resp)) ↔
      ∃ memory, block = some memory ∧ strcasecmp s.basic_authentication (cstr memory) := by
  unfold basic_auth
  rw [if_neg (authorization_length_ne_zero httpd req)]
  cases block with
  | none => simp
  | some memory =>
    simp only [httpd.str_of_missing req _ _ _ hheader]
    split <;> simp [*]

end

/-- The header holds the credentials: the scheme Basic, in any case, and a base64
text of the user name and the password. -/
def ExactCredentials (username password : CString) (authorization : Option CString) : Prop :=
  ∃ value scheme text, authorization = some value ∧ value.bytes = scheme ++ text ∧
    strcasecmp scheme (ascii "Basic ") ∧
    base64.decode text = some (user_info username password)

theorem exactCredentials_iff (username password value : CString) :
    ExactCredentials username password (some value) ↔
      strcasecmp (value.bytes.take 6) (ascii "Basic ") ∧
      base64.decode (value.bytes.drop 6) = some (user_info username password) := by
  constructor
  · intro hexact
    obtain ⟨_, scheme, text, hvalue, hbytes, hscheme, hdecode⟩ := hexact
    cases hvalue
    have hsix : scheme.length = 6 := strcasecmp_length hscheme
    rw [hbytes, List.take_left' hsix, List.drop_left' hsix]
    exact ⟨hscheme, hdecode⟩
  · intro hexact
    exact ⟨value, _, _, rfl, (List.take_append_drop 6 value.bytes).symm, hexact.1, hexact.2⟩

/-- Nothing that is compared with the stored header looks like it and is not it:
no base64 text in the request with other letter cases than the stored one and,
where there is no header, no copy of the stored header in the block. -/
structure NoLookalike (username password : CString) (authorization : Option CString)
    (block : Option (List UInt8)) : Prop where
  sent : ∀ value memory, authorization = some value → block = some memory →
    strcasecmp (value.bytes.take 6) (ascii "Basic ") →
    strcasecmp (value.bytes.drop 6) (base64.encode (user_info username password)) →
    value.bytes.drop 6 = base64.encode (user_info username password)
  unsent : ∀ memory, authorization = none → block = some memory →
    ¬ strcasecmp (ascii "Basic " ++ base64.encode (user_info username password)) (cstr memory)

/-- With user name and password set, `basic_auth` admits exact credentials only,
exactly when nothing it compares is a lookalike. -/
theorem basic_auth_exact_iff {httpd_req_t : Type} (httpd : HttpdHeaders httpd_req_t)
    {mbedtls_base64_encode : List UInt8 → List UInt8} {store : Nvs} {username password : CString}
    (hencode : ∀ src, mbedtls_base64_encode src = base64.encode src)
    (hmethod : cfg_get_u8 store KEY_CONFIG_ADMIN_AUTH = some AUTH_METHOD_BASIC)
    (husername : cfg_get_str store KEY_CONFIG_ADMIN_USERNAME = some username)
    (hpassword : cfg_get_str store KEY_CONFIG_ADMIN_PASSWORD = some password) :
    ∃ s, web_server_start mbedtls_base64_encode store = some s ∧ ∀ req block,
      (((∃ resp, basic_auth httpd s req block = some (.ESP_OK, resp)) →
        ExactCredentials username password (httpd.header req "Authorization")) ↔
      NoLookalike username password (httpd.header req "Authorization") block) := by
  let stored := ascii "Basic " ++ base64.encode (user_info username password)
  refine ⟨⟨AUTH_METHOD_BASIC, stored⟩, ?_, fun req block => ?_⟩
  · simp [web_server_start, hmethod, husername, hpassword, http_auth_basic_header, hencode, stored]
  · cases hheader : httpd.header req "Authorization" with
    | none =>
      rw [basic_auth_of_missing _ hheader]
      constructor
      · intro hexact
        refine ⟨fun _ _ hvalue => (by cases hvalue), fun memory _ hblock hcase => ?_⟩
        obtain ⟨_, _, _, hvalue, _⟩ := hexact ⟨memory, hblock, hcase⟩
        cases hvalue
      · intro hlookalike hadmitted
        obtain ⟨memory, hblock, hcase⟩ := hadmitted
        exact absurd hcase (hlookalike.unsent memory rfl hblock)
    | some value =>
      rw [basic_auth_of_found _ hheader, exactCredentials_iff, strcasecmp_append_iff]
      constructor
      · intro hexact
        refine ⟨fun value' memory hvalue hblock hscheme htext => ?_,
          fun _ hvalue => (by cases hvalue)⟩
        cases hvalue
        obtain ⟨_, hdecode⟩ := hexact
          ⟨by simp [hblock], strcasecmp_symm hscheme, strcasecmp_symm htext⟩
        exact base64.decode_inj_of_strcasecmp htext hdecode (base64.decode_encode _)
      · intro hlookalike hadmitted
        obtain ⟨hblock, hscheme, htext⟩ := hadmitted
        obtain ⟨memory, hblock⟩ := Option.isSome_iff_exists.mp hblock
        refine ⟨strcasecmp_symm hscheme, ?_⟩
        rw [hlookalike.sent value memory rfl hblock (strcasecmp_symm hscheme)
          (strcasecmp_symm htext)]
        exact base64.decode_encode _

def sampleHeaders : HttpdHeaders (Option CString) where
  header req field := if field = "Authorization" then req else none
  httpd_req_get_hdr_value_len req field :=
    match if field = "Authorization" then req else none with
    | none => 0
    | some value => value.bytes.length
  httpd_req_get_hdr_value_str req field val val_size :=
    match if field = "Authorization" then req else none with
    | none => val
    | some value => value.bytes.take (val_size - 1) ++
        0 :: val.drop ((value.bytes.take (val_size - 1)).length + 1)
  len_of_found req field value hheader := by simp only [hheader]
  len_of_missing req field hheader := by simp only [hheader]
  str_of_found req field value val val_size hheader hsize := by
    simp only [hheader]
    rw [List.take_of_length_le (by omega)]
  str_of_missing req field val val_size hheader := by simp only [hheader]

def sampleStore : Nvs := fun key =>
  if key = KEY_CONFIG_ADMIN_AUTH then some (.u8 AUTH_METHOD_BASIC)
  else if key = KEY_CONFIG_ADMIN_USERNAME then some (.str (literal "admin"))
  else if key = KEY_CONFIG_ADMIN_PASSWORD then some (.str (literal "abc"))
  else none

/-- The password "abI" opens what "abc" locks. -/
theorem basic_auth_admits_wrong_password :
    ∃ s, web_server_start base64.encode sampleStore = some s ∧
      basic_auth sampleHeaders s (some (literal "Basic YWRtaW46YWJJ")) (some [0]) =
        some (.ESP_OK, none) ∧
      ¬ ExactCredentials (literal "admin") (literal "abc")
        (some (literal "Basic YWRtaW46YWJJ")) := by
  refine ⟨⟨AUTH_METHOD_BASIC, ascii "Basic YWRtaW46YWJj"⟩, ?_, ?_, ?_⟩
  · rfl
  · decide +kernel
  · rw [exactCredentials_iff]
    decide +kernel

/-- The request of a browser that knows the password. -/
theorem basic_auth_exact_of_right_password :
    ∃ s, web_server_start base64.encode sampleStore = some s ∧
      basic_auth sampleHeaders s (some (literal "Basic YWRtaW46YWJj")) (some [0]) =
        some (.ESP_OK, none) ∧
      ExactCredentials (literal "admin") (literal "abc")
        (some (literal "Basic YWRtaW46YWJj")) := by
  have hmethod : cfg_get_u8 sampleStore KEY_CONFIG_ADMIN_AUTH = some AUTH_METHOD_BASIC := rfl
  have husername : cfg_get_str sampleStore KEY_CONFIG_ADMIN_USERNAME =
      some (literal "admin") := rfl
  have hpassword : cfg_get_str sampleStore KEY_CONFIG_ADMIN_PASSWORD =
      some (literal "abc") := rfl
  obtain ⟨s, hstart, hexact⟩ := basic_auth_exact_iff sampleHeaders
    (fun _ : List UInt8 => Eq.refl (base64.encode _)) hmethod husername hpassword
  have hadmitted : basic_auth sampleHeaders s (some (literal "Basic YWRtaW46YWJj")) (some [0]) =
      some (.ESP_OK, none) := by
    cases hstart
    decide +kernel
  refine ⟨s, hstart, hadmitted, (hexact _ (some [0])).mpr ⟨?_, ?_⟩ ⟨none, hadmitted⟩⟩
  · intro value memory hvalue _ _ _
    cases hvalue
    decide +kernel
  · intro memory hvalue
    cases hvalue

end rtkbase.web_server
