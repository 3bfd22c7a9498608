import RTKBase.Boot
import RTKBase.NtripCaster.Access
import RTKBase.NvsConfig.History

namespace rtkbase

open lib lib.cstring lib.lts nvs_config web_server ntrip_caster

/-- The settings that say whom the web server and the caster admit. -/
structure GuardSettings where
  adminAuth : UInt8
  adminUsername : CString
  adminPassword : CString
  casterMountpoint : CString
  casterUsername : CString
  casterPassword : CString

/-- They are the ones last given. -/
structure GuardSettings.LastSet (g : GuardSettings) (actions : List ConfigAction) : Prop where
  adminAuth : (config_item_t.uint8 KEY_CONFIG_ADMIN_AUTH 0).LastSet actions (.u8 g.adminAuth)
  adminUsername :
    (config_item_t.str KEY_CONFIG_ADMIN_USERNAME "").LastSet actions (.str g.adminUsername)
  adminPassword :
    (config_item_t.secretStr KEY_CONFIG_ADMIN_PASSWORD "").LastSet actions (.str g.adminPassword)
  casterMountpoint :
    (config_item_t.str KEY_CONFIG_CASTER_MOUNTPOINT "").LastSet actions (.str g.casterMountpoint)
  casterUsername :
    (config_item_t.str KEY_CONFIG_CASTER_USERNAME "").LastSet actions (.str g.casterUsername)
  casterPassword :
    (config_item_t.secretStr KEY_CONFIG_CASTER_PASSWORD "").LastSet actions
      (.str g.casterPassword)

/-- They are the ones that are stored. -/
theorem GuardSettings.LastSet.stored {g : GuardSettings} {actions : List ConfigAction}
    {store : Nvs} (hlast : g.LastSet actions)
    (hruns : runs configStep Anywhere erased actions = some store) :
    store KEY_CONFIG_ADMIN_AUTH = some (.u8 g.adminAuth) ∧
      store KEY_CONFIG_ADMIN_USERNAME = some (.str g.adminUsername) ∧
      store KEY_CONFIG_ADMIN_PASSWORD = some (.str g.adminPassword) ∧
      store KEY_CONFIG_CASTER_PASSWORD = some (.str g.casterPassword) := by
  have hstored := fun item (hitem : item ∈ CONFIG_ITEMS) value =>
    (stored_iff_lastSet hruns hitem value).mpr
  refine ⟨hstored _ ?_ _ hlast.adminAuth, hstored _ ?_ _ hlast.adminUsername,
    hstored _ ?_ _ hlast.adminPassword, hstored _ ?_ _ hlast.casterPassword⟩
  all_goals simp [CONFIG_ITEMS]

section

variable {nvs_set : String → Bool} {actions : List ConfigAction} {store : Nvs}
  {item : config_item_t} (mac4 mac5 : UInt8)

variable (nvs_set) in
theorem runs_booted (hruns : runs configStep Anywhere erased actions = some store) :
    runs configStep Anywhere erased (actions ++ [.nvs_cfg_init nvs_set mac4 mac5]) =
      some (nvs_cfg_init nvs_set mac4 mac5 store) := by
  rw [runs_append, hruns]
  rfl

/-- After a boot whose calls to NVS succeed every setting has the value that it was last
given, which is one of its type. -/
theorem booted_setting (hset : ∀ key, nvs_set key = true)
    (hruns : runs configStep Anywhere erased actions = some store) (hitem : item ∈ CONFIG_ITEMS) :
    ∃ value, nvs_cfg_init nvs_set mac4 mac5 store item.key = some value ∧
      item.type.Holds value ∧ item.LastSet (actions ++ [.nvs_cfg_init nvs_set mac4 mac5]) value := by
  have hreach : Reach configStep Anywhere erased store := Reach.refl.runs hruns
  obtain ⟨value, hvalue, hholds⟩ := nvs_cfg_init_complete mac4 mac5 hset hreach item hitem
  have hboot := runs_booted nvs_set mac4 mac5 hruns
  exact ⟨value, hvalue, hholds, (stored_iff_lastSet hboot hitem value).mp hvalue⟩

theorem booted_u8 (hset : ∀ key, nvs_set key = true)
    (hruns : runs configStep Anywhere erased actions = some store) (hitem : item ∈ CONFIG_ITEMS)
    (htype : item.type = .TYPE_CFG_ITEM_UINT8) :
    ∃ value, cfg_get_u8 (nvs_cfg_init nvs_set mac4 mac5 store) item.key = some value ∧
      item.LastSet (actions ++ [.nvs_cfg_init nvs_set mac4 mac5]) (.u8 value) := by
  obtain ⟨value, hvalue, hholds, hlast⟩ := booted_setting mac4 mac5 hset hruns hitem
  rw [htype] at hholds
  cases value with
  | u8 value => exact ⟨value, by simp [cfg_get_u8, hvalue], hlast⟩
  | _ => cases hholds

theorem booted_str (hset : ∀ key, nvs_set key = true)
    (hruns : runs configStep Anywhere erased actions = some store) (hitem : item ∈ CONFIG_ITEMS)
    (htype : item.type = .TYPE_CFG_ITEM_STR ∨ item.type = .TYPE_CFG_ITEM_SECRET_STR) :
    ∃ value, cfg_get_str (nvs_cfg_init nvs_set mac4 mac5 store) item.key = some value ∧
      item.LastSet (actions ++ [.nvs_cfg_init nvs_set mac4 mac5]) (.str value) := by
  obtain ⟨value, hvalue, hholds, hlast⟩ := booted_setting mac4 mac5 hset hruns hitem
  cases value with
  | str value => exact ⟨value, by simp [cfg_get_str, hvalue], hlast⟩
  | _ => obtain htype | htype := htype <;> rw [htype] at hholds <;> cases hholds

end

/-- What is loaded are the strings that are stored, each cut to the room that it has. -/
theorem load_caster_config_given {cfg_get_u16 : String → Option UInt16}
    {cfg_get_str : String → Option (List UInt8)} {s_cfg : caster_config_t}
    (hload : load_caster_config cfg_get_u16 cfg_get_str = some s_cfg) :
    (cfg_get_str KEY_CONFIG_CASTER_MOUNTPOINT).map (strlcpy 32) = some s_cfg.mountpoint ∧
      (cfg_get_str KEY_CONFIG_CASTER_USERNAME).map (strlcpy 32) = some s_cfg.username ∧
      (cfg_get_str KEY_CONFIG_CASTER_PASSWORD).map (strlcpy 64) = some s_cfg.password := by
  unfold load_caster_config at hload
  simp only [Option.bind_eq_bind, Option.bind_eq_some_iff, Option.pure_def,
    Option.some.injEq] at hload
  obtain ⟨port, _, mountpoint, hmountpoint, username, husername, password, hpassword, rfl⟩ := hload
  exact ⟨hmountpoint, husername, hpassword⟩

/-- A string that is not empty is not cut to nothing. -/
theorem strlcpy_ne_nil {size : Nat} {s : CString} (hsize : 0 < size) (hs : s.bytes ≠ []) :
    (strlcpy size s.bytes).bytes ≠ [] := by
  simp only [strlcpy, cstr_of_nul_free s.nul_free]
  intro hnil
  rcases List.take_eq_nil_iff.mp hnil with hzero | hempty
  · omega
  · exact hs hempty

/-- `check_auth` lets in exactly the requests that present the text, up to case: in their
header or, without one, in the memory that `malloc` returns for it. -/
def AsksFor {httpd_req_t : Type} (httpd : HttpdHeaders httpd_req_t) (s : ServerAuth)
    (text : List UInt8) : Prop :=
  ∀ req block, (∃ resp, check_auth httpd s req block = some (.ESP_OK, resp)) ↔
    ∃ memory, block = some memory ∧
      strcasecmp text ((httpd.header req "Authorization").elim (cstr memory) (·.bytes))

theorem asks_for_header {httpd_req_t : Type} (httpd : HttpdHeaders httpd_req_t)
    (header : List UInt8) : AsksFor httpd ⟨AUTH_METHOD_BASIC, header⟩ header := by
  intro req block
  rw [check_auth, if_neg (show AUTH_METHOD_BASIC ≠ AUTH_METHOD_HOTSPOT by decide), if_pos rfl]
  cases hheader : httpd.header req "Authorization" with
  | none => exact basic_auth_of_missing _ hheader block
  | some value =>
    rw [basic_auth_of_found _ hheader block, Option.isSome_iff_exists]
    exact exists_and_right.symm

section

variable {nvs_set : String → Bool} {actions : List ConfigAction} {store : Nvs} (mac4 mac5 : UInt8)

/-- The access control of the web server is made from the settings. -/
theorem booted_web_server {mbedtls_base64_encode : List UInt8 → List UInt8} {g : GuardSettings}
    (hauth : cfg_get_u8 store KEY_CONFIG_ADMIN_AUTH = some g.adminAuth)
    (husername : cfg_get_str store KEY_CONFIG_ADMIN_USERNAME = some g.adminUsername)
    (hpassword : cfg_get_str store KEY_CONFIG_ADMIN_PASSWORD = some g.adminPassword) :
    web_server_start mbedtls_base64_encode store =
      some ⟨g.adminAuth, if g.adminAuth = AUTH_METHOD_BASIC then
        http_auth_basic_header mbedtls_base64_encode g.adminUsername g.adminPassword else []⟩ := by
  unfold web_server_start
  rw [hauth, husername, hpassword, Option.getD_some]
  dsimp only
  by_cases hbasic : g.adminAuth = AUTH_METHOD_BASIC
  · rw [if_pos hbasic, if_pos hbasic]
    rfl
  · rw [if_neg hbasic, if_neg hbasic]
    rfl

/-- After a boot whose calls to NVS succeed the settings that are stored are the ones last
given. -/
theorem booted_guard (hset : ∀ key, nvs_set key = true)
    (hruns : runs configStep Anywhere erased actions = some store) :
    ∃ g : GuardSettings, g.LastSet (actions ++ [.nvs_cfg_init nvs_set mac4 mac5]) ∧
      cfg_get_u8 (nvs_cfg_init nvs_set mac4 mac5 store) KEY_CONFIG_ADMIN_AUTH =
        some g.adminAuth ∧
      cfg_get_str (nvs_cfg_init nvs_set mac4 mac5 store) KEY_CONFIG_ADMIN_USERNAME =
        some g.adminUsername ∧
      cfg_get_str (nvs_cfg_init nvs_set mac4 mac5 store) KEY_CONFIG_ADMIN_PASSWORD =
        some g.adminPassword ∧
      cfg_get_str (nvs_cfg_init nvs_set mac4 mac5 store) KEY_CONFIG_CASTER_MOUNTPOINT =
        some g.casterMountpoint ∧
      cfg_get_str (nvs_cfg_init nvs_set mac4 mac5 store) KEY_CONFIG_CASTER_USERNAME =
        some g.casterUsername ∧
      cfg_get_str (nvs_cfg_init nvs_set mac4 mac5 store) KEY_CONFIG_CASTER_PASSWORD =
        some g.casterPassword := by
  have huint8 : config_item_t.uint8 KEY_CONFIG_ADMIN_AUTH 0 ∈ CONFIG_ITEMS := by
    simp [CONFIG_ITEMS]
  have hadmin_username : config_item_t.str KEY_CONFIG_ADMIN_USERNAME "" ∈ CONFIG_ITEMS := by
    simp [CONFIG_ITEMS]
  have hadmin_password : config_item_t.secretStr KEY_CONFIG_ADMIN_PASSWORD "" ∈ CONFIG_ITEMS := by
    simp [CONFIG_ITEMS]
  have hmountpoint : config_item_t.str KEY_CONFIG_CASTER_MOUNTPOINT "" ∈ CONFIG_ITEMS := by
    simp [CONFIG_ITEMS]
  have husername : config_item_t.str KEY_CONFIG_CASTER_USERNAME "" ∈ CONFIG_ITEMS := by
    simp [CONFIG_ITEMS]
  have hpassword : config_item_t.secretStr KEY_CONFIG_CASTER_PASSWORD "" ∈ CONFIG_ITEMS := by
    simp [CONFIG_ITEMS]
  obtain ⟨adminAuth, hadmin_auth, hlast_auth⟩ := booted_u8 mac4 mac5 hset hruns huint8 rfl
  obtain ⟨adminUsername, hadmin_username, hlast_name⟩ :=
    booted_str mac4 mac5 hset hruns hadmin_username (.inl rfl)
  obtain ⟨adminPassword, hadmin_password, hlast_word⟩ :=
    booted_str mac4 mac5 hset hruns hadmin_password (.inr rfl)
  obtain ⟨mountpoint, hmountpoint, hlast_mountpoint⟩ :=
    booted_str mac4 mac5 hset hruns hmountpoint (.inl rfl)
  obtain ⟨username, husername, hlast_username⟩ :=
    booted_str mac4 mac5 hset hruns husername (.inl rfl)
  obtain ⟨password, hpassword, hlast_password⟩ :=
    booted_str mac4 mac5 hset hruns hpassword (.inr rfl)
  exact ⟨⟨adminAuth, adminUsername, adminPassword, mountpoint, username, password⟩,
    ⟨hlast_auth, hlast_name, hlast_word, hlast_mountpoint, hlast_username, hlast_password⟩,
    hadmin_auth, hadmin_username, hadmin_password, hmountpoint, husername, hpassword⟩

end

/-- After any history of the configuration that ends with a boot, the web server asks an
administrator for the name and the password that were last given, up to the case of the
text in the header, and the caster, where a password was given, has sent the stream to
those only that sent a GET for the mountpoint and the name and the password last given,
each cut to the room that it has. A request without the header is judged by the memory that
the header would have been copied to. -/
theorem admitted_by_last_settings {httpd_req_t : Type} (httpd : HttpdHeaders httpd_req_t)
    {mbedtls_base64_encode : List UInt8 → List UInt8}
    (mbedtls_base64_decode : List UInt8 → Option (List UInt8))
    (hencode : ∀ src, mbedtls_base64_encode src = base64.encode src)
    {nvs_set : String → Bool} (mac4 mac5 : UInt8) {actions : List ConfigAction} {store : Nvs}
    (hset : ∀ key, nvs_set key = true)
    (hruns : runs configStep Anywhere erased actions = some store) :
    ∃ g : GuardSettings, g.LastSet (actions ++ [.nvs_cfg_init nvs_set mac4 mac5]) ∧
      (∃ s, web_server_start mbedtls_base64_encode (nvs_cfg_init nvs_set mac4 mac5 store) = some s ∧
        (g.adminAuth = AUTH_METHOD_BASIC → AsksFor httpd s (ascii "Basic " ++
          base64.encode (user_info g.adminUsername g.adminPassword)))) ∧
      ∃ s_cfg, load_caster_config (cfg_get_u16 (nvs_cfg_init nvs_set mac4 mac5 store))
          (fun key => (cfg_get_str (nvs_cfg_init nvs_set mac4 mac5 store) key).map (·.bytes)) =
            some s_cfg ∧
        s_cfg.mountpoint = strlcpy 32 g.casterMountpoint.bytes ∧
        s_cfg.username = strlcpy 32 g.casterUsername.bytes ∧
        s_cfg.password = strlcpy 64 g.casterPassword.bytes ∧
        (g.casterPassword.bytes ≠ [] → ∀ s_rovers sockets s, (∀ i, (s_rovers i).Blank) →
          Reach (serverStep s_cfg mbedtls_base64_decode) Anywhere (listening s_rovers sockets) s →
          ∀ i, (s.s_rovers i).state = .ROVER_STREAMING →
            Authorized s_cfg mbedtls_base64_decode (s.sockets (s.s_rovers i).fd).received) := by
  obtain ⟨g, hlast, hauth, hname, hword, hmountpoint, husername, hpassword⟩ :=
    booted_guard mac4 mac5 hset hruns
  refine ⟨g, hlast, ⟨_, booted_web_server hauth hname hword, fun hbasic => ?_⟩, ?_⟩
  · rw [hbasic, if_pos rfl, http_auth_basic_header, hencode]
    exact asks_for_header httpd _
  · obtain ⟨s_cfg, hload⟩ := load_caster_config_of_complete
      (nvs_cfg_init_complete mac4 mac5 hset (Reach.refl.runs hruns))
    obtain ⟨hgiven_mountpoint, hgiven_username, hgiven_password⟩ := load_caster_config_given hload
    rw [hmountpoint, Option.map_some, Option.map_some, Option.some.injEq] at hgiven_mountpoint
    rw [husername, Option.map_some, Option.map_some, Option.some.injEq] at hgiven_username
    rw [hpassword, Option.map_some, Option.map_some, Option.some.injEq] at hgiven_password
    refine ⟨s_cfg, hload, hgiven_mountpoint.symm, hgiven_username.symm, hgiven_password.symm, ?_⟩
    intro hgiven s_rovers sockets s hblank hreach i hstate
    have hsome : s_cfg.password.bytes ≠ [] := by
      rw [← hgiven_password]
      exact strlcpy_ne_nil (by decide) hgiven
    have hrequired := (load_caster_config_auth _ _ hload).2.mpr hsome
    have hadmission : Admission s_cfg mbedtls_base64_decode (s.offered i) (s.slot i) := by
      apply (admission_invariant hrequired).reach hblank _ hreach
      intro rover sock hrover
      exact ⟨fun h => by simp [hrover.state] at h, fun h => by simp [hrover.state] at h⟩
    exact hadmission.streaming hstate

/-- A form that sets a name and a password for the administrator and for the caster. -/
def admissionForm : List (CString × cJSON) :=
  [(literal KEY_CONFIG_ADMIN_AUTH, .cJSON_String (literal "2")),
    (literal KEY_CONFIG_ADMIN_USERNAME, .cJSON_String (literal "u")),
    (literal KEY_CONFIG_ADMIN_PASSWORD, .cJSON_String (literal "p")),
    (literal KEY_CONFIG_CASTER_MOUNTPOINT, .cJSON_String (literal "BASE")),
    (literal KEY_CONFIG_CASTER_USERNAME, .cJSON_String (literal "u")),
    (literal KEY_CONFIG_CASTER_PASSWORD, .cJSON_String (literal "p"))]

def admissionHistory : List ConfigAction :=
  [.nvs_cfg_init (fun _ => true) 171 205,
    .cfg_json_to_nvs allSucceed (some (.cJSON_Object admissionForm))]

/-- After the next boot a request with them in its header is let in, one with another
password is not, and a rover that logs in with them has sent them. -/
theorem admitted_by_last_settings_of_form : ∃ store,
    runs configStep Anywhere erased admissionHistory = some store ∧
      (∃ s, web_server_start base64.encode (nvs_cfg_init (fun _ => true) 171 205 store) = some s ∧
        (∃ resp, check_auth sampleHeaders s (some (literal "basic dTpw")) (some []) =
          some (.ESP_OK, resp)) ∧
        ¬ ∃ resp, check_auth sampleHeaders s (some (literal "basic dTpx")) (some []) =
          some (.ESP_OK, resp)) ∧
      ∃ s_cfg s, runs (serverStep s_cfg sampleDecode) Anywhere
          (listening (fun _ => blankRover) fun _ => ⟨false, [], [], 0⟩) loginRun = some s ∧
        (s.s_rovers 0).state = .ROVER_STREAMING ∧
        Authorized s_cfg sampleDecode (s.sockets (s.s_rovers 0).fd).received := by
  have hrun : (runs configStep Anywhere erased admissionHistory).map (fun store =>
      let booted := nvs_cfg_init (fun _ => true) 171 205 store
      (booted KEY_CONFIG_ADMIN_AUTH, booted KEY_CONFIG_ADMIN_USERNAME,
        booted KEY_CONFIG_ADMIN_PASSWORD, booted KEY_CONFIG_CASTER_PASSWORD,
        (load_caster_config (cfg_get_u16 booted)
          (fun key => (cfg_get_str booted key).map (·.bytes))).bind fun s_cfg =>
            (runs (serverStep s_cfg sampleDecode) Anywhere
              (listening (fun _ => blankRover) fun _ => ⟨false, [], [], 0⟩) loginRun).map
                fun s => (s.s_rovers 0).state)) =
      some (some (.u8 2), some (.str (literal "u")), some (.str (literal "p")),
        some (.str (literal "p")), some .ROVER_STREAMING) := by
    decide +kernel
  obtain ⟨store, hruns, heq⟩ := Option.map_eq_some_iff.mp hrun
  simp only [Prod.mk.injEq] at heq
  obtain ⟨hauth, husername, hpassword, hrover_password, hlogin⟩ := heq
  obtain ⟨g, hlast, ⟨s_auth, hstart, hasks⟩, s_cfg, hload, _, _, _, hrovers⟩ :=
    admitted_by_last_settings sampleHeaders sampleDecode (fun _ => Eq.refl (base64.encode _))
      171 205 (fun _ => Eq.refl true) hruns
  obtain ⟨hgiven_auth, hgiven_username, hgiven_password, hgiven_rover⟩ :=
    hlast.stored (runs_booted (fun _ => true) 171 205 hruns)
  rw [hauth, Option.some.injEq, NvsValue.u8.injEq] at hgiven_auth
  rw [husername, Option.some.injEq, NvsValue.str.injEq] at hgiven_username
  rw [hpassword, Option.some.injEq, NvsValue.str.injEq] at hgiven_password
  rw [hrover_password, Option.some.injEq, NvsValue.str.injEq] at hgiven_rover
  have hasks := hasks hgiven_auth.symm
  rw [← hgiven_username, ← hgiven_password] at hasks
  refine ⟨store, hruns, ⟨s_auth, hstart, ?_, fun hadmitted => ?_⟩, ?_⟩
  · exact (hasks (some (literal "basic dTpw")) (some [])).mpr ⟨[], rfl, by decide +kernel⟩
  · obtain ⟨memory, _, hsame⟩ := (hasks (some (literal "basic dTpx")) (some [])).mp hadmitted
    have hother : ¬ strcasecmp (ascii "Basic " ++ base64.encode (user_info (literal "u")
        (literal "p"))) (literal "basic dTpx").bytes := by
      decide +kernel
    exact hother hsame
  · rw [hload] at hlogin
    obtain ⟨s, hs, hstate⟩ := Option.map_eq_some_iff.mp hlogin
    exact ⟨s_cfg, s, hs, hstate, hrovers (by rw [← hgiven_rover]; decide) _ _ s
      (fun _ => blankRover_blank) (Reach.refl.runs hs) 0 hstate⟩

end rtkbase
