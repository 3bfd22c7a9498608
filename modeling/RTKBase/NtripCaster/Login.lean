import RTKBase.Lib.Base64
import RTKBase.NtripCaster.AcceptResponse

namespace rtkbase.ntrip_caster

open lib.cstring nvs_config

/-- A word in front of a blank does not belong to the header, unless a `b` follows
the blank. -/
theorem stristr_authHeader_word {w : List UInt8} (hw : ∀ b ∈ w, isspace b = false) {d : UInt8}
    (hd : tolower d ≠ 98) (rest : List UInt8) :
    stristr (w ++ 32 :: d :: rest) authHeader = stristr (d :: rest) authHeader := by
  induction w with
  | nil =>
    rw [List.nil_append, stristr_cons, if_neg]
    intro hhere
    exact absurd (List.cons.inj hhere).1 (by decide)
  | cons b w ih =>
    rw [List.cons_append, stristr_cons, if_neg, ih fun c hc => hw c (List.mem_cons_of_mem _ hc)]
    intro hhere
    -- The first blank of the header is its fifteenth character, and a `B` follows it.
    have hget : ∀ i < 21, ((b :: w ++ 32 :: d :: rest)[i]?).map tolower =
        (authHeader[i]?).map tolower := by
      intro i hi
      have hmap := congrArg (fun l => l[i]?) hhere
      simp only [List.getElem?_map, List.getElem?_take] at hmap
      rwa [if_pos (show i < authHeader.length from hi)] at hmap
    have hspace : ∀ c : UInt8, isspace c = false → some (tolower c) ≠ some 32 := by
      intro c hc heq
      have hblank := isspace_tolower c
      rw [Option.some.inj heq, hc] at hblank
      exact absurd hblank (by decide)
    obtain hlt | heq | hgt : (b :: w).length < 14 ∨ (b :: w).length = 14 ∨ 14 < (b :: w).length := by
      omega
    · have hblank := hget (b :: w).length (by omega)
      rw [List.getElem?_append_right (Nat.le_refl _), Nat.sub_self] at hblank
      have hnot : ∀ i < 14, (authHeader[i]?).map tolower ≠ some 32 := by decide
      exact hnot _ hlt hblank.symm
    · have hletter := hget 15 (by decide)
      rw [List.getElem?_append_right (by omega), heq] at hletter
      exact hd (Option.some.inj hletter)
    · have hletter := hget 14 (by decide)
      rw [List.getElem?_append_left hgt, List.getElem?_eq_getElem hgt] at hletter
      exact hspace _ (hw _ (List.getElem_mem hgt)) hletter

/-- The token of a header line that ends is its text, up to the size of the array. -/
theorem authToken_line {text : List UInt8} (htext : 13 ∉ text) (rest : List UInt8) :
    authToken (text ++ 13 :: rest) = text.take 127 := by
  have hfind : strstr (text ++ 13 :: rest) [13] = some (13 :: rest) := by
    induction text with
    | nil =>
      have hhere : [13] <+: 13 :: rest := List.prefix_append [13] rest
      rw [List.nil_append, strstr_cons, if_pos hhere]
    | cons b text ih =>
      obtain ⟨hb, htext⟩ := not_or.mp (mt List.mem_cons.mpr htext)
      rw [List.cons_append, strstr_cons, if_neg, ih htext]
      intro hbegins
      exact hb (List.cons_prefix_cons.mp hbegins).1
  unfold authToken
  rw [hfind]
  dsimp only
  rw [List.length_append, Nat.add_sub_cancel_right, List.take_left]

section

variable (s_cfg : caster_config_t)

/-- The credentials of a configuration, as a client encodes them. -/
def userPassword : List UInt8 :=
  s_cfg.username.bytes ++ ascii ":" ++ s_cfg.password.bytes

/-- The request of a client that knows the mountpoint and the credentials. -/
def loginRequest : List UInt8 :=
  ascii "GET /" ++ s_cfg.mountpoint.bytes ++ ascii " HTTP/1.1\r\n" ++
    ascii "Authorization: Basic " ++ lib.base64.encode (userPassword s_cfg) ++ ascii "\r\n\r\n"

variable {s_cfg}

theorem userPassword_nul_free : ∀ b ∈ userPassword s_cfg, b ≠ 0 := by
  intro b hb
  unfold userPassword at hb
  obtain hb | hb := List.mem_append.mp hb
  · obtain hb | hb := List.mem_append.mp hb
    · exact s_cfg.username.nul_free b hb
    · exact List.mem_singleton.mp hb ▸ (by decide)
  · exact s_cfg.password.nul_free b hb

variable (s_cfg) in
theorem userPassword_length : (userPassword s_cfg).length =
    s_cfg.username.bytes.length + 1 + s_cfg.password.bytes.length := by
  unfold userPassword
  rw [List.length_append, List.length_append]
  rfl

/-- The request by its words and lines. -/
theorem loginRequest_words : loginRequest s_cfg =
    ascii "GET" ++ 32 :: 47 :: (s_cfg.mountpoint.bytes ++ 32 :: 72 :: (ascii "TTP/1.1" ++ 13 :: 10 ::
      (authHeader ++ (lib.base64.encode (userPassword s_cfg) ++ 13 :: 10 :: 13 :: [10])))) := by
  have hmethod : ascii "GET /" = ascii "GET" ++ [32, 47] := by decide
  have hversion : ascii " HTTP/1.1\r\n" = 32 :: 72 :: ascii "TTP/1.1" ++ [13, 10] := by decide
  have hend : ascii "\r\n\r\n" = [13, 10, 13, 10] := by decide
  unfold loginRequest
  rw [hmethod, hversion, hend]
  simp only [List.append_assoc, List.cons_append, List.nil_append]
  rfl

variable (mbedtls_base64_decode : List UInt8 → Option (List UInt8))

/-- The header of the request is found, and its token is the encoded text cut to
its array. -/
theorem credentials_login (hmountpoint : ∀ b ∈ s_cfg.mountpoint.bytes, isspace b = false) :
    credentials mbedtls_base64_decode s_cfg (loginRequest s_cfg) =
      auth_valid mbedtls_base64_decode s_cfg
        ((lib.base64.encode (userPassword s_cfg)).take 127) := by
  have hpath : ∀ b ∈ 47 :: s_cfg.mountpoint.bytes, isspace b = false :=
    List.forall_mem_cons.mpr ⟨by decide, hmountpoint⟩
  have hline : ∀ c : UInt8, c = 13 ∨ c = 10 → tolower c ∉ authHeader.map tolower := by
    rintro c (rfl | rfl) <;> decide
  have hget : ∀ b ∈ ascii "GET", isspace b = false := nonspace_of_all (by decide)
  have hne : authHeader ≠ [] := by decide
  have hfind : stristr (loginRequest s_cfg) authHeader =
      some (authHeader ++ (lib.base64.encode (userPassword s_cfg) ++ 13 :: 10 :: 13 :: [10])) := by
    rw [loginRequest_words, stristr_authHeader_word hget (by decide), ← List.cons_append,
      stristr_authHeader_word hpath (by decide), ← List.cons_append,
      stristr_separator (hline 13 (.inl rfl)) hne,
      show stristr (72 :: ascii "TTP/1.1") authHeader = none by decide]
    dsimp only
    rw [← List.nil_append (10 :: _), stristr_separator (hline 10 (.inr rfl)) hne]
    exact stristr_append (by decide) _
  have hclear : 13 ∉ lib.base64.encode (userPassword s_cfg) := fun h =>
    absurd (lib.base64.encode_printable h) (by decide)
  unfold credentials
  rw [hfind]
  dsimp only
  rw [List.drop_left, authToken_line hclear]

/-- The request asks for the mountpoint. -/
theorem asks_login (hne : s_cfg.mountpoint.bytes ≠ [])
    (hmountpoint : ∀ b ∈ s_cfg.mountpoint.bytes, isspace b = false) :
    Asks s_cfg (loginRequest s_cfg) := by
  have hpath : ∀ b ∈ 47 :: s_cfg.mountpoint.bytes, isspace b = false :=
    List.forall_mem_cons.mpr ⟨by decide, hmountpoint⟩
  rw [loginRequest_words]
  obtain ⟨hmethod, hafter⟩ := word_of_nonspace (w := ascii "GET")
    (nonspace_of_all (by decide)) (by decide)
    (c := 32) rfl (47 :: (s_cfg.mountpoint.bytes ++ 32 :: 72 :: (ascii "TTP/1.1" ++ 13 :: 10 ::
      (authHeader ++ (lib.base64.encode (userPassword s_cfg) ++ 13 :: 10 :: 13 :: [10])))))
  obtain ⟨hword, _⟩ := word_of_nonspace hpath (List.cons_ne_nil _ _) (c := 32) rfl
    (72 :: (ascii "TTP/1.1" ++ 13 :: 10 ::
      (authHeader ++ (lib.base64.encode (userPassword s_cfg) ++ 13 :: 10 :: 13 :: [10]))))
  have hsecond := (word_space (c := 32) rfl (47 :: (s_cfg.mountpoint.bytes ++ 32 :: 72 ::
    (ascii "TTP/1.1" ++ 13 :: 10 :: (authHeader ++
      (lib.base64.encode (userPassword s_cfg) ++ 13 :: 10 :: 13 :: [10])))))).1
  rw [List.cons_append] at hword
  have hslash : ascii "/" = [47] := by decide
  unfold Asks
  rw [hmethod, hafter, hsecond, hword, hslash]
  refine ⟨rfl, fun h => hne (List.cons.inj h).2, rfl⟩

/-- A text that encodes as many bytes as there is room for in the token is valid
as the encoded credentials, and a text cut by the array is not. -/
theorem auth_valid_login (hloaded : s_cfg.loaded = true) (hrequired : s_cfg.auth_required = true)
    (hinverts : ∀ src, mbedtls_base64_decode (lib.base64.encode src) = some src)
    (hgroups : ∀ text bytes, mbedtls_base64_decode text = some bytes →
      bytes.length ≤ text.length / 4 * 3) :
    auth_valid mbedtls_base64_decode s_cfg ((lib.base64.encode (userPassword s_cfg)).take 127) =
      true ↔ (userPassword s_cfg).length ≤ 93 := by
  have husername := s_cfg.username.fits
  have hpassword := s_cfg.password.fits
  have hlen := userPassword_length s_cfg
  have hencoded := lib.base64.encode_length (userPassword s_cfg)
  have hexpected : (s_cfg.username.bytes ++ ascii ":" ++ s_cfg.password.bytes).take 127 =
      userPassword s_cfg :=
    List.take_of_length_le (show (userPassword s_cfg).length ≤ 127 by omega)
  unfold auth_valid
  simp only [hloaded, hrequired, Bool.not_true, Bool.false_eq_true, if_false, hexpected]
  by_cases hfits : (userPassword s_cfg).length ≤ 93
  · rw [List.take_of_length_le (show _ ≤ 127 by omega), hinverts]
    dsimp only
    rw [if_pos (by omega), cstr_of_nul_free userPassword_nul_free, beq_self_eq_true]
    exact iff_of_true rfl hfits
  · refine iff_of_false ?_ hfits
    cases hdecode : mbedtls_base64_decode
        ((lib.base64.encode (userPassword s_cfg)).take 127) with
    | none => exact Bool.false_ne_true
    | some decoded =>
      have hshort := hgroups _ _ hdecode
      rw [List.length_take, Nat.min_eq_left (by omega)] at hshort
      dsimp only
      split
      case isTrue =>
        intro hequal
        have hbegins := (List.takeWhile_prefix (p := (· ≠ 0)) (l := decoded)).length_le
        have hsame : (cstr decoded).length = (userPassword s_cfg).length :=
          congrArg List.length (eq_of_beq hequal)
        unfold cstr at hsame
        omega
      case isFalse => exact Bool.false_ne_true

/-- Texts that the socket takes at once are all sent. -/
theorem sendTexts_returns (sock : Socket) (texts : List (List UInt8)) :
    ∃ results sock', ∀ more, sendTexts sock texts (results ++ more) = some (true, sock', more) := by
  induction texts generalizing sock with
  | nil => exact ⟨[], sock, fun more => rfl⟩
  | cons data texts ih =>
    obtain ⟨results, sock', hrest⟩ := ih (sock.transmit data 0 data.length)
    obtain ⟨pieces, hpieces, hsum⟩ : ∃ pieces : List (Nat × Nat),
        (∀ p ∈ pieces, p.1 ≤ HANDSHAKE_SEND_RETRIES ∧ 0 < p.2) ∧
          0 + (pieces.map Prod.snd).sum = data.length := by
      by_cases hempty : data.length = 0
      · exact ⟨[], by simp, by simp [hempty]⟩
      · exact ⟨[(0, data.length)], by simp; omega, by simp⟩
    refine ⟨(pieces.flatMap fun p => List.replicate p.1 .again ++ [.sent p.2]) ++ results, sock',
      fun more => ?_⟩
    unfold sendTexts send_all_nonblocking
    rw [List.append_assoc, sendLoop_of_pieces pieces hpieces hsum]
    exact hrest more

variable (s_cfg) in
theorem handle_request_returns (c : RoverSlot) :
    ∃ results c', handle_request s_cfg mbedtls_base64_decode c results =
      some ((requestDecision mbedtls_base64_decode s_cfg (cstr c.rover.rx_buf)).accepted, c') := by
  obtain ⟨results, sock, hsend⟩ := sendTexts_returns c.sock
    ((requestDecision mbedtls_base64_decode s_cfg (cstr c.rover.rx_buf)).texts s_cfg
      (cstr c.rover.rx_buf))
  have hwhole := hsend []
  rw [List.append_nil] at hwhole
  refine ⟨results, ⟨{ c.rover with is_ntrip_v2 := asksV2 (cstr c.rover.rx_buf) }, sock⟩, ?_⟩
  unfold handle_request
  dsimp only
  rw [hwhole]
  rfl

end

section

variable {cfg_get_u16 : String → Option UInt16} {cfg_get_str : String → Option (List UInt8)}
  {s_cfg : caster_config_t} {mbedtls_base64_decode : List UInt8 → Option (List UInt8)}

/-- A rover with the configured credentials gets in exactly when the user name and
the password have 92 bytes at most, so that with the colon and encoded they fit
the token. Of the decoder it is used that it inverts the encoding, and that it
makes three bytes at most of each group of four characters. -/
theorem login_accepted (hload : load_caster_config cfg_get_u16 cfg_get_str = some s_cfg)
    (hpassword : s_cfg.password.bytes ≠ []) (hne : s_cfg.mountpoint.bytes ≠ [])
    (hmountpoint : ∀ b ∈ s_cfg.mountpoint.bytes, isspace b = false)
    (hinverts : ∀ src, mbedtls_base64_decode (lib.base64.encode src) = some src)
    (hgroups : ∀ text bytes, mbedtls_base64_decode text = some bytes →
      bytes.length ≤ text.length / 4 * 3)
    {c : RoverSlot} (hreq : cstr c.rover.rx_buf = loginRequest s_cfg) :
    (∃ results ok c', handle_request s_cfg mbedtls_base64_decode c results = some (ok, c')) ∧
    ∀ results ok c', handle_request s_cfg mbedtls_base64_decode c results = some (ok, c') →
      (ok = true ↔ s_cfg.username.bytes.length + s_cfg.password.bytes.length ≤ 92) := by
  obtain ⟨hloaded, hauth⟩ := load_caster_config_auth _ _ hload
  have hrequired := hauth.mpr hpassword
  have hvalid := auth_valid_login mbedtls_base64_decode hloaded hrequired hinverts hgroups
  have hlen := userPassword_length s_cfg
  constructor
  · obtain ⟨results, c', hhandle⟩ := handle_request_returns s_cfg mbedtls_base64_decode c
    exact ⟨results, _, c', hhandle⟩
  · intro results ok c' hhandle
    have hcredentials := credentials_login mbedtls_base64_decode hmountpoint
    rw [(handle_request_spec hhandle).1, hreq,
      requestDecision_asks _ _ (asks_login hne hmountpoint), hcredentials]
    constructor
    · intro haccepted
      by_contra hlong
      have hnot : auth_valid mbedtls_base64_decode s_cfg
          ((lib.base64.encode (userPassword s_cfg)).take 127) = false := by
        rw [← Bool.not_eq_true, hvalid]
        omega
      rw [if_pos ⟨hrequired, hnot⟩] at haccepted
      cases haccepted
    · intro hshort
      rw [hvalid.mpr (by omega), if_neg (by simp)]
      unfold acceptedAs
      split <;> rfl

end

/-- The stored values of a caster with credentials. -/
def storedLogin (username password : List UInt8) (key : String) : Option (List UInt8) :=
  if key = KEY_CONFIG_CASTER_MOUNTPOINT then some (ascii "BASE")
  else if key = KEY_CONFIG_CASTER_USERNAME then some username
  else if key = KEY_CONFIG_CASTER_PASSWORD then some password
  else some []

def loginSlot (s_cfg : caster_config_t) : RoverSlot :=
  ⟨{ blankRover with
      state := .ROVER_HANDSHAKE
      rx_buf := loginRequest s_cfg ++
        List.replicate (ROVER_REQ_BUF_SIZE - (loginRequest s_cfg).length) 0
      rx_pos := (loginRequest s_cfg).length }, acceptedSocket⟩

theorem login_accepted_short :
    ∃ s_cfg : caster_config_t, ∃ results c',
      load_caster_config (fun _ => some 2101) (storedLogin (ascii "rover") (ascii "secret")) =
        some s_cfg ∧
      handle_request s_cfg lib.base64.decode (loginSlot s_cfg) results = some (true, c') := by
  have hconfig : ∃ s_cfg : caster_config_t,
      load_caster_config (fun _ => some 2101) (storedLogin (ascii "rover") (ascii "secret")) =
        some s_cfg ∧ s_cfg.mountpoint.bytes = ascii "BASE" ∧ s_cfg.username.bytes = ascii "rover" ∧
      s_cfg.password.bytes = ascii "secret" ∧
      cstr (loginSlot s_cfg).rover.rx_buf = loginRequest s_cfg :=
    ⟨_, rfl, by decide, by decide, by decide, by decide +kernel⟩
  obtain ⟨s_cfg, hload, hmountpoint, husername, hpassword, hreq⟩ := hconfig
  obtain ⟨⟨results, ok, c', hhandle⟩, hiff⟩ := login_accepted hload (by rw [hpassword]; decide)
    (by rw [hmountpoint]; decide) (by rw [hmountpoint]; exact nonspace_of_all (by decide))
    lib.base64.decode_encode
    (fun text bytes => lib.base64.decode_length) hreq
  have hok : ok = true := (hiff results ok c' hhandle).mpr (by rw [husername, hpassword]; decide)
  subst hok
  exact ⟨s_cfg, results, c', hload, hhandle⟩

/-- A user name of 30 bytes and a password of 64. -/
theorem login_refused_long :
    ∃ s_cfg : caster_config_t, ∃ results c',
      load_caster_config (fun _ => some 2101)
        (storedLogin (List.replicate 30 117) (List.replicate 64 112)) = some s_cfg ∧
      cstr (loginSlot s_cfg).rover.rx_buf = loginRequest s_cfg ∧
      handle_request s_cfg lib.base64.decode (loginSlot s_cfg) results = some (false, c') := by
  have hconfig : ∃ s_cfg : caster_config_t,
      load_caster_config (fun _ => some 2101)
        (storedLogin (List.replicate 30 117) (List.replicate 64 112)) = some s_cfg ∧
      cstr (loginSlot s_cfg).rover.rx_buf = loginRequest s_cfg ∧
      (requestDecision lib.base64.decode s_cfg (cstr (loginSlot s_cfg).rover.rx_buf)).accepted =
        false :=
    ⟨_, rfl, by decide +kernel, by decide +kernel⟩
  obtain ⟨s_cfg, hload, hreq, hrefused⟩ := hconfig
  obtain ⟨results, c', hhandle⟩ := handle_request_returns s_cfg lib.base64.decode (loginSlot s_cfg)
  rw [hrefused] at hhandle
  exact ⟨s_cfg, results, c', hload, hreq, hhandle⟩

end rtkbase.ntrip_caster
