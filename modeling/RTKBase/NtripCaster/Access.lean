import RTKBase.NtripCaster.ServerRun

namespace rtkbase.ntrip_caster

open lib.cstring lib.lts frame_pool nvs_config

section

variable (s_cfg : caster_config_t) (mbedtls_base64_decode : List UInt8 → Option (List UInt8))

/-- What a connection must have sent to be let in: a first line that asks for
the mountpoint with GET, and credentials that decode to the configured ones. -/
structure Authorized (received : List UInt8) : Prop where
  method : strcasecmp (word received) (ascii "GET")
  path : strcasecmp (word (afterWord received)) (ascii "/" ++ s_cfg.mountpoint.bytes)
  ended : afterWord (afterWord received) ≠ []
  credentials : ∃ before header text rest decoded,
    received = before ++ (header ++ (text ++ rest)) ∧ strcasecmp header authHeader ∧
      mbedtls_base64_decode text = some decoded ∧
      cstr decoded = s_cfg.username.bytes ++ ascii ":" ++ s_cfg.password.bytes

variable {s_cfg mbedtls_base64_decode}

/-- What arrives later takes no authorization back. -/
theorem Authorized.append {received : List UInt8}
    (hauthorized : Authorized s_cfg mbedtls_base64_decode received) (more : List UInt8) :
    Authorized s_cfg mbedtls_base64_decode (received ++ more) := by
  have hended := hauthorized.ended
  have hfirst : afterWord received ≠ [] := by
    intro hnil
    rw [hnil] at hended
    exact hended rfl
  obtain ⟨hword, hafter⟩ := word_append hfirst more
  obtain ⟨hword', hafter'⟩ := word_append hended more
  refine ⟨?_, ?_, ?_, ?_⟩
  · rw [hword]
    exact hauthorized.method
  · rw [hafter, hword']
    exact hauthorized.path
  · rw [hafter, hafter']
    simp [hended]
  · obtain ⟨before, header, text, rest, decoded, rfl, hheader, hdecoded, hbytes⟩ :=
      hauthorized.credentials
    exact ⟨before, header, text, rest ++ more, decoded, by simp, hheader, hdecoded, hbytes⟩

/-- The method and the path are words of the request when they are as short as
those compared with. -/
theorem requestLine_words {req : List UInt8}
    (hmethod : strcasecmp (requestLine req).1 (ascii "GET"))
    (hpath : (requestLine req).2 ≠ []) (hshort : (requestLine req).2.length < 63) :
    (requestLine req).1 = word req ∧ (requestLine req).2 = word (afterWord req) := by
  have hthree := strcasecmp_length hmethod
  unfold requestLine at hmethod hpath hshort hthree ⊢
  split at hmethod
  case h_1 hscan =>
    simp [hscan] at hpath
  case h_2 method rest hscan =>
    simp only [hscan] at hthree hpath hshort ⊢
    cases hscan' : scanS 63 rest with
    | none => simp [hscan'] at hpath
    | some found =>
      obtain ⟨path, rest'⟩ := found
      simp only [hscan'] at hthree hpath hshort ⊢
      have hlen : method.length < 7 := by
        rw [hthree]
        decide
      obtain ⟨hword, rfl⟩ := scanS_some hscan hlen
      exact ⟨hword, (scanS_some hscan' hshort).1⟩

/-- The header's name is a word too long to be the method. -/
theorem longWord_of_authHeader {before header rest : List UInt8}
    (hheader : strcasecmp header authHeader) : LongWord 3 (before ++ (header ++ rest)) := by
  have hspace := isspace_of_strcasecmp hheader
  have hname : (header.take 14).map isspace = List.replicate 14 false := by
    rw [List.map_take, hspace]
    decide
  have hlen : (header.take 14).length = 14 := by
    rw [← List.length_map isspace, hname, List.length_replicate]
  have hbehind : (header.drop 14).map isspace = [true, false, false, false, false, false, true] := by
    rw [List.map_drop, hspace]
    decide
  obtain ⟨c, tail, htail, hc, _⟩ := List.map_eq_cons_iff.mp hbehind
  refine ⟨before, header.take 14, c, tail ++ rest, ?_, by omega, fun b hb => ?_, hc⟩
  · rw [← List.cons_append, ← htail, ← List.append_assoc (header.take 14),
      List.take_append_drop]
  · have hmem : isspace b ∈ (header.take 14).map isspace := List.mem_map_of_mem hb
    rw [hname] at hmem
    exact List.eq_of_mem_replicate hmem

theorem authToken_prefix (auth_hdr : List UInt8) :
    ∃ rest, auth_hdr = authToken auth_hdr ++ rest := by
  unfold authToken
  split
  case h_1 => exact ⟨auth_hdr, rfl⟩
  case h_2 stop _ =>
    rw [List.take_take]
    exact ⟨_, (List.take_append_drop _ auth_hdr).symm⟩

/-- With a password set, only credentials that decode to the configured ones
are valid. -/
theorem auth_valid_decodes {b64 : List UInt8} (hrequired : s_cfg.auth_required = true)
    (hvalid : auth_valid mbedtls_base64_decode s_cfg b64 = true) :
    ∃ decoded, mbedtls_base64_decode b64 = some decoded ∧
      cstr decoded = s_cfg.username.bytes ++ ascii ":" ++ s_cfg.password.bytes := by
  have husername := s_cfg.username.fits
  have hpassword := s_cfg.password.fits
  have hexpected : (s_cfg.username.bytes ++ ascii ":" ++ s_cfg.password.bytes).take 127 =
      s_cfg.username.bytes ++ ascii ":" ++ s_cfg.password.bytes := by
    apply List.take_of_length_le
    have hcolon : (ascii ":").length = 1 := rfl
    simp only [List.length_append, hcolon]
    omega
  unfold auth_valid at hvalid
  rw [hexpected] at hvalid
  cases hloaded : s_cfg.loaded <;> simp only [hloaded, hrequired, Bool.not_true, Bool.not_false,
    if_true, Bool.false_eq_true, if_false] at hvalid
  split at hvalid
  case h_1 => cases hvalid
  case h_2 decoded hdecoded =>
    split at hvalid
    case isTrue => exact ⟨decoded, hdecoded, eq_of_beq hvalid⟩
    case isFalse => cases hvalid

/-- With a password set, `handle_request` accepts authorized requests only. -/
theorem authorized_of_accepted {req : List UInt8} (hrequired : s_cfg.auth_required = true)
    (haccepted : (requestDecision mbedtls_base64_decode s_cfg req).accepted = true) :
    Authorized s_cfg mbedtls_base64_decode req := by
  have hmountpoint := s_cfg.mountpoint.fits
  have hslash : (ascii "/").length = 1 := rfl
  have hexpected : (ascii "/" ++ s_cfg.mountpoint.bytes).take 71 =
      ascii "/" ++ s_cfg.mountpoint.bytes := by
    apply List.take_of_length_le
    rw [List.length_append, hslash]
    omega
  unfold requestDecision at haccepted
  simp only [hexpected, hrequired, if_true] at haccepted
  split at haccepted
  case isTrue => cases haccepted
  case isFalse hmethod =>
    rw [not_not] at hmethod
    split at haccepted
    case isTrue => cases haccepted
    case isFalse =>
      split at haccepted
      case isTrue => cases haccepted
      case isFalse hpath =>
        rw [not_not] at hpath
        have hlen := strcasecmp_length hpath
        rw [List.length_append, hslash] at hlen
        obtain ⟨hword, hword'⟩ := requestLine_words hmethod
          (fun hnil => by rw [hnil, List.length_nil] at hlen; omega) (by omega)
        split at haccepted
        case h_1 => cases haccepted
        case h_2 found hfound =>
          split at haccepted
          case isFalse => cases haccepted
          case isTrue hvalid =>
            obtain ⟨decoded, hdecoded, hbytes⟩ := auth_valid_decodes hrequired hvalid
            obtain ⟨before, header, hreq, hheader⟩ := stristr_some hfound
            obtain ⟨rest, hrest⟩ := authToken_prefix (found.drop authHeader.length)
            refine ⟨hword ▸ hmethod, hword' ▸ hpath, fun hend => ?_,
              before, header, _, rest, decoded, hrest ▸ hreq, hheader, hdecoded, hbytes⟩
            have hthree := strcasecmp_length hmethod
            rw [hword] at hthree
            have hlong : LongWord 3 req := hreq ▸ longWord_of_authHeader hheader
            exact not_longWord_of_two_words (Nat.le_of_eq hthree) hend hlong

variable (s_cfg mbedtls_base64_decode) in
/-- During the handshake `rx_buf` holds what the connection has sent; a
streaming slot's connection is authorized. -/
structure Admission (_offered : List (List UInt8)) (c : RoverSlot) : Prop where
  handshake : c.rover.state = .ROVER_HANDSHAKE →
    c.rover.rx_buf.take c.rover.rx_pos = c.sock.received ∧
      c.rover.rx_pos = c.sock.received.length
  streaming : c.rover.state = .ROVER_STREAMING →
    Authorized s_cfg mbedtls_base64_decode c.sock.received

/-- The request that `handle_request` sees is what the connection has sent, up
to the first NUL. -/
theorem storeRequest_cstr {c : RoverSlot} (bytes : List UInt8)
    (hbuffer : c.rover.rx_buf.take c.rover.rx_pos = c.sock.received) :
    ∃ rest, (c.storeRequest bytes).sock.received =
      cstr (c.storeRequest bytes).rover.rx_buf ++ rest := by
  have hstored : cstr (c.storeRequest bytes).rover.rx_buf = cstr (c.sock.received ++ bytes) := by
    simp only [RoverSlot.storeRequest, hbuffer]
    rw [← List.append_assoc, cstr_terminated]
  rw [hstored]
  exact cstr_append_rest (c.sock.received ++ bytes)

theorem admission_invariant (hrequired : s_cfg.auth_required = true) :
    SlotInvariant s_cfg mbedtls_base64_decode (Admission s_cfg mbedtls_base64_decode) where
  free hempty _ := ⟨fun hstate => by simp [hempty] at hstate, fun hstate => by simp [hempty] at hstate⟩
  accept _ _ := ⟨fun _ => ⟨rfl, rfl⟩, fun hstate => by simp [acceptRover] at hstate⟩
  service := by
    intro offered c c' received results hadmission hservice
    cases serviceRover_cases hservice with
    | same => exact hadmission
    | @request c' bytes hstate hroom hrequest =>
      obtain ⟨hbuffer, hpos⟩ := hadmission.handshake hstate
      cases hrequest with
      | more hshort =>
        refine ⟨fun _ => ⟨?_, ?_⟩, fun hstreaming => ?_⟩
        · have hlen : c.rover.rx_pos + bytes.length = (c.sock.received ++ bytes).length := by
            rw [List.length_append, hpos]
          simp only [RoverSlot.storeRequest, hbuffer]
          rw [← List.append_assoc, hlen, List.take_left']
          rfl
        · simp [RoverSlot.storeRequest, hpos]
        · rw [RoverSlot.storeRequest, hstate] at hstreaming
          cases hstreaming
      | closed => constructor <;> simp [close_rover]
      | accepted haccepted =>
        refine ⟨fun hhandshake => by simp [RoverSlot.startStreaming] at hhandshake, fun _ => ?_⟩
        obtain ⟨rest, hrest⟩ := storeRequest_cstr bytes hbuffer
        have hauthorized := (authorized_of_accepted hrequired haccepted).append rest
        rwa [← hrest] at hauthorized
    | drain hstate =>
      refine ⟨fun hhandshake => ?_, fun _ => (hadmission.streaming hstate).append _⟩
      rw [hstate] at hhandshake
      cases hhandshake
    | closed => constructor <;> simp [close_rover]
  forward := by
    intro offered c c' frame results hadmission hforward
    cases forwardToRover_sent hforward with
    | same hrover hsock =>
      obtain ⟨buf, len, pos, hrover⟩ := hrover
      obtain ⟨sent, hsock⟩ := hsock
      constructor
      · rw [hrover, hsock]
        exact hadmission.handshake
      · rw [hrover, hsock]
        exact hadmission.streaming
    | closed hfd hstate =>
      exact ⟨fun h => by simp [hstate] at h, fun h => by simp [hstate] at h⟩

end

/-- With a caster password stored, in every run of `task_ntrip_server` the
connection of a streaming slot has sent, since it was accepted, a GET for the
mountpoint and the configured credentials. -/
theorem rover_streaming_authorized {cfg_get_u16 : String → Option UInt16}
    {cfg_get_str : String → Option (List UInt8)} {s_cfg : caster_config_t}
    {mbedtls_base64_decode : List UInt8 → Option (List UInt8)}
    {s_rovers : Fin MAX_ROVERS → rover_conn_t} {sockets : Int → Socket} {s : Server}
    (hload : load_caster_config cfg_get_u16 cfg_get_str = some s_cfg)
    (hpassword : s_cfg.password.bytes ≠ []) (hblank : ∀ i, (s_rovers i).Blank)
    (hreach : Reach (serverStep s_cfg mbedtls_base64_decode) Anywhere
      (listening s_rovers sockets) s) (i : Fin MAX_ROVERS)
    (hstate : (s.s_rovers i).state = .ROVER_STREAMING) :
    Authorized s_cfg mbedtls_base64_decode (s.sockets (s.s_rovers i).fd).received := by
  have hrequired := (load_caster_config_auth cfg_get_u16 cfg_get_str hload).2.mpr hpassword
  have hadmission : Admission s_cfg mbedtls_base64_decode (s.offered i) (s.slot i) := by
    apply (admission_invariant hrequired).reach hblank _ hreach
    intro rover sock hrover
    exact ⟨fun h => by simp [hrover.state] at h, fun h => by simp [hrover.state] at h⟩
  exact hadmission.streaming hstate

def storedStr (key : String) : Option (List UInt8) :=
  if key = KEY_CONFIG_CASTER_MOUNTPOINT then some (ascii "BASE")
  else if key = KEY_CONFIG_CASTER_USERNAME then some (ascii "u")
  else if key = KEY_CONFIG_CASTER_PASSWORD then some (ascii "p")
  else none

def securedCaster : caster_config_t where
  loaded := true
  auth_required := true
  port := 2101
  mountpoint := strlcpy 32 (ascii "BASE")
  identifier := sanitize_sourcetable_field (strlcpy 32 (ascii "RTK Base"))
  username := strlcpy 32 (ascii "u")
  password := strlcpy 64 (ascii "p")

/-- The decoder on the one token of the run below. -/
def sampleDecode (b64 : List UInt8) : Option (List UInt8) :=
  if b64 = ascii "dTpw" then some (ascii "u:p") else none

/-- A rover logs in with a request that arrives in two pieces. -/
def loginRun : List ServerAction :=
  [.accept 5 [], .service (.data (ascii "get /base HTTP/1.0\r\nauthorization: ba")) [],
    .notReady, .notReady, .notReady, .queueEmpty, .noClient,
    .service (.data (ascii "sic dTpw\r\n\r\n")) [.sent 14]]

theorem rover_streaming_authorized_of_login :
    ∃ s, runs (serverStep securedCaster sampleDecode) Anywhere
        (listening (fun _ => blankRover) fun _ => ⟨false, [], [], 0⟩) loginRun = some s ∧
      (s.s_rovers 0).state = .ROVER_STREAMING ∧
      Authorized securedCaster sampleDecode (s.sockets (s.s_rovers 0).fd).received := by
  have hload : load_caster_config (fun _ => some 2101) storedStr = some securedCaster := rfl
  have hrun : (runs (serverStep securedCaster sampleDecode) Anywhere
      (listening (fun _ => blankRover) fun _ => ⟨false, [], [], 0⟩) loginRun).map
      (fun s => (s.s_rovers 0).state) = some .ROVER_STREAMING := by
    decide +kernel
  obtain ⟨s, hs, hstate⟩ := Option.map_eq_some_iff.mp hrun
  exact ⟨s, hs, hstate, rover_streaming_authorized hload (by decide)
    (fun _ => blankRover_blank) (Reach.refl.runs hs) 0 hstate⟩

end rtkbase.ntrip_caster
