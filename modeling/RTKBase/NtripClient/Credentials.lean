import Mathlib.Data.List.TakeDrop
import RTKBase.Lib.HttpHead
import RTKBase.NtripClient.Connect

namespace rtkbase.ntrip_client

open lib lib.cstring lib.http

/-- Standard base64 into a buffer that has room for a terminator too. -/
def encodeInto (size : Nat) (src : List UInt8) : Option (List UInt8) :=
  if (base64.encode src).length < size then some (base64.encode src) else none

/-- A user and a password as they are encoded. -/
def userPassword (username password : List UInt8) : List UInt8 :=
  username ++ ascii ":" ++ password

/-- The version 2 request up to its `Authorization` field. -/
def opening (uplink : ntrip_uplink_t) : List UInt8 :=
  ascii "POST /" ++ uplink.mountpoint ++ ascii " HTTP/1.1\r\n" ++
    ascii "Host: " ++ uplink.host ++ ascii ":" ++ ascii (toString uplink.port.toNat) ++
    ascii "\r\n" ++ ascii "Ntrip-Version: Ntrip/2.0\r\n" ++ ascii "User-Agent: NTRIP RTKBase/1.0"

/-- The `Authorization` fields of a message. -/
def authorizations (text : List UInt8) : List (List UInt8) :=
  fields (ascii "Authorization") text

/-- A message has an `Authorization` field, and none says something else. -/
def Carries (text credentials : List UInt8) : Prop :=
  authorizations text ≠ [] ∧
    ∀ value ∈ authorizations text, basicCredentials value = some credentials

/-- The length of the request, from its parts. -/
def requestLength (uplink : ntrip_uplink_t) (credentials : List UInt8) : Nat :=
  (opening uplink).length + 4 * ((min 127 credentials.length + 2) / 3) + 52

/-- What the request says depends on what the mountpoint and the host make of the
text in front of its own field: where they end the head, that has to carry the
credentials, and otherwise the buffer has to hold them. -/
def Delivers (uplink : ntrip_uplink_t) (credentials : List UInt8) : Prop :=
  if [] ∈ lines [] (opening uplink) then Carries (opening uplink) credentials
  else credentials.length ≤ 127 ∧
    ∀ value ∈ authorizations (opening uplink), basicCredentials value = some credentials

section

variable {mbedtls_base64_encode : Nat → List UInt8 → Option (List UInt8)}
  {uplink : ntrip_uplink_t} {username password : List UInt8}

theorem encodedCredentials_eq
    (hencode : ∀ size src, mbedtls_base64_encode size src = encodeInto size src)
    (huser : uplink.username = some username) (hpass : uplink.password = some password) :
    encodedCredentials mbedtls_base64_encode uplink =
      base64.encode ((userPassword username password).take 127) := by
  have hlength : (base64.encode ((userPassword username password).take 127)).length < 192 := by
    rw [base64.encode_length, List.length_take]
    omega
  have hfree : ∀ b ∈ base64.encode ((userPassword username password).take 127), b ≠ 0 := by
    rintro b hb rfl
    exact absurd (base64.encode_printable hb) (by decide)
  have hstored : mbedtls_base64_encode 192 ((userPassword username password).take 127) =
      some (base64.encode ((userPassword username password).take 127)) := by
    rw [hencode, encodeInto, if_pos hlength]
  have hsome : uplink.username ≠ none ∨ uplink.password ≠ none := by
    rw [huser]
    exact .inl (Option.some_ne_none username)
  rw [encodedCredentials, if_pos hsome, huser, hpass]
  change base64_encode_str mbedtls_base64_encode ((userPassword username password).take 127) 192 = _
  rw [base64_encode_str, hstored]
  exact (if_neg (Nat.not_le_of_lt hlength)).trans (cstr_of_nul_free hfree)

theorem take_ne_nil : (userPassword username password).take 127 ≠ [] := by
  simp [userPassword, ascii]

theorem encode_ne_nil {src : List UInt8} (hsrc : src ≠ []) : base64.encode src ≠ [] := by
  intro hnil
  have hlength := base64.encode_length src
  have hpos : 0 < src.length := List.length_pos_iff.mpr hsrc
  rw [hnil, List.length_nil] at hlength
  omega

/-- The text of the request in lines. -/
theorem requestV2_eq
    (hencode : ∀ size src, mbedtls_base64_encode size src = encodeInto size src)
    (huser : uplink.username = some username) (hpass : uplink.password = some password) :
    requestV2 mbedtls_base64_encode uplink =
      opening uplink ++ 13 :: 10 ::
        (ascii "Authorization: Basic " ++
            base64.encode ((userPassword username password).take 127) ++ 13 :: 10 ::
          (ascii "Content-Type: gnss/data" ++ [13, 10, 13, 10])) := by
  have hreturn : ascii "\r\n" = [13, 10] := rfl
  have hagent : ascii "User-Agent: NTRIP RTKBase/1.0\r\n" =
      ascii "User-Agent: NTRIP RTKBase/1.0" ++ [13, 10] := rfl
  have htype : ascii "Content-Type: gnss/data\r\n" =
      ascii "Content-Type: gnss/data" ++ [13, 10] := rfl
  simp only [requestV2, encodedCredentials_eq hencode huser hpass,
    if_pos (encode_ne_nil take_ne_nil), opening, hreturn, hagent, htype, List.append_assoc,
    List.cons_append, List.nil_append]

theorem requestV2_length
    (hencode : ∀ size src, mbedtls_base64_encode size src = encodeInto size src)
    (huser : uplink.username = some username) (hpass : uplink.password = some password) :
    (requestV2 mbedtls_base64_encode uplink).length =
      requestLength uplink (userPassword username password) := by
  rw [requestV2_eq hencode huser hpass, requestLength]
  have hname : (ascii "Authorization: Basic ").length = 21 := rfl
  have hcontent : (ascii "Content-Type: gnss/data").length = 23 := rfl
  simp only [List.length_append, List.length_cons, List.length_nil, base64.encode_length,
    List.length_take, hname, hcontent]
  omega

end

theorem token_plain (src : List UInt8) : 13 ∉ ascii "Authorization: Basic " ++ base64.encode src := by
  intro hmem
  obtain hmem | hmem := List.mem_append.mp hmem
  · exact absurd hmem (by decide)
  · exact absurd (base64.encode_printable hmem) (by decide)

/-- What follows the opening has one `Authorization` field. -/
theorem head_rest (src : List UInt8) :
    head (ascii "Authorization: Basic " ++ base64.encode src ++ 13 :: 10 ::
        (ascii "Content-Type: gnss/data" ++ [13, 10, 13, 10])) =
      [ascii "Authorization: Basic " ++ base64.encode src, ascii "Content-Type: gnss/data"] := by
  have hline : lines [] (ascii "Authorization: Basic " ++ base64.encode src) =
      [ascii "Authorization: Basic " ++ base64.encode src] := lines_plain (token_plain src)
  have hopen : [] ∉ lines [] (ascii "Authorization: Basic " ++ base64.encode src) := by
    rw [hline]
    simp [ascii]
  have hcontent : head (ascii "Content-Type: gnss/data" ++ [13, 10, 13, 10]) =
      [ascii "Content-Type: gnss/data"] := by decide
  rw [head_of_not_mem hopen, hline, hcontent]
  rfl

/-- The field of the request stands behind those that the mountpoint and the host make. -/
theorem authorizations_request {before src : List UInt8} (hopen : [] ∉ lines [] before)
    (hsrc : src ≠ []) :
    authorizations (before ++ 13 :: 10 :: (ascii "Authorization: Basic " ++ base64.encode src ++
        13 :: 10 :: (ascii "Content-Type: gnss/data" ++ [13, 10, 13, 10]))) =
      authorizations before ++ [ascii "Basic " ++ base64.encode src] := by
  have hfield : field (ascii "Authorization") (ascii "Authorization: Basic " ++ base64.encode src) =
      some (ascii "Basic " ++ base64.encode src) :=
    field_basic (fun b hb => base64.encode_printable hb) (encode_ne_nil hsrc)
  have hcontent : field (ascii "Authorization") (ascii "Content-Type: gnss/data") = none := by
    decide
  rw [authorizations, fields, head_of_not_mem hopen, head_rest, List.filterMap_append,
    ← head_of_open hopen]
  simp only [List.filterMap_cons, hfield, hcontent, List.filterMap_nil]
  rfl

section

variable {mbedtls_base64_encode : Nat → List UInt8 → Option (List UInt8)}
  {uplink : ntrip_uplink_t} {username password : List UInt8}

/-- What the request says, from the inputs. -/
theorem carries_request_iff
    (hencode : ∀ size src, mbedtls_base64_encode size src = encodeInto size src)
    (huser : uplink.username = some username) (hpass : uplink.password = some password) :
    Carries (requestV2 mbedtls_base64_encode uplink) (userPassword username password) ↔
      Delivers uplink (userPassword username password) := by
  rw [requestV2_eq hencode huser hpass, Delivers]
  split
  case isTrue hend =>
    rw [Carries, authorizations, fields, head_of_mem hend]
    rfl
  case isFalse hopen =>
    rw [Carries, authorizations_request hopen take_ne_nil]
    have hown : basicCredentials (ascii "Basic " ++
        base64.encode ((userPassword username password).take 127)) =
          some (userPassword username password) ↔ (userPassword username password).length ≤ 127 := by
      rw [basicCredentials_encode, Option.some.injEq, List.take_eq_self_iff]
    constructor
    · rintro ⟨-, hall⟩
      exact ⟨hown.mp (hall _ (by simp)), fun value hvalue => hall value (by simp [hvalue])⟩
    · rintro ⟨hfits, hall⟩
      refine ⟨by simp, fun value hvalue => ?_⟩
      obtain hvalue | hvalue := List.mem_append.mp hvalue
      · exact hall value hvalue
      · rw [List.mem_singleton.mp hvalue]
        exact hown.mpr hfits

theorem no_send_of_long {request : List UInt8} {r : AttemptResults} {sock fd : Int}
    {calls : List SocketCall} {bytes : List UInt8} (hlong : NTRIP_REQ_BUF_SIZE ≤ request.length)
    (hconnect : connectWith request r = some (sock, calls)) : .send fd bytes ∉ calls := by
  have hexchange : exchange r.socket request r = some (-1, [.close r.socket]) :=
    if_pos (Or.inr hlong)
  have hopened : open_connected_socket r = (-1, []) ∨
      open_connected_socket r = (-1, [.socket r.socket, .close r.socket]) ∨
      0 ≤ r.socket ∧ open_connected_socket r = (r.socket, [.socket r.socket]) := by
    unfold open_connected_socket
    split
    case isTrue => exact .inl rfl
    case isFalse =>
      split
      case isTrue => exact .inl rfl
      case isFalse hsocket =>
        split
        case isTrue => exact .inr (.inl rfl)
        case isFalse => exact .inr (.inr ⟨Int.not_lt.mp hsocket, rfl⟩)
  obtain hopened | hopened | ⟨hsocket, hopened⟩ := hopened
  · rw [connectWith, hopened] at hconnect
    cases hconnect
    simp
  · rw [connectWith, hopened] at hconnect
    cases hconnect
    simp
  · rw [connectWith, hopened] at hconnect
    simp only [if_neg (Int.not_lt.mpr hsocket), hexchange] at hconnect
    cases hconnect
    simp

/-- A request that fits can be sent. -/
theorem exists_sent {request : List UInt8} (hne : request ≠ [])
    (hshort : request.length < NTRIP_REQ_BUF_SIZE) :
    ∃ r sock calls fd, connectWith request r = some (sock, calls) ∧ .send fd request ∈ calls := by
  have hpos : 0 < request.length := List.length_pos_iff.mpr hne
  have hlength : ¬ (request.length : Int) ≤ 0 := by omega
  have hsend : send_all request.length [(request.length : Int)] 0 =
      some (true, request.length) := by
    simp only [send_all, if_pos hpos, if_neg hlength, Int.toNat_natCast, Nat.sub_zero, le_refl,
      if_true, Nat.zero_add, Nat.lt_irrefl, if_false]
  -- everything is sent, and nothing comes back
  let r : AttemptResults := ⟨true, 3, 0, [request.length], (0, []), 0, 0⟩
  have hexchange : exchange 3 request r = some (-1, [.send 3 request, .close 3]) := by
    have hfits : ¬ (request.length = 0 ∨ NTRIP_REQ_BUF_SIZE ≤ request.length) := by omega
    have hrecv : recv_response r = some none := rfl
    rw [exchange, if_neg hfits, hsend]
    simp only [hrecv, List.take_length]
  refine ⟨r, -1, [.socket 3, .send 3 request, .close 3], 3, ?_, by simp⟩
  have hopened : open_connected_socket r = (3, [.socket 3]) := rfl
  rw [connectWith, hopened]
  simp only [hexchange]
  rfl

end

theorem return_not_in_digits (n : Nat) : 13 ∉ ascii (toString n) := by
  intro hmem
  obtain ⟨c, hc, heq⟩ := List.mem_map.mp hmem
  have hdigits : c ∈ Nat.toDigits 10 n := by
    rw [← Nat.toList_repr]
    exact hc
  have hdigit := Nat.isDigit_of_mem_toDigits (by decide) (by decide) hdigits
  simp only [Char.isDigit, Bool.and_eq_true, decide_eq_true_eq, UInt32.le_iff_toNat_le] at hdigit
  have hval := congrArg UInt8.toNat heq
  have hlow : 48 ≤ c.val.toNat := hdigit.1
  have hhigh : c.val.toNat ≤ 57 := hdigit.2
  have hmod : c.val.toNat % 256 = 13 := hval
  omega

theorem lines_opening {uplink : ntrip_uplink_t} (hmountpoint : 13 ∉ uplink.mountpoint)
    (hhost : 13 ∉ uplink.host) :
    lines [] (opening uplink) =
      [ascii "POST /" ++ uplink.mountpoint ++ ascii " HTTP/1.1",
        ascii "Host: " ++ uplink.host ++ ascii ":" ++ ascii (toString uplink.port.toNat),
        ascii "Ntrip-Version: Ntrip/2.0", ascii "User-Agent: NTRIP RTKBase/1.0"] := by
  have hrequest : ascii " HTTP/1.1\r\n" = ascii " HTTP/1.1" ++ [13, 10] := rfl
  have hreturn : ascii "\r\n" = [13, 10] := rfl
  have hversion : ascii "Ntrip-Version: Ntrip/2.0\r\n" =
      ascii "Ntrip-Version: Ntrip/2.0" ++ [13, 10] := rfl
  have hsplit : opening uplink =
      (ascii "POST /" ++ uplink.mountpoint ++ ascii " HTTP/1.1") ++ 13 :: 10 ::
        ((ascii "Host: " ++ uplink.host ++ ascii ":" ++ ascii (toString uplink.port.toNat)) ++
          13 :: 10 :: (ascii "Ntrip-Version: Ntrip/2.0" ++ 13 :: 10 ::
            ascii "User-Agent: NTRIP RTKBase/1.0")) := by
    simp only [opening, hrequest, hreturn, hversion, List.append_assoc, List.cons_append,
      List.nil_append]
  have hfirst : 13 ∉ ascii "POST /" ++ uplink.mountpoint ++ ascii " HTTP/1.1" := by
    simp only [List.mem_append, not_or]
    exact ⟨⟨by decide, hmountpoint⟩, by decide⟩
  have hsecond : 13 ∉ ascii "Host: " ++ uplink.host ++ ascii ":" ++
      ascii (toString uplink.port.toNat) := by
    simp only [List.mem_append, not_or]
    exact ⟨⟨⟨by decide, hhost⟩, by decide⟩, return_not_in_digits _⟩
  rw [hsplit, lines_terminated, lines_plain hfirst, lines_terminated, lines_plain hsecond]
  rfl

/-- Where the mountpoint and the host hold no return, only the length counts. -/
theorem delivers_iff_of_plain {uplink : ntrip_uplink_t} {credentials : List UInt8}
    (hmountpoint : 13 ∉ uplink.mountpoint) (hhost : 13 ∉ uplink.host) :
    Delivers uplink credentials ↔ credentials.length ≤ 127 := by
  have hopening := lines_opening hmountpoint hhost
  have hopen : [] ∉ lines [] (opening uplink) := by
    rw [hopening]
    simp [ascii]
  have hnone : authorizations (opening uplink) = [] := by
    have hname : ascii "Authorization" = 65 :: ascii "uthorization" := rfl
    rw [authorizations, fields, head_of_open hopen, hopening, hname]
    have hpost : field (65 :: ascii "uthorization")
        (ascii "POST /" ++ uplink.mountpoint ++ ascii " HTTP/1.1") = none :=
      field_of_letter (by decide)
    have hhost' : field (65 :: ascii "uthorization") (ascii "Host: " ++ uplink.host ++
        ascii ":" ++ ascii (toString uplink.port.toNat)) = none :=
      field_of_letter (by decide)
    have hversion : field (65 :: ascii "uthorization") (ascii "Ntrip-Version: Ntrip/2.0") = none :=
      field_of_letter (by decide)
    have hagent : field (65 :: ascii "uthorization") (ascii "User-Agent: NTRIP RTKBase/1.0") =
        none :=
      field_of_letter (by decide)
    simp only [List.filterMap_cons, List.filterMap_nil, hpost, hhost', hversion, hagent]
  rw [Delivers, if_neg hopen, hnone]
  simp

/-- A request that is sent carries the configured user and password exactly when they
fit into the buffer, or the request does not fit into its own. -/
theorem uplink_sends_credentials_iff
    (mbedtls_base64_encode : Nat → List UInt8 → Option (List UInt8))
    (uplink : ntrip_uplink_t) (username password : List UInt8)
    (hencode : ∀ size src, mbedtls_base64_encode size src = encodeInto size src)
    (huser : uplink.username = some username) (hpass : uplink.password = some password) :
    (∀ r sock calls fd, ntrip_connect_v2 mbedtls_base64_encode uplink r = some (sock, calls) →
        .send fd (requestV2 mbedtls_base64_encode uplink) ∈ calls →
        Carries (requestV2 mbedtls_base64_encode uplink) (userPassword username password)) ↔
      NTRIP_REQ_BUF_SIZE ≤ requestLength uplink (userPassword username password) ∨
        Delivers uplink (userPassword username password) := by
  have hlength := requestV2_length hencode huser hpass
  rw [← carries_request_iff hencode huser hpass, ← hlength]
  constructor
  · intro hcarries
    by_cases hlong : NTRIP_REQ_BUF_SIZE ≤ (requestV2 mbedtls_base64_encode uplink).length
    · exact .inl hlong
    · have hne : requestV2 mbedtls_base64_encode uplink ≠ [] := by
        intro hnil
        rw [hnil, List.length_nil, requestLength] at hlength
        omega
      obtain ⟨r, sock, calls, fd, hconnect, hsent⟩ := exists_sent hne (Nat.lt_of_not_le hlong)
      exact .inr (hcarries r sock calls fd hconnect hsent)
  · rintro (hlong | hcarries) r sock calls fd hconnect hsent
    · exact absurd hsent (no_send_of_long hlong hconnect)
    · exact hcarries

/-- A caster on the network, with a user and a password. -/
def uplinkOf (username password : List UInt8) : ntrip_uplink_t where
  host := ascii "caster"
  port := 2101
  mountpoint := ascii "RTK"
  username := some username
  password := some password

theorem opening_uplinkOf (username password : List UInt8) :
    (opening (uplinkOf username password)).length = 94 := by
  have hsame : opening (uplinkOf username password) = opening (uplinkOf [] []) := rfl
  rw [hsame]
  decide

/-- Whatever the user and the password are, the request is sent where `send` allows it. -/
theorem exists_sent_of_uplink (username password : List UInt8) :
    ∃ r sock calls fd, ntrip_connect_v2 encodeInto (uplinkOf username password) r =
        some (sock, calls) ∧
      .send fd (requestV2 encodeInto (uplinkOf username password)) ∈ calls := by
  have huser : (uplinkOf username password).username = some username := rfl
  have hpass : (uplinkOf username password).password = some password := rfl
  have hlength := requestV2_length (fun _ _ => rfl) huser hpass
  rw [requestLength, opening_uplinkOf] at hlength
  have hne : requestV2 encodeInto (uplinkOf username password) ≠ [] := by
    intro hnil
    rw [hnil, List.length_nil] at hlength
    omega
  have hshort : (requestV2 encodeInto (uplinkOf username password)).length <
      NTRIP_REQ_BUF_SIZE := by
    rw [hlength, NTRIP_REQ_BUF_SIZE]
    omega
  exact exists_sent hne hshort

/-- A user and a password of nine bytes. -/
theorem uplink_sends_short_credentials :
    Carries (requestV2 encodeInto (uplinkOf (ascii "rover") (ascii "pwd")))
      (userPassword (ascii "rover") (ascii "pwd")) := by
  obtain ⟨r, sock, calls, fd, hconnect, hsent⟩ :=
    exists_sent_of_uplink (ascii "rover") (ascii "pwd")
  have hdelivers : Delivers (uplinkOf (ascii "rover") (ascii "pwd"))
      (userPassword (ascii "rover") (ascii "pwd")) :=
    (delivers_iff_of_plain (by decide) (by decide)).mpr (by decide)
  exact (uplink_sends_credentials_iff encodeInto _ _ _ (fun _ _ => rfl) rfl rfl).mpr
    (.inr hdelivers) r sock calls fd hconnect hsent

/-- A user of 100 bytes and a password of 40: the request is sent with the first 26
of these. -/
theorem uplink_truncates_password :
    ∃ r sock calls fd, ntrip_connect_v2 encodeInto
        (uplinkOf (List.replicate 100 117) (List.replicate 40 112)) r = some (sock, calls) ∧
      .send fd (requestV2 encodeInto
        (uplinkOf (List.replicate 100 117) (List.replicate 40 112))) ∈ calls ∧
      ¬ Carries (requestV2 encodeInto
          (uplinkOf (List.replicate 100 117) (List.replicate 40 112)))
        (userPassword (List.replicate 100 117) (List.replicate 40 112)) := by
  obtain ⟨r, sock, calls, fd, hconnect, hsent⟩ :=
    exists_sent_of_uplink (List.replicate 100 117) (List.replicate 40 112)
  refine ⟨r, sock, calls, fd, hconnect, hsent, ?_⟩
  have hmountpoint : 13 ∉ ascii "RTK" := by decide
  have hhost : 13 ∉ ascii "caster" := by decide
  have hcolon : (ascii ":").length = 1 := rfl
  rw [carries_request_iff (fun _ _ => rfl) rfl rfl, delivers_iff_of_plain hmountpoint hhost,
    userPassword, List.length_append, List.length_append, List.length_replicate,
    List.length_replicate, hcolon]
  decide

end rtkbase.ntrip_client
