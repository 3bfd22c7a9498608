import RTKBase.NvsConfig.Defaults
import RTKBase.WebServer.ConfigPost
import RTKBase.WebServer.StaticPath

namespace rtkbase.web_server

open lib.cstring nvs_config

def ESP_ERR_INVALID_ARG : EspErr := 258
def ESP_ERR_NOT_FOUND : EspErr := 261
def ESP_ERR_INVALID_CRC : EspErr := 265

/-- The files of the web partition, by their paths. -/
abbrev Spiffs := List UInt8 → Option (List UInt8)

/-- `crc32_le` of the ROM, which goes on with the checksum of what came before. -/
structure Crc32 where
  crc32_le : UInt32 → List UInt8 → UInt32
  append : ∀ crc before data, crc32_le (crc32_le crc before) data = crc32_le crc (before ++ data)

/-- The checksum of a file. -/
def Crc32.file (crc : Crc32) (content : List UInt8) : UInt32 := crc.crc32_le 0 content

/-- The bytes of a `uint32_t` in memory. -/
def uint32Bytes (n : UInt32) : List UInt8 :=
  [UInt8.ofNat (n.toNat % 256), UInt8.ofNat (n.toNat / 256 % 256),
    UInt8.ofNat (n.toNat / 65536 % 256), UInt8.ofNat (n.toNat / 16777216)]

/-- `fread(&crc, sizeof(crc), 1, fd_hash)`. -/
def readUint32 : List UInt8 → Option UInt32
  | b0 :: b1 :: b2 :: b3 :: _ =>
    some (UInt32.ofNat (b0.toNat + 256 * b1.toNat + 65536 * b2.toNat + 16777216 * b3.toNat))
  | _ => none

/-- The digit of weight `16 ^ i` of `%08X`. -/
def etagDigit (crc : UInt32) (i : Nat) : UInt8 := hexDigit (UInt8.ofNat (crc.toNat / 16 ^ i % 16))

/-- `"\"%08X\""`. -/
def etagText (crc : UInt32) : List UInt8 :=
  34 :: [7, 6, 5, 4, 3, 2, 1, 0].map (etagDigit crc) ++ [34]

/-- What the library calls of a request return. A read and the sending behind it are told
by the bytes that were read before. -/
structure FileResults where
  fopen_hash : Bool
  fopen : Bool
  fread : Nat → Nat
  httpd_resp_send_chunk : Nat → Bool
  fopen_hash_write : Bool
  fwrite : Nat

structure FileRequest where
  auth : esp_err_t × Option HttpdResp
  uri : CString
  if_none_match : Option CString
  results : FileResults

inductive FileReply where
  | unauthorized (resp : Option HttpdResp)
  | httpd_resp_send_err (error message : String)
  | httpd_resp_send_404
  | notModified
  | failed (sent : List (List UInt8))
  | complete (type : String) (hdr : List (String × List UInt8)) (sent : List (List UInt8))

/-- `IS_FILE_EXT`, which may look at the base path as well. -/
def isFileExt (file_path : List UInt8) (ext : String) : Bool :=
  decide (strcasecmp (file_path.drop (file_path.length - (ascii ext).length)) (ascii ext))

def contentTypeFromFile (file_path : List UInt8) : String :=
  if isFileExt file_path ".html" then "text/html"
  else if isFileExt file_path ".js" then "application/javascript"
  else if isFileExt file_path ".css" then "text/css"
  else if isFileExt file_path ".ico" then "image/x-icon"
  else "text/plain"

/-- The result, and what is in `etag` then. -/
def file_check_etag_hash (fs : Spiffs) (req : FileRequest) (file_hash_path : List UInt8) :
    EspErr × List UInt8 :=
  match fs file_hash_path with
  | none => (ESP_ERR_NOT_FOUND, [])
  | some hash =>
    if req.results.fopen_hash = false then (EspErr.ESP_FAIL, [])
    else
      match readUint32 hash with
      | none => (EspErr.ESP_FAIL, [])
      | some crc =>
        match req.if_none_match with
        | none => (ESP_ERR_INVALID_ARG, etagText crc)
        | some value =>
          if value.bytes = [] then (ESP_ERR_INVALID_ARG, etagText crc)
          else if etagText crc = value.bytes then (EspErr.ESP_OK, etagText crc)
          else (ESP_ERR_INVALID_CRC, etagText crc)

/-- The number of bytes that are read at an offset. -/
def FileResults.length (results : FileResults) (content : List UInt8) (offset : Nat) : Nat :=
  min (results.fread offset) (min BUFFER_SIZE (content.length - offset))

section

variable (crc32 : Crc32) (CONFIG_SPIFFS_OBJ_NAME_LEN : Nat)

/-- The loop over the chunks: what is sent, and the checksum unless a chunk could not be
sent. -/
def sendFile (results : FileResults) (content : List UInt8) (offset : Nat) (crc : UInt32)
    (sent : List (List UInt8)) : List (List UInt8) × Option UInt32 :=
  let piece := (content.drop offset).take (results.length content offset)
  if results.httpd_resp_send_chunk offset = false then (sent, none)
  else if results.length content offset = 0 then
    (sent ++ [piece], some (crc32.crc32_le crc piece))
  else
    sendFile results content (offset + results.length content offset) (crc32.crc32_le crc piece)
      (sent ++ [piece])
termination_by content.length - offset
decreasing_by
  have hlength : results.length content offset ≤ content.length - offset :=
    (Nat.min_le_right _ _).trans (Nat.min_le_right _ _)
  omega

/-- The file with the checksum is begun anew, and may stay short. -/
def storeHash (fs : Spiffs) (req : FileRequest) (path : List UInt8) (crc : UInt32) : Spiffs :=
  if req.results.fopen_hash_write then
    Function.update fs path (some ((uint32Bytes crc).take req.results.fwrite))
  else fs

/-- The files afterwards, and the reply. -/
def file_get_handler (fs : Spiffs) (req : FileRequest) : Spiffs × FileReply :=
  if req.auth.1 = .ESP_FAIL then (fs, .unauthorized req.auth.2)
  else
    match fileGetPath CONFIG_SPIFFS_OBJ_NAME_LEN req.uri with
    | none =>
      (fs, .httpd_resp_send_err "HTTPD_500_INTERNAL_SERVER_ERROR" "Filename too long")
    | some file_path =>
      match fs file_path with
      | none => (fs, .httpd_resp_send_404)
      | some content =>
        let hash_path := file_hash_path CONFIG_SPIFFS_OBJ_NAME_LEN file_path
        let checked := file_check_etag_hash fs req hash_path
        if checked.1 = EspErr.ESP_OK then (fs, .notModified)
        else if req.results.fopen = false then
          (fs, .httpd_resp_send_err "HTTPD_500_INTERNAL_SERVER_ERROR" "Could not read file")
        else
          let hdr :=
            (if (requested req.uri.bytes).getLast? = some 47 ∧
                (requested req.uri.bytes).length + (ascii "index.html").length <
                  FILE_PATH_MAX CONFIG_SPIFFS_OBJ_NAME_LEN then
              [("Access-Control-Allow-Origin", ascii "*")] else []) ++
            if checked.2 = [] then [] else [("ETag", checked.2)]
          match sendFile crc32 req.results content 0 0 [] with
          | (sent, none) => (fs, .failed sent)
          | (sent, some crc) =>
            (storeHash fs req hash_path crc, .complete (contentTypeFromFile file_path) hdr sent)

end

section

variable {crc32 : Crc32} {results : FileResults} {content : List UInt8}

theorem readUint32_bytes {n crc : UInt32} {k : Nat}
    (hread : readUint32 ((uint32Bytes n).take k) = some crc) : crc = n := by
  have hk : 4 ≤ k := by
    by_contra hshort
    have hk : k = 0 ∨ k = 1 ∨ k = 2 ∨ k = 3 := by omega
    rcases hk with rfl | rfl | rfl | rfl <;> cases hread
  have hwhole : (uint32Bytes n).take k = uint32Bytes n :=
    List.take_of_length_le (show 4 ≤ k from hk)
  have hn := n.toNat_lt
  rw [hwhole] at hread
  simp only [uint32Bytes, readUint32, UInt8.toNat_ofNat', Option.some.injEq] at hread
  rw [← hread]
  apply UInt32.toNat_inj.mp
  rw [UInt32.toNat_ofNat']
  omega

/-- The text of a checksum tells the checksum. -/
theorem etagText_injective {m n : UInt32} (heq : etagText m = etagText n) : m = n := by
  have hdigit : ∀ a < 16, ∀ b < 16,
      hexDigit (UInt8.ofNat a) = hexDigit (UInt8.ofNat b) → a = b := by
    decide
  have hdigits : ∀ i, etagDigit m i = etagDigit n i → m.toNat / 16 ^ i % 16 = n.toNat / 16 ^ i % 16 :=
    fun i => hdigit _ (Nat.mod_lt _ (by decide)) _ (Nat.mod_lt _ (by decide))
  simp only [etagText, List.map_cons, List.map_nil, List.cons_append, List.nil_append,
    List.cons.injEq, true_and, and_true] at heq
  obtain ⟨h7, h6, h5, h4, h3, h2, h1, h0⟩ := heq
  have h7 := hdigits _ h7
  have h6 := hdigits _ h6
  have h5 := hdigits _ h5
  have h4 := hdigits _ h4
  have h3 := hdigits _ h3
  have h2 := hdigits _ h2
  have h1 := hdigits _ h1
  have h0 := hdigits _ h0
  have hm := m.toNat_lt
  have hn := n.toNat_lt
  apply UInt32.toNat_inj.mp
  norm_num at h0 h1 h2 h3 h4 h5 h6 h7
  omega

/-- A tag that is no match is still the one of the checksum that is stored. -/
theorem file_check_etag_hash_tag {fs : Spiffs} {req : FileRequest} {path : List UInt8}
    {err : EspErr} {etag : List UInt8} (hcheck : file_check_etag_hash fs req path = (err, etag))
    (htag : etag ≠ []) :
    ∃ hash crc, fs path = some hash ∧ readUint32 hash = some crc ∧ etag = etagText crc := by
  unfold file_check_etag_hash at hcheck
  split at hcheck
  case h_1 =>
    cases hcheck
    exact absurd rfl htag
  case h_2 hash hhash =>
    split at hcheck
    case isTrue =>
      cases hcheck
      exact absurd rfl htag
    case isFalse =>
      split at hcheck
      case h_1 =>
        cases hcheck
        exact absurd rfl htag
      case h_2 crc hread =>
        refine ⟨hash, crc, hhash, hread, ?_⟩
        split at hcheck
        · cases hcheck
          rfl
        · split at hcheck
          · cases hcheck
            rfl
          · split at hcheck <;> cases hcheck <;> rfl

/-- And a match is one with what the client sent. -/
theorem file_check_etag_hash_match {fs : Spiffs} {req : FileRequest} {path : List UInt8}
    {etag : List UInt8} (hcheck : file_check_etag_hash fs req path = (EspErr.ESP_OK, etag)) :
    etag ≠ [] ∧ req.if_none_match.map (·.bytes) = some etag := by
  unfold file_check_etag_hash at hcheck
  split at hcheck
  case h_1 => cases hcheck
  case h_2 =>
    split at hcheck
    case isTrue => cases hcheck
    case isFalse =>
      split at hcheck
      case h_1 => cases hcheck
      case h_2 crc hread =>
        split at hcheck
        case h_1 => cases hcheck
        case h_2 value hvalue =>
          split at hcheck
          case isTrue => cases hcheck
          case isFalse hvalue' =>
            split at hcheck
            case isTrue hmatch =>
              cases hcheck
              exact ⟨by rwa [hmatch], by rw [hvalue, Option.map_some, hmatch]⟩
            case isFalse => cases hcheck

/-- Where every read is whole, a file that is sent to its end is sent whole. -/
theorem sendFile_whole {offset : Nat} {crc crc' : UInt32} {sent sent' : List (List UInt8)}
    (hwhole : ∀ offset, BUFFER_SIZE ≤ results.fread offset)
    (hsend : sendFile crc32 results content offset crc sent = (sent', some crc')) :
    sent'.flatten = sent.flatten ++ content.drop offset ∧
      crc' = crc32.crc32_le crc (content.drop offset) := by
  have hlength : results.length content offset = min BUFFER_SIZE (content.length - offset) := by
    have hread := hwhole offset
    unfold FileResults.length
    omega
  rw [sendFile] at hsend
  split at hsend
  case isTrue => cases hsend
  case isFalse =>
    split at hsend
    case isTrue hend =>
      have hrest : content.drop offset = [] := by
        rw [List.drop_eq_nil_iff]
        unfold BUFFER_SIZE at hlength
        omega
      obtain ⟨rfl, hcrc⟩ := Prod.mk.inj hsend
      rw [hrest, List.take_nil] at hcrc ⊢
      exact ⟨by simp, (Option.some.inj hcrc).symm⟩
    case isFalse hmore =>
      obtain ⟨hflatten, hcrc⟩ := sendFile_whole hwhole hsend
      have hsplit : content.drop offset =
          (content.drop offset).take (results.length content offset) ++
            content.drop (offset + results.length content offset) := by
        rw [← List.drop_drop, List.take_append_drop]
      refine ⟨?_, ?_⟩
      · rw [hflatten, List.flatten_append, List.flatten_singleton, List.append_assoc, ← hsplit]
      · rw [hcrc, crc32.append, ← hsplit]
termination_by content.length - offset
decreasing_by
  have hlength' : results.length content offset ≤ content.length - offset :=
    (Nat.min_le_right _ _).trans (Nat.min_le_right _ _)
  omega

end

end rtkbase.web_server
