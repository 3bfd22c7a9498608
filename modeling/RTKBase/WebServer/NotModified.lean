import RTKBase.Lib.Lts
import RTKBase.WebServer.StaticFile

namespace rtkbase.web_server

open lib.lts lib.cstring nvs_config

/-- A complete answer that carried a tag, and how often the partition had been mounted
then. -/
structure TaggedAnswer where
  mounts : Nat
  path : List UInt8
  etag : List UInt8
  body : List UInt8

structure Www where
  fs : Spiffs
  mounts : Nat
  tagged : List TaggedAnswer

/-- What happens to the files: a request, and a mount of an image that was uploaded. -/
inductive WwwAction where
  | file_get_handler (req : FileRequest)
  | esp_vfs_spiffs_register (image : Spiffs)

/-- The name of a file is the one of a checksum. -/
def IsHash (path : List UInt8) : Prop := FILE_HASH_SUFFIX <:+ path

/-- An image as it is built, without checksums. -/
def Fresh (image : Spiffs) : Prop := ∀ path, IsHash path → image path = none

section

variable (crc32 : Crc32) (CONFIG_SPIFFS_OBJ_NAME_LEN : Nat)

/-- What an answer adds to the answers that carried a tag. -/
def Www.tags (s : Www) (req : FileRequest) (reply : FileReply) : List TaggedAnswer :=
  match reply, fileGetPath CONFIG_SPIFFS_OBJ_NAME_LEN req.uri with
  | .complete _ hdr sent, some path =>
    match hdr.lookup "ETag" with
    | some etag => [⟨s.mounts, path, etag, sent.flatten⟩]
    | none => []
  | _, _ => []

def wwwStep (s : Www) : WwwAction → Option Www
  | .file_get_handler req =>
    let o := web_server.file_get_handler crc32 CONFIG_SPIFFS_OBJ_NAME_LEN s.fs req
    some { s with
      fs := o.1
      tagged := s.tagged ++ s.tags CONFIG_SPIFFS_OBJ_NAME_LEN req o.2 }
  | .esp_vfs_spiffs_register image => some { s with fs := image, mounts := s.mounts + 1 }

/-- The path of a request has room, and no read fails. -/
structure FileRequest.Served (req : FileRequest) : Prop where
  in_range : PathInRange CONFIG_SPIFFS_OBJ_NAME_LEN (requested req.uri.bytes)
  read : ∀ offset, BUFFER_SIZE ≤ req.results.fread offset

def Served (_ : Www) : WwwAction → Prop
  | .file_get_handler req => req.Served CONFIG_SPIFFS_OBJ_NAME_LEN
  | .esp_vfs_spiffs_register image => Fresh image

def wwwStart (image : Spiffs) : Www where
  fs := image
  mounts := 1
  tagged := []

/-- What is stored for a file, as far as it is, is its checksum, and a tag that was sent is
the one of the body behind it, which is the file as long as no other image is mounted. -/
structure Coherent (s : Www) : Prop where
  hash : ∀ path content stored, ¬ IsHash path → s.fs path = some content →
    s.fs (path ++ FILE_HASH_SUFFIX) = some stored →
    ∃ k, stored = (uint32Bytes (crc32.file content)).take k
  tagged : ∀ answer ∈ s.tagged, ¬ IsHash answer.path →
    answer.mounts ≤ s.mounts ∧ answer.etag = etagText (crc32.file answer.body) ∧
      (answer.mounts = s.mounts → s.fs answer.path = some answer.body)

end

section

variable {crc32 : Crc32} {CONFIG_SPIFFS_OBJ_NAME_LEN : Nat} {fs : Spiffs} {req : FileRequest}

/-- The checksum of a file that is asked for lies beside it. -/
theorem file_hash_path_of_range {path : List UInt8}
    (hrange : PathInRange CONFIG_SPIFFS_OBJ_NAME_LEN (requested req.uri.bytes))
    (hpath : fileGetPath CONFIG_SPIFFS_OBJ_NAME_LEN req.uri = some path) :
    file_hash_path CONFIG_SPIFFS_OBJ_NAME_LEN path = path ++ FILE_HASH_SUFFIX := by
  have hbase : WWW_PARTITION_PATH.length = 4 := rfl
  have hindex : (ascii "index.html").length = 10 := rfl
  have hsuffix : FILE_HASH_SUFFIX.length = 4 := rfl
  have hfree : ∀ b ∈ requested req.uri.bytes, b ≠ 0 := fun b hb =>
    req.uri.nul_free b ((List.takeWhile_prefix _).subset hb)
  have hbase_free : ∀ b ∈ WWW_PARTITION_PATH, b ≠ 0 := by decide +kernel
  have hindex_free : ∀ b ∈ ascii "index.html", b ≠ 0 := by decide +kernel
  have hpath' : path.length + 1 ≤ sizeofFilePath CONFIG_SPIFFS_OBJ_NAME_LEN ∧
      ∀ b ∈ path, b ≠ 0 := by
    rw [fileGetPath_eq] at hpath
    split at hpath
    case isTrue => cases hpath
    case isFalse htaken =>
      have hfits := hrange.resolve_left htaken
      split at hpath
      case isTrue hdirectory =>
        cases hpath
        have hroom := hfits.2 hdirectory.1
        refine ⟨by simp only [List.length_append]; omega, fun b hb => ?_⟩
        simp only [List.mem_append] at hb
        obtain hb | hb | hb := hb
        · exact hbase_free b hb
        · exact hfree b hb
        · exact hindex_free b hb
      case isFalse =>
        cases hpath
        have hroom := hfits.1
        refine ⟨by simp only [List.length_append]; omega, fun b hb => ?_⟩
        rcases List.mem_append.mp hb with hb | hb
        · exact hbase_free b hb
        · exact hfree b hb
  obtain ⟨hroom, hfree'⟩ := hpath'
  have hcopy : (strlcpy (FILE_PATH_MAX CONFIG_SPIFFS_OBJ_NAME_LEN - 1) path).bytes = path := by
    simp only [strlcpy, cstr_of_nul_free hfree']
    apply List.take_of_length_le
    unfold sizeofFilePath at hroom
    omega
  rw [file_hash_path, hcopy, strlcat_fits]
  unfold sizeofFilePath at hroom
  omega

/-- The handler leaves the files as they are, or sends one to its end. -/
theorem file_get_handler_cases :
    let o := file_get_handler crc32 CONFIG_SPIFFS_OBJ_NAME_LEN fs req
    (o.1 = fs ∧ ∀ type hdr sent, o.2 ≠ .complete type hdr sent) ∨
    ∃ path content type hdr sent crc,
      fileGetPath CONFIG_SPIFFS_OBJ_NAME_LEN req.uri = some path ∧ fs path = some content ∧
      sendFile crc32 req.results content 0 0 [] = (sent, some crc) ∧
      o = (storeHash fs req (file_hash_path CONFIG_SPIFFS_OBJ_NAME_LEN path) crc,
        .complete type hdr sent) ∧
      ∀ etag, hdr.lookup "ETag" = some etag → ∃ hash crc,
        fs (file_hash_path CONFIG_SPIFFS_OBJ_NAME_LEN path) = some hash ∧
          readUint32 hash = some crc ∧ etag = etagText crc := by
  intro o
  simp only [o]
  unfold file_get_handler
  split
  · exact .inl ⟨rfl, by simp⟩
  split
  · exact .inl ⟨rfl, by simp⟩
  case h_2 path hpath =>
    split
    · exact .inl ⟨rfl, by simp⟩
    case h_2 content hcontent =>
      dsimp only
      split
      · exact .inl ⟨rfl, by simp⟩
      split
      · exact .inl ⟨rfl, by simp⟩
      split
      · exact .inl ⟨rfl, by simp⟩
      case h_2 sent crc hsend =>
        refine .inr ⟨path, content, _, _, sent, crc, hpath, hcontent, hsend, rfl, ?_⟩
        intro etag hetag
        generalize hchecked : file_check_etag_hash fs req
          (file_hash_path CONFIG_SPIFFS_OBJ_NAME_LEN path) = checked at hetag
        obtain ⟨err, tag⟩ := checked
        by_cases htag : tag = []
        · rw [if_pos htag, List.append_nil] at hetag
          split at hetag <;> simp [List.lookup_cons] at hetag
        · rw [if_neg htag] at hetag
          have heq : etag = tag := by
            split at hetag <;> simpa [List.lookup_cons] using hetag.symm
          rw [heq]
          exact file_check_etag_hash_tag hchecked htag

/-- The client's tag is the one that is stored for the file. -/
theorem file_get_handler_notModified
    (hreply : (file_get_handler crc32 CONFIG_SPIFFS_OBJ_NAME_LEN fs req).2 = .notModified) :
    ∃ path content hash crc,
      fileGetPath CONFIG_SPIFFS_OBJ_NAME_LEN req.uri = some path ∧ fs path = some content ∧
      fs (file_hash_path CONFIG_SPIFFS_OBJ_NAME_LEN path) = some hash ∧
      readUint32 hash = some crc ∧ req.if_none_match.map (·.bytes) = some (etagText crc) := by
  unfold file_get_handler at hreply
  split at hreply
  · cases hreply
  split at hreply
  · cases hreply
  case h_2 path hpath =>
    split at hreply
    · cases hreply
    case h_2 content hcontent =>
      dsimp only at hreply
      split at hreply
      case isTrue hok =>
        generalize hchecked : file_check_etag_hash fs req
          (file_hash_path CONFIG_SPIFFS_OBJ_NAME_LEN path) = checked at hok
        obtain ⟨err, tag⟩ := checked
        obtain rfl : err = EspErr.ESP_OK := hok
        obtain ⟨htag, hmatch⟩ := file_check_etag_hash_match hchecked
        obtain ⟨hash, crc, hhash, hread, rfl⟩ := file_check_etag_hash_tag hchecked htag
        exact ⟨path, content, hash, crc, hpath, hcontent, hhash, hread, hmatch⟩
      case isFalse =>
        split at hreply
        · cases hreply
        split at hreply <;> cases hreply

variable {s s' : Www}

/-- A stored checksum is the one of the file. -/
theorem Coherent.stored_right (hcoherent : Coherent crc32 s) {path content hash : List UInt8}
    {crc : UInt32} (hname : ¬ IsHash path) (hcontent : s.fs path = some content)
    (hhash : s.fs (path ++ FILE_HASH_SUFFIX) = some hash) (hread : readUint32 hash = some crc) :
    crc = crc32.file content := by
  obtain ⟨k, rfl⟩ := hcoherent.hash path content hash hname hcontent hhash
  exact readUint32_bytes hread

/-- When a checksum is stored, every other file stays as it is. -/
theorem storeHash_other {path other : List UInt8} {crc : UInt32} (hother : other ≠ path) :
    storeHash fs req path crc other = fs other := by
  unfold storeHash
  split
  · exact Function.update_of_ne hother _ _
  · rfl

theorem storeHash_self {path stored : List UInt8} {crc : UInt32}
    (hstored : storeHash fs req path crc path = some stored) :
    (∃ k, stored = (uint32Bytes crc).take k) ∨ fs path = some stored := by
  unfold storeHash at hstored
  split at hstored
  · rw [Function.update_self] at hstored
    exact .inl ⟨_, (Option.some.inj hstored).symm⟩
  · exact .inr hstored

/-- The checksum of the file goes in its place. -/
theorem Coherent.store (hcoherent : Coherent crc32 s) {path content : List UInt8}
    (hcontent : s.fs path = some content) {tagged : List TaggedAnswer}
    (htagged : ∀ answer ∈ tagged, answer ∈ s.tagged ∨ (¬ IsHash answer.path →
      answer.mounts = s.mounts ∧ answer.etag = etagText (crc32.file answer.body) ∧
        s.fs answer.path = some answer.body)) :
    Coherent crc32 { s with
      fs := storeHash s.fs req (path ++ FILE_HASH_SUFFIX) (crc32.file content)
      tagged := tagged } := by
  have hname : ∀ {other : List UInt8}, ¬ IsHash other →
      storeHash s.fs req (path ++ FILE_HASH_SUFFIX) (crc32.file content) other = s.fs other := by
    intro other hother
    apply storeHash_other
    rintro rfl
    exact hother (List.suffix_append _ _)
  constructor
  · intro other content' stored hother hcontent' hstored
    dsimp only at hcontent' hstored
    rw [hname hother] at hcontent'
    by_cases hpath : other = path
    · subst hpath
      rw [hcontent] at hcontent'
      cases hcontent'
      rcases storeHash_self hstored with hwritten | hbefore
      · exact hwritten
      · exact hcoherent.hash other content stored hother hcontent hbefore
    · rw [storeHash_other fun heq => hpath (List.append_cancel_right heq)] at hstored
      exact hcoherent.hash other content' stored hother hcontent' hstored
  · intro answer hanswer hother
    dsimp only
    rw [hname hother]
    obtain hbefore | hnew := htagged answer hanswer
    · exact hcoherent.tagged answer hbefore hother
    · obtain ⟨hmounts, hetag, hbody⟩ := hnew hother
      exact ⟨hmounts.le, hetag, fun _ => hbody⟩

/-- An answer that is not complete is not recorded, and a complete one with its tag. -/
theorem Www.mem_tags {reply : FileReply} {answer : TaggedAnswer}
    (hanswer : answer ∈ s.tags CONFIG_SPIFFS_OBJ_NAME_LEN req reply) :
    ∃ type hdr sent path etag, reply = .complete type hdr sent ∧
      fileGetPath CONFIG_SPIFFS_OBJ_NAME_LEN req.uri = some path ∧
      hdr.lookup "ETag" = some etag ∧ answer = ⟨s.mounts, path, etag, sent.flatten⟩ := by
  unfold Www.tags at hanswer
  split at hanswer
  case h_1 type hdr sent path hpath =>
    split at hanswer
    case h_1 etag hetag =>
      exact ⟨type, hdr, sent, path, etag, rfl, hpath, hetag, List.mem_singleton.mp hanswer⟩
    case h_2 => cases hanswer
  case h_2 => cases hanswer

theorem wwwStep_coherent {a : WwwAction} (hcoherent : Coherent crc32 s)
    (hserved : Served CONFIG_SPIFFS_OBJ_NAME_LEN s a)
    (hstep : wwwStep crc32 CONFIG_SPIFFS_OBJ_NAME_LEN s a = some s') : Coherent crc32 s' := by
  cases a with
  | file_get_handler req =>
    cases hstep
    obtain ⟨hfs, hnone⟩ | ⟨path, content, type, hdr, sent, crc, hpath, hcontent, hsend, ho, hetag⟩ :=
      @file_get_handler_cases crc32 CONFIG_SPIFFS_OBJ_NAME_LEN s.fs req
    · have htags : s.tags CONFIG_SPIFFS_OBJ_NAME_LEN req
          (web_server.file_get_handler crc32 CONFIG_SPIFFS_OBJ_NAME_LEN s.fs req).2 = [] := by
        apply List.eq_nil_iff_forall_not_mem.mpr
        intro answer hanswer
        obtain ⟨type, hdr, sent, _, _, hcomplete, _⟩ := Www.mem_tags hanswer
        exact hnone type hdr sent hcomplete
      rw [htags, hfs, List.append_nil]
      exact hcoherent
    · obtain ⟨hbody, hcrc⟩ := sendFile_whole hserved.read hsend
      rw [List.flatten_nil, List.nil_append, List.drop_zero] at hbody
      rw [List.drop_zero] at hcrc
      have hhash := file_hash_path_of_range hserved.in_range hpath
      rw [ho, hhash, hcrc]
      apply hcoherent.store hcontent
      intro answer hanswer
      rcases List.mem_append.mp hanswer with hbefore | hnew
      · exact .inl hbefore
      refine .inr fun hname => ?_
      obtain ⟨_, _, _, path', etag, hcomplete, hpath', hlookup, rfl⟩ := Www.mem_tags hnew
      cases hcomplete
      rw [hpath] at hpath'
      cases hpath'
      obtain ⟨hash, stored, hstored, hread, rfl⟩ := hetag etag hlookup
      rw [hhash] at hstored
      dsimp only at hname ⊢
      rw [hbody, hcoherent.stored_right hname hcontent hstored hread]
      exact ⟨rfl, rfl, hcontent⟩
  | esp_vfs_spiffs_register image =>
    cases hstep
    constructor
    · intro path content stored _ _ hstored
      dsimp only at hstored
      have hnone : image (path ++ FILE_HASH_SUFFIX) = none := hserved _ (List.suffix_append _ _)
      rw [hnone] at hstored
      cases hstored
    · intro answer hanswer hname
      obtain ⟨hmounts, hetag, _⟩ := hcoherent.tagged answer hanswer hname
      exact ⟨by simp only; omega, hetag, fun heq => by simp only at heq; omega⟩

end

/-- In every run of requests, whatever the clients send and wherever sending or storing
fails, and of mounts of images without checksums: an answer that is complete is the whole
file, and "304 Not Modified" is said only to a client whose tag is the one of the file, so
that every complete answer for that path which had the tag had a body of the same checksum,
and the very file if it was sent since the last mount. -/
theorem not_modified_right {crc32 : Crc32} {CONFIG_SPIFFS_OBJ_NAME_LEN : Nat} {image : Spiffs}
    {s : Www} {req : FileRequest} {path : List UInt8} (himage : Fresh image)
    (hreach : Reach (wwwStep crc32 CONFIG_SPIFFS_OBJ_NAME_LEN) (Served CONFIG_SPIFFS_OBJ_NAME_LEN)
      (wwwStart image) s)
    (hserved : req.Served CONFIG_SPIFFS_OBJ_NAME_LEN)
    (hpath : fileGetPath CONFIG_SPIFFS_OBJ_NAME_LEN req.uri = some path)
    (hname : ¬ IsHash path) :
    let reply := (file_get_handler crc32 CONFIG_SPIFFS_OBJ_NAME_LEN s.fs req).2
    (∀ type hdr sent, reply = .complete type hdr sent → s.fs path = some sent.flatten) ∧
    (reply = .notModified → ∃ content, s.fs path = some content ∧
      req.if_none_match.map (·.bytes) = some (etagText (crc32.file content)) ∧
      ∀ answer ∈ s.tagged, answer.path = path →
        req.if_none_match.map (·.bytes) = some answer.etag →
        crc32.file answer.body = crc32.file content ∧
          (answer.mounts = s.mounts → answer.body = content)) := by
  have hstart : Coherent crc32 (wwwStart image) := by
    constructor
    · intro other content stored _ _ hstored
      have hnone : image (other ++ FILE_HASH_SUFFIX) = none := himage _ (List.suffix_append _ _)
      simp only [wwwStart, hnone] at hstored
      cases hstored
    · intro answer hanswer
      cases hanswer
  have hcoherent := hreach.invariant hstart fun _ _ _ hbefore hserved hstep =>
    wwwStep_coherent hbefore hserved hstep
  intro reply
  constructor
  · intro type hdr sent hreply
    obtain ⟨_, hnone⟩ | ⟨path', content, _, _, _, _, hpath', hcontent, hsend, ho, _⟩ :=
      @file_get_handler_cases crc32 CONFIG_SPIFFS_OBJ_NAME_LEN s.fs req
    · exact absurd hreply (hnone type hdr sent)
    · rw [hpath] at hpath'
      cases hpath'
      obtain ⟨hbody, _⟩ := sendFile_whole hserved.read hsend
      simp only [reply, ho] at hreply
      cases hreply
      rw [hbody, hcontent]
      simp
  · intro hreply
    obtain ⟨path', content, hash, crc, hpath', hcontent, hhash, hread, hmatch⟩ :=
      file_get_handler_notModified hreply
    rw [hpath] at hpath'
    cases hpath'
    rw [file_hash_path_of_range hserved.in_range hpath] at hhash
    have hcrc := hcoherent.stored_right hname hcontent hhash hread
    rw [hcrc] at hmatch
    refine ⟨content, hcontent, hmatch, fun answer hanswer hsame htag => ?_⟩
    rw [← hsame] at hname hcontent
    obtain ⟨_, hetag, hbody⟩ := hcoherent.tagged answer hanswer hname
    rw [hmatch, hetag] at htag
    refine ⟨(etagText_injective (Option.some.inj htag)).symm, fun hmounts => ?_⟩
    exact Option.some.inj ((hbody hmounts).symm.trans hcontent)

/-- The checksum bit by bit, lowest first. -/
def crc32Push (crc : UInt32) (b : UInt8) : UInt32 :=
  (List.range 8).foldl (fun crc _ => if crc % 2 = 1 then crc / 2 ^^^ 3988292384 else crc / 2)
    (crc ^^^ b.toUInt32)

def romCrc32 : Crc32 where
  crc32_le crc data := ~~~ data.foldl crc32Push (~~~ crc)
  append crc before data := by simp

/-- An image with one page. -/
def smallImage : Spiffs := fun path =>
  if path = ascii "/www/index.html" then some (ascii "Hi") else none

/-- A request for the page of the root, all of whose calls succeed. -/
def indexRequest (if_none_match : Option CString) : FileRequest where
  auth := (.ESP_OK, none)
  uri := literal "/"
  if_none_match := if_none_match
  results := ⟨true, true, fun _ => 2048, fun _ => true, true, 4⟩

theorem indexRequest_served (if_none_match : Option CString) :
    (indexRequest if_none_match).Served 32 where
  in_range := .inr (show (requested (literal "/").bytes).length + 5 ≤ sizeofFilePath 32 ∧
    ((requested (literal "/").bytes).getLast? = some 47 →
      (requested (literal "/").bytes).length + 15 ≤ sizeofFilePath 32) by decide)
  read _ := le_refl 2048

theorem index_file : fileGetPath 32 (literal "/") = some (ascii "/www/index.html") := by decide

/-- Once the page was sent, its checksum is there. -/
theorem index_sent :
    (file_get_handler romCrc32 32 smallImage (indexRequest none)).1 =
      Function.update smallImage (ascii "/www/index.html.crc")
        (some (uint32Bytes (romCrc32.file (ascii "Hi")))) := by
  have hsend : sendFile romCrc32 (indexRequest none).results (ascii "Hi") 0 0 [] =
      ([ascii "Hi", []], some (romCrc32.file (ascii "Hi"))) := by
    have hfirst : (indexRequest none).results.length (ascii "Hi") 0 = 2 := by decide
    have hlast : (indexRequest none).results.length (ascii "Hi") 2 = 0 := by decide
    rw [sendFile, if_neg (by decide), if_neg (by decide), sendFile, if_neg (by decide), hfirst,
      if_pos hlast, hlast, romCrc32.append]
    rfl
  have hpath : fileGetPath 32 (indexRequest none).uri = some (ascii "/www/index.html") :=
    index_file
  have hcontent : smallImage (ascii "/www/index.html") = some (ascii "Hi") := if_pos rfl
  have hcheck : file_check_etag_hash smallImage (indexRequest none)
      (file_hash_path 32 (ascii "/www/index.html")) = (ESP_ERR_NOT_FOUND, []) := by
    decide +kernel
  unfold file_get_handler
  rw [if_neg (by decide), hpath]
  dsimp only
  rw [hcontent]
  dsimp only
  rw [hcheck, if_neg (by decide), if_neg (by decide), hsend]
  rfl

/-- The tag of the page, as a client has it. -/
def indexTag : CString := strlcpy 4294967294 (etagText (romCrc32.file (ascii "Hi")))

/-- With this tag the client is told that nothing has changed, and nothing has. -/
theorem not_modified_right_of_index : ∃ s,
    Reach (wwwStep romCrc32 32) (Served 32) (wwwStart smallImage) s ∧
      (file_get_handler romCrc32 32 s.fs (indexRequest (some indexTag))).2 = .notModified ∧
      ∃ content, s.fs (ascii "/www/index.html") = some content ∧
        some indexTag.bytes = some (etagText (romCrc32.file content)) := by
  have hreach : Reach (wwwStep romCrc32 32) (Served 32) (wwwStart smallImage) _ :=
    .next .refl (show Served 32 _ (.file_get_handler _) from indexRequest_served none)
      (show wwwStep romCrc32 32 _ (.file_get_handler (indexRequest none)) = some _ from rfl)
  have hfresh : Fresh smallImage := by
    intro path hhash
    apply if_neg
    rintro rfl
    revert hhash
    unfold IsHash
    decide
  have hname : ¬ IsHash (ascii "/www/index.html") := by
    unfold IsHash
    decide
  have hfs := index_sent
  have hcontent : (file_get_handler romCrc32 32 smallImage (indexRequest none)).1
      (ascii "/www/index.html") = some (ascii "Hi") := by
    rw [hfs]
    decide +kernel
  have hcheck : file_check_etag_hash
      (file_get_handler romCrc32 32 smallImage (indexRequest none)).1
      (indexRequest (some indexTag)) (file_hash_path 32 (ascii "/www/index.html")) =
      (EspErr.ESP_OK, indexTag.bytes) := by
    rw [hfs]
    decide +kernel
  have hreply : (file_get_handler romCrc32 32
      (file_get_handler romCrc32 32 smallImage (indexRequest none)).1
      (indexRequest (some indexTag))).2 = .notModified := by
    have hpath : fileGetPath 32 (indexRequest (some indexTag)).uri =
        some (ascii "/www/index.html") := index_file
    rw [file_get_handler, if_neg (by decide), hpath]
    dsimp only
    rw [hcontent]
    dsimp only
    rw [hcheck, if_pos rfl]
  obtain ⟨content, hsame, hmatch, _⟩ := (not_modified_right hfresh hreach
    (indexRequest_served (some indexTag)) index_file hname).2 hreply
  exact ⟨_, hreach, hreply, content, hsame, hmatch⟩

end rtkbase.web_server
