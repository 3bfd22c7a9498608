import RTKBase.NvsConfig.Store

namespace rtkbase.web_server

open lib.cstring nvs_config

def WWW_PARTITION_PATH : List UInt8 := ascii "/www"

def FILE_HASH_SUFFIX : List UInt8 := ascii ".crc"

/-- The index of a character in a string. -/
def strchr (s : List UInt8) (c : UInt8) : Option Nat := s.findIdx? (· == c)

/-- The length of the path in a URI. -/
def uriPathlen (uri : List UInt8) : Nat :=
  let pathlen := uri.length
  let pathlen :=
    match strchr uri 63 with
    | some quest => min pathlen quest
    | none => pathlen
  match strchr uri 35 with
  | some hash => min pathlen hash
  | none => pathlen

/-- The path as it is put into `dest`, unless it is too long. The lengths are added
in 32 bits. -/
def get_path_from_uri (base_path uri : List UInt8) (destsize : Nat) : Option (List UInt8) :=
  let pathlen := uriPathlen uri
  if (base_path.length + pathlen + 1) % 4294967296 > destsize then none
  else some (base_path ++ uri.take pathlen)

/-- `strlcat` in an array of `dsize` bytes. -/
def strlcat (dst src : List UInt8) (dsize : Nat) : List UInt8 :=
  if dst.length < dsize then dst ++ src.take (dsize - 1 - dst.length) else dst

section

variable (CONFIG_SPIFFS_OBJ_NAME_LEN : Nat)

/-- `ESP_VFS_PATH_MAX` is 15. -/
def FILE_PATH_MAX : Nat := 15 + CONFIG_SPIFFS_OBJ_NAME_LEN

def sizeofFilePath : Nat := FILE_PATH_MAX CONFIG_SPIFFS_OBJ_NAME_LEN - FILE_HASH_SUFFIX.length

/-- The string in `file_path` when `file_get_handler` looks the file up. The byte
before its terminator is the last one of `file_name`, or of the base path if
`file_name` is empty. -/
def fileGetPath (uri : CString) : Option (List UInt8) :=
  match get_path_from_uri WWW_PARTITION_PATH uri.bytes
      (sizeofFilePath CONFIG_SPIFFS_OBJ_NAME_LEN) with
  | none => none
  | some file_path =>
    let file_name := file_path.drop WWW_PARTITION_PATH.length
    if file_path.getLast? = some 47 ∧
        file_name.length + (ascii "index.html").length < FILE_PATH_MAX CONFIG_SPIFFS_OBJ_NAME_LEN then
      some (file_path.take WWW_PARTITION_PATH.length ++
        strlcat file_name (ascii "index.html") (FILE_PATH_MAX CONFIG_SPIFFS_OBJ_NAME_LEN))
    else some file_path

/-- The path of the file with the checksum. -/
def file_hash_path (file_path : List UInt8) : List UInt8 :=
  strlcat (strlcpy (FILE_PATH_MAX CONFIG_SPIFFS_OBJ_NAME_LEN - 1) file_path).bytes FILE_HASH_SUFFIX
    (FILE_PATH_MAX CONFIG_SPIFFS_OBJ_NAME_LEN)

end

/-- The path that a URI asks for. -/
def requested (uri : List UInt8) : List UInt8 := uri.takeWhile fun b => b ≠ 63 && b ≠ 35

/-- The page of a directory. -/
def indexPage (path : List UInt8) : List UInt8 :=
  if path.getLast? = some 47 then ascii "index.html" else []

/-- The path fits in `file_path` with its terminator, and is the one of the file that
the URI asks for. -/
structure StaticFile (CONFIG_SPIFFS_OBJ_NAME_LEN : Nat) (uri path : List UInt8) : Prop where
  fits : path.length + 1 ≤ sizeofFilePath CONFIG_SPIFFS_OBJ_NAME_LEN
  file : path = WWW_PARTITION_PATH ++ requested uri ++ indexPage (requested uri)

theorem min_strchr {n : Nat} {s : List UInt8} (hn : n ≤ s.length) (c : UInt8) :
    (match strchr s c with
      | some i => min n i
      | none => n) = min n (s.findIdx (· == c)) := by
  unfold strchr
  cases hfound : s.findIdx? (· == c) with
  | some i =>
    obtain ⟨_, hindex⟩ := List.findIdx?_eq_some_iff_findIdx_eq.mp hfound
    rw [hindex]
  | none =>
    rw [List.findIdx?_eq_none_iff_findIdx_eq.mp hfound]
    exact (Nat.min_eq_left hn).symm

/-- The path ends before the first question mark or number sign. -/
theorem uriPathlen_eq (uri : List UInt8) : uriPathlen uri = (requested uri).length := by
  have hmin : uriPathlen uri =
      min (min uri.length (uri.findIdx (· == 63))) (uri.findIdx (· == 35)) := by
    unfold uriPathlen
    dsimp only
    rw [min_strchr (le_refl _), min_strchr (Nat.min_le_left _ _)]
  rw [hmin, requested]
  clear hmin
  induction uri with
  | nil => rfl
  | cons b uri ih =>
    rw [List.findIdx_cons, List.findIdx_cons, List.takeWhile_cons]
    by_cases hquest : b = 63
    · simp [hquest]
    by_cases hhash : b = 35
    · simp [hhash]
    have hstep : (b ≠ 63 && b ≠ 35) = true := by simp [hquest, hhash]
    rw [beq_false_of_ne hquest, beq_false_of_ne hhash, if_pos hstep, List.length_cons,
      List.length_cons, ← ih]
    simp only [cond_false]
    omega

theorem take_uriPathlen (uri : List UInt8) : uri.take (uriPathlen uri) = requested uri := by
  rw [uriPathlen_eq]
  exact (List.prefix_iff_eq_take.mp (List.takeWhile_prefix _)).symm

/-- A requested path of a length that is refused, or that leaves room for the page of a
directory. -/
def PathInRange (CONFIG_SPIFFS_OBJ_NAME_LEN : Nat) (path : List UInt8) : Prop :=
  (path.length + 5) % 4294967296 > sizeofFilePath CONFIG_SPIFFS_OBJ_NAME_LEN ∨
  path.length + 5 ≤ sizeofFilePath CONFIG_SPIFFS_OBJ_NAME_LEN ∧
    (path.getLast? = some 47 → path.length + 15 ≤ sizeofFilePath CONFIG_SPIFFS_OBJ_NAME_LEN)

section

variable {CONFIG_SPIFFS_OBJ_NAME_LEN : Nat}

/-- A string with room behind it gets all of the other one. -/
theorem strlcat_fits {dst src : List UInt8} {dsize : Nat}
    (hroom : dst.length + src.length < dsize) : strlcat dst src dsize = dst ++ src := by
  rw [strlcat, if_pos (by omega), List.take_of_length_le (by omega)]

/-- What the handler makes of a path: refused, with the page of a directory or as it
is. -/
theorem fileGetPath_eq (uri : CString) :
    fileGetPath CONFIG_SPIFFS_OBJ_NAME_LEN uri =
      if ((requested uri.bytes).length + 5) % 4294967296 >
          sizeofFilePath CONFIG_SPIFFS_OBJ_NAME_LEN then none
      else if (requested uri.bytes).getLast? = some 47 ∧
          (requested uri.bytes).length + 10 < FILE_PATH_MAX CONFIG_SPIFFS_OBJ_NAME_LEN then
        some (WWW_PARTITION_PATH ++ (requested uri.bytes ++ ascii "index.html"))
      else some (WWW_PARTITION_PATH ++ requested uri.bytes) := by
  have hlength : WWW_PARTITION_PATH.length + (requested uri.bytes).length + 1 =
      (requested uri.bytes).length + 5 := by
    have hbase : WWW_PARTITION_PATH.length = 4 := rfl
    omega
  have hlast : (WWW_PARTITION_PATH ++ requested uri.bytes).getLast? = some 47 ↔
      (requested uri.bytes).getLast? = some 47 := by
    have hbase : WWW_PARTITION_PATH.getLast? = some 119 := rfl
    rw [List.getLast?_append, hbase]
    cases (requested uri.bytes).getLast? <;> simp
  have hindex : (ascii "index.html").length = 10 := rfl
  unfold fileGetPath get_path_from_uri
  dsimp only
  rw [take_uriPathlen, uriPathlen_eq, hlength]
  by_cases hrefused : ((requested uri.bytes).length + 5) % 4294967296 >
      sizeofFilePath CONFIG_SPIFFS_OBJ_NAME_LEN
  · rw [if_pos hrefused, if_pos hrefused]
  · rw [if_neg hrefused, if_neg hrefused]
    dsimp only
    simp only [hlast, List.drop_left, List.take_left, hindex]
    split
    case isTrue hdirectory => rw [strlcat_fits (by rw [hindex]; exact hdirectory.2)]
    case isFalse => rfl

end

/-- The handler's path is the one of the file, exactly when it is refused or leaves room
for the page of a directory. -/
theorem file_get_path_iff (CONFIG_SPIFFS_OBJ_NAME_LEN : Nat) (uri : CString) :
    (∀ path, fileGetPath CONFIG_SPIFFS_OBJ_NAME_LEN uri = some path →
      StaticFile CONFIG_SPIFFS_OBJ_NAME_LEN uri.bytes path) ↔
    PathInRange CONFIG_SPIFFS_OBJ_NAME_LEN (requested uri.bytes) := by
  have hsize : sizeofFilePath CONFIG_SPIFFS_OBJ_NAME_LEN + 4 =
      FILE_PATH_MAX CONFIG_SPIFFS_OBJ_NAME_LEN := by
    have hsuffix : FILE_HASH_SUFFIX.length = 4 := rfl
    unfold sizeofFilePath FILE_PATH_MAX
    omega
  have hbase : WWW_PARTITION_PATH.length = 4 := rfl
  have hindex : (ascii "index.html").length = 10 := rfl
  rw [fileGetPath_eq, PathInRange]
  generalize hpath : requested uri.bytes = path
  by_cases hrefused : (path.length + 5) % 4294967296 > sizeofFilePath CONFIG_SPIFFS_OBJ_NAME_LEN
  · rw [if_pos hrefused]
    exact ⟨fun _ => .inl hrefused, fun _ path hpath => (by cases hpath)⟩
  rw [if_neg hrefused]
  by_cases hdirectory : path.getLast? = some 47
  · have hpage : indexPage path = ascii "index.html" := if_pos hdirectory
    by_cases hroom : path.length + 10 < FILE_PATH_MAX CONFIG_SPIFFS_OBJ_NAME_LEN
    · rw [if_pos ⟨hdirectory, hroom⟩]
      constructor
      · intro hfile
        have hfits := (hfile _ rfl).fits
        simp only [List.length_append, hbase, hindex] at hfits
        exact .inr ⟨by omega, fun _ => by omega⟩
      · intro hrange path' hpath'
        cases hpath'
        have hfits := (hrange.resolve_left hrefused).2 hdirectory
        refine ⟨?_, by rw [hpath, hpage, List.append_assoc]⟩
        simp only [List.length_append, hbase, hindex]
        omega
    · -- the page of the directory is left out
      rw [if_neg fun hboth => hroom hboth.2]
      constructor
      · intro hfile
        have hsame := congrArg List.length (hfile _ rfl).file
        rw [hpath, hpage] at hsame
        simp only [List.length_append, hindex] at hsame
        omega
      · intro hrange
        have hfits := (hrange.resolve_left hrefused).2 hdirectory
        omega
  · rw [if_neg fun hboth => hdirectory hboth.1]
    have hpage : indexPage path = [] := if_neg hdirectory
    constructor
    · intro hfile
      have hfits := (hfile _ rfl).fits
      simp only [List.length_append, hbase] at hfits
      exact .inr ⟨by omega, fun hslash => absurd hslash hdirectory⟩
    · intro hrange path' hpath'
      cases hpath'
      have hfits := (hrange.resolve_left hrefused).1
      refine ⟨?_, by rw [hpath, hpage, List.append_nil]⟩
      simp only [List.length_append, hbase]
      omega

/-- With the default of 32, a directory's path of 29 characters goes one byte too far. -/
theorem file_get_path_overflows :
    ∃ path, fileGetPath 32 (literal "/rtk/base/station/web/pages0/") = some path ∧
      ¬ StaticFile 32 (literal "/rtk/base/station/web/pages0/").bytes path := by
  refine ⟨ascii "/www/rtk/base/station/web/pages0/index.html", by decide, fun hfile => ?_⟩
  exact absurd hfile.fits (by decide)

end rtkbase.web_server
