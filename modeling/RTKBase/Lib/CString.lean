import Mathlib.Data.List.Basic
import Mathlib.Data.List.TakeWhile

namespace lib.cstring

/-- The text of an ASCII literal. -/
def ascii (s : String) : List UInt8 := s.toList.map Char.toUInt8

/-- The bytes of a buffer before its first NUL. -/
def cstr (buf : List UInt8) : List UInt8 := buf.takeWhile (· ≠ 0)

/-- A string in a `char` array of `size` bytes. -/
structure CStr (size : Nat) where
  bytes : List UInt8
  nul_free : ∀ b ∈ bytes, b ≠ 0
  fits : bytes.length < size

/-- `strlcpy` into an array of `size + 1` bytes: a longer source is cut. -/
def strlcpy (size : Nat) (src : List UInt8) : CStr (size + 1) where
  bytes := (cstr src).take size
  nul_free b hb := by simpa using List.mem_takeWhile_imp (List.mem_of_mem_take hb)
  fits := by
    rw [List.length_take]
    omega

def isspace (b : UInt8) : Bool := b = 32 || (9 ≤ b && b ≤ 13)

def tolower (b : UInt8) : UInt8 := if 65 ≤ b ∧ b ≤ 90 then b + 32 else b

/-- `strcasecmp(a, b) == 0`. -/
def strcasecmp (a b : List UInt8) : Prop := a.map tolower = b.map tolower

instance (a b : List UInt8) : Decidable (strcasecmp a b) :=
  inferInstanceAs (Decidable (_ = _))

/-- The first place in `hay` from which `here` holds of the rest, as that rest. -/
def search (here : List UInt8 → Bool) : List UInt8 → Option (List UInt8)
  | [] => none
  | b :: hay => if here (b :: hay) then some (b :: hay) else search here hay

/-- `strstr` for a needle that is not empty. -/
def strstr (hay needle : List UInt8) : Option (List UInt8) :=
  search (fun rest => needle.isPrefixOf rest) hay

/-- A search that ignores case, for a needle that is not empty. -/
def stristr (hay needle : List UInt8) : Option (List UInt8) :=
  search (fun rest => decide (strcasecmp (rest.take needle.length) needle)) hay

/-- The first word of a text, up to white space, and what follows it. -/
def word (text : List UInt8) : List UInt8 := (text.dropWhile isspace).takeWhile (!isspace ·)

def afterWord (text : List UInt8) : List UInt8 := (text.dropWhile isspace).dropWhile (!isspace ·)

/-- A conversion `%<width>s` of `sscanf`: the characters read, and the rest of
the input. It fails when only white space is left. -/
def scanS (width : Nat) (input : List UInt8) : Option (List UInt8 × List UInt8) :=
  match word input with
  | [] => none
  | w => some (w.take width, w.drop width ++ afterWord input)

theorem cstr_append_rest (buf : List UInt8) : ∃ rest, buf = cstr buf ++ rest :=
  ⟨buf.dropWhile (· ≠ 0), (List.takeWhile_append_dropWhile).symm⟩

theorem cstr_of_nul_free {bytes : List UInt8} (hfree : ∀ b ∈ bytes, b ≠ 0) : cstr bytes = bytes :=
  List.takeWhile_eq_self_iff.mpr fun b hb => by simpa using hfree b hb

/-- What stands behind a NUL is not read. -/
theorem cstr_terminated (bytes rest : List UInt8) : cstr (bytes ++ 0 :: rest) = cstr bytes := by
  unfold cstr
  rw [List.takeWhile_append]
  split
  case isTrue hall =>
    rw [(List.takeWhile_prefix _).eq_of_length hall]
    simp
  case isFalse => rfl

theorem search_some {here : List UInt8 → Bool} {hay rest : List UInt8}
    (hsearch : search here hay = some rest) : ∃ before, hay = before ++ rest ∧ here rest = true := by
  induction hay with
  | nil => simp [search] at hsearch
  | cons b hay ih =>
    unfold search at hsearch
    split at hsearch
    case isTrue hhere =>
      cases hsearch
      exact ⟨[], rfl, hhere⟩
    case isFalse =>
      obtain ⟨before, rfl, hhere⟩ := ih hsearch
      exact ⟨b :: before, rfl, hhere⟩

/-- What `stristr` finds begins with the needle, up to case. -/
theorem stristr_some {hay needle rest : List UInt8} (hfind : stristr hay needle = some rest) :
    ∃ before found, hay = before ++ (found ++ rest.drop needle.length) ∧
      strcasecmp found needle := by
  obtain ⟨before, rfl, hhere⟩ := search_some hfind
  exact ⟨before, rest.take needle.length, by rw [List.take_append_drop],
    of_decide_eq_true hhere⟩

theorem strcasecmp_length {a b : List UInt8} (heq : strcasecmp a b) : a.length = b.length := by
  simpa using congrArg List.length heq

theorem strcasecmp_symm {a b : List UInt8} (hcase : strcasecmp a b) : strcasecmp b a :=
  Eq.symm hcase

theorem strcasecmp_append_iff {a b c : List UInt8} :
    strcasecmp (a ++ b) c ↔ strcasecmp a (c.take a.length) ∧ strcasecmp b (c.drop a.length) := by
  unfold strcasecmp
  rw [List.map_append, List.map_take, List.map_drop]
  constructor
  · intro heq
    rw [← heq, List.take_left' (List.length_map _), List.drop_left' (List.length_map _)]
    exact ⟨rfl, rfl⟩
  · intro heq
    rw [heq.1, heq.2, List.take_append_drop]

theorem strcasecmp_cons {c : UInt8} {a b : List UInt8} (hcase : strcasecmp (c :: a) b) :
    ∃ d rest, b = d :: rest ∧ tolower c = tolower d ∧ strcasecmp a rest := by
  obtain ⟨d, rest, hb, hd, hrest⟩ := List.map_eq_cons_iff.mp hcase.symm
  exact ⟨d, rest, hb, hd.symm, hrest.symm⟩

theorem strcasecmp_nil {b : List UInt8} (hcase : strcasecmp [] b) : b = [] :=
  List.map_eq_nil_iff.mp hcase.symm

/-- A word that ends inside a text is the same word in any longer text. -/
theorem word_append {text : List UInt8} (hafter : afterWord text ≠ []) (more : List UInt8) :
    word (text ++ more) = word text ∧ afterWord (text ++ more) = afterWord text ++ more := by
  have hstart : (text.dropWhile isspace) ≠ [] := by
    intro hnil
    simp [afterWord, hnil] at hafter
  have hdrop : (text ++ more).dropWhile isspace = text.dropWhile isspace ++ more := by
    rw [List.dropWhile_append, if_neg (by simpa using hstart)]
  have hend : ((text.dropWhile isspace).takeWhile (!isspace ·)).length ≠
      (text.dropWhile isspace).length := by
    intro hlen
    have hsplit := congrArg List.length
      (List.takeWhile_append_dropWhile (p := (!isspace ·)) (l := text.dropWhile isspace))
    rw [List.length_append, hlen] at hsplit
    exact hafter (List.length_eq_zero_iff.mp (by unfold afterWord; omega))
  constructor
  · unfold word
    rw [hdrop, List.takeWhile_append, if_neg hend]
  · unfold afterWord at hafter ⊢
    rw [hdrop, List.dropWhile_append, if_neg (by simpa using hafter)]

/-- A text is white space, its first word, and the rest. -/
theorem word_split (text : List UInt8) :
    text = text.takeWhile isspace ++ (word text ++ afterWord text) := by
  unfold word afterWord
  rw [List.takeWhile_append_dropWhile, List.takeWhile_append_dropWhile]

theorem word_nonspace {text : List UInt8} {b : UInt8} (hb : b ∈ word text) : isspace b = false := by
  simpa using List.mem_takeWhile_imp hb

/-- `sscanf` reads the whole word when it is shorter than the width. -/
theorem scanS_some {width : Nat} {input w rest : List UInt8}
    (hscan : scanS width input = some (w, rest)) (hshort : w.length < width) :
    w = word input ∧ rest = afterWord input := by
  unfold scanS at hscan
  split at hscan
  case h_1 => cases hscan
  case h_2 =>
    simp only [Option.some.injEq, Prod.mk.injEq] at hscan
    obtain ⟨rfl, rfl⟩ := hscan
    have hle : (word input).length ≤ width := by
      rw [List.length_take] at hshort
      omega
    rw [List.take_of_length_le hle, List.drop_of_length_le hle]
    exact ⟨rfl, rfl⟩

theorem nonspace_of_all {w : List UInt8} (hall : (w.all fun b => !isspace b) = true) :
    ∀ b ∈ w, isspace b = false := by simpa using hall

theorem isspace_tolower (b : UInt8) : isspace (tolower b) = isspace b := by
  have hall : ∀ n < 256, isspace (tolower (UInt8.ofNat n)) = isspace (UInt8.ofNat n) := by
    decide +kernel
  have hb := hall b.toNat b.toNat_lt
  rwa [UInt8.ofNat_toNat] at hb

/-- Texts that agree up to case have white space at the same places. -/
theorem isspace_of_strcasecmp {a b : List UInt8} (heq : strcasecmp a b) :
    a.map isspace = b.map isspace := by
  have hlower : ∀ l : List UInt8, (l.map tolower).map isspace = l.map isspace := by
    intro l
    rw [List.map_map]
    exact List.map_congr_left fun b _ => isspace_tolower b
  rw [← hlower a, ← hlower b, heq]

/-- More than `n` characters that are no white space, and white space directly
behind them. -/
def LongWord (n : Nat) (text : List UInt8) : Prop :=
  ∃ before w c rest, text = before ++ (w ++ c :: rest) ∧ n < w.length ∧
    (∀ b ∈ w, isspace b = false) ∧ isspace c = true

theorem LongWord.of_space {n : Nat} {spaces text : List UInt8}
    (hspaces : ∀ b ∈ spaces, isspace b = true) (hlong : LongWord n (spaces ++ text)) :
    LongWord n text := by
  induction spaces with
  | nil => exact hlong
  | cons b spaces ih =>
    obtain ⟨before, w, c, rest, heq, hlen, hw, hc⟩ := hlong
    apply ih fun b hb => hspaces b (List.mem_cons_of_mem _ hb)
    cases before with
    | nil =>
      cases w with
      | nil => simp at hlen
      | cons d w =>
        simp only [List.cons_append, List.nil_append, List.cons.injEq] at heq
        have hspace := hspaces b List.mem_cons_self
        rw [heq.1, hw d List.mem_cons_self] at hspace
        cases hspace
    | cons d before =>
      simp only [List.cons_append, List.cons.injEq] at heq
      exact ⟨before, w, c, rest, heq.2, hlen, hw, hc⟩

/-- A short word in front of white space is not part of a long one. -/
theorem LongWord.of_short {n : Nat} {short text : List UInt8} (hshort : short.length ≤ n)
    (htext : ∀ b rest, text = b :: rest → isspace b = true) (hlong : LongWord n (short ++ text)) :
    LongWord n text := by
  induction short with
  | nil => exact hlong
  | cons a short ih =>
    obtain ⟨before, w, c, rest, heq, hlen, hw, hc⟩ := hlong
    rw [List.length_cons] at hshort
    apply ih (by omega)
    cases before with
    | nil =>
      -- The long word would reach into the white space behind the short one.
      have hat : (w ++ c :: rest)[(a :: short).length]? = text[0]? := by
        rw [List.nil_append] at heq
        rw [← heq, List.getElem?_append_right (Nat.le_refl _), Nat.sub_self]
      have hin : (a :: short).length < w.length := by
        rw [List.length_cons]
        omega
      rw [List.getElem?_append_left hin, List.getElem?_eq_getElem hin] at hat
      cases text with
      | nil => simp at hat
      | cons b text =>
        have hb : w[(a :: short).length] = b := by simpa using hat
        have hspace := htext b text rfl
        rw [← hb, hw _ (List.getElem_mem hin)] at hspace
        cases hspace
    | cons d before =>
      simp only [List.cons_append, List.cons.injEq] at heq
      exact ⟨before, w, c, rest, heq.2, hlen, hw, hc⟩

theorem not_longWord_of_nonspace {n : Nat} {text : List UInt8}
    (htext : ∀ b ∈ text, isspace b = false) : ¬ LongWord n text := by
  rintro ⟨before, w, c, rest, rfl, _, _, hc⟩
  rw [htext c (by simp)] at hc
  cases hc

theorem afterWord_head {text rest : List UInt8} {b : UInt8} (hafter : afterWord text = b :: rest) :
    isspace b = true := by
  have hfind := List.find?_eq_head?_dropWhile_not isspace (text.dropWhile isspace)
  have hhead : (afterWord text).head? = some b := by rw [hafter, List.head?_cons]
  unfold afterWord at hhead
  rw [hhead] at hfind
  exact List.find?_some hfind

/-- In a text of two words, the first one short, there is no long word in front
of white space. -/
theorem not_longWord_of_two_words {n : Nat} {text : List UInt8} (hshort : (word text).length ≤ n)
    (hend : afterWord (afterWord text) = []) : ¬ LongWord n text := by
  intro hlong
  have hspaces : ∀ text : List UInt8, ∀ b ∈ text.takeWhile isspace, isspace b = true :=
    fun _ _ hb => List.mem_takeWhile_imp hb
  rw [word_split text] at hlong
  have hfirst := (hlong.of_space (hspaces text)).of_short hshort fun b rest => afterWord_head
  rw [word_split (afterWord text), hend, List.append_nil] at hfirst
  exact not_longWord_of_nonspace (fun b hb => word_nonspace hb)
    (hfirst.of_space (hspaces (afterWord text)))

end lib.cstring
