import Mathlib.Data.List.DropRight
import RTKBase.Lib.Base64

namespace lib.http

open lib.cstring

/-- The lines of a text, of which the first one goes on from `line`. -/
def lines : List UInt8 → List UInt8 → List (List UInt8)
  | line, [] => [line]
  | line, 13 :: 10 :: text => line :: lines [] text
  | line, b :: text => lines (line ++ [b]) text

/-- The head of a message: its lines up to the first empty one. -/
def head (text : List UInt8) : List (List UInt8) := (lines [] text).takeWhile (· ≠ [])

def isblank (b : UInt8) : Bool := b = 32 || b = 9

/-- A text without the blanks around it. -/
def trim (text : List UInt8) : List UInt8 := (text.dropWhile isblank).rdropWhile isblank

/-- The value of the field that a line holds, where it is the one of that name. -/
def field (name line : List UInt8) : Option (List UInt8) :=
  if strcasecmp (line.take name.length) name ∧ (line.drop name.length).head? = some 58 then
    some (trim (line.drop (name.length + 1)))
  else none

/-- The values that a message has for a field. -/
def fields (name text : List UInt8) : List (List UInt8) := (head text).filterMap (field name)

/-- What the value of an `Authorization` field says in the basic scheme. -/
def basicCredentials (value : List UInt8) : Option (List UInt8) :=
  if strcasecmp (value.take 6) (ascii "Basic ") then
    base64.decode ((value.drop 6).dropWhile isblank)
  else none

section

variable {line text rest : List UInt8}

/-- Behind the end of a line the next ones stand. -/
theorem lines_terminated : lines line (text ++ 13 :: 10 :: rest) =
    lines line text ++ lines [] rest := by
  fun_induction lines line text with
  | case1 => rfl
  | case2 line text ih =>
    rw [List.cons_append, List.cons_append, lines, ih]
    rfl
  | case3 line b text hnot ih =>
    rw [List.cons_append, lines.eq_3, ih]
    intro text' hb htext
    cases text with
    | nil => simp at htext
    | cons c text =>
      obtain ⟨rfl, -⟩ := List.cons.inj htext
      exact hnot text hb rfl

theorem lines_plain (hplain : 13 ∉ text) : lines line text = [line ++ text] := by
  fun_induction lines line text with
  | case1 => simp
  | case2 => simp at hplain
  | case3 line b text _ ih =>
    rw [ih fun hmem => hplain (List.mem_cons_of_mem _ hmem), List.append_assoc]
    rfl

/-- A head that ends in a text is not changed by what follows. -/
theorem head_of_mem (hend : [] ∈ lines [] text) : head (text ++ 13 :: 10 :: rest) = head text := by
  have hstops : ((lines [] text).takeWhile (· ≠ [])).length ≠ (lines [] text).length := by
    intro hlength
    have hall := (List.takeWhile_prefix _).eq_of_length hlength
    have hne := List.takeWhile_eq_self_iff.mp hall [] hend
    simp at hne
  rw [head, lines_terminated, List.takeWhile_append, if_neg hstops]
  rfl

theorem head_of_not_mem (hopen : [] ∉ lines [] text) :
    head (text ++ 13 :: 10 :: rest) = lines [] text ++ head rest := by
  rw [head, lines_terminated, List.takeWhile_append_of_pos]
  · rfl
  · intro line hline
    have hne : line ≠ [] := by
      rintro rfl
      exact hopen hline
    simpa using hne

theorem head_of_open (hopen : [] ∉ lines [] text) : head text = lines [] text := by
  rw [head, List.takeWhile_eq_self_iff]
  intro line hline
  have hne : line ≠ [] := by
    rintro rfl
    exact hopen hline
  simpa using hne

end

/-- The blank in front of a text that starts and ends with none is trimmed. -/
theorem trim_blank {first last : UInt8} {text : List UInt8} (hfirst : isblank first = false)
    (hlast : isblank last = false) :
    trim (32 :: first :: (text ++ [last])) = first :: (text ++ [last]) := by
  have hdrop : (32 :: first :: (text ++ [last])).dropWhile isblank = first :: (text ++ [last]) := by
    rw [List.dropWhile_cons_of_pos (by decide), List.dropWhile_cons_of_neg (by simp [hfirst])]
  rw [trim, hdrop, ← List.cons_append, List.rdropWhile_concat_neg _ _ _ (by simp [hlast])]

theorem isblank_of_le {b : UInt8} (hb : 43 ≤ b) : isblank b = false := by
  have hb' : 43 ≤ b.toNat := hb
  simp only [isblank, Bool.or_eq_false_iff, decide_eq_false_iff_not]
  constructor <;> rintro rfl <;> simp at hb'

/-- The credentials that a value of the basic scheme was made of. -/
theorem basicCredentials_encode (credentials : List UInt8) :
    basicCredentials (ascii "Basic " ++ base64.encode credentials) = some credentials := by
  have hscheme : (ascii "Basic " ++ base64.encode credentials).take 6 = ascii "Basic " := rfl
  have htoken : (ascii "Basic " ++ base64.encode credentials).drop 6 =
      base64.encode credentials := rfl
  have hblank : (base64.encode credentials).dropWhile isblank = base64.encode credentials := by
    cases hencode : base64.encode credentials with
    | nil => rfl
    | cons b rest =>
      have hb : b ∈ base64.encode credentials := by simp [hencode]
      have hnot := isblank_of_le (base64.encode_printable hb)
      rw [List.dropWhile_cons_of_neg (by simp [hnot])]
  have hcase : strcasecmp (ascii "Basic ") (ascii "Basic ") := rfl
  rw [basicCredentials, hscheme, htoken, hblank, if_pos hcase, base64.decode_encode]

/-- The line of a basic `Authorization` field gives its value. -/
theorem field_basic {token : List UInt8} (htoken : ∀ b ∈ token, 43 ≤ b) (hne : token ≠ []) :
    field (ascii "Authorization") (ascii "Authorization: Basic " ++ token) =
      some (ascii "Basic " ++ token) := by
  obtain rfl | ⟨init, last, rfl⟩ := List.eq_nil_or_concat token
  · exact absurd rfl hne
  rw [List.concat_eq_append] at htoken ⊢
  have hname : (ascii "Authorization: Basic " ++ (init ++ [last])).take 13 =
      ascii "Authorization" := rfl
  have hvalue : (ascii "Authorization: Basic " ++ (init ++ [last])).drop 14 =
      32 :: 66 :: (ascii "asic " ++ init ++ [last]) := by
    rw [List.append_assoc]
    rfl
  have hlast : isblank last = false := isblank_of_le (htoken last (by simp))
  have htrim : trim ((ascii "Authorization: Basic " ++ (init ++ [last])).drop 14) =
      ascii "Basic " ++ (init ++ [last]) := by
    rw [hvalue, trim_blank (by decide) hlast, List.append_assoc]
    rfl
  have hcase : strcasecmp ((ascii "Authorization: Basic " ++ (init ++ [last])).take 13)
      (ascii "Authorization") := congrArg (List.map tolower) hname
  exact (if_pos ⟨hcase, rfl⟩).trans (congrArg some htrim)

/-- A line that starts with another letter is another field. -/
theorem field_of_letter {a b : UInt8} {name line : List UInt8} (hletter : tolower b ≠ tolower a) :
    field (a :: name) (b :: line) = none := by
  refine if_neg ?_
  rintro ⟨hcase, -⟩
  exact hletter (List.cons.inj hcase).1

end lib.http
