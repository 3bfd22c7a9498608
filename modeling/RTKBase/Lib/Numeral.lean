import RTKBase.Lib.CString
import Mathlib.Algebra.Order.Ring.Int

namespace lib.numeral

open lib.cstring

def isdigit (b : UInt8) : Bool := 48 ≤ b && b ≤ 57

/-- The number that decimal digits write. -/
def decimal (digits : List UInt8) : Nat := digits.foldl (fun n b => n * 10 + (b.toNat - 48)) 0

/-- Whether a text has a minus sign, and the text behind its sign. -/
def signed : List UInt8 → Bool × List UInt8
  | 45 :: text => (true, text)
  | 43 :: text => (false, text)
  | text => (false, text)

theorem signed_cases (text : List UInt8) :
    (∃ digits, text = 45 :: digits ∧ signed text = (true, digits)) ∨
    (∃ digits, text = 43 :: digits ∧ signed text = (false, digits)) ∨
    signed text = (false, text) := by
  unfold signed
  split
  case h_1 digits => exact .inl ⟨digits, rfl, rfl⟩
  case h_2 digits => exact .inr (.inl ⟨digits, rfl, rfl⟩)
  case h_3 => exact .inr (.inr rfl)

/-- The integer that a text writes: digits, with a sign and white space in front
if it likes. -/
def integerText (text : List UInt8) : Option Int :=
  match signed (text.dropWhile isspace) with
  | (_, []) => none
  | (negative, digits) =>
    if digits.all isdigit then some (if negative then -decimal digits else decimal digits) else none

structure StrtoulResult where
  value : UInt32
  erange : Bool
  endptr : List UInt8
deriving DecidableEq

/-- `strtoul` in base 10 where `unsigned long` has 32 bits. A minus sign negates
the result; a number too large gives `ULONG_MAX`. -/
def strtoul (text : List UInt8) : StrtoulResult :=
  match signed (text.dropWhile isspace) with
  | (negative, digits) =>
    match digits.takeWhile isdigit with
    | [] => ⟨0, false, text⟩
    | number =>
      let rest := digits.dropWhile isdigit
      if decimal number < 4294967296 then
        ⟨if negative then 0 - UInt32.ofNat (decimal number) else UInt32.ofNat (decimal number),
          false, rest⟩
      else ⟨4294967295, true, rest⟩

/-- A text that `strtoul` reads whole and in range has nothing but digits behind its
sign. -/
theorem strtoul_digits {text digits : List UInt8} {negative : Bool}
    (hsigned : signed (text.dropWhile isspace) = (negative, digits)) (htext : text ≠ [])
    (herange : (strtoul text).erange = false) (hend : (strtoul text).endptr = []) :
    digits ≠ [] ∧ digits.all isdigit = true ∧ decimal digits < 4294967296 ∧
      (strtoul text).value =
        if negative then 0 - UInt32.ofNat (decimal digits) else UInt32.ofNat (decimal digits) := by
  unfold strtoul at herange hend ⊢
  rw [hsigned] at herange hend ⊢
  dsimp only at herange hend ⊢
  split at herange
  case h_1 hnone =>
    rw [hnone] at hend
    exact absurd hend htext
  case h_2 number hsome =>
    split at herange
    case isFalse => cases herange
    case isTrue hrange =>
      split at hend
      case h_1 hnone => exact absurd hnone hsome
      case h_2 =>
        rw [if_pos hrange] at hend ⊢
        have hall : digits.all isdigit = true := by
          rw [List.all_eq_true]
          exact List.dropWhile_eq_nil_iff.mp hend
        have hself : digits.takeWhile isdigit = digits :=
          List.takeWhile_eq_self_iff.mpr (List.all_eq_true.mp hall)
        rw [hself] at hrange hsome ⊢
        exact ⟨hsome, hall, hrange, rfl⟩

/-- Such a text writes an integer. The result is that integer, unless it is
negative. -/
theorem strtoul_whole {text : List UInt8} (htext : text ≠ [])
    (herange : (strtoul text).erange = false) (hend : (strtoul text).endptr = []) :
    ∃ z, integerText text = some z ∧ (z = (strtoul text).value.toNat ∨ z < 0) := by
  cases hsigned : signed (text.dropWhile isspace) with
  | mk negative digits =>
    obtain ⟨hdigits, hall, hrange, hvalue⟩ := strtoul_digits hsigned htext herange hend
    unfold integerText
    rw [hsigned, hvalue]
    cases digits with
    | nil => exact absurd rfl hdigits
    | cons d digits =>
      simp only [hall, if_true, Option.some.injEq, exists_eq_left']
      cases negative with
      | false =>
        left
        simp only [Bool.false_eq_true, if_false, UInt32.toNat_ofNat', Nat.reducePow]
        omega
      | true =>
        simp only [if_true]
        obtain hzero | hpos := Nat.eq_zero_or_pos (decimal (d :: digits))
        · left
          rw [hzero]
          decide
        · right
          omega

/-- A text of decimal digits, with white space in front and a sign between them. -/
structure Written (sign digits text : List UInt8) : Prop where
  split : ∃ space, space.all isspace = true ∧ text = space ++ (sign ++ digits)
  nonempty : digits ≠ []
  decimal : digits.all isdigit = true

section Written

variable {sign digits digits' text : List UInt8}

theorem isspace_of_isdigit {b : UInt8} (hdigit : isdigit b = true) : isspace b = false := by
  simp only [isdigit, Bool.and_eq_true, decide_eq_true_eq, UInt8.le_iff_toNat_le] at hdigit
  simp only [isspace, Bool.or_eq_false_iff, Bool.and_eq_false_iff, decide_eq_false_iff_not,
    UInt8.le_iff_toNat_le, ← UInt8.toNat_inj]
  have hspace : UInt8.toNat 32 = 32 := rfl
  have hnine : UInt8.toNat 48 = 48 := rfl
  have hthirteen : UInt8.toNat 13 = 13 := rfl
  omega

/-- The white space ends where the sign or the digits start. -/
theorem Written.behind_space (hwritten : Written sign digits text)
    (hsign : sign = [] ∨ sign = [43] ∨ sign = [45]) :
    text.dropWhile isspace = sign ++ digits := by
  obtain ⟨space, hspace, rfl⟩ := hwritten.split
  have hrest : (sign ++ digits).dropWhile isspace = sign ++ digits := by
    obtain rfl | rfl | rfl := hsign
    · obtain ⟨d, rest, rfl⟩ := List.exists_cons_of_ne_nil hwritten.nonempty
      have hd := hwritten.decimal
      rw [List.all_cons, Bool.and_eq_true] at hd
      rw [List.nil_append, List.dropWhile_cons_of_neg (by simp [isspace_of_isdigit hd.1])]
    · rfl
    · rfl
  rw [List.dropWhile_append_of_pos (List.all_eq_true.mp hspace), hrest]

/-- A text has one sign at most. -/
theorem Written.no_minus (hwritten : Written sign digits text) (hsign : sign = [] ∨ sign = [43]) :
    ¬ Written [45] digits' text := by
  intro hminus
  have hbehind := hwritten.behind_space (hsign.imp_right .inl)
  rw [hminus.behind_space (.inr (.inr rfl))] at hbehind
  obtain rfl | rfl := hsign
  · have hdecimal := hwritten.decimal
    rw [List.nil_append] at hbehind
    rw [← hbehind, List.cons_append, List.all_cons] at hdecimal
    exact absurd hdecimal (by simp [isdigit])
  · cases hbehind

/-- What `strtoul` makes of a text with a minus sign. -/
theorem strtoul_minus (hminus : Written [45] digits text) (hrange : decimal digits < 4294967296) :
    strtoul text = ⟨0 - UInt32.ofNat (decimal digits), false, []⟩ := by
  have hall : ∀ b ∈ digits, isdigit b = true := List.all_eq_true.mp hminus.decimal
  have htake : digits.takeWhile isdigit = digits := List.takeWhile_eq_self_iff.mpr hall
  have hdrop : digits.dropWhile isdigit = [] := List.dropWhile_eq_nil_iff.mpr hall
  unfold strtoul
  rw [hminus.behind_space (.inr (.inr rfl)), List.singleton_append]
  simp only [signed]
  rw [htake, hdrop]
  split
  case h_1 => exact absurd rfl hminus.nonempty
  case h_2 => simp [hrange]

/-- A text that `strtoul` reads whole and in range is written without a minus sign,
and the result is its number, or with one. -/
theorem strtoul_written (htext : text ≠ []) (herange : (strtoul text).erange = false)
    (hend : (strtoul text).endptr = []) :
    ∃ digits, decimal digits < 4294967296 ∧
      ((Written [] digits text ∨ Written [43] digits text) ∧
          (strtoul text).value.toNat = decimal digits ∨
        Written [45] digits text) := by
  have hspace : (text.takeWhile isspace).all isspace = true :=
    List.all_eq_true.mpr fun b hb => List.mem_takeWhile_imp hb
  have hsplit : text = text.takeWhile isspace ++ text.dropWhile isspace :=
    List.takeWhile_append_dropWhile.symm
  have htoNat : ∀ digits, decimal digits < 4294967296 →
      (UInt32.ofNat (decimal digits)).toNat = decimal digits :=
    fun digits hrange => UInt32.toNat_ofNat_of_lt' hrange
  obtain ⟨digits, hbehind, hsigned⟩ | ⟨digits, hbehind, hsigned⟩ | hsigned :=
    signed_cases (text.dropWhile isspace)
  · obtain ⟨hdigits, hall, hrange, _⟩ := strtoul_digits hsigned htext herange hend
    rw [hbehind] at hsplit
    exact ⟨digits, hrange, .inr ⟨⟨_, hspace, hsplit⟩, hdigits, hall⟩⟩
  · obtain ⟨hdigits, hall, hrange, hvalue⟩ := strtoul_digits hsigned htext herange hend
    rw [hbehind] at hsplit
    refine ⟨digits, hrange, .inl ⟨.inr ⟨⟨_, hspace, hsplit⟩, hdigits, hall⟩, ?_⟩⟩
    rw [hvalue, if_neg Bool.false_ne_true, htoNat digits hrange]
  · obtain ⟨hdigits, hall, hrange, hvalue⟩ := strtoul_digits hsigned htext herange hend
    refine ⟨_, hrange, .inl ⟨.inl ⟨⟨_, hspace, hsplit⟩, hdigits, hall⟩, ?_⟩⟩
    rw [hvalue, if_neg Bool.false_ne_true, htoNat _ hrange]

end Written

end lib.numeral
