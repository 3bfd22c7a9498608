import RTKBase.Lib.CString
import Mathlib.Data.List.Infix

namespace lib.cstring

/-! Searches in a text made of two parts, and the words of such a text. -/

theorem stristr_cons (b : UInt8) (hay needle : List UInt8) :
    stristr (b :: hay) needle =
      if strcasecmp ((b :: hay).take needle.length) needle then some (b :: hay)
      else stristr hay needle := by
  unfold stristr
  rw [search]
  simp only [decide_eq_true_eq]

/-- What is found in a text is found in any longer one. -/
theorem stristr_append {a rest needle : List UInt8} (hfind : stristr a needle = some rest)
    (b : List UInt8) : stristr (a ++ b) needle = some (rest ++ b) := by
  induction a with
  | nil => cases hfind
  | cons c a ih =>
    rw [stristr_cons] at hfind
    rw [List.cons_append, stristr_cons]
    split at hfind
    case isTrue hhere =>
      obtain rfl := Option.some.inj hfind
      have hlen := strcasecmp_length hhere
      rw [List.length_take] at hlen
      rw [← List.cons_append, List.take_append_of_le_length (by omega), if_pos hhere]
    case isFalse hnot =>
      -- A match that reaches into the second part would begin behind the one found.
      obtain ⟨before, hsplit, hhere⟩ := search_some hfind
      have hlen := strcasecmp_length (of_decide_eq_true hhere)
      have hall := congrArg List.length hsplit
      rw [List.length_take] at hlen
      rw [List.length_append] at hall
      have htake : (c :: (a ++ b)).take needle.length = (c :: a).take needle.length := by
        rw [← List.cons_append, List.take_append_of_le_length]
        rw [List.length_cons]
        omega
      rw [htake, if_neg hnot]
      exact ih hfind

/-- A character that the needle does not have parts a text in two, which are
searched one after the other. -/
theorem stristr_separator {c : UInt8} {needle : List UInt8} (hc : tolower c ∉ needle.map tolower)
    (hneedle : needle ≠ []) (a b : List UInt8) :
    stristr (a ++ c :: b) needle =
      match stristr a needle with
      | some rest => some (rest ++ c :: b)
      | none => stristr b needle := by
  cases hfind : stristr a needle with
  | some rest => exact stristr_append hfind (c :: b)
  | none =>
    dsimp only
    induction a with
    | nil =>
      rw [List.nil_append, stristr_cons, if_neg]
      intro hhere
      obtain ⟨d, rest, rfl⟩ := List.exists_cons_of_ne_nil hneedle
      have hfirst := (List.cons.inj hhere).1
      exact hc (hfirst ▸ List.mem_cons_self)
    | cons e a ih =>
      rw [stristr_cons] at hfind
      split at hfind
      case isTrue => cases hfind
      case isFalse hnot =>
        rw [List.cons_append, stristr_cons, if_neg, ih hfind]
        intro hhere
        by_cases hshort : needle.length ≤ (e :: a).length
        · rw [← List.cons_append, List.take_append_of_le_length hshort] at hhere
          exact hnot hhere
        · have hmem : tolower c ∈ ((e :: (a ++ c :: b)).take needle.length).map tolower := by
            refine List.mem_map_of_mem ?_
            rw [← List.cons_append, List.take_append]
            refine List.mem_append_right _ ?_
            rw [List.take_cons (by omega)]
            exact List.mem_cons_self
          unfold strcasecmp at hhere
          rw [hhere] at hmem
          exact hc hmem

/-- A text up to the end of what is found in it. -/
theorem stristr_eq_some {hay needle rest : List UInt8} (hneedle : needle ≠ [])
    (hfind : stristr hay needle = some rest) :
    ∃ before found after, hay = before ++ found ++ after ∧ rest = found ++ after ∧
      strcasecmp found needle ∧ stristr (before ++ found) needle = some found := by
  induction hay with
  | nil => cases hfind
  | cons b hay ih =>
    rw [stristr_cons] at hfind
    split at hfind
    case isTrue hhere =>
      obtain rfl := Option.some.inj hfind
      refine ⟨[], (b :: hay).take needle.length, (b :: hay).drop needle.length, ?_, ?_, hhere, ?_⟩
      · rw [List.nil_append, List.take_append_drop]
      · rw [List.take_append_drop]
      · obtain ⟨d, needle, rfl⟩ := List.exists_cons_of_ne_nil hneedle
        rw [List.length_cons, List.take_succ_cons] at hhere ⊢
        rw [List.nil_append, stristr_cons, if_pos]
        rwa [List.length_cons, List.take_succ_cons, List.take_take, Nat.min_self]
    case isFalse hnot =>
      obtain ⟨before, found, after, hsplit, hrest, hhere, hfirst⟩ := ih hfind
      refine ⟨b :: before, found, after, by rw [hsplit]; rfl, hrest, hhere, ?_⟩
      have hlen := strcasecmp_length hhere
      rw [List.cons_append, stristr_cons, if_neg, hfirst]
      rw [hsplit, ← List.cons_append, List.take_append_of_le_length] at hnot
      · exact hnot
      · rw [List.length_cons, List.length_append]
        omega

/-- A search for a text without line ends goes on behind a blank line only if it
finds nothing before. -/
theorem stristr_blank_line {needle : List UInt8} (hreturn : 13 ∉ needle.map tolower)
    (hnewline : 10 ∉ needle.map tolower) (hneedle : needle ≠ []) (before rest : List UInt8) :
    stristr (before ++ ascii "\r\n\r\n" ++ rest) needle =
      match stristr before needle with
      | some found => some (found ++ ascii "\r\n\r\n" ++ rest)
      | none => stristr rest needle := by
  have hcr := stristr_separator (c := 13) hreturn hneedle
  have hlf := stristr_separator (c := 10) hnewline hneedle
  have hskip : stristr (10 :: 13 :: 10 :: rest) needle = stristr rest needle := by
    rw [← List.nil_append (10 :: 13 :: 10 :: rest), hlf]
    show stristr (13 :: 10 :: rest) needle = _
    rw [← List.nil_append (13 :: 10 :: rest), hcr]
    show stristr (10 :: rest) needle = _
    rw [← List.nil_append (10 :: rest), hlf]
    rfl
  have hblank : ascii "\r\n\r\n" = [13, 10, 13, 10] := by decide
  rw [hblank]
  simp only [List.append_assoc, List.cons_append, List.nil_append]
  rw [hcr, hskip]

theorem strstr_cons (b : UInt8) (hay needle : List UInt8) :
    strstr (b :: hay) needle =
      if needle <+: b :: hay then some (b :: hay) else strstr hay needle := by
  unfold strstr
  rw [search]
  simp only [List.isPrefixOf_iff_prefix]

/-- The first place where a text is found, and that no shorter part of the text
in which it is looked for has it. -/
theorem strstr_eq_some {hay needle rest : List UInt8}
    (hfind : strstr hay needle = some rest) :
    ∃ before after, hay = before ++ (needle ++ after) ∧ rest = needle ++ after ∧
      ∀ n < before.length + needle.length, strstr (hay.take n) needle = none := by
  induction hay with
  | nil => cases hfind
  | cons b hay ih =>
    rw [strstr_cons] at hfind
    split at hfind
    case isTrue hbegins =>
      obtain rfl := Option.some.inj hfind
      obtain ⟨after, hafter⟩ := hbegins
      refine ⟨[], after, hafter.symm, hafter.symm, fun n hn => ?_⟩
      rw [List.length_nil, Nat.zero_add] at hn
      cases hshort : strstr ((b :: hay).take n) needle with
      | none => rfl
      | some found =>
        obtain ⟨before, hsplit, hhere⟩ := search_some hshort
        have hlen := (List.isPrefixOf_iff_prefix.mp hhere).length_le
        have hall := congrArg List.length hsplit
        rw [List.length_take, List.length_append] at hall
        omega
    case isFalse hnot =>
      obtain ⟨before, after, hhay, hrest, hfirst⟩ := ih hfind
      refine ⟨b :: before, after, by rw [hhay, List.cons_append], hrest, fun n hn => ?_⟩
      cases n with
      | zero => rfl
      | succ n =>
        rw [List.take_succ_cons, strstr_cons, if_neg]
        · rw [List.length_cons] at hn
          exact hfirst n (by omega)
        · rw [← List.take_succ_cons]
          exact fun hbegins => hnot (hbegins.trans (List.take_prefix _ _))

/-- What is found in a text is found in any longer one. -/
theorem strstr_append {a rest needle : List UInt8} (hfind : strstr a needle = some rest)
    (b : List UInt8) : strstr (a ++ b) needle = some (rest ++ b) := by
  induction a with
  | nil => cases hfind
  | cons c a ih =>
    rw [strstr_cons] at hfind
    rw [List.cons_append, strstr_cons]
    split at hfind
    case isTrue hbegins =>
      obtain rfl := Option.some.inj hfind
      have hlong : needle <+: c :: (a ++ b) := hbegins.trans (List.prefix_append (c :: a) b)
      rw [if_pos hlong, List.cons_append]
    case isFalse hnot =>
      obtain ⟨before, hsplit, hhere⟩ := search_some hfind
      have hlen := (List.isPrefixOf_iff_prefix.mp hhere).length_le
      have hall := congrArg List.length hsplit
      rw [List.length_append] at hall
      rw [if_neg, ih hfind]
      intro hbegins
      refine hnot (List.prefix_of_prefix_length_le hbegins (List.prefix_append (c :: a) b) ?_)
      rw [List.length_cons]
      omega

theorem strstr_append_self (before needle : List UInt8) (hneedle : needle ≠ []) :
    (strstr (before ++ needle) needle).isSome = true := by
  induction before with
  | nil =>
    obtain ⟨b, needle, rfl⟩ := List.exists_cons_of_ne_nil hneedle
    rw [List.nil_append, strstr_cons, if_pos (List.prefix_refl _)]
    rfl
  | cons b before ih =>
    rw [List.cons_append, strstr_cons]
    split
    case isTrue => rfl
    case isFalse => exact ih

/-- A text is found in another one exactly where it is a part of it. -/
theorem strstr_isSome_iff {hay needle : List UInt8} (hneedle : needle ≠ []) :
    (strstr hay needle).isSome = true ↔ needle <:+: hay := by
  induction hay with
  | nil =>
    rw [List.infix_nil]
    exact iff_of_false (by simp [strstr, search]) hneedle
  | cons b hay ih =>
    rw [strstr_cons, List.infix_cons_iff, ← ih]
    split
    case isTrue hbegins => simp [hbegins]
    case isFalse hnot => simp [hnot]

theorem append_separator_inj {c : UInt8} {a a' b b' : List UInt8} (ha : c ∉ a) (ha' : c ∉ a')
    (heq : a ++ c :: b = a' ++ c :: b') : a = a' ∧ b = b' := by
  induction a generalizing a' with
  | nil =>
    cases a' with
    | nil => exact ⟨rfl, (List.cons.inj heq).2⟩
    | cons d a' => exact absurd ((List.cons.inj heq).1 ▸ List.mem_cons_self) ha'
  | cons d a ih =>
    cases a' with
    | nil => exact absurd ((List.cons.inj heq).1 ▸ List.mem_cons_self) ha
    | cons d' a' =>
      obtain ⟨rfl, hrest⟩ := List.cons.inj heq
      obtain ⟨rfl, hsame⟩ := ih (mt (List.mem_cons_of_mem d) ha) (mt (List.mem_cons_of_mem d) ha') hrest
      exact ⟨rfl, hsame⟩

/-- A text with one character that parts another text in two: it is found there
around that place or in the second part. -/
theorem infix_separator {c : UInt8} {a b head : List UInt8} (ha : c ∉ a) (hhead : c ∉ head)
    (tail : List UInt8) :
    a ++ c :: b <:+: head ++ c :: tail ↔
      (a <:+ head ∧ b <+: tail) ∨ a ++ c :: b <:+: tail := by
  induction head with
  | nil =>
    rw [List.nil_append, List.infix_cons_iff, List.suffix_nil]
    refine or_congr_left ?_
    cases a with
    | nil => simp
    | cons d a =>
      rw [List.cons_append, List.cons_prefix_cons]
      exact iff_of_false (fun h => ha (h.1 ▸ List.mem_cons_self)) (fun h => by cases h.1)
  | cons h head ih =>
    obtain ⟨hne, hrest⟩ := not_or.mp (mt List.mem_cons.mpr hhead)
    rw [List.cons_append, List.infix_cons_iff, ih hrest, ← or_assoc, List.suffix_cons_iff, or_and_right]
    refine or_congr_left (or_congr_left ?_)
    constructor
    · rintro ⟨rest, hsplit⟩
      rw [List.append_assoc, List.cons_append, ← List.cons_append] at hsplit
      obtain ⟨rfl, rfl⟩ := append_separator_inj ha hhead hsplit
      exact ⟨rfl, rest, rfl⟩
    · rintro ⟨rfl, rest, rfl⟩
      exact ⟨rest, by simp⟩

/-- The first word of a text that begins with it. -/
theorem word_of_nonspace {w : List UInt8} (hw : ∀ b ∈ w, isspace b = false) (hne : w ≠ [])
    {c : UInt8} (hc : isspace c = true) (rest : List UInt8) :
    word (w ++ c :: rest) = w ∧ afterWord (w ++ c :: rest) = c :: rest := by
  have hdrop : (w ++ c :: rest).dropWhile isspace = w ++ c :: rest := by
    obtain ⟨b, w, rfl⟩ := List.exists_cons_of_ne_nil hne
    rw [List.cons_append, List.dropWhile_cons, if_neg]
    rw [hw b List.mem_cons_self]
    exact Bool.false_ne_true
  have hall : ∀ b ∈ w, (!isspace b) = true := fun b hb => by rw [hw b hb]; rfl
  have hstop : ¬ (!isspace c) = true := by
    rw [hc]
    exact Bool.false_ne_true
  unfold word afterWord
  rw [hdrop]
  constructor
  · rw [List.takeWhile_append_of_pos hall, List.takeWhile_cons, if_neg hstop, List.append_nil]
  · rw [List.dropWhile_append_of_pos hall, List.dropWhile_cons, if_neg hstop]

/-- White space in front of a text does not count for its words. -/
theorem word_space {c : UInt8} (hc : isspace c = true) (text : List UInt8) :
    word (c :: text) = word text ∧ afterWord (c :: text) = afterWord text := by
  unfold word afterWord
  rw [List.dropWhile_cons, if_pos hc]
  exact ⟨rfl, rfl⟩

theorem word_spaces {spaces : List UInt8} (hspaces : ∀ b ∈ spaces, isspace b = true)
    (text : List UInt8) :
    word (spaces ++ text) = word text ∧ afterWord (spaces ++ text) = afterWord text := by
  induction spaces with
  | nil => exact ⟨rfl, rfl⟩
  | cons c spaces ih =>
    obtain ⟨hword, hafter⟩ := word_space (hspaces c List.mem_cons_self) (spaces ++ text)
    obtain ⟨hword', hafter'⟩ := ih fun b hb => hspaces b (List.mem_cons_of_mem _ hb)
    exact ⟨hword.trans hword', hafter.trans hafter'⟩

/-- A text without a word is white space. -/
theorem word_eq_nil {text : List UInt8} (hnone : word text = []) : ∀ b ∈ text, isspace b = true := by
  have hdrop : text.dropWhile isspace = [] := by
    by_contra hne
    obtain ⟨b, rest, hcons⟩ := List.exists_cons_of_ne_nil hne
    have hb := List.head?_dropWhile_not isspace text
    rw [hcons] at hb
    unfold word at hnone
    rw [hcons, List.takeWhile_cons] at hnone
    simp only [List.head?_cons] at hb
    simp [hb] at hnone
  exact fun b hb => List.dropWhile_eq_nil_iff.mp hdrop b hb

theorem word_prefix {a b : List UInt8} (hbegins : a <+: b) : word a <+: word b := by
  obtain ⟨rest, rfl⟩ := hbegins
  unfold word
  by_cases hspaces : a.dropWhile isspace = []
  · rw [hspaces]
    exact List.nil_prefix
  · rw [List.dropWhile_append, if_neg (by simpa using hspaces), List.takeWhile_append]
    split
    case isTrue hall =>
      rw [(List.takeWhile_prefix _).eq_of_length hall]
      exact List.prefix_append _ _
    case isFalse => exact List.prefix_refl _

/-- A beginning of the first word is the first word of a part of the text. -/
theorem word_part {text w : List UInt8} (hw : w <+: word text) :
    ∃ part, part <+: text ∧ word part = w := by
  refine ⟨text.takeWhile isspace ++ w, ?_, ?_⟩
  · conv_rhs => rw [word_split text]
    exact List.prefix_append_right_inj _ |>.mpr (hw.trans (List.prefix_append _ _))
  · have hspaces : ∀ b ∈ text.takeWhile isspace, isspace b = true :=
      fun b hb => List.mem_takeWhile_imp hb
    have hnone : ∀ b ∈ w, isspace b = false := fun b hb => word_nonspace (hw.mem hb)
    rw [(word_spaces hspaces w).1]
    unfold word
    have hdrop : w.dropWhile isspace = w := by
      cases w with
      | nil => rfl
      | cons b w =>
        rw [List.dropWhile_cons, if_neg]
        rw [hnone b List.mem_cons_self]
        exact Bool.false_ne_true
    rw [hdrop]
    exact List.takeWhile_eq_self_iff.mpr fun b hb => by rw [hnone b hb]; rfl

end lib.cstring
