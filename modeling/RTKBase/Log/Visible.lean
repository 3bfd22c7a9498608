import RTKBase.Log.Store

open lib.cstring lib.ring

namespace rtkbase.log

/-- The characters of a text without its escape sequences and carriage returns. -/
def visible (text : List UInt8) : List UInt8 :=
  match text with
  | [] => []
  | b :: rest =>
    let c := (strip_ansi_escape (b :: rest)).1
    if c = 0 ∨ c = 13 then visible (strip_ansi_escape (b :: rest)).2
    else c :: visible (strip_ansi_escape (b :: rest)).2
termination_by text.length
decreasing_by all_goals exact strip_ansi_escape_length b rest

theorem escapeStart_eq {text rest : List UInt8} :
    escapeStart text = some rest ↔ text = ESC :: 91 :: rest := by
  constructor
  · intro hstart
    unfold escapeStart at hstart
    split at hstart
    case h_1 =>
      split at hstart
      case isTrue hchars =>
        cases hstart
        rw [hchars.1, hchars.2]
      case isFalse => cases hstart
    case h_2 => cases hstart
  · rintro rfl
    rfl

theorem strip_escape (rest : List UInt8) :
    strip_ansi_escape (ESC :: 91 :: rest) = (0, escapeEnd rest) := rfl

theorem strip_character {b : UInt8} {rest : List UInt8} (hplain : escapeStart (b :: rest) = none) :
    strip_ansi_escape (b :: rest) = (b, rest) := by
  unfold strip_ansi_escape
  rw [hplain]
  rfl

/-- What a text begins with: nothing, an escape sequence or a character. -/
theorem text_cases (text : List UInt8) :
    text = [] ∨ (∃ rest, text = ESC :: 91 :: rest) ∨
      ∃ b rest, text = b :: rest ∧ escapeStart (b :: rest) = none := by
  cases text with
  | nil => exact .inl rfl
  | cons b rest =>
    cases hstart : escapeStart (b :: rest) with
    | none => exact .inr (.inr ⟨b, rest, rfl, hstart⟩)
    | some after => exact .inr (.inl ⟨after, escapeStart_eq.mp hstart⟩)

theorem visible_nil : visible [] = [] := by
  unfold visible
  rfl

theorem visible_escape (rest : List UInt8) :
    visible (ESC :: 91 :: rest) = visible (escapeEnd rest) := by
  rw [visible]
  rfl

theorem visible_character {b : UInt8} {rest : List UInt8}
    (hplain : escapeStart (b :: rest) = none) :
    visible (b :: rest) = if b = 0 ∨ b = 13 then visible rest else b :: visible rest := by
  rw [visible, strip_character hplain]

/-- Induction along the characters and escape sequences of a text. -/
theorem text_induction {motive : List UInt8 → Prop} (nil : motive [])
    (escape : ∀ rest, motive (escapeEnd rest) → motive (ESC :: 91 :: rest))
    (character : ∀ b rest, escapeStart (b :: rest) = none → motive rest → motive (b :: rest))
    (text : List UInt8) : motive text := by
  induction hlen : text.length using Nat.strong_induction_on generalizing text with
  | _ n ih =>
    obtain rfl | ⟨rest, rfl⟩ | ⟨b, rest, rfl, hplain⟩ := text_cases text
    · exact nil
    · have hend := escapeEnd_length rest
      rw [List.length_cons, List.length_cons] at hlen
      exact escape rest (ih _ (by omega) (escapeEnd rest) rfl)
    · rw [List.length_cons] at hlen
      exact character b rest hplain (ih _ (by omega) rest rfl)

theorem escapeEnd_suffix (text : List UInt8) : escapeEnd text <:+ text := by
  induction text with
  | nil => exact List.suffix_refl _
  | cons c text ih =>
    unfold escapeEnd
    split
    case isTrue => exact List.suffix_cons c text
    case isFalse => exact ih.trans (List.suffix_cons c text)

theorem visible_sublist (text : List UInt8) : (visible text).Sublist text := by
  induction text using text_induction with
  | nil => rw [visible_nil]
  | escape rest ih =>
    rw [visible_escape]
    exact ((ih.trans (escapeEnd_suffix rest).sublist).cons 91).cons ESC
  | character b rest hplain ih =>
    rw [visible_character hplain]
    split
    case isTrue => exact ih.cons b
    case isFalse => exact ih.cons_cons b

theorem visible_mem {text : List UInt8} {c : UInt8} (hc : c ∈ visible text) : c ≠ 0 ∧ c ≠ 13 := by
  induction text using text_induction with
  | nil => simp [visible_nil] at hc
  | escape rest ih =>
    rw [visible_escape] at hc
    exact ih hc
  | character b rest hplain ih =>
    rw [visible_character hplain] at hc
    split at hc
    case isTrue => exact ih hc
    case isFalse hkept =>
      obtain rfl | hrest := List.mem_cons.mp hc
      · exact not_or.mp hkept
      · exact ih hrest

/-- The text is appended character by character. -/
theorem append_formatted_text_visible (s : LogState) (text : List UInt8) :
    append_formatted_text s text = (visible text).foldl appendCharacter s := by
  induction text using text_induction generalizing s with
  | nil =>
    rw [append_formatted_text, visible_nil]
    rfl
  | escape rest ih =>
    rw [append_formatted_text, visible_escape, strip_escape]
    exact ih s
  | character b rest hplain ih =>
    rw [append_formatted_text, visible_character hplain, strip_character hplain]
    split
    case isTrue => exact ih s
    case isFalse => exact ih (appendCharacter s b)

/-- The loop of `sanitize_line` keeps what is visible, up to its limit. -/
theorem sanitizeLoop_visible (cursor : List UInt8) {clean : List UInt8}
    (hclean : clean.length ≤ WEB_LOG_LINE_SIZE - 1) :
    sanitizeLoop cursor clean = (clean ++ visible cursor).take (WEB_LOG_LINE_SIZE - 1) := by
  have hfull : ∀ clean rest : List UInt8, clean.length ≤ WEB_LOG_LINE_SIZE - 1 →
      ¬ clean.length + 1 < WEB_LOG_LINE_SIZE →
      (clean ++ rest).take (WEB_LOG_LINE_SIZE - 1) = clean := by
    intro clean rest hle hlimit
    rw [List.take_append_of_le_length (by omega), List.take_of_length_le hle]
  induction cursor using text_induction generalizing clean with
  | nil =>
    rw [sanitizeLoop, visible_nil, List.append_nil, List.take_of_length_le hclean]
  | escape rest ih =>
    rw [sanitizeLoop, strip_escape, visible_escape]
    split
    case isTrue => exact ih hclean
    case isFalse hlimit => rw [hfull _ _ hclean hlimit]
  | character b rest hplain ih =>
    rw [sanitizeLoop, strip_character hplain, visible_character hplain]
    split
    case isTrue hroom =>
      by_cases hzero : b = 0
      · simp only [hzero, true_or, if_true]
        exact ih hclean
      · by_cases hreturn : b = 13
        · simp only [hreturn, or_true, if_true]
          exact ih hclean
        · simp only [hzero, hreturn, or_self, if_false]
          have hnext := @ih (clean ++ [b]) (by
            rw [List.length_append, List.length_singleton]
            omega)
          rwa [List.append_assoc, List.singleton_append] at hnext
    case isFalse hlimit => rw [hfull _ _ hclean hlimit]

theorem sanitize_line_visible (line : List UInt8) :
    sanitize_line line =
      let clean := (visible line).take (WEB_LOG_LINE_SIZE - 1)
      if clean.getLast? ≠ some 10 ∧ clean.length + 1 < WEB_LOG_LINE_SIZE then clean ++ [10]
      else clean := by
  unfold sanitize_line
  rw [sanitizeLoop_visible line (Nat.zero_le _), List.nil_append]
  by_cases hlast : ((visible line).take (WEB_LOG_LINE_SIZE - 1)).getLast? ≠ some 10
  · by_cases hroom : ((visible line).take (WEB_LOG_LINE_SIZE - 1)).length + 1 < WEB_LOG_LINE_SIZE
    · simp only [hlast, hroom, ne_eq, not_false_eq_true, and_self, if_true]
    · simp only [hlast, hroom, ne_eq, not_false_eq_true, and_false, if_true, if_false]
  · simp only [hlast, false_and, if_false]

/-- The text written back over a line and its terminator stay within the array. -/
theorem sanitize_line_fits (line : List UInt8) :
    (sanitize_line line).length < WEB_LOG_LINE_SIZE := by
  have hclean : ((visible line).take (WEB_LOG_LINE_SIZE - 1)).length < WEB_LOG_LINE_SIZE := by
    rw [List.length_take]
    have hsize : WEB_LOG_LINE_SIZE = 512 := rfl
    omega
  rw [sanitize_line_visible]
  dsimp only
  split
  case isTrue hroom =>
    rw [List.length_append, List.length_singleton]
    exact hroom.2
  case isFalse => exact hclean

/-- What storing the collected line does. -/
theorem store_pending_line_cases (s : LogState) (hline : s.pending_line ≠ []) :
    (store_pending_line_locked s).pending_line = [] ∧
    (store_pending_line_locked s).written = s.written ++
      (s.pending_line.length :: List.range ((sanitize_line s.pending_line).length + 1)) ∧
    (should_store_line (sanitize_line s.pending_line) = true ∧
        (store_pending_line_locked s).stored = s.stored ++ [sanitize_line s.pending_line] ∧
        (store_pending_line_locked s).ring = s.ring.append (sanitize_line s.pending_line) ∨
      should_store_line (sanitize_line s.pending_line) = false ∧
        (store_pending_line_locked s).stored = s.stored ∧
        (store_pending_line_locked s).ring = s.ring) := by
  have hlen : ¬ s.pending_line.length = 0 := fun h => hline (List.length_eq_zero_iff.mp h)
  unfold store_pending_line_locked
  rw [if_neg hlen]
  dsimp only
  cases hstore : should_store_line (sanitize_line s.pending_line) with
  | true =>
    rw [if_pos rfl]
    exact ⟨rfl, rfl, .inl ⟨rfl, rfl, rfl⟩⟩
  | false =>
    rw [if_neg Bool.false_ne_true]
    exact ⟨rfl, rfl, .inr ⟨rfl, rfl, rfl⟩⟩

end rtkbase.log
