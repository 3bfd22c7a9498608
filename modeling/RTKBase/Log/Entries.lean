import RTKBase.Log.Bounds

open lib.cstring lib.ring

namespace rtkbase.log

/-- A complete escape sequence stands in a text. -/
def Escape (text : List UInt8) : Prop :=
  ∃ before params c after, text = before ++ (ESC :: 91 :: params ++ c :: after) ∧
    (∀ d ∈ params, isFinal d = false) ∧ isFinal c = true

/-- A line of its own: a newline at the end and nowhere else, no carriage return
and no complete escape sequence. -/
structure Entry (line : List UInt8) : Prop where
  newline : ∃ text, line = text ++ [10] ∧ 10 ∉ text
  no_return : 13 ∉ line
  no_escape : ¬ Escape line

/-- A newline completes no escape sequence. -/
theorem escape_newline (text : List UInt8) : Escape (text ++ [10]) ↔ Escape text := by
  constructor
  · rintro ⟨before, params, c, after, heq, hparams, hc⟩
    obtain rfl | ⟨init, last, rfl⟩ : after = [] ∨ ∃ init last, after = init ++ [last] :=
      (List.eq_nil_or_concat after).imp_right fun ⟨init, last, h⟩ => ⟨init, last, by simpa using h⟩
    · have hlast := congrArg List.getLast? heq
      simp only [List.getLast?_append, List.getLast?_singleton, Option.some_or, Option.some.injEq]
        at hlast
      rw [← hlast] at hc
      cases hc
    · refine ⟨before, params, c, init, ?_, hparams, hc⟩
      have hdrop := congrArg List.dropLast heq
      rwa [List.dropLast_concat, ← List.cons_append, ← List.append_assoc, ← List.append_assoc,
        List.dropLast_concat, List.append_assoc] at hdrop
  · rintro ⟨before, params, c, after, rfl, hparams, hc⟩
    exact ⟨before, params, c, after ++ [10], by simp, hparams, hc⟩

theorem escapeEnd_newline (text : List UInt8) :
    escapeEnd (text ++ [10]) = escapeEnd text ++ [10] ∨
      (escapeEnd text = [] ∧ escapeEnd (text ++ [10]) = []) := by
  induction text with
  | nil => exact .inr ⟨rfl, rfl⟩
  | cons c text ih =>
    rw [List.cons_append]
    unfold escapeEnd
    cases isFinal c with
    | true => exact .inl rfl
    | false => exact ih

theorem escapeStart_newline (text : List UInt8) :
    escapeStart (text ++ [10]) = (escapeStart text).map (· ++ [10]) := by
  match text with
  | [] => rfl
  | [b] =>
    show (if b = ESC ∧ (10 : UInt8) = 91 then some [] else none) = none
    rw [if_neg fun h => absurd h.2 (by decide)]
  | b :: c :: rest =>
    show (if b = ESC ∧ c = 91 then some (rest ++ [10]) else none) =
      (if b = ESC ∧ c = 91 then some rest else none).map _
    split <;> rfl

/-- A newline behind a line is visible, unless an escape sequence that the line
does not end takes it along. -/
theorem visible_newline (text : List UInt8) :
    visible (text ++ [10]) = visible text ++ [10] ∨
      (visible (text ++ [10]) = visible text ∧ (visible text).length + 2 ≤ text.length) := by
  induction text using text_induction with
  | nil => exact .inl (by decide +kernel)
  | escape rest ih =>
    have hshort := (visible_sublist (escapeEnd rest)).length_le
    have hlen := escapeEnd_length rest
    rw [List.cons_append, List.cons_append, visible_escape, visible_escape]
    obtain hend | ⟨hend, hend'⟩ := escapeEnd_newline rest
    · rw [hend]
      refine ih.imp_right fun h => ⟨h.1, ?_⟩
      simp only [List.length_cons]
      omega
    · rw [hend, hend', visible_nil]
      exact .inr ⟨rfl, by simp⟩
  | character b rest hplain ih =>
    have hplain' : escapeStart (b :: (rest ++ [10])) = none := by
      rw [← List.cons_append, escapeStart_newline, hplain]
      rfl
    rw [List.cons_append, visible_character hplain, visible_character hplain', List.length_cons]
    split
    case isTrue => exact ih.imp_right fun h => ⟨h.1, Nat.le_succ_of_le h.2⟩
    case isFalse =>
      obtain h | ⟨h, hlen⟩ := ih
      · exact .inl (by rw [h, List.cons_append])
      · exact .inr ⟨by rw [h], by rw [List.length_cons]; omega⟩

theorem skip_ansi_escape_newline (text : List UInt8) :
    skip_ansi_escape (text ++ [10]) = skip_ansi_escape text ++ [10] ∨
      (skip_ansi_escape text = [] ∧ skip_ansi_escape (text ++ [10]) = []) := by
  have hplain : ∀ text, escapeStart text = none → skip_ansi_escape text = text := by
    intro text hnone
    unfold skip_ansi_escape
    split
    case h_1 hsome => simp [hnone] at hsome
    case h_2 => rfl
  have hescape : ∀ rest, skip_ansi_escape (ESC :: 91 :: rest) = skip_ansi_escape (escapeEnd rest) := by
    intro rest
    rw [skip_ansi_escape]
    rfl
  induction text using text_induction with
  | nil => exact .inl (by rw [hplain _ rfl, hplain _ rfl])
  | escape rest ih =>
    rw [List.cons_append, List.cons_append, hescape, hescape]
    obtain hend | ⟨hend, hend'⟩ := escapeEnd_newline rest
    · rw [hend]
      exact ih
    · rw [hend, hend', hplain _ rfl]
      exact .inr ⟨rfl, rfl⟩
  | character b rest hnone _ =>
    have hnone' : escapeStart ((b :: rest) ++ [10]) = none := by
      rw [escapeStart_newline, hnone]
      rfl
    exact .inl (by rw [hplain _ hnone, hplain _ hnone'])

/-- A text that holds no newline is found in a line whether or not a newline
ends the line. -/
theorem contains_newline (line : List UInt8) (text : String)
    (htext : ascii text ≠ [] ∧ 10 ∉ ascii text) :
    contains (line ++ [10]) text = contains line text := by
  unfold contains strstr
  induction line with
  | nil =>
    have hnot : (ascii text).isPrefixOf [10] = false := by
      rw [Bool.eq_false_iff, ne_eq, List.isPrefixOf_iff_prefix]
      rintro hbegins
      obtain ⟨b, rest, hcons⟩ := List.exists_cons_of_ne_nil htext.1
      have hb : b ∈ [(10 : UInt8)] := hbegins.mem (by rw [hcons]; exact List.mem_cons_self)
      exact htext.2 (by rw [hcons, List.mem_singleton.mp hb]; exact List.mem_cons_self)
    simp only [List.nil_append, search, hnot, Bool.false_eq_true, if_false]
  | cons b line ih =>
    have hsame : (ascii text).isPrefixOf (b :: (line ++ [10])) = (ascii text).isPrefixOf (b :: line) := by
      rw [Bool.eq_iff_iff, List.isPrefixOf_iff_prefix, List.isPrefixOf_iff_prefix,
        ← List.cons_append, List.prefix_concat_iff]
      refine or_iff_right fun hall => htext.2 ?_
      rw [hall]
      exact List.mem_append_right _ (List.mem_singleton_self 10)
    rw [List.cons_append, search, search, hsame]
    split
    case isTrue => rfl
    case isFalse => exact ih

theorem character_newline {text : List UInt8} {i : Nat} {c : UInt8} (hc : c ≠ 10) :
    (text ++ [10])[i]? = some c ↔ text[i]? = some c := by
  rw [List.getElem?_append]
  split
  case isTrue => rfl
  case isFalse hi =>
    have hnone : text[i]? = none := List.getElem?_eq_none (by omega)
    rw [hnone]
    refine iff_of_false (fun h => hc ?_) (by simp)
    obtain ⟨_, hget⟩ := List.getElem?_eq_some_iff.mp h
    simpa using hget.symm

/-- A newline at the end of a line does not count for the choice of lines. -/
theorem should_store_line_newline (line : List UInt8) :
    should_store_line (line ++ [10]) = should_store_line line := by
  obtain hskip | ⟨hskip, hskip'⟩ := skip_ansi_escape_newline line
  · unfold should_store_line
    dsimp only
    rw [hskip]
    simp only [ne_eq, character_newline (show (87 : UInt8) ≠ 10 by decide),
      character_newline (show (69 : UInt8) ≠ 10 by decide),
      character_newline (show (32 : UInt8) ≠ 10 by decide),
      character_newline (show (73 : UInt8) ≠ 10 by decide)]
    simp (disch := decide +kernel) only [contains_newline]
  · unfold should_store_line
    rw [hskip, hskip']

/-- A collected line is stored as an entry of its own, if fewer characters of it
are visible than fill the array and its escape sequences hide no other one. -/
theorem entry_sanitize_line {text : List UInt8} (hlen : text.length < WEB_LOG_LINE_SIZE)
    (hone : 10 ∉ text) :
    should_store_line (sanitize_line (text ++ [10])) = should_store_line (visible (text ++ [10])) ∧
    (Entry (sanitize_line (text ++ [10])) ↔
      (visible (text ++ [10])).length < WEB_LOG_LINE_SIZE ∧ ¬ Escape (visible (text ++ [10]))) := by
  have hsize : WEB_LOG_LINE_SIZE = 512 := rfl
  have hclear : 10 ∉ visible text := fun h => hone ((visible_sublist text).mem h)
  have hreturn : 13 ∉ visible text := fun h => (visible_mem h).2 rfl
  have hshort := (visible_sublist text).length_le
  have hentry : Entry (visible text ++ [10]) ↔ ¬ Escape (visible text ++ [10]) :=
    ⟨Entry.no_escape, fun hescape =>
      ⟨⟨visible text, rfl, hclear⟩, by simpa using hreturn, hescape⟩⟩
  have hnone : (visible text).getLast? ≠ some 10 := fun h => hclear (List.mem_of_getLast? h)
  rw [sanitize_line_visible]
  dsimp only
  obtain hline | ⟨hline, hgone⟩ := visible_newline text
  · by_cases hroom : (visible text).length + 1 < WEB_LOG_LINE_SIZE
    · have hall : (visible text ++ [10]).take (WEB_LOG_LINE_SIZE - 1) = visible text ++ [10] :=
        List.take_of_length_le (by rw [List.length_append, List.length_singleton]; omega)
      rw [hline, hall, if_neg (by simp), hentry, List.length_append, List.length_singleton]
      exact ⟨rfl, (and_iff_right hroom).symm⟩
    · -- The visible characters leave no room for the newline.
      have hfull : (visible text ++ [10]).take (WEB_LOG_LINE_SIZE - 1) = visible text :=
        List.take_left' (by omega)
      rw [hline, hfull, if_neg (fun h => hroom h.2), should_store_line_newline]
      refine ⟨rfl, iff_of_false ?_ ?_⟩
      · rintro ⟨⟨init, heq, _⟩, _, _⟩
        exact hclear (by rw [heq]; exact List.mem_append_right _ (List.mem_singleton_self 10))
      · rw [List.length_append, List.length_singleton]
        exact fun h => hroom h.1
  · have hall : (visible text).take (WEB_LOG_LINE_SIZE - 1) = visible text :=
      List.take_of_length_le (by omega)
    rw [hline, hall, if_pos ⟨hnone, by omega⟩, should_store_line_newline, hentry, escape_newline]
    exact ⟨rfl, (and_iff_right (by omega)).symm⟩

/-- The lines that a text is collected into behind the characters `pending`: each
ends at a newline, or where it fills the array. -/
def lines (pending : List UInt8) : List UInt8 → List (List UInt8)
  | [] => []
  | c :: text =>
    if pending.length + 1 ≥ WEB_LOG_LINE_SIZE then
      (pending ++ [10]) :: if c = 10 then [10] :: lines [] text else lines [c] text
    else if c = 10 then (pending ++ [10]) :: lines [] text
    else lines (pending ++ [c]) text

theorem lines_newline {pending text line : List UInt8} (hlen : pending.length < WEB_LOG_LINE_SIZE)
    (hone : 10 ∉ pending) (hline : line ∈ lines pending text) :
    ∃ front, line = front ++ [10] ∧ front.length < WEB_LOG_LINE_SIZE ∧ 10 ∉ front := by
  induction text generalizing pending with
  | nil => cases hline
  | cons c text ih =>
    have hsingle : c ≠ 10 → 10 ∉ pending ++ [c] := fun hc h => by
      obtain h | h := List.mem_append.mp h
      · exact hone h
      · exact hc (List.mem_singleton.mp h).symm
    have hempty := @ih [] (by decide) List.not_mem_nil
    unfold lines at hline
    split at hline
    case isTrue hfull =>
      obtain rfl | hline := List.mem_cons.mp hline
      · exact ⟨pending, rfl, hlen, hone⟩
      · split at hline
        case isTrue =>
          obtain rfl | hline := List.mem_cons.mp hline
          · exact ⟨[], rfl, by decide, List.not_mem_nil⟩
          · exact hempty hline
        case isFalse hc =>
          exact @ih [c] (by rw [List.length_singleton]; decide)
            (fun h => hc (List.mem_singleton.mp h).symm) hline
    case isFalse hroom =>
      split at hline
      case isTrue =>
        obtain rfl | hline := List.mem_cons.mp hline
        · exact ⟨pending, rfl, hlen, hone⟩
        · exact hempty hline
      case isFalse hc =>
        exact ih (by rw [List.length_append, List.length_singleton]; omega) (hsingle hc) hline

/-- The entries that lines are stored as. -/
def entries (lines : List (List UInt8)) : List (List UInt8) :=
  (lines.map sanitize_line).filter should_store_line

theorem stored_store {s : LogState} (hline : s.pending_line ≠ []) :
    (store_pending_line_locked s).stored = s.stored ++ entries [s.pending_line] := by
  obtain ⟨_, _, ⟨hkeep, hstored, _⟩ | ⟨hdrop, hstored, _⟩⟩ := store_pending_line_cases s hline
  · rw [hstored, entries, List.map_singleton, List.filter_singleton, hkeep]
    rfl
  · rw [hstored, entries, List.map_singleton, List.filter_singleton, hdrop]
    simp

theorem pending_store {s : LogState} (hline : s.pending_line ≠ []) :
    (store_pending_line_locked s).pending_line = [] :=
  (store_pending_line_cases s hline).1

theorem entries_cons (line : List UInt8) (rest : List (List UInt8)) :
    entries (line :: rest) = entries [line] ++ entries rest := by
  unfold entries
  rw [← List.filter_append, ← List.map_append, List.singleton_append]

/-- The characters of a text are stored line by line. -/
theorem stored_text {s : LogState} (hroom : s.pending_line.length < WEB_LOG_LINE_SIZE)
    (text : List UInt8) :
    (text.foldl appendCharacter s).stored = s.stored ++ entries (lines s.pending_line text) := by
  induction text generalizing s with
  | nil => exact (List.append_nil _).symm
  | cons c text ih =>
    have hput : ∀ (s : LogState) c, (s.put c).pending_line ≠ [] := fun s c => by simp [pending_put]
    have hstored : ∀ (s : LogState) c, (s.put c).stored = s.stored := fun _ _ => rfl
    rw [List.foldl_cons, lines]
    by_cases hfull : s.pending_line.length = WEB_LOG_LINE_SIZE - 1
    · have hlimit : s.pending_line.length + 1 ≥ WEB_LOG_LINE_SIZE := by
        rw [hfull]
        decide
      have hpending := pending_store (hput s 10)
      rw [appendCharacter_full c hfull, if_pos hlimit, entries_cons]
      dsimp only
      split
      case isTrue hc =>
        have hempty := pending_store (hput (store_pending_line_locked (s.put 10)) c)
        rw [ih (by rw [hempty]; decide), hempty, stored_store (hput _ c), hstored,
          stored_store (hput s 10), hstored, pending_put, pending_put, hpending, hc,
          entries_cons [10] (lines [] text), List.nil_append, List.append_assoc, List.append_assoc]
      case isFalse hc =>
        have hsingle : ((store_pending_line_locked (s.put 10)).put c).pending_line = [c] := by
          rw [pending_put, hpending, List.nil_append]
        rw [ih (by rw [hsingle, List.length_singleton]; decide), hsingle, hstored,
          stored_store (hput s 10), hstored, pending_put, List.append_assoc]
    · have hsmall : s.pending_line.length < WEB_LOG_LINE_SIZE - 1 := by omega
      rw [appendCharacter_room c hsmall,
        if_neg (show ¬ s.pending_line.length + 1 ≥ WEB_LOG_LINE_SIZE by omega)]
      split
      case isTrue hc =>
        have hempty := pending_store (hput s c)
        rw [ih (by rw [hempty]; decide), hempty, stored_store (hput s c), hstored, pending_put, hc,
          entries_cons _ (lines [] text), List.append_assoc]
      case isFalse hc =>
        rw [ih (by rw [pending_put, List.length_append, List.length_singleton]; omega), hstored,
          pending_put]

/-- The lines that some calls of `log_vprintf` are collected into. -/
def loggedLines (calls : List (Option (List UInt8))) : List (List UInt8) :=
  lines [] (calls.flatMap logged)

theorem stored_run (calls : List (Option (List UInt8))) :
    (logRun calls).stored = entries (loggedLines calls) := by
  unfold logRun
  rw [foldl_log_vprintf, stored_text (by decide)]
  rfl

/-- Lines that end at their first newline are told apart again. -/
theorem splitOn_entries {stored : List (List UInt8)} (hentries : ∀ line ∈ stored, Entry line) :
    stored.flatten.splitOn 10 = stored.map List.dropLast ++ [[]] := by
  induction stored with
  | nil => rfl
  | cons line rest ih =>
    obtain ⟨⟨text, rfl, hone⟩, _, _⟩ := hentries line List.mem_cons_self
    rw [List.flatten_cons, List.append_assoc, List.singleton_append,
      List.splitOn_append_cons_self_of_not_mem hone,
      ih fun line hline => hentries line (List.mem_cons_of_mem _ hline), List.map_cons,
      List.dropLast_concat, List.cons_append]

/-- The stored lines are entries of their own exactly when of every collected
line that is to be stored less than the whole array is visible, and removing its
escape sequences uncovers no other one. They are then told apart again by their
newlines. -/
theorem stored_lines_apart (calls : List (Option (List UInt8))) :
    ((∀ entry ∈ (logRun calls).stored, Entry entry) ↔
      ∀ line ∈ loggedLines calls, should_store_line (visible line) = true →
        (visible line).length < WEB_LOG_LINE_SIZE ∧ ¬ Escape (visible line)) ∧
    ((∀ entry ∈ (logRun calls).stored, Entry entry) →
      (logRun calls).stored.flatten.splitOn 10 =
        (logRun calls).stored.map List.dropLast ++ [[]]) := by
  refine ⟨?_, splitOn_entries⟩
  have hline : ∀ line ∈ loggedLines calls,
      should_store_line (sanitize_line line) = should_store_line (visible line) ∧
        (Entry (sanitize_line line) ↔
          (visible line).length < WEB_LOG_LINE_SIZE ∧ ¬ Escape (visible line)) := by
    intro line hmem
    obtain ⟨text, rfl, hlen, hone⟩ := lines_newline (by decide) List.not_mem_nil hmem
    exact entry_sanitize_line hlen hone
  rw [stored_run, entries]
  constructor
  · intro hentries line hmem hkeep
    obtain ⟨hsame, hentry⟩ := hline line hmem
    exact hentry.mp (hentries _ (List.mem_filter.mpr ⟨List.mem_map_of_mem hmem, hsame.trans hkeep⟩))
  · intro hlines entry hmem
    obtain ⟨hmap, hkeep⟩ := List.mem_filter.mp hmem
    obtain ⟨line, hin, rfl⟩ := List.mem_map.mp hmap
    obtain ⟨hsame, hentry⟩ := hline line hin
    exact hentry.mpr (hlines line hin (hsame.symm.trans hkeep))

/-- `W`, two ESC characters, and then `[m[m` with a newline: an escape sequence is
uncovered by the removal of another. -/
theorem uncovered_escape_stored :
    ¬ ∀ entry ∈ (logRun [some [87, 32, 27, 27], some [91, 109, 91, 109, 10]]).stored,
      Entry entry := by
  have hstored : (logRun [some [87, 32, 27, 27], some [91, 109, 91, 109, 10]]).stored =
      [[87, 32, 27, 91, 109, 10]] := by decide +kernel
  intro hentries
  rw [hstored] at hentries
  exact (hentries _ List.mem_cons_self).no_escape
    ⟨[87, 32], [], 109, [10], rfl, fun d hd => absurd hd List.not_mem_nil, rfl⟩

end rtkbase.log
