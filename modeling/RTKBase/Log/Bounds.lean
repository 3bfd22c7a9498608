import RTKBase.Log.Visible

open lib.cstring lib.ring

namespace rtkbase.log

/-- The characters that a call of `log_vprintf` adds to the pending line. -/
def logged (formatted : Option (List UInt8)) : List UInt8 :=
  match formatted with
  | none => []
  | some formatted => visible (strlcpy (WEB_LOG_LINE_SIZE - 1) formatted).bytes

theorem log_vprintf_logged (s : LogState) (formatted : Option (List UInt8)) :
    log_vprintf s formatted = (logged formatted).foldl appendCharacter s := by
  cases formatted with
  | none => rfl
  | some formatted =>
    cases formatted with
    | nil =>
      show s = (visible []).foldl appendCharacter s
      rw [visible_nil]
      rfl
    | cons b rest => exact append_formatted_text_visible s _

theorem foldl_log_vprintf (s : LogState) (calls : List (Option (List UInt8))) :
    calls.foldl log_vprintf s = (calls.flatMap logged).foldl appendCharacter s := by
  induction calls generalizing s with
  | nil => rfl
  | cons call calls ih =>
    rw [List.foldl_cons, List.flatMap_cons, List.foldl_append, ih, log_vprintf_logged]

/-- The log after `log_init` and some calls of `log_vprintf`. -/
def logRun (calls : List (Option (List UInt8))) : LogState :=
  calls.foldl log_vprintf (log_init logStart)

/-- A character behind as many others as fill a line, none of them a newline. -/
def Overlong (text : List UInt8) : Prop :=
  ∃ before line c after, text = before ++ (line ++ c :: after) ∧
    line.length = WEB_LOG_LINE_SIZE - 1 ∧ 10 ∉ line

theorem Overlong.append {text : List UInt8} (hlong : Overlong text) (more : List UInt8) :
    Overlong (text ++ more) := by
  obtain ⟨before, line, c, after, rfl, hlen, hline⟩ := hlong
  exact ⟨before, line, c, after ++ more, by simp, hlen, hline⟩

/-- The characters behind the last newline. -/
def Tail (text tail : List UInt8) : Prop :=
  ∃ before, text = before ++ tail ∧ (before = [] ∨ ∃ lines, before = lines ++ [10])

theorem Tail.newline (text : List UInt8) : Tail (text ++ [10]) [] :=
  ⟨text ++ [10], (List.append_nil _).symm, .inr ⟨text, rfl⟩⟩

theorem Tail.character {text tail : List UInt8} (htail : Tail text tail) (c : UInt8) :
    Tail (text ++ [c]) (tail ++ [c]) := by
  obtain ⟨before, rfl, hbefore⟩ := htail
  exact ⟨before, List.append_assoc .., hbefore⟩

/-- Only the characters behind the last newline count for the next one. -/
theorem not_overlong_append {text tail : List UInt8} {c : UInt8} (htail : Tail text tail)
    (hshort : tail.length < WEB_LOG_LINE_SIZE - 1) (hfits : ¬ Overlong text) :
    ¬ Overlong (text ++ [c]) := by
  rintro ⟨before, line, d, after, heq, hlen, hline⟩
  by_cases hafter : after = []
  · subst hafter
    have hinit : text = before ++ line := by
      have hdrop := congrArg List.dropLast heq
      rwa [List.dropLast_concat, ← List.append_assoc, List.dropLast_concat] at hdrop
    obtain ⟨head, hhead, hend⟩ := htail
    have hsuffix : tail <:+ line := by
      have htext : tail <:+ text := ⟨head, hhead.symm⟩
      exact List.suffix_of_suffix_length_le htext ⟨before, hinit.symm⟩ (by omega)
    obtain ⟨front, hfront⟩ := hsuffix
    have hback : head = before ++ front := by
      refine List.append_cancel_right (?_ : head ++ tail = before ++ front ++ tail)
      rw [← hhead, hinit, ← hfront, List.append_assoc]
    have hlast : front ≠ [] := by
      rintro rfl
      rw [← hfront] at hlen
      exact absurd hlen (Nat.ne_of_lt hshort)
    obtain rfl | ⟨lines, rfl⟩ := hend
    · exact hlast (List.append_eq_nil_iff.mp hback.symm).2
    · have hten : (10 : UInt8) ∈ front := by
        have hget := congrArg List.getLast? hback
        rw [List.getLast?_append_of_ne_nil _ hlast, List.getLast?_concat] at hget
        exact List.mem_of_getLast? hget.symm
      exact hline (hfront ▸ List.mem_append_left _ hten)
  · apply hfits
    obtain ⟨init, last, rfl⟩ : ∃ init last, after = init ++ [last] :=
      ⟨_, _, (List.dropLast_append_getLast hafter).symm⟩
    refine ⟨before, line, d, init, ?_, hlen, hline⟩
    have hdrop := congrArg List.dropLast heq
    rw [List.dropLast_concat] at hdrop
    rw [hdrop, ← List.cons_append, ← List.append_assoc, ← List.append_assoc, List.dropLast_concat,
      List.append_assoc]

/-- Every index written in `s_pending_line` so far is one of the array. -/
def Within (s : LogState) : Prop := ∀ i ∈ s.written, i < WEB_LOG_LINE_SIZE

theorem within_put {s : LogState} (c : UInt8) (hroom : s.pending_line.length < WEB_LOG_LINE_SIZE) :
    Within (s.put c) ↔ Within s := by
  unfold Within LogState.put
  rw [List.forall_mem_append]
  exact and_iff_left fun i hi => List.mem_singleton.mp hi ▸ hroom

theorem within_store {s : LogState} (hline : s.pending_line ≠ []) :
    Within (store_pending_line_locked s) ↔
      Within s ∧ s.pending_line.length < WEB_LOG_LINE_SIZE := by
  obtain ⟨_, hwritten, _⟩ := store_pending_line_cases s hline
  have hfits := sanitize_line_fits s.pending_line
  unfold Within
  rw [hwritten, List.forall_mem_append, List.forall_mem_cons]
  refine and_congr_right fun _ => and_iff_left fun i hi => ?_
  have hle := List.mem_range.mp hi
  omega

/-- What the pending line holds after the characters `text` were appended, and
when all the indices written on the way are in bounds. -/
structure Collected (text : List UInt8) (s : LogState) : Prop where
  short : s.pending_line.length < WEB_LOG_LINE_SIZE
  one_line : 10 ∉ s.pending_line
  at_end : s.pending_line <:+ text
  whole : ¬ Overlong text → Tail text s.pending_line
  within : Within s ↔ ¬ Overlong text

theorem pending_put (s : LogState) (c : UInt8) :
    (s.put c).pending_line = s.pending_line ++ [c] := rfl

theorem appendCharacter_room {s : LogState} (c : UInt8)
    (hroom : s.pending_line.length < WEB_LOG_LINE_SIZE - 1) :
    appendCharacter s c = if c = 10 then store_pending_line_locked (s.put c) else s.put c := by
  unfold appendCharacter
  rw [if_neg (show ¬ s.pending_line.length + 1 ≥ WEB_LOG_LINE_SIZE by omega)]

theorem appendCharacter_full {s : LogState} (c : UInt8)
    (hfull : s.pending_line.length = WEB_LOG_LINE_SIZE - 1) :
    appendCharacter s c =
      let s := store_pending_line_locked (s.put 10)
      if c = 10 then store_pending_line_locked (s.put c) else s.put c := by
  have hlimit : s.pending_line.length + 1 ≥ WEB_LOG_LINE_SIZE := by
    rw [hfull]
    decide
  unfold appendCharacter
  rw [if_pos hlimit]

/-- A character for which the line has room. -/
theorem Collected.room {text : List UInt8} {s : LogState} (hs : Collected text s) (c : UInt8)
    (hroom : s.pending_line.length < WEB_LOG_LINE_SIZE - 1) :
    Collected (text ++ [c]) (appendCharacter s c) := by
  have hsize : WEB_LOG_LINE_SIZE = 512 := rfl
  obtain ⟨hshort, hone, ⟨before, hend⟩, hwhole, hwithin⟩ := hs
  have hlong : Overlong (text ++ [c]) ↔ Overlong text :=
    ⟨fun h => by_contra fun hfits => not_overlong_append (hwhole hfits) hroom hfits h,
      fun h => h.append [c]⟩
  have hput : Within (s.put c) ↔ ¬ Overlong (text ++ [c]) := by
    rw [within_put c hshort, hlong]
    exact hwithin
  rw [appendCharacter_room c hroom]
  by_cases hc : c = 10
  · subst hc
    rw [if_pos rfl]
    obtain ⟨hpending, _⟩ := store_pending_line_cases (s.put 10) (by simp [pending_put])
    refine ⟨by rw [hpending]; decide, by simp [hpending], by simp [hpending], ?_, ?_⟩
    · intro _
      rw [hpending]
      exact .newline text
    · rw [within_store (by simp [pending_put]), pending_put, List.length_append,
        List.length_singleton, hput]
      exact and_iff_left (by omega)
  · rw [if_neg hc]
    refine ⟨?_, ?_, ⟨before, ?_⟩, ?_, hput⟩
    · rw [pending_put, List.length_append, List.length_singleton]
      omega
    · rw [pending_put, List.mem_append, List.mem_singleton]
      exact not_or.mpr ⟨hone, Ne.symm hc⟩
    · rw [pending_put, ← List.append_assoc, hend]
    · intro hfits
      exact (hwhole (mt hlong.mpr hfits)).character c

/-- A character for which the line has no room: the newline takes the last place
of the array, and the terminator the one behind it. -/
theorem Collected.full {text : List UInt8} {s : LogState} (hs : Collected text s) (c : UInt8)
    (hfull : s.pending_line.length = WEB_LOG_LINE_SIZE - 1) :
    Collected (text ++ [c]) (appendCharacter s c) := by
  obtain ⟨_, hone, ⟨before, hend⟩, _, _⟩ := hs
  have hlong : Overlong (text ++ [c]) :=
    ⟨before, s.pending_line, c, [], by rw [← hend, List.append_assoc], hfull, hone⟩
  have hover : ¬ Within (store_pending_line_locked (s.put 10)) := by
    rw [within_store (by simp [pending_put]), pending_put, List.length_append,
      List.length_singleton, hfull]
    exact fun h => absurd h.2 (by decide)
  obtain ⟨hpending, _⟩ := store_pending_line_cases (s.put 10) (by simp [pending_put])
  have hput : ¬ Within ((store_pending_line_locked (s.put 10)).put c) := by
    rwa [within_put c (by rw [hpending]; decide)]
  have hsingle : ((store_pending_line_locked (s.put 10)).put c).pending_line = [c] := by
    rw [pending_put, hpending, List.nil_append]
  rw [appendCharacter_full c hfull]
  dsimp only
  by_cases hc : c = 10
  · subst hc
    rw [if_pos rfl]
    obtain ⟨hempty, _⟩ := store_pending_line_cases
      ((store_pending_line_locked (s.put 10)).put 10) (by simp [hsingle])
    refine ⟨by rw [hempty]; decide, by simp [hempty], by simp [hempty], fun h => absurd hlong h, ?_⟩
    rw [within_store (by simp [hsingle])]
    exact iff_of_false (fun h => hput h.1) (fun h => h hlong)
  · rw [if_neg hc]
    refine ⟨?_, ?_, ?_, fun h => absurd hlong h, ?_⟩
    · rw [hsingle, List.length_singleton]
      decide
    · rw [hsingle, List.mem_singleton]
      exact Ne.symm hc
    · rw [hsingle]
      exact ⟨text, rfl⟩
    · exact iff_of_false hput (fun h => h hlong)

theorem Collected.character {text : List UInt8} {s : LogState} (hs : Collected text s) (c : UInt8) :
    Collected (text ++ [c]) (appendCharacter s c) := by
  obtain hroom | hfull := Nat.lt_or_ge s.pending_line.length (WEB_LOG_LINE_SIZE - 1)
  · exact hs.room c hroom
  · have hshort := hs.short
    exact hs.full c (by omega)

theorem Collected.text {text : List UInt8} {s : LogState} (hs : Collected text s)
    (more : List UInt8) : Collected (text ++ more) (more.foldl appendCharacter s) := by
  induction more generalizing text s with
  | nil => rwa [List.append_nil]
  | cons c more ih =>
    have hnext := ih (hs.character c)
    rwa [List.append_assoc, List.singleton_append] at hnext

theorem collected_start : Collected [] (log_init logStart) where
  short := by decide
  one_line := List.not_mem_nil
  at_end := List.nil_suffix
  whole _ := ⟨[], rfl, .inl rfl⟩
  within := by
    refine iff_of_true (fun i hi => absurd hi List.not_mem_nil) ?_
    rintro ⟨before, line, c, after, heq, _⟩
    simp at heq

theorem collected_run (calls : List (Option (List UInt8))) :
    Collected (calls.flatMap logged) (logRun calls) := by
  unfold logRun
  rw [foldl_log_vprintf]
  exact collected_start.text _

/-- The line buffer is overrun exactly when the calls, one after the other, log
as many characters without a newline as there is room for in front of the
terminator, and then one character more. -/
theorem line_buffer_in_bounds (calls : List (Option (List UInt8))) :
    (∀ i ∈ (logRun calls).written, i < WEB_LOG_LINE_SIZE) ↔ ¬ Overlong (calls.flatMap logged) :=
  (collected_run calls).within

/-- Two texts of 256 characters without a newline. -/
theorem two_texts_overrun :
    ¬ ∀ i ∈ (logRun [some (List.replicate 256 97), some (List.replicate 256 97)]).written,
      i < WEB_LOG_LINE_SIZE := by
  have hlogged : [some (List.replicate 256 97), some (List.replicate 256 97)].flatMap logged =
      [] ++ (List.replicate 511 97 ++ 97 :: []) := by decide +kernel
  intro hwithin
  apply (collected_run _).within.mp hwithin
  exact ⟨[], List.replicate 511 97, 97, [], hlogged, List.length_replicate,
    fun hten => absurd (List.eq_of_mem_replicate hten) (by decide)⟩

end rtkbase.log
