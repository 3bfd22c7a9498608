import RTKBase.GnssUart.ConsoleNoise
import RTKBase.Lib.Pieces

open lib.cstring lib.pieces

namespace rtkbase.gnss_uart

/-- Where text is taken to start a line: at the start of the stream, after a
terminator, or at the first byte after binary data that may start one. -/
def Start (before line : List UInt8) : Prop :=
  before = [] ∨ EndsLine before ∨
    BinaryPending before ∧ ∃ x ∈ line.head?, console_is_likely_line_start x = true

/-- A line as it is stored when `b` comes after `p`: all of the text since its start,
and ended by `b`. -/
def WholeLine (p : List UInt8) (b : UInt8) (line : List UInt8) : Prop :=
  IsTerminator b ∧ ∃ before, p = before ++ line ∧ (∀ x ∈ line, IsText x) ∧ Start before line

/-- Where the assembler starts to collect a run of text. -/
def RunStart (before run : List UInt8) : Prop :=
  ¬ BinaryPending before ∧ (before = [] ∨ EndsLine before) ∨
    BinaryPending before ∧ ∃ x ∈ run.head?, console_is_likely_line_start x = true

/-- The text of the line that the assembler holds after a run. -/
def held (run : List UInt8) : List UInt8 := lastPiece (GNSS_CONSOLE_LINE_SIZE - 1) run

/-- A byte that makes the console store a part of the run: more text when the line
is full, or the terminator of a run that was cut before. -/
def CutShort (run : List UInt8) (b : UInt8) : Prop :=
  IsText b ∧ run ≠ [] ∧ run.length % (GNSS_CONSOLE_LINE_SIZE - 1) = 0 ∨
    IsTerminator b ∧ GNSS_CONSOLE_LINE_SIZE - 1 < run.length

/-- No part of a longer run looks like a message of the receiver. -/
def PartsDull (s : List UInt8) : Prop :=
  ∀ before run b rest, s = before ++ run ++ b :: rest → RunStart before run →
    (∀ x ∈ run, IsText x) → CutShort run b → console_line_interesting (held run) = false

theorem runStart_start {before run : List UInt8} (hstart : RunStart before run) :
    Start before run := by
  obtain ⟨-, hnil | hends⟩ | hlikely := hstart
  · exact Or.inl hnil
  · exact Or.inr (Or.inl hends)
  · exact Or.inr (Or.inr hlikely)

theorem runStart_append {before run : List UInt8} {more : List UInt8} (hstart : RunStart before run) :
    RunStart before (run ++ more) := by
  obtain hclean | ⟨hpending, x, hx, hlikely⟩ := hstart
  · exact Or.inl hclean
  · exact Or.inr ⟨hpending, x, by simp_all, hlikely⟩

section

variable {before run : List UInt8} {b : UInt8}

theorem push_text_held (htext : IsText b) :
    (Assembler.mk (held run) false).push b = ⟨held (run ++ [b]), false⟩ := by
  have hsnoc : held (run ++ [b]) = if (held run).length < GNSS_CONSOLE_LINE_SIZE - 1 then
      held run ++ [b] else [b] := lastPiece_snoc (by decide)
  have hroom : (held run).length + 1 < GNSS_CONSOLE_LINE_SIZE ↔
      (held run).length < GNSS_CONSOLE_LINE_SIZE - 1 := by
    rw [GNSS_CONSOLE_LINE_SIZE]
    omega
  rw [push_text htext, if_neg (by simp), hsnoc]
  simp only [hroom]
  split <;> rfl

/-- After a run and what came before it the assembler holds the last piece of the run. -/
theorem run_of_runStart (hstart : RunStart before run) (htext : ∀ x ∈ run, IsText x) :
    Assembler.empty.run (before ++ run) = ⟨held run, false⟩ := by
  induction run using List.reverseRecOn with
  | nil =>
    obtain ⟨hclean, rfl | hends⟩ | ⟨-, x, hx, -⟩ := hstart
    · rfl
    · rw [List.append_nil, (run_of_ends hends).mpr hclean]
      rfl
    · simp at hx
  | append_singleton run b ih =>
    have hb : IsText b := htext b (by simp)
    rw [← List.append_assoc, run_snoc]
    by_cases hbefore : RunStart before run
    · rw [ih hbefore fun x hx => htext x (by simp [hx]), push_text_held hb]
    -- the run starts with its last byte, after binary data
    obtain ⟨hpending, hlikely⟩ : BinaryPending before ∧
        ∃ x ∈ (run ++ [b]).head?, console_is_likely_line_start x = true := by
      obtain hclean | hpending := hstart
      · exact absurd (Or.inl hclean) hbefore
      · exact hpending
    obtain rfl : run = [] := by
      cases run with
      | nil => rfl
      | cons first rest => exact absurd (Or.inr ⟨hpending, hlikely⟩) hbefore
    obtain ⟨x, hx, hlikely⟩ := hlikely
    obtain rfl : b = x := by simpa using hx
    rw [List.append_nil, run_pending hpending, push_text hb]
    simp [hlikely, held, lastPiece_of_le, GNSS_CONSOLE_LINE_SIZE]

/-- Where the assembler is not dropping binary data, it holds the last piece of a run. -/
theorem exists_run (p : List UInt8) (hclean : ¬ BinaryPending p) :
    ∃ before run, p = before ++ run ∧ RunStart before run ∧ ∀ x ∈ run, IsText x := by
  induction p using List.reverseRecOn with
  | nil => exact ⟨[], [], rfl, Or.inl ⟨hclean, Or.inl rfl⟩, by simp⟩
  | append_singleton p b ih =>
    by_cases hb : IsTerminator b
    · exact ⟨p ++ [b], [], by simp, Or.inl ⟨hclean, Or.inr ⟨p, b, rfl, hb⟩⟩, by simp⟩
    have htext : IsText b := by
      by_contra htext
      exact hclean (binaryPending_snoc.mpr (Or.inl ⟨htext, hb⟩))
    by_cases hpending : BinaryPending p
    · have hlikely : console_is_likely_line_start b = true := by
        by_contra hlikely
        exact hclean (binaryPending_snoc.mpr (Or.inr ⟨hpending, by simpa using hlikely⟩))
      exact ⟨p, [b], rfl, Or.inr ⟨hpending, b, rfl, hlikely⟩, by simpa using htext⟩
    · obtain ⟨before, run, rfl, hstart, hrun⟩ := ih hpending
      refine ⟨before, run ++ [b], by simp, runStart_append hstart, fun x hx => ?_⟩
      obtain hx | hx := List.mem_append.mp hx
      · exact hrun x hx
      · rw [List.mem_singleton.mp hx]
        exact htext

/-- Inside a run no line starts. -/
theorem not_start_inside {first line : List UInt8} (hstart : RunStart before (first ++ line))
    (htext : ∀ x ∈ first, IsText x) (hfirst : first ≠ []) : ¬ Start (before ++ first) line := by
  rintro (hnil | ⟨init, b, heq, hb⟩ | ⟨hpending, -⟩)
  · exact hfirst (List.append_eq_nil_iff.mp hnil).2
  · obtain rfl | ⟨front, x, rfl⟩ := List.eq_nil_or_concat first
    · exact hfirst rfl
    · rw [List.concat_eq_append] at heq htext
      rw [← List.append_assoc] at heq
      obtain ⟨-, hlast⟩ := List.append_inj' heq rfl
      obtain rfl : x = b := by simpa using hlast
      exact text_not_terminator (htext x (by simp)) hb
  · have hhead : RunStart before first := by
      obtain hclean | ⟨hbefore, x, hx, hlikely⟩ := hstart
      · exact Or.inl hclean
      · cases first with
        | nil => exact absurd rfl hfirst
        | cons y rest => exact Or.inr ⟨hbefore, x, hx, hlikely⟩
    have hbinary := (run_binary_iff _).mpr hpending
    rw [run_of_runStart hhead htext] at hbinary
    simp at hbinary

end

theorem full_iff {run : List UInt8} (hrun : run ≠ []) :
    GNSS_CONSOLE_LINE_SIZE ≤ (held run).length + 1 ↔
      run.length % (GNSS_CONSOLE_LINE_SIZE - 1) = 0 := by
  have hle : (held run).length ≤ GNSS_CONSOLE_LINE_SIZE - 1 := length_lastPiece_le (by decide)
  rw [← length_lastPiece_eq (by decide) hrun]
  change _ ↔ (held run).length = _
  rw [GNSS_CONSOLE_LINE_SIZE] at hle ⊢
  omega

/-- The line that a byte makes the console store after a run is the held piece of it. -/
theorem stored_of_run {before run line : List UInt8} {b : UInt8} (hstart : RunStart before run)
    (htext : ∀ x ∈ run, IsText x) :
    (Assembler.empty.run (before ++ run)).stored b = some line ↔
      (IsTerminator b ∨ IsText b ∧ run.length % (GNSS_CONSOLE_LINE_SIZE - 1) = 0) ∧
        run ≠ [] ∧ console_line_interesting (held run) = true ∧ line = held run := by
  rw [run_of_runStart hstart htext]
  by_cases hrun : run = []
  · subst hrun
    simp [Assembler.stored, Assembler.kept, held, lastPiece_nil]
  have hheld : held run ≠ [] := fun hnil => hrun (lastPiece_eq_nil.mp hnil)
  rw [← full_iff hrun]
  simp only [Assembler.stored, Assembler.kept, ne_eq, hheld, hrun, not_false_eq_true, true_and]
  split
  case isTrue hb =>
    split
    case isTrue hinteresting => simp [hb, hinteresting, eq_comm]
    case isFalse hdull => simp [hdull]
  case isFalse hb => simp [hb]

theorem partsDull_of_short {s : List UInt8} (hshort : s.length < GNSS_CONSOLE_LINE_SIZE) :
    PartsDull s := by
  rintro before run b rest rfl - - hcut
  simp only [List.length_append, List.length_cons] at hshort
  exfalso
  obtain ⟨-, hrun, hfull⟩ | ⟨-, hlong⟩ := hcut
  · have hpos : 0 < run.length := List.length_pos_iff.mpr hrun
    rw [Nat.mod_eq_of_lt (by omega)] at hfull
    omega
  · omega

/-- A part that looks like a message is stored where the run is cut. -/
theorem stored_of_cutShort {before run : List UInt8} {b : UInt8} (hstart : RunStart before run)
    (htext : ∀ x ∈ run, IsText x) (hcut : CutShort run b)
    (hinteresting : console_line_interesting (held run) = true) :
    (Assembler.empty.run (before ++ run)).stored b = some (held run) := by
  refine (stored_of_run hstart htext).mpr ⟨?_, ?_, hinteresting, rfl⟩
  · obtain ⟨hb, -, hfull⟩ | ⟨hb, -⟩ := hcut
    · exact Or.inr ⟨hb, hfull⟩
    · exact Or.inl hb
  · rintro rfl
    obtain ⟨-, hrun, -⟩ | ⟨-, hlong⟩ := hcut
    · exact hrun rfl
    · simp at hlong

/-- Such a part is no whole line: more text follows it, or the rest of the run stands
before it. -/
theorem not_whole_of_cutShort {before run : List UInt8} {b : UInt8} (hstart : RunStart before run)
    (htext : ∀ x ∈ run, IsText x) (hcut : CutShort run b) :
    ¬ WholeLine (before ++ run) b (held run) := by
  rintro ⟨hb, start, heq, -, hline⟩
  obtain ⟨hb', -⟩ | ⟨-, hlong⟩ := hcut
  · exact text_not_terminator hb' hb
  obtain ⟨first, hfirst⟩ : ∃ first, first ++ held run = run := ⟨_, append_lastPiece _ run⟩
  have hle : (held run).length ≤ GNSS_CONSOLE_LINE_SIZE - 1 := length_lastPiece_le (by decide)
  have hnonempty : first ≠ [] := by
    rintro rfl
    rw [List.nil_append] at hfirst
    rw [hfirst] at hle
    omega
  have hstart_eq : start = before ++ first := by
    have hboth : start ++ held run = (before ++ first) ++ held run := by
      rw [← heq, List.append_assoc, hfirst]
    exact List.append_cancel_right hboth
  have hparts : RunStart before (first ++ held run) := by
    rw [hfirst]
    exact hstart
  have hmem : ∀ x ∈ first, x ∈ run := by
    intro x hx
    rw [← hfirst]
    exact List.mem_append_left _ hx
  rw [hstart_eq] at hline
  exact not_start_inside hparts (fun x hx => htext x (hmem x hx)) hnonempty hline

/-- What is stored where the run is not cut is the whole run. -/
theorem whole_of_stored {before run line : List UInt8} {b : UInt8} (hstart : RunStart before run)
    (htext : ∀ x ∈ run, IsText x) (hwhole : ¬ CutShort run b)
    (hstored : (Assembler.empty.run (before ++ run)).stored b = some line) :
    WholeLine (before ++ run) b line := by
  obtain ⟨hb, hrun, -, rfl⟩ := (stored_of_run hstart htext).mp hstored
  obtain hb | ⟨hb, hfull⟩ := hb
  · have hshort : run.length ≤ GNSS_CONSOLE_LINE_SIZE - 1 := by
      by_contra hlong
      exact hwhole (Or.inr ⟨hb, by omega⟩)
    have hheld : held run = run := lastPiece_of_le hshort
    rw [hheld]
    exact ⟨hb, before, rfl, htext, runStart_start hstart⟩
  · exact absurd (Or.inl ⟨hb, hrun, hfull⟩) hwhole

theorem not_pending_of_stored {p line : List UInt8} {b : UInt8}
    (hstored : (Assembler.empty.run p).stored b = some line) : ¬ BinaryPending p := by
  rw [← run_binary_iff]
  intro hbinary
  simp [Assembler.stored, Assembler.kept, hbinary] at hstored

/-- Every line that is stored is a whole one exactly when no part of a longer run
looks like a message of the receiver. -/
theorem console_lines_whole_iff (c : Console) (now : Nat) (s : List UInt8)
    (hopen : ¬ Suppressed c now) :
    (∀ p b rest line, s = p ++ b :: rest →
        (console_push_bytes c.fresh now p).assembler.stored b = some line → WholeLine p b line) ↔
      PartsDull s := by
  have hrun : ∀ p, (console_push_bytes c.fresh now p).assembler = Assembler.empty.run p :=
    fun p => assembler_push_bytes (c := c.fresh) hopen p
  simp only [hrun]
  constructor
  · rintro hwhole before run b rest rfl hstart htext hcut
    by_contra hinteresting
    have hstored := stored_of_cutShort hstart htext hcut (by simpa using hinteresting)
    exact not_whole_of_cutShort hstart htext hcut (hwhole (before ++ run) b rest _ rfl hstored)
  · rintro hdull p b rest line rfl hstored
    obtain ⟨before, run, rfl, hstart, htext⟩ := exists_run p (not_pending_of_stored hstored)
    refine whole_of_stored hstart htext (fun hcut => ?_) hstored
    obtain ⟨-, -, hinteresting, -⟩ := (stored_of_run hstart htext).mp hstored
    rw [hdull before run b rest rfl hstart htext hcut] at hinteresting
    cases hinteresting

/-- A binary byte, a line that is dropped and one that is stored. -/
theorem console_lines_whole_of_short : WholeLine [0x80, 120, 13, 79, 75] 10 (ascii "OK") :=
  (console_lines_whole_iff consoleStart 3 [0x80, 120, 13, 79, 75, 10] (by decide)).mpr
    (partsDull_of_short (by decide)) [0x80, 120, 13, 79, 75] 10 [] (ascii "OK") rfl (by
      rw [assembler_push_bytes (c := consoleStart.fresh) (by decide)]
      decide)

/-- A line of 257 characters: its first 255 are dropped, and the other two are
stored as an answer of the receiver. -/
theorem console_stores_tail : ¬ Suppressed consoleStart 0 ∧
    (console_push_bytes consoleStart.fresh 0
      (List.replicate 255 120 ++ ascii "OK")).assembler.stored 13 = some (ascii "OK") ∧
    ¬ WholeLine (List.replicate 255 120 ++ ascii "OK") 13 (ascii "OK") := by
  have hopen : ¬ Suppressed consoleStart 0 := by decide
  have hlength : (List.replicate 255 (120 : UInt8) ++ ascii "OK").length = 257 := by
    rw [List.length_append, List.length_replicate]
    rfl
  have hheld : held (List.replicate 255 (120 : UInt8) ++ ascii "OK") = ascii "OK" := by
    rw [held, lastPiece, hlength]
    exact List.drop_left' List.length_replicate
  have hfirst : ∀ x ∈ List.replicate 255 (120 : UInt8), IsText x := by
    intro x hx
    rw [(List.mem_replicate.mp hx).2]
    decide
  have htext : ∀ x ∈ List.replicate 255 (120 : UInt8) ++ ascii "OK", IsText x := by
    intro x hx
    obtain hx | hx := List.mem_append.mp hx
    · exact hfirst x hx
    · have hok : ascii "OK" = [79, 75] := rfl
      rw [hok] at hx
      obtain rfl | rfl : x = 79 ∨ x = 75 := by simpa using hx
      · decide
      · decide
  have hnonempty : List.replicate 255 (120 : UInt8) ≠ [] := by
    rw [Ne, List.replicate_eq_nil_iff]
    decide
  have hstart : RunStart [] (List.replicate 255 120 ++ ascii "OK") :=
    Or.inl ⟨not_binaryPending_nil, Or.inl rfl⟩
  refine ⟨hopen, ?_, ?_⟩
  · rw [assembler_push_bytes (c := consoleStart.fresh) hopen]
    refine (stored_of_run hstart htext).mpr ⟨Or.inl (by decide), ?_, ?_, hheld.symm⟩
    · intro hnil
      exact hnonempty (List.append_eq_nil_iff.mp hnil).1
    · rw [hheld]
      decide
  · rintro ⟨-, before, heq, -, hline⟩
    obtain rfl : List.replicate 255 120 = before := List.append_cancel_right heq
    exact not_start_inside hstart hfirst hnonempty hline

end rtkbase.gnss_uart
