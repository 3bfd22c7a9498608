import Mathlib.Data.List.Induction
import RTKBase.GnssUart.ConsoleLines

open lib.cstring

namespace rtkbase.gnss_uart

/-- The critical section of `console_push_bytes` is inside the window in which it
drops what it is given. -/
def Suppressed (c : Console) (now : Nat) : Prop :=
  c.suppress_until_us ≠ 0 ∧ now < c.suppress_until_us

instance (c : Console) (now : Nat) : Decidable (Suppressed c now) :=
  inferInstanceAs (Decidable (_ ∧ _))

/-- The lines that a call of `console_push_bytes` stores. -/
def pushedLines (c : Console) (now : Nat) (data : List UInt8) : List (List UInt8) :=
  if Suppressed c now then [] else c.assembler.lines data

/-- A sequence whose last byte ends a line. -/
def EndsLine (a : List UInt8) : Prop := ∃ before b, a = before ++ [b] ∧ IsTerminator b

/-- Binary data after which nothing came that may start a line. -/
def BinaryPending (a : List UInt8) : Prop :=
  ∃ before b after, a = before ++ b :: after ∧ ¬ IsText b ∧ ¬ IsTerminator b ∧
    ∀ x ∈ after, console_is_likely_line_start x = false

/-- The assembler after some bytes. -/
def Assembler.run (s : Assembler) (data : List UInt8) : Assembler := data.foldl Assembler.push s

section

variable {s : Assembler} {b : UInt8}

theorem likely_text (hstart : console_is_likely_line_start b = true) : IsText b := by
  simp only [console_is_likely_line_start, Bool.or_eq_true, decide_eq_true_eq] at hstart
  obtain ((((((rfl | rfl) | rfl) | rfl) | rfl) | rfl) | rfl) | rfl := hstart <;> decide

theorem text_not_terminator (htext : IsText b) : ¬ IsTerminator b := by
  rintro (rfl | rfl)
  · exact absurd htext (by decide)
  · exact absurd htext (by decide)

theorem push_terminator (hb : IsTerminator b) :
    s.push b = if s.line = [] then s else .empty :=
  if_pos hb

theorem push_noise (hb : ¬ IsTerminator b) (htext : ¬ IsText b) : s.push b = ⟨[], true⟩ :=
  (if_neg hb).trans (if_neg htext)

theorem push_text (htext : IsText b) : s.push b =
    if s.binary then
      if console_is_likely_line_start b then ⟨[b], false⟩ else s
    else if s.line.length + 1 < GNSS_CONSOLE_LINE_SIZE then ⟨s.line ++ [b], false⟩
    else ⟨[b], false⟩ :=
  (if_neg (text_not_terminator htext)).trans (if_pos htext)

/-- After binary data no line is collected. -/
theorem push_binary_line (hline : s.binary = true → s.line = []) :
    (s.push b).binary = true → (s.push b).line = [] := by
  by_cases hb : IsTerminator b
  · rw [push_terminator hb]
    split
    · exact hline
    · exact fun _ => rfl
  by_cases htext : IsText b
  · rw [push_text htext]
    cases hbinary : s.binary with
    | true =>
      rw [if_pos rfl]
      split
      · simp
      · exact hline
    | false =>
      rw [if_neg (by simp)]
      split <;> simp
  · rw [push_noise hb htext]
    exact fun _ => rfl

/-- The flag is set by binary data, and kept until a byte may start a line. -/
theorem push_binary_iff (hline : s.binary = true → s.line = []) :
    (s.push b).binary = true ↔
      ¬ IsText b ∧ ¬ IsTerminator b ∨
        s.binary = true ∧ console_is_likely_line_start b = false := by
  by_cases hb : IsTerminator b
  · have hnot : console_is_likely_line_start b = false := by
      by_contra hstart
      exact text_not_terminator (likely_text (by simpa using hstart)) hb
    rw [push_terminator hb]
    split
    case isTrue => simp [hb, hnot]
    case isFalse hopen =>
      have hclean : s.binary ≠ true := fun hbinary => hopen (hline hbinary)
      simp [hb, hclean, Assembler.empty]
  by_cases htext : IsText b
  · rw [push_text htext]
    cases hbinary : s.binary with
    | true =>
      rw [if_pos rfl]
      cases hstart : console_is_likely_line_start b with
      | true => simp [htext]
      | false => simp [hbinary]
    | false =>
      rw [if_neg (by simp)]
      split <;> simp [htext]
  · simp [push_noise hb htext, hb, htext]

theorem run_snoc (a : List UInt8) : s.run (a ++ [b]) = (s.run a).push b := by
  rw [Assembler.run, List.foldl_append]
  rfl

end

theorem run_binary_line (a : List UInt8) :
    (Assembler.empty.run a).binary = true → (Assembler.empty.run a).line = [] := by
  induction a using List.reverseRecOn with
  | nil => exact fun _ => rfl
  | append_singleton a b ih =>
    rw [run_snoc]
    exact push_binary_line ih

theorem not_binaryPending_nil : ¬ BinaryPending [] := by
  rintro ⟨before, b, after, hnil, -⟩
  simp at hnil

theorem binaryPending_snoc {a : List UInt8} {x : UInt8} :
    BinaryPending (a ++ [x]) ↔
      ¬ IsText x ∧ ¬ IsTerminator x ∨
        BinaryPending a ∧ console_is_likely_line_start x = false := by
  constructor
  · rintro ⟨before, b, after, heq, htext, hb, hafter⟩
    obtain rfl | ⟨init, y, rfl⟩ := List.eq_nil_or_concat after
    · obtain ⟨-, hlast⟩ := List.append_inj' heq rfl
      obtain rfl : x = b := by simpa using hlast
      exact Or.inl ⟨htext, hb⟩
    · rw [List.concat_eq_append] at hafter heq
      rw [← List.cons_append, ← List.append_assoc] at heq
      obtain ⟨rfl, hlast⟩ := List.append_inj' heq rfl
      obtain rfl : x = y := by simpa using hlast
      exact Or.inr ⟨⟨before, b, init, rfl, htext, hb, fun z hz => hafter z (by simp [hz])⟩,
        hafter x (by simp)⟩
  · rintro (⟨htext, hb⟩ | ⟨⟨before, b, after, rfl, htext, hb, hafter⟩, hx⟩)
    · exact ⟨a, x, [], rfl, htext, hb, by simp⟩
    · refine ⟨before, b, after ++ [x], by simp, htext, hb, fun z hz => ?_⟩
      obtain hz | hz := List.mem_append.mp hz
      · exact hafter z hz
      · rw [List.mem_singleton.mp hz]
        exact hx

/-- The flag says whether binary data is pending. -/
theorem run_binary_iff (a : List UInt8) :
    (Assembler.empty.run a).binary = true ↔ BinaryPending a := by
  induction a using List.reverseRecOn with
  | nil => simp [Assembler.run, Assembler.empty, not_binaryPending_nil]
  | append_singleton a b ih =>
    rw [run_snoc, push_binary_iff (run_binary_line a), ih, binaryPending_snoc]

/-- While binary data is pending nothing is collected. -/
theorem run_pending {a : List UInt8} (hpending : BinaryPending a) :
    Assembler.empty.run a = ⟨[], true⟩ := by
  have hbinary := (run_binary_iff a).mpr hpending
  exact Assembler.ext (run_binary_line a hbinary) hbinary

/-- No line is left open behind a terminator. -/
theorem run_line_of_ends {a : List UInt8} (hends : EndsLine a) :
    (Assembler.empty.run a).line = [] := by
  obtain ⟨before, b, rfl, hb⟩ := hends
  rw [run_snoc, push_terminator hb]
  split
  case isTrue hempty => exact hempty
  case isFalse => rfl

/-- Behind a terminator the assembler is in its initial state, but for the flag. -/
theorem run_of_ends {a : List UInt8} (hends : EndsLine a) :
    Assembler.empty.run a = .empty ↔ ¬ BinaryPending a := by
  rw [← run_binary_iff]
  constructor
  · intro hempty
    rw [hempty]
    simp [Assembler.empty]
  · intro hclean
    have hbinary : (Assembler.empty.run a).binary = false := by simpa using hclean
    exact Assembler.ext (run_line_of_ends hends) hbinary

theorem assembler_foldl (c : Console) (data : List UInt8) :
    (data.foldl consolePushByte c).assembler = c.assembler.run data := by
  induction data generalizing c with
  | nil => rfl
  | cons b data ih =>
    rw [List.foldl_cons, ih, assembler_push_byte]
    rfl

theorem assembler_push_bytes {c : Console} {now : Nat} (hopen : ¬ Suppressed c now)
    (data : List UInt8) : (console_push_bytes c now data).assembler = c.assembler.run data := by
  have hfoldl : console_push_bytes c now data = data.foldl consolePushByte c := if_neg hopen
  rw [hfoldl, assembler_foldl]

/-- What a call does to the text of the console is that its lines are stored. -/
theorem ring_push_bytes (c : Console) (now : Nat) (data : List UInt8) :
    (console_push_bytes c now data).ring = (pushedLines c now data).foldl appendLine c.ring := by
  by_cases hopen : Suppressed c now
  · have hdropped : console_push_bytes c now data = c.fresh := if_pos hopen
    rw [hdropped, pushedLines, if_pos hopen]
    rfl
  · have hfoldl : console_push_bytes c now data = data.foldl consolePushByte c := if_neg hopen
    rw [hfoldl, ring_foldl, pushedLines, if_neg hopen]

theorem suppress_store_line (c : Console) :
    (console_store_line_locked c).suppress_until_us = c.suppress_until_us := by
  unfold console_store_line_locked
  split
  · rfl
  · dsimp only
    split <;> rfl

theorem suppress_push_byte (c : Console) (b : UInt8) :
    (consolePushByte c b).suppress_until_us = c.suppress_until_us := by
  by_cases hb : IsTerminator b
  · rw [push_byte_terminator hb, suppress_store_line]
  by_cases htext : IsText b
  · have hroom : c.room.suppress_until_us = c.suppress_until_us := by
      unfold Console.room
      split
      · exact suppress_store_line c
      · rfl
    cases hbinary : c.line_binary with
    | true =>
      cases hstart : console_is_likely_line_start b with
      | true => rw [push_byte_restarted hb htext hbinary hstart]
      | false => rw [push_byte_skipped hb htext hbinary hstart]
    | false =>
      rw [push_byte_text hb htext hbinary]
      exact hroom
  · rw [push_byte_binary hb htext]

theorem suppress_push_bytes (c : Console) (now : Nat) (data : List UInt8) :
    (console_push_bytes c now data).suppress_until_us = c.suppress_until_us := by
  by_cases hopen : Suppressed c now
  · have hdropped : console_push_bytes c now data = c.fresh := if_pos hopen
    rw [hdropped]
    rfl
  · have hfoldl : console_push_bytes c now data = data.foldl consolePushByte c := if_neg hopen
    rw [hfoldl]
    clear hopen hfoldl
    induction data generalizing c with
    | nil => rfl
    | cons b data ih => rw [List.foldl_cons, ih, suppress_push_byte]

theorem pushedLines_of_open {c : Console} {now : Nat} (hopen : ¬ Suppressed c now)
    (data : List UInt8) : pushedLines c now data = c.assembler.lines data :=
  if_neg hopen

/-- Bytes that tell the two states apart: in one the `O` starts a line. -/
theorem lines_revealing : Assembler.empty.lines [120, 79, 75, 13] = [] ∧
    (Assembler.mk [] true).lines [120, 79, 75, 13] = [ascii "OK"] := by
  decide

/-- What is stored after a terminator is what would be stored from the start,
whatever follows, exactly when no binary data is pending there. -/
theorem console_lines_independent_iff (c : Console) (now : Nat) (a : List UInt8)
    (hopen : ¬ Suppressed c now) (hends : EndsLine a) :
    (∀ now' b, ¬ Suppressed c now' →
        pushedLines (console_push_bytes c.fresh now a) now' b = pushedLines c.fresh now' b) ↔
      ¬ BinaryPending a := by
  have hsame : ∀ now', ¬ Suppressed c now' →
      ¬ Suppressed (console_push_bytes c.fresh now a) now' := by
    intro now' hopen'
    rw [Suppressed, suppress_push_bytes]
    exact hopen'
  have hrun : (console_push_bytes c.fresh now a).assembler = Assembler.empty.run a :=
    assembler_push_bytes (c := c.fresh) hopen a
  constructor
  · intro hequal hpending
    have hlines := hequal now [120, 79, 75, 13] hopen
    rw [pushedLines_of_open (hsame now hopen), pushedLines_of_open (c := c.fresh) hopen, hrun,
      run_pending hpending, lines_revealing.2] at hlines
    exact absurd (hlines.trans lines_revealing.1) (by decide)
  · intro hclean now' b hopen'
    rw [pushedLines_of_open (hsame now' hopen'), pushedLines_of_open (c := c.fresh) hopen', hrun,
      (run_of_ends hends).mpr hclean]
    rfl

/-- A text line, its end and another one. -/
theorem console_lines_independent_of_text : pushedLines
    (console_push_bytes consoleStart.fresh 5 (ascii "OK" ++ [13])) 6 (ascii "ERR" ++ [10]) =
      pushedLines consoleStart.fresh 6 (ascii "ERR" ++ [10]) :=
  (console_lines_independent_iff consoleStart 5 (ascii "OK" ++ [13]) (by decide)
    ⟨ascii "OK", 13, rfl, by decide⟩).mpr (by
      rw [← run_binary_iff]
      decide) 6 _ (by decide)

/-- A byte of binary data before an empty line: of the next line the `x` is dropped,
and what is left is kept. -/
theorem console_line_after_noise : EndsLine [0x80, 13] ∧ ¬ Suppressed consoleStart 0 ∧
    pushedLines (console_push_bytes consoleStart.fresh 0 [0x80, 13]) 0 (ascii "xOK" ++ [13]) =
      [ascii "OK"] ∧
    pushedLines consoleStart.fresh 0 (ascii "xOK" ++ [13]) = [] := by
  have hopen : ¬ Suppressed consoleStart 0 := by decide
  have hopen' : ¬ Suppressed (console_push_bytes consoleStart.fresh 0 [0x80, 13]) 0 := by
    rw [Suppressed, suppress_push_bytes]
    decide
  refine ⟨⟨[0x80], 13, rfl, by decide⟩, hopen, ?_, ?_⟩
  · rw [pushedLines_of_open hopen', assembler_push_bytes (c := consoleStart.fresh) hopen]
    decide
  · rw [pushedLines_of_open (c := consoleStart.fresh) hopen]
    decide

end rtkbase.gnss_uart
