import RTKBase.GnssUart.ConsoleRun

open lib.cstring lib.ring

namespace rtkbase.gnss_uart

/-- A byte of a text line. -/
def IsText (b : UInt8) : Prop := b = 9 ∨ 0x20 ≤ b ∧ b ≤ 0x7E

instance (b : UInt8) : Decidable (IsText b) := inferInstanceAs (Decidable (_ ∨ _))

/-- A byte that ends a line. -/
def IsTerminator (b : UInt8) : Prop := b = 13 ∨ b = 10

instance (b : UInt8) : Decidable (IsTerminator b) := inferInstanceAs (Decidable (_ ∨ _))

/-- The text line that is being collected, and whether binary data came instead. -/
@[ext]
structure Assembler where
  line : List UInt8
  binary : Bool
deriving DecidableEq

def Console.assembler (c : Console) : Assembler := ⟨c.line, c.line_binary⟩

/-- Its initial state. -/
def Assembler.empty : Assembler := ⟨[], false⟩

/-- The console with the line assembler in its initial state. -/
def Console.fresh (c : Console) : Console := { c with line := [], line_binary := false }

def Assembler.push (a : Assembler) (b : UInt8) : Assembler :=
  if IsTerminator b then
    if a.line = [] then a else .empty
  else if IsText b then
    if a.binary then
      if console_is_likely_line_start b then ⟨[b], false⟩ else a
    else if a.line.length + 1 < GNSS_CONSOLE_LINE_SIZE then ⟨a.line ++ [b], false⟩
    else ⟨[b], false⟩
  else ⟨[], true⟩

/-- The line that `console_store_line_locked` keeps. -/
def Assembler.kept (a : Assembler) : Option (List UInt8) :=
  if a.line ≠ [] ∧ a.binary = false ∧ console_line_interesting a.line then some a.line else none

/-- The line that a byte makes `console_push_bytes` store: the one that it ends, or the
one that is full before the byte is put into it. -/
def Assembler.stored (a : Assembler) (b : UInt8) : Option (List UInt8) :=
  if IsTerminator b ∨
      IsText b ∧ a.binary = false ∧ GNSS_CONSOLE_LINE_SIZE ≤ a.line.length + 1 then a.kept
  else none

/-- The lines that are stored while some bytes are processed. -/
def Assembler.lines : Assembler → List UInt8 → List (List UInt8)
  | _, [] => []
  | a, b :: data => (a.stored b).toList ++ (a.push b).lines data

/-- A line as it is appended, with its newline. -/
def appendLine (r : Ring UInt8 GNSS_CONSOLE_BUFFER_SIZE) (line : List UInt8) :
    Ring UInt8 GNSS_CONSOLE_BUFFER_SIZE := (r.append line).append [10]

section

variable {c : Console} {b : UInt8}

theorem store_line_nil (hline : c.line = []) : console_store_line_locked c = c := by
  rw [console_store_line_locked, if_pos (List.length_eq_zero_iff.mpr hline)]

theorem assembler_store_line (hline : c.line ≠ []) :
    (console_store_line_locked c).assembler = .empty := by
  rw [console_store_line_locked, if_neg fun hzero => hline (List.length_eq_zero_iff.mp hzero)]
  rfl

theorem ring_store_line : (console_store_line_locked c).ring =
    c.assembler.kept.toList.foldl appendLine c.ring := by
  by_cases hline : c.line = []
  · rw [store_line_nil hline]
    simp [Assembler.kept, Console.assembler, hline]
  · rw [console_store_line_locked, if_neg fun hzero => hline (List.length_eq_zero_iff.mp hzero)]
    dsimp only
    split
    case isTrue hkept =>
      have hring : (console_append_locked (console_append_locked c c.line) [10]).ring =
          appendLine c.ring c.line := by
        rw [ring_append, ring_append]
        rfl
      simp only [Bool.and_eq_true, Bool.not_eq_true'] at hkept
      have hsome : c.assembler.kept = some c.line := if_pos ⟨hline, hkept⟩
      rw [hsome]
      exact hring
    case isFalse hkept =>
      simp only [Bool.and_eq_true, Bool.not_eq_true'] at hkept
      have hnone : c.assembler.kept = none := if_neg fun hboth => hkept hboth.2
      rw [hnone]
      rfl

/-- The console before a text byte is put into its line. -/
def Console.room (c : Console) : Console :=
  if c.line.length + 1 ≥ GNSS_CONSOLE_LINE_SIZE then console_store_line_locked c else c

theorem room_of_lt (hroom : c.line.length + 1 < GNSS_CONSOLE_LINE_SIZE) : c.room = c :=
  if_neg (Nat.not_le_of_lt hroom)

theorem room_of_le (hfull : GNSS_CONSOLE_LINE_SIZE ≤ c.line.length + 1) :
    c.room = console_store_line_locked c :=
  if_pos hfull

theorem push_byte_terminator (hb : IsTerminator b) :
    consolePushByte c b = console_store_line_locked c :=
  if_pos hb

/-- What a text byte does. -/
theorem push_byte_of_text (hb : ¬ IsTerminator b) (htext : IsText b) :
    consolePushByte c b =
      if c.line_binary && !console_is_likely_line_start b then c
      else
        let c := if c.line_binary then { c with line_binary := false, line := [] } else c
        { c.room with line := c.room.line ++ [b] } :=
  (if_neg hb).trans (if_pos htext)

theorem push_byte_text (hb : ¬ IsTerminator b) (htext : IsText b)
    (hbinary : c.line_binary = false) :
    consolePushByte c b = { c.room with line := c.room.line ++ [b] } := by
  rw [push_byte_of_text hb htext]
  simp [hbinary]

theorem push_byte_skipped (hb : ¬ IsTerminator b) (htext : IsText b)
    (hbinary : c.line_binary = true) (hstart : console_is_likely_line_start b = false) :
    consolePushByte c b = c := by
  rw [push_byte_of_text hb htext]
  simp [hbinary, hstart]

theorem push_byte_restarted (hb : ¬ IsTerminator b) (htext : IsText b)
    (hbinary : c.line_binary = true) (hstart : console_is_likely_line_start b = true) :
    consolePushByte c b = { c with line := [b], line_binary := false } := by
  rw [push_byte_of_text hb htext]
  simp [hbinary, hstart, Console.room, GNSS_CONSOLE_LINE_SIZE]

theorem push_byte_binary (hb : ¬ IsTerminator b) (htext : ¬ IsText b) :
    consolePushByte c b = { c with line_binary := true, line := [] } :=
  (if_neg hb).trans (if_neg htext)

/-- The console collects its line as the assembler does. -/
theorem assembler_push_byte : (consolePushByte c b).assembler = c.assembler.push b := by
  by_cases hb : IsTerminator b
  · rw [push_byte_terminator hb, Assembler.push, if_pos hb]
    by_cases hline : c.line = []
    · rw [store_line_nil hline]
      exact (if_pos hline).symm
    · rw [assembler_store_line hline]
      exact (if_neg hline).symm
  by_cases htext : IsText b
  · rw [Assembler.push, if_neg hb, if_pos htext]
    cases hbinary : c.line_binary with
    | true =>
      cases hstart : console_is_likely_line_start b with
      | true => rw [push_byte_restarted hb htext hbinary hstart]; simp [Console.assembler, hbinary]
      | false => rw [push_byte_skipped hb htext hbinary hstart]; simp [Console.assembler, hbinary]
    | false =>
      rw [push_byte_text hb htext hbinary]
      have hpushed : ({ c.room with line := c.room.line ++ [b] } : Console).assembler =
          ⟨c.room.assembler.line ++ [b], c.room.assembler.binary⟩ := rfl
      rw [hpushed]
      by_cases hroom : c.line.length + 1 < GNSS_CONSOLE_LINE_SIZE
      · rw [room_of_lt hroom]
        simp [Console.assembler, hbinary, hroom]
      · have hline : c.line ≠ [] := by
          rintro hnil
          exact hroom (by simp [hnil, GNSS_CONSOLE_LINE_SIZE])
        rw [room_of_le (Nat.le_of_not_lt hroom), assembler_store_line hline]
        simp [Console.assembler, Assembler.empty, hbinary, hroom]
  · rw [Assembler.push, if_neg hb, if_neg htext, push_byte_binary hb htext]
    rfl

/-- What a byte does to the text of the console is that the line is stored. -/
theorem ring_push_byte :
    (consolePushByte c b).ring = (c.assembler.stored b).toList.foldl appendLine c.ring := by
  by_cases hb : IsTerminator b
  · rw [push_byte_terminator hb, Assembler.stored, if_pos (Or.inl hb), ring_store_line]
  by_cases htext : IsText b
  · cases hbinary : c.line_binary with
    | true =>
      have hnone : c.assembler.stored b = none := by
        rw [Assembler.stored, if_neg]
        simp [hb, Console.assembler, hbinary]
      rw [hnone]
      cases hstart : console_is_likely_line_start b with
      | true => rw [push_byte_restarted hb htext hbinary hstart]; rfl
      | false => rw [push_byte_skipped hb htext hbinary hstart]; rfl
    | false =>
      rw [push_byte_text hb htext hbinary]
      have hpushed : ({ c.room with line := c.room.line ++ [b] } : Console).ring = c.room.ring :=
        rfl
      rw [hpushed]
      by_cases hroom : c.line.length + 1 < GNSS_CONSOLE_LINE_SIZE
      · have hnone : c.assembler.stored b = none := by
          rw [Assembler.stored, if_neg]
          rintro (hb' | ⟨-, -, hfull⟩)
          · exact hb hb'
          · exact Nat.not_le_of_lt hroom hfull
        rw [hnone, room_of_lt hroom]
        rfl
      · have hfull : GNSS_CONSOLE_LINE_SIZE ≤ c.line.length + 1 := Nat.le_of_not_lt hroom
        rw [room_of_le hfull, ring_store_line, Assembler.stored,
          if_pos (Or.inr ⟨htext, hbinary, hfull⟩)]
  · have hnone : c.assembler.stored b = none := by
      rw [Assembler.stored, if_neg]
      simp [hb, htext]
    rw [hnone, push_byte_binary hb htext]
    rfl

/-- What some bytes do to it is that their lines are. -/
theorem ring_foldl (data : List UInt8) :
    (data.foldl consolePushByte c).ring =
      (c.assembler.lines data).foldl appendLine c.ring := by
  induction data generalizing c with
  | nil => rfl
  | cons b data ih =>
    rw [List.foldl_cons, ih, Assembler.lines, List.foldl_append, ring_push_byte,
      assembler_push_byte]

end

end rtkbase.gnss_uart
