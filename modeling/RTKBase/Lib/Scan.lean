import Mathlib.Data.List.Basic
import Mathlib.Data.List.Range
import Mathlib.Data.List.Chain

namespace lib.scan

/-- What the input from a candidate's first element on says about it. An
extent counts the elements that were needed to decide. -/
inductive Verdict where
  | incomplete
  | reject (extent : Nat)
  | accept (extent : Nat)
  deriving DecidableEq, Repr

/-- A frame recognizer. The laws say that a verdict is reached from the
elements of its extent alone and is not revised when more input arrives. -/
structure Recognizer (β : Type) where
  start : β → Bool
  judge : List β → Verdict
  judge_append : ∀ input more, judge input ≠ .incomplete → judge (input ++ more) = judge input
  reject_extent : ∀ input extent, judge input = .reject extent →
    2 ≤ extent ∧ extent ≤ input.length ∧ judge (input.take extent) = .reject extent
  accept_extent : ∀ input extent, judge input = .accept extent →
    1 ≤ extent ∧ extent ≤ input.length ∧ judge (input.take extent) = .accept extent

variable {β : Type} (R : Recognizer β)

/-- The frames of an input: scan for a start element, emit an accepted
candidate and go on after it, go on right behind the start element of a
rejected one, and stop at a candidate the input does not decide. The first
argument counts elements still to be passed over. -/
def frames : Nat → List β → List (List β)
  | _, [] => []
  | skip + 1, _ :: rest => frames skip rest
  | 0, b :: rest =>
    if R.start b then
      match R.judge (b :: rest) with
      | .incomplete => []
      | .reject _ => frames 0 rest
      | .accept extent => (b :: rest).take extent :: frames (extent - 1) rest
    else frames 0 rest

/-- Where the candidates that the scan rejects end, in the order in which it
rejects them; the second argument is the position of the input's head. -/
def rejectEnds : Nat → Nat → List β → List Nat
  | _, _, [] => []
  | skip + 1, pos, _ :: rest => rejectEnds skip (pos + 1) rest
  | 0, pos, b :: rest =>
    if R.start b then
      match R.judge (b :: rest) with
      | .incomplete => []
      | .reject extent => (pos + extent) :: rejectEnds 0 (pos + 1) rest
      | .accept extent => rejectEnds (extent - 1) (pos + 1) rest
    else rejectEnds 0 (pos + 1) rest

theorem frames_skip (skip : Nat) (input : List β) :
    frames R skip input = frames R 0 (input.drop skip) := by
  induction input generalizing skip with
  | nil => cases skip <;> simp [frames]
  | cons b rest ih =>
    cases skip with
    | zero => rfl
    | succ skip => simpa [frames] using ih skip

theorem rejectEnds_skip (skip pos : Nat) (input : List β) (hskip : skip ≤ input.length) :
    rejectEnds R skip pos input = rejectEnds R 0 (pos + skip) (input.drop skip) := by
  induction input generalizing skip pos with
  | nil =>
    have hzero : skip = 0 := by simpa using hskip
    simp [hzero]
  | cons b rest ih =>
    cases skip with
    | zero => rfl
    | succ skip =>
      have hrest : skip ≤ rest.length := by simpa using hskip
      simpa [rejectEnds, Nat.add_comm, Nat.add_left_comm] using ih skip (pos + 1) hrest

/-- Rejections are found where they are in the image of the input under a map
that the recognizers do not tell from the identity. -/
theorem rejectEnds_map {γ : Type} {R' : Recognizer γ} {f : β → γ}
    (hstart : ∀ b, R.start b = R'.start (f b)) (hjudge : ∀ input, R.judge input = R'.judge (input.map f))
    (skip pos : Nat) (input : List β) :
    rejectEnds R skip pos input = rejectEnds R' skip pos (input.map f) := by
  induction input generalizing skip pos with
  | nil => cases skip <;> rfl
  | cons b rest ih =>
    have hwhole := hjudge (b :: rest)
    rw [List.map_cons] at hwhole ⊢
    cases skip with
    | succ skip => simpa [rejectEnds] using ih skip (pos + 1)
    | zero =>
      simp only [rejectEnds, hstart, hwhole]
      split
      · split <;> simp [ih]
      · exact ih 0 (pos + 1)

section Head

variable {R} {b : β} {rest : List β}

@[simp] theorem frames_of_not_start (hstart : R.start b = false) :
    frames R 0 (b :: rest) = frames R 0 rest := by
  simp [frames, hstart]

@[simp] theorem rejectEnds_of_not_start {pos : Nat} (hstart : R.start b = false) :
    rejectEnds R 0 pos (b :: rest) = rejectEnds R 0 (pos + 1) rest := by
  simp [rejectEnds, hstart]

theorem frames_of_reject {extent : Nat} (hstart : R.start b = true)
    (hjudge : R.judge (b :: rest) = .reject extent) :
    frames R 0 (b :: rest) = frames R 0 rest := by
  simp [frames, hstart, hjudge]

theorem rejectEnds_of_reject {extent pos : Nat} (hstart : R.start b = true)
    (hjudge : R.judge (b :: rest) = .reject extent) :
    rejectEnds R 0 pos (b :: rest) = (pos + extent) :: rejectEnds R 0 (pos + 1) rest := by
  simp [rejectEnds, hstart, hjudge]

theorem frames_of_accept {extent : Nat} (hstart : R.start b = true)
    (hjudge : R.judge (b :: rest) = .accept extent) :
    frames R 0 (b :: rest) = (b :: rest).take extent :: frames R 0 ((b :: rest).drop extent) := by
  obtain ⟨hpos, _, _⟩ := R.accept_extent _ _ hjudge
  obtain ⟨extent, rfl⟩ : ∃ n, extent = n + 1 := ⟨extent - 1, by omega⟩
  simp [frames, hstart, hjudge, frames_skip R extent rest]

theorem rejectEnds_of_accept {extent pos : Nat} (hstart : R.start b = true)
    (hjudge : R.judge (b :: rest) = .accept extent) :
    rejectEnds R 0 pos (b :: rest) = rejectEnds R 0 (pos + extent) ((b :: rest).drop extent) := by
  obtain ⟨hpos, hle, _⟩ := R.accept_extent _ _ hjudge
  obtain ⟨extent, rfl⟩ : ∃ n, extent = n + 1 := ⟨extent - 1, by omega⟩
  have hrest : extent ≤ rest.length := by simpa using hle
  simp [rejectEnds, hstart, hjudge, rejectEnds_skip R extent (pos + 1) rest hrest,
    Nat.add_comm, Nat.add_left_comm]

theorem frames_of_incomplete (hstart : R.start b = true)
    (hjudge : R.judge (b :: rest) = .incomplete) : frames R 0 (b :: rest) = [] := by
  simp [frames, hstart, hjudge]

theorem rejectEnds_of_incomplete {pos : Nat} (hstart : R.start b = true)
    (hjudge : R.judge (b :: rest) = .incomplete) : rejectEnds R 0 pos (b :: rest) = [] := by
  simp [rejectEnds, hstart, hjudge]

end Head

end lib.scan
