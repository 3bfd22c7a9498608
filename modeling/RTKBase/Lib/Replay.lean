import RTKBase.Lib.Scan

namespace lib.scan

variable {β : Type} (R : Recognizer β)

/-- What one more element does to the candidate collected so far. -/
inductive Outcome (β : Type) where
  | keep (pending : List β)
  | frame (candidate : List β)
  | rejected (candidate : List β)

def collect (pending : List β) (b : β) : Outcome β :=
  match pending, R.start b with
  | [], false => .keep []
  | _, _ =>
    match R.judge (pending ++ [b]) with
    | .incomplete => .keep (pending ++ [b])
    | .accept _ => .frame (pending ++ [b])
    | .reject _ => .rejected (pending ++ [b])

/-- A scanner that re-reads rejected candidates from one replay buffer: the
candidate being collected, the unread part of the replay, the unread input. -/
structure Config (β : Type) where
  pending : List β
  replay : List β
  fresh : List β

def Config.input (c : Config β) : List β := c.pending ++ (c.replay ++ c.fresh)

/-- Take in `b`. A rejection puts the candidate behind its first element into
the replay buffer, in place of whatever was left there unread. -/
def advance (pending : List β) (b : β) (replay fresh : List β) : List (List β) × Config β :=
  match collect R pending b with
  | .keep pending => ([], ⟨pending, replay, fresh⟩)
  | .frame candidate => ([candidate], ⟨[], replay, fresh⟩)
  | .rejected candidate => ([], ⟨[], candidate.tail, fresh⟩)

/-- Finite runs, with the elements read and the frames emitted on the way.
Fresh input is read only when the replay buffer has been used up. -/
inductive Run : Config β → List β → List (List β) → Config β → Prop where
  | refl (c : Config β) : Run c [] [] c
  | replay {pending replay fresh : List β} {b : β} {reads : List β} {out : List (List β)}
      {last : Config β} (tail : Run (advance R pending b replay fresh).2 reads out last) :
      Run ⟨pending, b :: replay, fresh⟩ (b :: reads)
        ((advance R pending b replay fresh).1 ++ out) last
  | fresh {pending fresh : List β} {b : β} {reads : List β} {out : List (List β)}
      {last : Config β} (tail : Run (advance R pending b [] fresh).2 reads out last) :
      Run ⟨pending, [], b :: fresh⟩ (b :: reads)
        ((advance R pending b [] fresh).1 ++ out) last

variable {R}

theorem Run.trans {first middle last : Config β} {reads reads' : List β}
    {out out' : List (List β)} (h : Run R first reads out middle)
    (h' : Run R middle reads' out' last) : Run R first (reads ++ reads') (out ++ out') last := by
  induction h with
  | refl => exact h'
  | replay tail ih => simpa using Run.replay (ih h')
  | fresh tail ih => simpa using Run.fresh (ih h')

theorem advance_append_fresh (pending : List β) (b : β) (replay fresh more : List β) :
    advance R pending b replay (fresh ++ more) =
      ((advance R pending b replay fresh).1,
        { (advance R pending b replay fresh).2 with
          fresh := (advance R pending b replay fresh).2.fresh ++ more }) := by
  unfold advance
  cases collect R pending b <;> rfl

/-- More input behind the unread one does not change a run. -/
theorem Run.append_fresh {first last : Config β} {reads : List β} {out : List (List β)}
    (h : Run R first reads out last) (more : List β) :
    Run R { first with fresh := first.fresh ++ more } reads out
      { last with fresh := last.fresh ++ more } := by
  induction h with
  | refl => exact .refl _
  | @replay pending replay fresh b reads out last tail ih =>
    have heq := advance_append_fresh (R := R) pending b replay fresh more
    have hstep : Run R ⟨pending, b :: replay, fresh ++ more⟩ (b :: reads)
        ((advance R pending b replay (fresh ++ more)).1 ++ out)
        { last with fresh := last.fresh ++ more } := .replay (by rw [heq]; exact ih)
    rwa [heq] at hstep
  | @fresh pending fresh b reads out last tail ih =>
    have heq := advance_append_fresh (R := R) pending b [] fresh more
    have hstep : Run R ⟨pending, [], b :: (fresh ++ more)⟩ (b :: reads)
        ((advance R pending b [] (fresh ++ more)).1 ++ out)
        { last with fresh := last.fresh ++ more } := .fresh (by rw [heq]; exact ih)
    rwa [heq] at hstep

variable (R) in
/-- A candidate under collection is empty, or begins with a start element and
is not decided yet. -/
def Pending (pending : List β) : Prop :=
  pending = [] ∨ ∃ b rest, pending = b :: rest ∧ R.start b = true ∧ R.judge pending = .incomplete

/-- The cases of `collect`. A verdict reached with the newest element needs
the whole candidate, because the candidate before it was undecided. -/
theorem collect_cases {pending : List β} (hpending : Pending R pending) (b : β) :
    (pending = [] ∧ R.start b = false ∧ collect R pending b = .keep []) ∨
    (∃ d rest, pending ++ [b] = d :: rest ∧ R.start d = true ∧
      ((R.judge (pending ++ [b]) = .incomplete ∧ collect R pending b = .keep (pending ++ [b])) ∨
       (R.judge (pending ++ [b]) = .accept (pending.length + 1) ∧
          collect R pending b = .frame (pending ++ [b])) ∨
       (R.judge (pending ++ [b]) = .reject (pending.length + 1) ∧
          collect R pending b = .rejected (pending ++ [b])))) := by
  have hdecided : ∀ extent, extent ≤ pending.length → 1 ≤ extent →
      R.judge ((pending ++ [b]).take extent) = .incomplete := by
    intro extent hle hpos
    rcases hpending with rfl | ⟨d, rest, rfl, _, hincomplete⟩
    · simp at hle
      omega
    · rw [List.take_append_of_le_length hle]
      by_contra hne
      have hsame := R.judge_append _ ((d :: rest).drop extent) hne
      rw [List.take_append_drop, hincomplete] at hsame
      exact hne hsame.symm
  have hverdict : (R.judge (pending ++ [b]) = .incomplete) ∨
      (R.judge (pending ++ [b]) = .accept (pending.length + 1)) ∨
      (R.judge (pending ++ [b]) = .reject (pending.length + 1)) := by
    cases hjudge : R.judge (pending ++ [b]) with
    | incomplete => exact .inl rfl
    | accept extent =>
      obtain ⟨hpos, hle, htake⟩ := R.accept_extent _ _ hjudge
      rcases Nat.lt_or_ge pending.length extent with hlt | hge
      · have hextent : extent = pending.length + 1 := by simp at hle; omega
        exact .inr (.inl (by rw [hextent]))
      · simp [hdecided extent hge hpos] at htake
    | reject extent =>
      obtain ⟨hpos, hle, htake⟩ := R.reject_extent _ _ hjudge
      rcases Nat.lt_or_ge pending.length extent with hlt | hge
      · have hextent : extent = pending.length + 1 := by simp at hle; omega
        exact .inr (.inr (by rw [hextent]))
      · simp [hdecided extent hge (by omega)] at htake
  rcases hpending with rfl | ⟨d, rest, rfl, hstart, _⟩
  · cases hstart : R.start b with
    | false => exact .inl ⟨rfl, rfl, by simp [collect, hstart]⟩
    | true =>
      refine .inr ⟨b, [], rfl, hstart, ?_⟩
      rcases hverdict with h | h | h <;> simp_all [collect]
  · refine .inr ⟨d, rest ++ [b], rfl, hstart, ?_⟩
    rcases hverdict with h | h | h <;> simp_all [collect]

/-- Taking in an element leaves a candidate under collection, and emits only
what is accepted as a whole. -/
theorem advance_pending {pending : List β} (hpending : Pending R pending) (b : β)
    (replay fresh : List β) :
    Pending R (advance R pending b replay fresh).2.pending ∧
      ∀ frame ∈ (advance R pending b replay fresh).1, R.judge frame = .accept frame.length := by
  unfold advance
  obtain ⟨_, _, hcollect⟩ | ⟨d, rest, hcandidate, hstart, hverdict⟩ := collect_cases hpending b
  · rw [hcollect]
    exact ⟨.inl rfl, by simp⟩
  · obtain ⟨hjudge, hcollect⟩ | ⟨hjudge, hcollect⟩ | ⟨_, hcollect⟩ := hverdict
    · rw [hcollect]
      exact ⟨.inr ⟨d, rest, hcandidate, hstart, hjudge⟩, by simp⟩
    · rw [hcollect]
      refine ⟨.inl rfl, fun frame hframe => ?_⟩
      obtain rfl := List.mem_singleton.mp hframe
      rw [hjudge, List.length_append, List.length_singleton]
    · rw [hcollect]
      exact ⟨.inl rfl, by simp⟩

/-- Every frame of a run is accepted as a whole. -/
theorem Run.emitted {first last : Config β} {reads : List β} {out : List (List β)}
    (hrun : Run R first reads out last) (hpending : Pending R first.pending) :
    ∀ frame ∈ out, R.judge frame = .accept frame.length := by
  induction hrun with
  | refl => simp
  | @replay pending replay fresh b reads out last tail ih =>
    obtain ⟨hnext, hemitted⟩ := advance_pending hpending b replay fresh
    intro frame hframe
    obtain hframe | hframe := List.mem_append.mp hframe
    · exact hemitted frame hframe
    · exact ih hnext frame hframe
  | @fresh pending fresh b reads out last tail ih =>
    obtain ⟨hnext, hemitted⟩ := advance_pending hpending b [] fresh
    intro frame hframe
    obtain hframe | hframe := List.mem_append.mp hframe
    · exact hemitted frame hframe
    · exact ih hnext frame hframe

/-- Only a candidate of two elements or more is rejected. -/
theorem collect_rejected {pending candidate : List β} {b : β} (hpending : Pending R pending)
    (hrejected : collect R pending b = .rejected candidate) : 2 ≤ candidate.length := by
  rcases collect_cases hpending b with ⟨_, _, hcollect⟩ | ⟨d, rest, _, _, hverdict⟩
  · simp [hcollect] at hrejected
  · rcases hverdict with ⟨_, hcollect⟩ | ⟨_, hcollect⟩ | ⟨hjudge, hcollect⟩
    · simp [hcollect] at hrejected
    · simp [hcollect] at hrejected
    · obtain rfl : pending ++ [b] = candidate := by simpa [hcollect] using hrejected
      have htwo := (R.reject_extent _ _ hjudge).1
      simpa using htwo

theorem collect_keep_length {pending candidate : List β} {b : β}
    (hcollect : collect R pending b = .keep candidate) : candidate.length ≤ pending.length + 1 := by
  unfold collect at hcollect
  split at hcollect
  · cases hcollect
    exact Nat.zero_le _
  · split at hcollect <;> cases hcollect
    simp

/-- A rejected candidate ends with the element that decides it. -/
theorem collect_rejected_eq {pending candidate : List β} {b : β}
    (hcollect : collect R pending b = .rejected candidate) : candidate = pending ++ [b] := by
  unfold collect at hcollect
  split at hcollect
  · cases hcollect
  · split at hcollect <;> cases hcollect
    rfl

/-- Taking in an element shortens what is unread, or, when a candidate is
rejected, what is unread and collected taken together. -/
theorem advance_length (pending : List β) (b : β) (replay fresh : List β) :
    ((advance R pending b replay fresh).2.replay.length +
          (advance R pending b replay fresh).2.fresh.length = replay.length + fresh.length ∧
      (advance R pending b replay fresh).2.input.length ≤
        pending.length + 1 + (replay.length + fresh.length)) ∨
    (advance R pending b replay fresh).2.input.length <
      pending.length + 1 + (replay.length + fresh.length) := by
  unfold advance
  cases hcollect : collect R pending b with
  | keep candidate =>
    have hkept := collect_keep_length hcollect
    refine .inl ⟨rfl, ?_⟩
    simp [Config.input]
    omega
  | frame candidate =>
    refine .inl ⟨rfl, ?_⟩
    simp [Config.input]
  | rejected candidate =>
    obtain rfl := collect_rejected_eq hcollect
    refine .inr ?_
    simp [Config.input]
    omega

end lib.scan
