import RTKBase.Lib.Replay

namespace lib.scan

/-- What an input is put together from: elements between the frames, frames, and
candidates that are rejected. -/
inductive Segment (β : Type) where
  | gap (items : List β)
  | frame (items : List β)
  | damaged (items : List β)

variable {β : Type}

def Segment.items : Segment β → List β
  | .gap items | .frame items | .damaged items => items

def Segment.frame? : Segment β → Option (List β)
  | .frame items => some items
  | _ => none

variable (R : Recognizer β)

/-- A candidate begins only at the head of a frame or of a damaged one. -/
def Segment.WellFormed : Segment β → Prop
  | .gap items => ∀ b ∈ items, R.start b = false
  | .frame items =>
    ∃ b rest, items = b :: rest ∧ R.start b = true ∧ R.judge items = .accept items.length
  | .damaged items =>
    ∃ b rest, items = b :: rest ∧ R.start b = true ∧ R.judge items = .reject items.length ∧
      ∀ b ∈ rest, R.start b = false

variable {R}

theorem frames_gap {gap : List β} (hgap : ∀ b ∈ gap, R.start b = false) (rest : List β) :
    frames R 0 (gap ++ rest) = frames R 0 rest := by
  induction gap with
  | nil => rfl
  | cons b gap ih =>
    rw [List.cons_append, frames_of_not_start (hgap b List.mem_cons_self)]
    exact ih fun b hb => hgap b (List.mem_cons_of_mem _ hb)

theorem rejectEnds_gap {gap : List β} (hgap : ∀ b ∈ gap, R.start b = false) (pos : Nat)
    (rest : List β) :
    rejectEnds R 0 pos (gap ++ rest) = rejectEnds R 0 (pos + gap.length) rest := by
  induction gap generalizing pos with
  | nil => rfl
  | cons b gap ih =>
    rw [List.cons_append, rejectEnds_of_not_start (hgap b List.mem_cons_self),
      ih (fun b hb => hgap b (List.mem_cons_of_mem _ hb)), List.length_cons, Nat.add_assoc,
      Nat.add_comm 1]

/-- What is decided stays so with more input behind it. -/
theorem judge_append_of_accept {items : List β} {extent : Nat}
    (hjudge : R.judge items = .accept extent) (more : List β) :
    R.judge (items ++ more) = .accept extent := by
  rw [R.judge_append items more (by rw [hjudge]; simp), hjudge]

theorem judge_append_of_reject {items : List β} {extent : Nat}
    (hjudge : R.judge items = .reject extent) (more : List β) :
    R.judge (items ++ more) = .reject extent := by
  rw [R.judge_append items more (by rw [hjudge]; simp), hjudge]

/-- Of a segment the scan finds the frame, if it is one, and goes on behind it. -/
theorem frames_segment {seg : Segment β} (hseg : seg.WellFormed R) (more : List β) :
    frames R 0 (seg.items ++ more) = seg.frame?.toList ++ frames R 0 more := by
  cases seg with
  | gap items => exact frames_gap hseg more
  | frame items =>
    obtain ⟨b, rest, rfl, hstart, hjudge⟩ := hseg
    have haccept := judge_append_of_accept hjudge more
    simp only [Segment.items, Segment.frame?, List.cons_append] at haccept ⊢
    rw [frames_of_accept hstart haccept, ← List.cons_append, List.take_left, List.drop_left]
    rfl
  | damaged items =>
    obtain ⟨b, rest, rfl, hstart, hjudge, hrest⟩ := hseg
    have hreject := judge_append_of_reject hjudge more
    simp only [Segment.items, Segment.frame?, List.cons_append] at hreject ⊢
    rw [frames_of_reject hstart hreject, frames_gap hrest]
    rfl

theorem rejectEnds_segment {seg : Segment β} (hseg : seg.WellFormed R) (pos : Nat)
    (more : List β) :
    ∃ ends : List Nat, rejectEnds R 0 pos (seg.items ++ more) =
        ends ++ rejectEnds R 0 (pos + seg.items.length) more ∧
      (ends = [] ∨ ends = [pos + seg.items.length]) := by
  cases seg with
  | gap items => exact ⟨[], rejectEnds_gap hseg pos more, .inl rfl⟩
  | frame items =>
    obtain ⟨b, rest, rfl, hstart, hjudge⟩ := hseg
    have haccept := judge_append_of_accept hjudge more
    refine ⟨[], ?_, .inl rfl⟩
    simp only [Segment.items, List.cons_append] at haccept ⊢
    rw [rejectEnds_of_accept hstart haccept, ← List.cons_append, List.drop_left]
    rfl
  | damaged items =>
    obtain ⟨b, rest, rfl, hstart, hjudge, hrest⟩ := hseg
    have hreject := judge_append_of_reject hjudge more
    refine ⟨_, ?_, .inr rfl⟩
    simp only [Segment.items, List.cons_append, List.nil_append] at hreject ⊢
    rw [rejectEnds_of_reject hstart hreject, rejectEnds_gap hrest, List.length_cons, Nat.add_assoc,
      Nat.add_comm 1]

theorem frames_pending {last : List β} (hlast : Pending R last) : frames R 0 last = [] := by
  obtain rfl | ⟨b, rest, rfl, hstart, hjudge⟩ := hlast
  · rfl
  · exact frames_of_incomplete hstart hjudge

theorem rejectEnds_pending {last : List β} (hlast : Pending R last) (pos : Nat) :
    rejectEnds R 0 pos last = [] := by
  obtain rfl | ⟨b, rest, rfl, hstart, hjudge⟩ := hlast
  · rfl
  · exact rejectEnds_of_incomplete hstart hjudge

variable {segments : List (Segment β)} {last : List β}

/-- An input of such segments with an undecided candidate behind them has the
frames that were put into it. -/
theorem frames_segments (hsegments : ∀ seg ∈ segments, seg.WellFormed R) (hlast : Pending R last) :
    frames R 0 (segments.flatMap (·.items) ++ last) = segments.filterMap (·.frame?) := by
  induction segments with
  | nil => exact frames_pending hlast
  | cons seg rest ih =>
    rw [List.flatMap_cons, List.append_assoc, frames_segment (hsegments seg List.mem_cons_self),
      ih fun seg hseg => hsegments seg (List.mem_cons_of_mem _ hseg)]
    cases hframe : seg.frame? <;> simp [hframe]

/-- Its rejected candidates end one behind the other. -/
theorem rejectEnds_segments (hsegments : ∀ seg ∈ segments, seg.WellFormed R)
    (hlast : Pending R last) (pos : Nat) :
    (rejectEnds R 0 pos (segments.flatMap (·.items) ++ last)).IsChain (· ≤ ·) ∧
      ∀ stop ∈ rejectEnds R 0 pos (segments.flatMap (·.items) ++ last), pos ≤ stop := by
  induction segments generalizing pos with
  | nil =>
    have hnone := rejectEnds_pending hlast pos
    simp [hnone]
  | cons seg rest ih =>
    obtain ⟨ends, hends, hshape⟩ := rejectEnds_segment (hsegments seg List.mem_cons_self) pos
      (rest.flatMap (·.items) ++ last)
    obtain ⟨hchain, hbehind⟩ := ih (fun seg hseg => hsegments seg (List.mem_cons_of_mem _ hseg))
      (pos + seg.items.length)
    rw [List.flatMap_cons, List.append_assoc, hends]
    obtain rfl | rfl := hshape
    · exact ⟨hchain, fun stop hstop => Nat.le_of_add_right_le (hbehind stop hstop)⟩
    · refine ⟨?_, fun stop hstop => ?_⟩
      · rw [List.singleton_append, List.isChain_cons]
        exact ⟨fun stop hstop => hbehind stop (List.mem_of_mem_head? hstop), hchain⟩
      · obtain rfl | hstop := List.mem_cons.mp hstop
        · omega
        · exact Nat.le_of_add_right_le (hbehind stop hstop)

end lib.scan
