import RTKBase.Lib.Replay

namespace lib.scan

variable {β : Type} {R : Recognizer β}

/-- An element taken in is emitted, kept or dropped, in its place. -/
theorem advance_sublist (pending : List β) (b : β) (replay fresh : List β) :
    ((advance R pending b replay fresh).1.flatten ++
      (advance R pending b replay fresh).2.input).Sublist (pending ++ b :: (replay ++ fresh)) := by
  have hwhole : pending ++ b :: (replay ++ fresh) = (pending ++ [b]) ++ (replay ++ fresh) := by simp
  rw [hwhole]
  unfold advance
  cases hcollect : collect R pending b with
  | keep candidate =>
    have hkept : candidate.Sublist (pending ++ [b]) := by
      unfold collect at hcollect
      split at hcollect
      · cases hcollect
        exact List.nil_sublist _
      · split at hcollect <;> cases hcollect
        exact List.Sublist.refl _
    exact hkept.append (List.Sublist.refl _)
  | frame candidate =>
    have hframe : candidate = pending ++ [b] := by
      unfold collect at hcollect
      split at hcollect
      · cases hcollect
      · split at hcollect <;> cases hcollect
        rfl
    simp [Config.input, hframe]
  | rejected candidate =>
    obtain rfl := collect_rejected_eq hcollect
    have htail : ((pending ++ [b]).tail ++ fresh).Sublist ((pending ++ [b]) ++ (replay ++ fresh)) :=
      (List.tail_sublist _).append (List.sublist_append_right replay fresh)
    exact htail

/-- What a run emits, one frame after the other, and what it has not read or
decided yet are elements of its input in their order, each at most once. -/
theorem Run.sublist {first last : Config β} {reads : List β} {out : List (List β)}
    (hrun : Run R first reads out last) : (out.flatten ++ last.input).Sublist first.input := by
  induction hrun with
  | refl => exact List.Sublist.refl _
  | @replay pending replay fresh b reads out last tail ih =>
    rw [List.flatten_append, List.append_assoc]
    exact ((List.Sublist.refl _).append ih).trans (advance_sublist pending b replay fresh)
  | @fresh pending fresh b reads out last tail ih =>
    rw [List.flatten_append, List.append_assoc]
    exact ((List.Sublist.refl _).append ih).trans (advance_sublist pending b [] fresh)

end lib.scan
