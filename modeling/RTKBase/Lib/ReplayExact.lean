import RTKBase.Lib.Replay
import Mathlib.Tactic.ByContra

namespace lib.scan

variable {β : Type} {R : Recognizer β}

/-- A run in its bookkeeping, over an input that ends at position `stop`.
`bound` is where the latest rejected candidate ended, which is where the fresh
input begins as long as some of its replay is unread. -/
structure Tracks (R : Recognizer β) (stop bound : Nat) (c : Config β) : Prop where
  pending : Pending R c.pending
  length_le : c.input.length ≤ stop
  bound_le : bound ≤ stop - c.fresh.length
  bound_eq : c.replay ≠ [] → bound = stop - c.fresh.length

/-- The candidates still to be rejected end in order, none before `bound`. -/
def Ordered (R : Recognizer β) (stop bound : Nat) (input : List β) : Prop :=
  (bound :: rejectEnds R 0 (stop - input.length) input).IsChain (· ≤ ·)

/-- A rejection during a replay that leaves some of the replay unread. -/
def Loses (R : Recognizer β) (pending : List β) (b : β) (replay : List β) : Prop :=
  replay ≠ [] ∧ ∃ candidate, collect R pending b = .rejected candidate

/-- What taking in `b` does to an input without loss: the frames and rejections
of the scan are accounted for, and the rest is scanned from where it begins. -/
structure Advances (R : Recognizer β) (stop bound : Nat) (pending : List β) (b : β)
    (replay fresh : List β) : Prop where
  tracks : ∃ bound', Tracks R stop bound' (advance R pending b replay fresh).2 ∧
    (Ordered R stop bound (pending ++ b :: (replay ++ fresh)) ↔
      Ordered R stop bound' (advance R pending b replay fresh).2.input)
  frames_eq : frames R 0 (pending ++ b :: (replay ++ fresh)) =
    (advance R pending b replay fresh).1 ++ frames R 0 (advance R pending b replay fresh).2.input
  suffix : ∃ lost, pending ++ b :: (replay ++ fresh) =
    lost ++ (advance R pending b replay fresh).2.input
  /-- The element read next is at most one past `b`. -/
  next_le : (advance R pending b replay fresh).2.replay.length +
    (advance R pending b replay fresh).2.fresh.length ≥ replay.length + fresh.length

/-- The whole input begins where the candidate with the newest element does. -/
theorem input_eq_cons {pending rest : List β} {b d : β} (hcons : pending ++ [b] = d :: rest)
    (unread : List β) : pending ++ b :: unread = d :: (rest ++ unread) := by
  calc pending ++ b :: unread = (pending ++ [b]) ++ unread := by simp
    _ = d :: (rest ++ unread) := by rw [hcons, List.cons_append]

/-- A verdict on the candidate with the newest element is one on the input. -/
theorem judge_input {pending rest : List β} {b d : β} (hcons : pending ++ [b] = d :: rest)
    (hjudge : R.judge (pending ++ [b]) ≠ .incomplete) (unread : List β) :
    R.judge (d :: (rest ++ unread)) = R.judge (pending ++ [b]) := by
  rw [← List.cons_append, ← hcons, R.judge_append _ _ hjudge]

section Step

variable {stop bound : Nat} {pending replay fresh : List β} {b : β}

/-- A hunting scanner passes over an element that starts no candidate. -/
theorem advances_of_hunt (hlength : (b :: (replay ++ fresh)).length ≤ stop)
    (hbound : bound ≤ stop - fresh.length) (hreplay : replay ≠ [] → bound = stop - fresh.length)
    (hstart : R.start b = false) (hcollect : collect R [] b = .keep []) :
    Advances R stop bound [] b replay fresh := by
  have hpos : stop - (b :: (replay ++ fresh)).length + 1 = stop - (replay ++ fresh).length := by
    simp at hlength ⊢
    omega
  have hadvance : advance R [] b replay fresh = ([], ⟨[], replay, fresh⟩) := by
    simp [advance, hcollect]
  constructor <;> rw [hadvance]
  · refine ⟨bound, ⟨.inl rfl, ?_, hbound, hreplay⟩, ?_⟩
    · simp [Config.input] at hlength ⊢
      omega
    · simp only [Ordered, List.nil_append, Config.input]
      rw [rejectEnds_of_not_start hstart, hpos]
  · simp [Config.input, frames_of_not_start hstart]
  · exact ⟨[b], by simp [Config.input]⟩

/-- An undecided candidate is kept, and the input stays as it was. -/
theorem advances_of_keep (hlength : (pending ++ b :: (replay ++ fresh)).length ≤ stop)
    (hbound : bound ≤ stop - fresh.length) (hreplay : replay ≠ [] → bound = stop - fresh.length)
    (hkept : Pending R (pending ++ [b])) (hcollect : collect R pending b = .keep (pending ++ [b])) :
    Advances R stop bound pending b replay fresh := by
  have hadvance : advance R pending b replay fresh = ([], ⟨pending ++ [b], replay, fresh⟩) := by
    simp [advance, hcollect]
  have hinput : pending ++ b :: (replay ++ fresh) = (pending ++ [b]) ++ (replay ++ fresh) := by simp
  constructor <;> rw [hadvance]
  · refine ⟨bound, ⟨hkept, by simpa [Config.input] using hlength, hbound, hreplay⟩, ?_⟩
    rw [hinput]
    rfl
  · rw [hinput]
    simp [Config.input]
  · exact ⟨[], by simp [Config.input]⟩

/-- An accepted candidate is emitted, and the scan goes on behind it. -/
theorem advances_of_frame {d : β} {rest : List β}
    (hlength : (pending ++ b :: (replay ++ fresh)).length ≤ stop)
    (hbound : bound ≤ stop - fresh.length) (hreplay : replay ≠ [] → bound = stop - fresh.length)
    (hcons : pending ++ [b] = d :: rest) (hstart : R.start d = true)
    (hjudge : R.judge (pending ++ [b]) = .accept (pending.length + 1))
    (hcollect : collect R pending b = .frame (pending ++ [b])) :
    Advances R stop bound pending b replay fresh := by
  have hadvance : advance R pending b replay fresh = ([pending ++ [b]], ⟨[], replay, fresh⟩) := by
    simp [advance, hcollect]
  have hinput := input_eq_cons hcons (replay ++ fresh)
  have hsize : pending.length + 1 = rest.length + 1 := by simpa using congrArg List.length hcons
  have haccept : R.judge (d :: (rest ++ (replay ++ fresh))) = .accept (pending.length + 1) := by
    rw [judge_input hcons (by simp [hjudge]), hjudge]
  have hdrop : (d :: (rest ++ (replay ++ fresh))).drop (pending.length + 1) = replay ++ fresh := by
    simp [hsize]
  have htake : (d :: (rest ++ (replay ++ fresh))).take (pending.length + 1) = d :: rest := by
    simp [hsize]
  rw [hinput] at hlength
  have hpos : stop - (d :: (rest ++ (replay ++ fresh))).length + (pending.length + 1) =
      stop - (replay ++ fresh).length := by
    simp at hlength ⊢
    omega
  constructor <;> rw [hadvance]
  · refine ⟨bound, ⟨.inl rfl, ?_, hbound, hreplay⟩, ?_⟩
    · simp [Config.input] at hlength ⊢
      omega
    · simp only [Ordered, hinput, Config.input, List.nil_append]
      rw [rejectEnds_of_accept hstart haccept, hdrop, hpos]
  · rw [hinput, frames_of_accept hstart haccept, hdrop, htake, hcons]
    simp [Config.input]
  · exact ⟨pending ++ [b], by simp [Config.input]⟩

/-- A candidate rejected with nothing left to replay is replayed as a whole. -/
theorem advances_of_reject {d : β} {rest : List β}
    (hlength : (pending ++ b :: fresh).length ≤ stop) (hbound : bound ≤ stop - fresh.length)
    (hcons : pending ++ [b] = d :: rest) (hstart : R.start d = true)
    (hjudge : R.judge (pending ++ [b]) = .reject (pending.length + 1))
    (hcollect : collect R pending b = .rejected (pending ++ [b])) :
    Advances R stop bound pending b [] fresh := by
  have hadvance : advance R pending b [] fresh = ([], ⟨[], rest, fresh⟩) := by
    simp [advance, hcollect, hcons]
  have hinput := input_eq_cons hcons fresh
  have hsize : pending.length + 1 = rest.length + 1 := by simpa using congrArg List.length hcons
  have hreject : R.judge (d :: (rest ++ fresh)) = .reject (pending.length + 1) := by
    rw [judge_input hcons (by simp [hjudge]), hjudge]
  rw [hinput] at hlength
  have hend : stop - (d :: (rest ++ fresh)).length + (pending.length + 1) = stop - fresh.length := by
    simp at hlength ⊢
    omega
  have hpos : stop - (d :: (rest ++ fresh)).length + 1 = stop - (rest ++ fresh).length := by
    simp at hlength ⊢
    omega
  constructor <;> rw [hadvance]
  · refine ⟨stop - fresh.length, ⟨.inl rfl, ?_, le_rfl, fun _ => rfl⟩, ?_⟩
    · simp [Config.input] at hlength ⊢
      omega
    · simp only [Ordered, List.nil_append, hinput, Config.input]
      rw [rejectEnds_of_reject hstart hreject, hend, hpos, List.isChain_cons_cons]
      exact ⟨And.right, fun h => ⟨hbound, h⟩⟩
  · rw [List.nil_append, hinput, frames_of_reject hstart hreject]
    simp [Config.input]
  · exact ⟨[d], by simp [Config.input, hinput]⟩
  · simp

theorem advances_of_not_loses (hpending : Pending R pending)
    (hlength : (pending ++ b :: (replay ++ fresh)).length ≤ stop)
    (hbound : bound ≤ stop - fresh.length) (hreplay : replay ≠ [] → bound = stop - fresh.length)
    (hkeeps : ¬ Loses R pending b replay) : Advances R stop bound pending b replay fresh := by
  rcases collect_cases hpending b with ⟨rfl, hstart, hcollect⟩ | ⟨d, rest, hcons, hstart, hverdict⟩
  · exact advances_of_hunt (by simpa using hlength) hbound hreplay hstart hcollect
  · rcases hverdict with ⟨hjudge, hcollect⟩ | ⟨hjudge, hcollect⟩ | ⟨hjudge, hcollect⟩
    · exact advances_of_keep hlength hbound hreplay (.inr ⟨d, rest, hcons, hstart, hjudge⟩) hcollect
    · exact advances_of_frame hlength hbound hreplay hcons hstart hjudge hcollect
    · have hempty : replay = [] := by
        by_contra hne
        exact hkeeps ⟨hne, _, hcollect⟩
      subst hempty
      exact advances_of_reject (by simpa using hlength) hbound hcons hstart hjudge hcollect

/-- A loss happens only where a candidate ends before the one whose replay it
was found in. -/
theorem not_ordered_of_loses (hpending : Pending R pending)
    (hlength : (pending ++ b :: (replay ++ fresh)).length ≤ stop)
    (hreplay : replay ≠ [] → bound = stop - fresh.length) (hloses : Loses R pending b replay) :
    ¬ Ordered R stop bound (pending ++ b :: (replay ++ fresh)) := by
  obtain ⟨hne, candidate, hrejected⟩ := hloses
  rcases collect_cases hpending b with ⟨rfl, hstart, hcollect⟩ | ⟨d, rest, hcons, hstart, hverdict⟩
  · simp [hcollect] at hrejected
  · rcases hverdict with ⟨_, hcollect⟩ | ⟨_, hcollect⟩ | ⟨hjudge, hcollect⟩
    · simp [hcollect] at hrejected
    · simp [hcollect] at hrejected
    · have hinput := input_eq_cons hcons (replay ++ fresh)
      have hreject : R.judge (d :: (rest ++ (replay ++ fresh))) = .reject (pending.length + 1) := by
        rw [judge_input hcons (by simp [hjudge]), hjudge]
      have hsize : pending.length + 1 = rest.length + 1 := by simpa using congrArg List.length hcons
      have hpositive : 0 < replay.length := List.length_pos_iff.mpr hne
      have hend := hreplay hne
      rw [hinput] at hlength
      rw [Ordered, hinput, rejectEnds_of_reject hstart hreject, List.isChain_cons_cons]
      rintro ⟨hle, _⟩
      simp at hlength hle
      omega

end Step

/-- A candidate under collection scans to nothing. -/
theorem Pending.frames_eq_nil {pending : List β} (hpending : Pending R pending) :
    frames R 0 pending = [] := by
  rcases hpending with rfl | ⟨b, rest, rfl, hstart, hjudge⟩
  · rfl
  · exact frames_of_incomplete hstart hjudge

theorem Pending.ordered {pending : List β} (hpending : Pending R pending) (stop bound : Nat) :
    Ordered R stop bound pending := by
  have hnil : rejectEnds R 0 (stop - pending.length) pending = [] := by
    rcases hpending with rfl | ⟨b, rest, rfl, hstart, hjudge⟩
    · rfl
    · exact rejectEnds_of_incomplete hstart hjudge
  simp [Ordered, hnil]

/-- A run whose rejected candidates end in order emits exactly the frames of
the scan. -/
theorem Run.frames_eq {stop bound : Nat} {first last : Config β} {reads : List β}
    {out : List (List β)} (hrun : Run R first reads out last)
    (hfirst : Tracks R stop bound first) (hordered : Ordered R stop bound first.input)
    (hreplay : last.replay = []) (hfresh : last.fresh = []) :
    out = frames R 0 first.input := by
  induction hrun generalizing bound with
  | refl c =>
    rw [Config.input, hreplay, hfresh]
    simp [hfirst.pending.frames_eq_nil]
  | @replay pending replay fresh b reads out last tail ih =>
    have hlength : (pending ++ b :: (replay ++ fresh)).length ≤ stop := by
      simpa [Config.input] using hfirst.length_le
    have hbound : replay ≠ [] → bound = stop - fresh.length := fun _ => hfirst.bound_eq (by simp)
    have hinput : (⟨pending, b :: replay, fresh⟩ : Config β).input =
        pending ++ b :: (replay ++ fresh) := by simp [Config.input]
    rw [hinput] at hordered ⊢
    have hstep := advances_of_not_loses hfirst.pending hlength hfirst.bound_le hbound
      (fun hloses => not_ordered_of_loses hfirst.pending hlength hbound hloses hordered)
    obtain ⟨bound', htracks, hiff⟩ := hstep.tracks
    rw [ih htracks (hiff.mp hordered) hreplay hfresh, ← hstep.frames_eq]
  | @fresh pending fresh b reads out last tail ih =>
    have hlength : (pending ++ b :: ([] ++ fresh)).length ≤ stop := by
      simpa [Config.input] using hfirst.length_le
    have hbound : bound ≤ stop - fresh.length := by
      have hle := hfirst.bound_le
      simp only [List.length_cons] at hle
      omega
    have hinput : (⟨pending, [], b :: fresh⟩ : Config β).input =
        pending ++ b :: ([] ++ fresh) := by simp [Config.input]
    rw [hinput] at hordered ⊢
    have hstep := advances_of_not_loses hfirst.pending hlength hbound (fun h => absurd rfl h)
      (fun hloses => hloses.1 rfl)
    obtain ⟨bound', htracks, hiff⟩ := hstep.tracks
    rw [ih htracks (hiff.mp hordered) hreplay hfresh, ← hstep.frames_eq]

end lib.scan
