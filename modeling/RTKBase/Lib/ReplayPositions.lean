import RTKBase.Lib.ReplayExact

namespace lib.scan

variable {β : Type} {R : Recognizer β}

/-- The positions read never jump ahead: each one is at most one past the
previous one, and at the end everything before `stop` has been reached. The
second argument is one past the latest position read. -/
def NoSkip (stop : Nat) : Nat → List Nat → Prop
  | next, [] => stop ≤ next
  | next, pos :: rest => pos ≤ next ∧ NoSkip stop (pos + 1) rest

/-- An input that is the consecutive piece of the stream ending at `stop`. -/
def Located (pos : β → Nat) (stop : Nat) (input : List β) : Prop :=
  input.length ≤ stop ∧ input.map pos = List.range' (stop - input.length) input.length

section Located

variable {pos : β → Nat} {stop : Nat}

theorem Located.of_append {before input : List β} (h : Located pos stop (before ++ input)) :
    Located pos stop input := by
  obtain ⟨hle, hmap⟩ := h
  simp only [List.length_append] at hle
  refine ⟨by omega, ?_⟩
  have hdrop := congrArg (List.drop before.length) hmap
  rw [List.map_append, List.drop_left' (by simp), List.length_append, List.drop_range'] at hdrop
  rw [hdrop]
  congr 1 <;> omega

theorem Located.head {before rest : List β} {b : β} (h : Located pos stop (before ++ b :: rest)) :
    pos b + rest.length + 1 = stop := by
  obtain ⟨hle, hmap⟩ := h.of_append
  simp only [List.length_cons] at hle hmap
  rw [List.map_cons, List.range'_succ, List.cons.injEq] at hmap
  omega

theorem Located.lt_of_mem {before after : List β} (h : Located pos stop (before ++ after)) :
    ∀ x ∈ before, pos x + after.length < stop := by
  intro x hx
  obtain ⟨front, back, rfl⟩ := List.append_of_mem hx
  rw [List.append_assoc, List.cons_append] at h
  have hhead := h.head
  simp only [List.length_append] at hhead
  omega

end Located

/-- What a configuration still knows of the input lies before position `gap`
or is fresh, and the fresh input begins behind `gap`. -/
structure Behind (pos : β → Nat) (stop gap : Nat) (c : Config β) : Prop where
  pending : ∀ x ∈ c.pending, pos x < gap
  replay : ∀ x ∈ c.replay, pos x < gap
  fresh : Located pos stop c.fresh
  gap_lt : gap < stop - c.fresh.length

theorem collect_mem (pending : List β) (b : β) :
    (∃ kept, collect R pending b = .keep kept ∧ ∀ x ∈ kept, x ∈ pending ++ [b]) ∨
      collect R pending b = .frame (pending ++ [b]) ∨
      collect R pending b = .rejected (pending ++ [b]) := by
  unfold collect
  split
  · exact .inl ⟨[], rfl, by simp⟩
  · split
    · exact .inl ⟨_, rfl, fun x hx => hx⟩
    · exact .inr (.inl rfl)
    · exact .inr (.inr rfl)

/-- Taking in an element never brings back what the configuration has lost. -/
theorem Behind.advance {pos : β → Nat} {stop gap : Nat} {pending replay fresh : List β} {b : β}
    (h : Behind pos stop gap ⟨pending, replay, fresh⟩) (hb : pos b < gap) :
    Behind pos stop gap (advance R pending b replay fresh).2 := by
  have hcandidate : ∀ x ∈ pending ++ [b], pos x < gap := by
    intro x hx
    rcases List.mem_append.mp hx with hx | hx
    · exact h.pending x hx
    · rwa [List.mem_singleton.mp hx]
  unfold scan.advance
  rcases collect_mem (R := R) pending b with ⟨kept, hkeep, hmem⟩ | hframe | hreject
  · rw [hkeep]
    exact ⟨fun x hx => hcandidate x (hmem x hx), h.replay, h.fresh, h.gap_lt⟩
  · rw [hframe]
    exact ⟨by simp, h.replay, h.fresh, h.gap_lt⟩
  · rw [hreject]
    exact ⟨by simp, fun x hx => hcandidate x (List.mem_of_mem_tail hx), h.fresh, h.gap_lt⟩

/-- Once the element at `gap` is out of reach, the run jumps over it. -/
theorem Run.skips_of_behind {pos : β → Nat} {stop gap next : Nat} {first last : Config β}
    {reads : List β} {out : List (List β)} (hrun : Run R first reads out last)
    (hbehind : Behind pos stop gap first) (hnext : next ≤ gap) (hfresh : last.fresh = []) :
    ¬ NoSkip stop next (reads.map pos) := by
  induction hrun generalizing next with
  | refl c =>
    have hgap := hbehind.gap_lt
    rw [hfresh] at hgap
    simp [NoSkip] at hgap ⊢
    omega
  | @replay pending replay fresh b reads out last tail ih =>
    have hb : pos b < gap := hbehind.replay b (by simp)
    have hrest : Behind pos stop gap ⟨pending, replay, fresh⟩ :=
      ⟨hbehind.pending, fun x hx => hbehind.replay x (List.mem_cons_of_mem _ hx),
        hbehind.fresh, hbehind.gap_lt⟩
    rintro ⟨_, hnoskip⟩
    exact ih (hrest.advance hb) hb hfresh hnoskip
  | @fresh pending fresh b reads out last tail ih =>
    have hgap := hbehind.gap_lt
    have hinput : Located pos stop ([] ++ b :: fresh) := hbehind.fresh
    have hhead := hinput.head
    simp only [List.length_cons] at hgap
    rintro ⟨hle, _⟩
    omega

/-- A loss puts the first lost element out of reach. -/
theorem behind_of_loses {pos : β → Nat} {stop : Nat} {pending replay fresh : List β} {b : β}
    (hlocated : Located pos stop (pending ++ b :: (replay ++ fresh)))
    (hloses : Loses R pending b replay) :
    Behind pos stop (pos b + 1) (advance R pending b replay fresh).2 := by
  obtain ⟨hne, candidate, hrejected⟩ := hloses
  have hpositive : 0 < replay.length := List.length_pos_iff.mpr hne
  have hhead := hlocated.head
  have hsplit : Located pos stop ((pending ++ b :: replay) ++ fresh) := by simpa using hlocated
  have hfresh := hsplit.of_append
  have hcandidate : ∀ x ∈ pending ++ [b], pos x < pos b + 1 := by
    have hsplit : Located pos stop ((pending ++ [b]) ++ (replay ++ fresh)) := by simpa using hlocated
    intro x hx
    have hlt := hsplit.lt_of_mem x hx
    omega
  have heq : candidate = pending ++ [b] := by
    rcases collect_mem (R := R) pending b with ⟨kept, hkeep, _⟩ | hframe | hreject
    · simp [hrejected] at hkeep
    · simp [hrejected] at hframe
    · simpa [hrejected] using hreject
  subst heq
  simp only [List.length_append] at hhead
  simp only [scan.advance, hrejected]
  exact ⟨by simp, fun x hx => hcandidate x (List.mem_of_mem_tail hx), hfresh, by simp; omega⟩

/-- A run over a located input jumps over no element exactly if the candidates
that the scan rejects end in order. -/
theorem Run.noSkip_iff {pos : β → Nat} {stop bound next : Nat} {first last : Config β}
    {reads : List β} {out : List (List β)} (hrun : Run R first reads out last)
    (hfirst : Tracks R stop bound first) (hlocated : Located pos stop first.input)
    (hnext : stop ≤ next + (first.replay.length + first.fresh.length))
    (hreplay : last.replay = []) (hfresh : last.fresh = []) :
    NoSkip stop next (reads.map pos) ↔ Ordered R stop bound first.input := by
  induction hrun generalizing bound next with
  | refl c =>
    have hinput : c.input = c.pending := by simp [Config.input, hreplay, hfresh]
    rw [hinput]
    simp only [hreplay, hfresh, List.length_nil, Nat.add_zero] at hnext
    simpa [NoSkip, hfirst.pending.ordered] using hnext
  | @replay pending replay fresh b reads out last tail ih =>
    have hinput : (⟨pending, b :: replay, fresh⟩ : Config β).input =
        pending ++ b :: (replay ++ fresh) := by simp [Config.input]
    rw [hinput] at hlocated ⊢
    have hpending : Pending R pending := hfirst.pending
    have hbound : replay ≠ [] → bound = stop - fresh.length := fun _ => hfirst.bound_eq (by simp)
    have hhead := hlocated.head
    simp only [List.length_append, List.length_cons] at hhead hnext
    by_cases hloses : Loses R pending b replay
    · have hskip := tail.skips_of_behind (behind_of_loses hlocated hloses) le_rfl hfresh
      have hunordered := not_ordered_of_loses hpending hlocated.1 hbound hloses
      simp [NoSkip, hskip, hunordered]
    · have hstep := advances_of_not_loses hpending hlocated.1 hfirst.bound_le hbound hloses
      obtain ⟨bound', htracks, hiff⟩ := hstep.tracks
      obtain ⟨lost, hsuffix⟩ := hstep.suffix
      have hle := hstep.next_le
      rw [hsuffix] at hlocated
      have htail : NoSkip stop (pos b + 1) (reads.map pos) ↔ _ :=
        ih htracks hlocated.of_append (by omega) hreplay hfresh
      rw [hiff, ← htail]
      exact ⟨And.right, fun h => ⟨by omega, h⟩⟩
  | @fresh pending fresh b reads out last tail ih =>
    have hinput : (⟨pending, [], b :: fresh⟩ : Config β).input =
        pending ++ b :: ([] ++ fresh) := by simp [Config.input]
    rw [hinput] at hlocated ⊢
    have hpending : Pending R pending := hfirst.pending
    have hbound : bound ≤ stop - fresh.length := by
      have hle := hfirst.bound_le
      simp only [List.length_cons] at hle
      omega
    have hhead := hlocated.head
    simp only [List.nil_append, List.length_nil, List.length_cons] at hhead hnext
    have hstep := advances_of_not_loses hpending hlocated.1 hbound (fun h => absurd rfl h)
      (fun hloses => hloses.1 rfl)
    obtain ⟨bound', htracks, hiff⟩ := hstep.tracks
    obtain ⟨lost, hsuffix⟩ := hstep.suffix
    have hle := hstep.next_le
    rw [hsuffix] at hlocated
    simp only [List.length_nil] at hle
    have htail : NoSkip stop (pos b + 1) (reads.map pos) ↔ _ :=
      ih htracks hlocated.of_append (by omega) hreplay hfresh
    rw [hiff, ← htail]
    exact ⟨And.right, fun h => ⟨by omega, h⟩⟩

end lib.scan
