import Mathlib.Data.List.Basic

namespace lib.session

variable {ι β : Type}

/-- A connection over which items go out one after another as bytes: the items
that were taken up for it, and what was sent. -/
structure Session (ι β : Type) where
  taken : List ι
  sent : List β

def Session.fresh : Session ι β := ⟨[], []⟩

def Session.take (s : Session ι β) (item : ι) : Session ι β := { s with taken := s.taken ++ [item] }

def Session.send (s : Session ι β) (more : List β) : Session ι β :=
  { s with sent := s.sent ++ more }

section

variable (bytes : ι → List β)

/-- All that was taken up was sent. -/
def Session.Whole (s : Session ι β) : Prop := s.sent = s.taken.flatMap bytes

/-- The last item taken up was sent as far as `n`, and all before it whole. -/
def Session.At (s : Session ι β) (item : ι) (n : Nat) : Prop :=
  ∃ before, s.taken = before ++ [item] ∧ s.sent = before.flatMap bytes ++ (bytes item).take n

/-- The items taken up were sent whole and in order, up to the last, of which
the beginning may be all that was sent. -/
def Session.Sound (s : Session ι β) : Prop :=
  ∃ whole last, s.taken = whole ++ last ∧ last.length ≤ 1 ∧
    ∃ part, s.sent = whole.flatMap bytes ++ part ∧ part <+: last.flatMap bytes

end

variable {bytes : ι → List β} {s : Session ι β} {item : ι} {n : Nat}

theorem Session.fresh_whole : (Session.fresh : Session ι β).Whole bytes := rfl

theorem Session.Whole.take (hwhole : s.Whole bytes) (item : ι) : (s.take item).At bytes item 0 :=
  ⟨s.taken, rfl, by simpa [Session.take, Session.Whole] using hwhole⟩

/-- The next bytes of the item go out. -/
theorem Session.At.send (hat : s.At bytes item n) (k : Nat) :
    (s.send (((bytes item).drop n).take k)).At bytes item (n + k) := by
  obtain ⟨before, htaken, hsent⟩ := hat
  refine ⟨before, htaken, ?_⟩
  rw [Session.send, hsent, List.append_assoc, List.take_add]

theorem Session.At.whole (hat : s.At bytes item n) (hlast : (bytes item).length ≤ n) :
    s.Whole bytes := by
  obtain ⟨before, htaken, hsent⟩ := hat
  rw [Session.Whole, htaken, hsent, List.take_of_length_le hlast]
  simp

/-- With what is left of the last item, all that was taken up is there. -/
theorem Session.At.rest (hat : s.At bytes item n) :
    s.sent ++ (bytes item).drop n = s.taken.flatMap bytes := by
  obtain ⟨before, htaken, hsent⟩ := hat
  rw [htaken, hsent, List.append_assoc, List.take_append_drop]
  simp

theorem Session.Whole.sound (hwhole : s.Whole bytes) : s.Sound bytes :=
  ⟨s.taken, [], by simp, by simp, [], by simpa [Session.Whole] using hwhole, by simp⟩

theorem Session.At.sound (hat : s.At bytes item n) : s.Sound bytes := by
  obtain ⟨before, htaken, hsent⟩ := hat
  refine ⟨before, [item], htaken, by simp, (bytes item).take n, hsent, ?_⟩
  simpa using List.take_prefix n (bytes item)

/-- Nothing was sent but the items taken up, in their order. -/
theorem Session.Sound.within (hsound : s.Sound bytes) : s.sent <+: s.taken.flatMap bytes := by
  obtain ⟨whole, last, htaken, _, part, hsent, hpart⟩ := hsound
  rw [htaken, hsent, List.flatMap_append]
  exact (List.prefix_append_right_inj _).mpr hpart

/-- The same for several connections one after the other. -/
theorem sent_sublist {sessions : List (Session ι β)} (hsound : ∀ c ∈ sessions, c.Sound bytes) :
    (sessions.flatMap (·.sent)).Sublist ((sessions.flatMap (·.taken)).flatMap bytes) := by
  induction sessions with
  | nil => exact List.Sublist.refl _
  | cons c rest ih =>
    simp only [List.flatMap_cons, List.flatMap_append]
    exact (hsound c List.mem_cons_self).within.sublist.append
      (ih fun c hc => hsound c (List.mem_cons_of_mem _ hc))

end lib.session
