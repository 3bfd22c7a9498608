import Mathlib.Data.List.Basic

namespace lib.pieces

variable {α : Type} {n : Nat} {l : List α} {x : α}

/-- The last piece of a list that is cut after every `n` elements. -/
def lastPiece (n : Nat) (l : List α) : List α := l.drop (n * ((l.length - 1) / n))

theorem lastPiece_nil : lastPiece n ([] : List α) = [] := List.drop_nil

theorem append_lastPiece (n : Nat) (l : List α) :
    l.take (n * ((l.length - 1) / n)) ++ lastPiece n l = l :=
  List.take_append_drop _ _

/-- The piece holds what is left after the cuts before it. -/
theorem length_lastPiece (hl : l ≠ []) : (lastPiece n l).length = (l.length - 1) % n + 1 := by
  have hpos : 0 < l.length := List.length_pos_iff.mpr hl
  have hdiv := Nat.div_add_mod (l.length - 1) n
  rw [lastPiece, List.length_drop]
  omega

theorem lastPiece_eq_nil : lastPiece n l = [] ↔ l = [] := by
  constructor
  · intro hnil
    by_contra hl
    have hlength := length_lastPiece (n := n) hl
    rw [hnil] at hlength
    simp at hlength
  · rintro rfl
    exact lastPiece_nil

theorem length_lastPiece_le (hn : 0 < n) : (lastPiece n l).length ≤ n := by
  by_cases hl : l = []
  · subst hl
    simp [lastPiece_nil]
  · rw [length_lastPiece hl]
    exact Nat.mod_lt _ hn

/-- A list of one piece. -/
theorem lastPiece_of_le (hle : l.length ≤ n) : lastPiece n l = l := by
  by_cases hl : l = []
  · rw [hl, lastPiece_nil]
  · have hpos : 0 < l.length := List.length_pos_iff.mpr hl
    rw [lastPiece, Nat.div_eq_of_lt (by omega), Nat.mul_zero, List.drop_zero]

/-- The piece is full where the length is a multiple of its size. -/
theorem length_lastPiece_eq (hn : 0 < n) (hl : l ≠ []) :
    (lastPiece n l).length = n ↔ l.length % n = 0 := by
  obtain ⟨k, hk⟩ : ∃ k, l.length = k + 1 :=
    ⟨l.length - 1, by have := List.length_pos_iff.mpr hl; omega⟩
  obtain ⟨m, rfl⟩ : ∃ m, n = m + 1 := ⟨n - 1, by omega⟩
  rw [length_lastPiece hl, hk, Nat.add_sub_cancel, Nat.succ_mod_succ_eq_zero_iff]
  omega

/-- An element is put behind a piece with room for it, and else starts the next one. -/
theorem lastPiece_snoc (hn : 0 < n) : lastPiece n (l ++ [x]) =
    if (lastPiece n l).length < n then lastPiece n l ++ [x] else [x] := by
  by_cases hl : l = []
  · subst hl
    rw [lastPiece_nil, List.nil_append, lastPiece_of_le (show [x].length ≤ n from hn)]
    split <;> rfl
  have hfull := length_lastPiece_eq hn hl
  have hle := length_lastPiece_le (l := l) hn
  obtain ⟨k, hk⟩ : ∃ k, l.length = k + 1 :=
    ⟨l.length - 1, by have := List.length_pos_iff.mpr hl; omega⟩
  have hcut : lastPiece n (l ++ [x]) = (l ++ [x]).drop (n * ((k + 1) / n)) := by
    rw [lastPiece, List.length_append, List.length_singleton, Nat.add_sub_cancel, hk]
  rw [hcut]
  split
  case isTrue hroom =>
    have hmod : (k + 1) % n ≠ 0 := by
      rw [← hk]
      exact fun hzero => Nat.ne_of_lt hroom (hfull.mpr hzero)
    have hmul := Nat.mul_div_le k n
    rw [Nat.succ_div_of_mod_ne_zero hmod, List.drop_append_of_le_length (by omega), lastPiece, hk,
      Nat.add_sub_cancel]
  case isFalse hroom =>
    have hmod : (k + 1) % n = 0 := by
      rw [← hk]
      exact hfull.mp (by omega)
    rw [Nat.mul_div_cancel' (Nat.dvd_of_mod_eq_zero hmod), ← hk, List.drop_left]

end lib.pieces
