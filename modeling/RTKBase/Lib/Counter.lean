import Mathlib.Data.List.Range
import Mathlib.Order.Basic

namespace lib.counter

variable {α : Type} [Preorder α] {f : Nat → α} {period : Nat}

/-- The first `n` items of a sequence that is read through a counter which starts
over after `period` of them. -/
def wrapped (period : Nat) (f : Nat → α) (n : Nat) : List α :=
  (List.range n).map fun k => f (k % period)

/-- If the items of one period rise, those of all periods do as long as the counter
has not started over, or where the last item of a period is not above the first. -/
theorem wrapped_rises_iff (hperiod : 0 < period)
    (hrises : ∀ i j, i ≤ j → j < period → f i ≤ f j) (n : Nat) :
    (wrapped period f n).Pairwise (· ≤ ·) ↔ n ≤ period ∨ f (period - 1) ≤ f 0 := by
  rw [wrapped, List.pairwise_map]
  constructor
  · intro hpairwise
    by_contra hfalls
    push Not at hfalls
    obtain ⟨hn, hfalls⟩ := hfalls
    have hstep := List.pairwise_iff_getElem.mp hpairwise (period - 1) period
      (by rw [List.length_range]; omega) (by rw [List.length_range]; omega) (by omega)
    rw [List.getElem_range, List.getElem_range, Nat.mod_self,
      Nat.mod_eq_of_lt (Nat.sub_one_lt_of_lt hperiod)] at hstep
    exact hfalls hstep
  · intro hcase
    refine List.pairwise_lt_range.imp_of_mem fun {i j} hi hj hij => ?_
    have hj := List.mem_range.mp hj
    obtain hn | hflat := hcase
    · rw [Nat.mod_eq_of_lt (by omega), Nat.mod_eq_of_lt (by omega)]
      exact hrises i j hij.le (by omega)
    · have hi := Nat.mod_lt i hperiod
      have hj := Nat.mod_lt j hperiod
      calc f (i % period)
        _ ≤ f (period - 1) := hrises _ _ (by omega) (by omega)
        _ ≤ f 0 := hflat
        _ ≤ f (j % period) := hrises _ _ (Nat.zero_le _) hj

end lib.counter
