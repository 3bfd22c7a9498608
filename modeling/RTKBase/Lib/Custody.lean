import Mathlib.Algebra.BigOperators.Group.Finset.Basic
import Mathlib.Algebra.Order.BigOperators.Group.Finset
import Mathlib.Data.Finset.Card
import Mathlib.Data.Fintype.Basic

namespace lib.custody

variable {κ ι : Type} [Fintype κ] [DecidableEq ι]

/-- How often the parties `κ` hold the item, each a list of items. -/
def holders (wards : κ → List ι) (item : ι) : Nat := ∑ k, (wards k).count item

theorem holders_eq_zero {wards : κ → List ι} {item : ι} :
    holders wards item = 0 ↔ ∀ k, item ∉ wards k := by
  simp [holders, List.count_eq_zero]

theorem holders_pos_of_mem {wards : κ → List ι} {item : ι} {k : κ} (hmem : item ∈ wards k) :
    0 < holders wards item := by
  by_contra hzero
  exact holders_eq_zero.mp (by omega) k hmem

/-- There are no more items in custody than places to keep one. -/
theorem card_held_le [Fintype ι] (wards : κ → List ι) {bound : Nat}
    (hbound : ∀ k, (wards k).length ≤ bound) :
    (Finset.univ.filter fun item => holders wards item ≠ 0).card ≤ Fintype.card κ * bound := by
  have hsub : (Finset.univ.filter fun item => holders wards item ≠ 0) ⊆
      Finset.univ.biUnion fun k => (wards k).toFinset := by
    intro item hitem
    simp only [Finset.mem_filter, Finset.mem_univ, true_and, ne_eq, holders_eq_zero] at hitem
    simpa using hitem
  calc (Finset.univ.filter fun item => holders wards item ≠ 0).card
      ≤ (Finset.univ.biUnion fun k => (wards k).toFinset).card := Finset.card_le_card hsub
    _ ≤ ∑ k, (wards k).toFinset.card := Finset.card_biUnion_le
    _ ≤ ∑ _k : κ, bound :=
        Finset.sum_le_sum fun k _ => (List.toFinset_card_le _).trans (hbound k)
    _ = Fintype.card κ * bound := by simp

section

variable [DecidableEq κ]

/-- Changing what one party holds changes the count by that party's share. -/
theorem holders_update (wards : κ → List ι) (k : κ) (items : List ι) (item : ι) :
    holders (Function.update wards k items) item + (wards k).count item =
      holders wards item + items.count item := by
  have hrest : ∀ x ∈ Finset.univ.erase k,
      (Function.update wards k items x).count item = (wards x).count item := by
    intro x hx
    rw [Function.update_of_ne (Finset.ne_of_mem_erase hx)]
  have hafter := Finset.add_sum_erase Finset.univ
    (fun x => (Function.update wards k items x).count item) (Finset.mem_univ k)
  have hbefore := Finset.add_sum_erase Finset.univ
    (fun x => (wards x).count item) (Finset.mem_univ k)
  rw [Finset.sum_congr rfl hrest] at hafter
  simp only [Function.update_self] at hafter
  unfold holders
  omega

theorem holders_append (wards : κ → List ι) (k : κ) (added item : ι) :
    holders (Function.update wards k (wards k ++ [added])) item =
      holders wards item + if added = item then 1 else 0 := by
  have hupdate := holders_update wards k (wards k ++ [added]) item
  rw [List.count_append, List.count_singleton] at hupdate
  simp only [beq_iff_eq] at hupdate
  omega

theorem holders_tail {wards : κ → List ι} {k : κ} {dropped : ι} {rest : List ι}
    (hwards : wards k = dropped :: rest) (item : ι) :
    holders (Function.update wards k rest) item + (if dropped = item then 1 else 0) =
      holders wards item := by
  have hupdate := holders_update wards k rest item
  rw [hwards, List.count_cons] at hupdate
  simp only [beq_iff_eq] at hupdate
  omega

end

end lib.custody
