import Mathlib.Data.List.Basic
import Mathlib.Data.List.GetD

namespace lib.placement

variable {α : Type}

/-- Pieces put one behind the other from an offset on, each with its place. -/
def placed : Nat → List (List α) → List (Nat × List α)
  | _, [] => []
  | offset, piece :: pieces => (offset, piece) :: placed (offset + piece.length) pieces

theorem placed_flatten (offset : Nat) (pieces : List (List α)) :
    ((placed offset pieces).map (·.2)).flatten = pieces.flatten := by
  induction pieces generalizing offset with
  | nil => rfl
  | cons piece pieces ih => rw [placed, List.map_cons, List.flatten_cons, ih, List.flatten_cons]

/-- A memory after some data was written to an offset. -/
def store (memory : Nat → α) (offset : Nat) (data : List α) : Nat → α := fun a =>
  if offset ≤ a then data.getD (a - offset) (memory a) else memory a

/-- A memory after some writes, the first one first. -/
def stores (memory : Nat → α) (writes : List (Nat × List α)) : Nat → α :=
  writes.foldl (fun memory write => store memory write.1 write.2) memory

/-- Data written in two parts is written. -/
theorem store_append (memory : Nat → α) (offset : Nat) (data data' : List α) :
    store (store memory offset data) (offset + data.length) data' =
      store memory offset (data ++ data') := by
  funext a
  unfold store
  by_cases hbefore : offset ≤ a
  · rw [if_pos hbefore, if_pos hbefore]
    by_cases hin : a - offset < data.length
    · rw [if_neg (by omega), List.getD_append _ _ _ _ hin]
    · rw [if_pos (by omega), List.getD_append_right _ _ _ _ (by omega),
        List.getD_eq_default data _ (by omega), Nat.sub_add_eq]
  · rw [if_neg hbefore, if_neg hbefore, if_neg (by omega)]

/-- Pieces put one behind the other make up the whole. -/
theorem stores_placed (memory : Nat → α) (offset : Nat) (pieces : List (List α)) :
    stores memory (placed offset pieces) = store memory offset pieces.flatten := by
  induction pieces generalizing memory offset with
  | nil =>
    funext a
    simp [stores, placed, store]
  | cons piece pieces ih =>
    rw [placed, stores, List.foldl_cons]
    change stores (store memory offset piece) (placed (offset + piece.length) pieces) = _
    rw [ih, store_append, List.flatten_cons]

end lib.placement
