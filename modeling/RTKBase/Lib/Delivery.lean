import Mathlib.Data.List.Basic

namespace lib.delivery

variable {α : Type}

/-- How a receiver's queue took the items offered to it one after another:
`accepted` are those it took in, `dropped` counts those it turned away, and
`discarded` those that were given up before they were offered. -/
inductive Delivered : (offered accepted : List α) → (dropped discarded : Nat) → Prop where
  | nil : Delivered [] [] 0 0
  | accept {offered accepted : List α} {dropped discarded : Nat}
      (before : Delivered offered accepted dropped discarded) (item : α) :
      Delivered (offered ++ [item]) (accepted ++ [item]) dropped discarded
  | drop {offered accepted : List α} {dropped discarded : Nat}
      (before : Delivered offered accepted dropped discarded) (item : α) :
      Delivered (offered ++ [item]) accepted (dropped + 1) discarded
  | discard {offered accepted : List α} {dropped discarded : Nat}
      (before : Delivered offered accepted dropped discarded) (item : α) :
      Delivered (offered ++ [item]) accepted dropped (discarded + 1)

theorem Delivered.sublist {offered accepted : List α} {dropped discarded : Nat}
    (hdelivered : Delivered offered accepted dropped discarded) : accepted.Sublist offered := by
  induction hdelivered with
  | nil => exact List.Sublist.refl _
  | accept before item ih => exact ih.append (List.Sublist.refl _)
  | drop before item ih => exact ih.trans (List.sublist_append_left _ _)
  | discard before item ih => exact ih.trans (List.sublist_append_left _ _)

/-- What has become of an item. -/
inductive Fate where
  | received
  | queued
  | dropped
  | discarded
  deriving DecidableEq

/-- The items with one fate, in the order they were offered. -/
def having (fate : Fate) (offered : List α) (fates : List Fate) : List α :=
  ((offered.zip fates).filter fun entry => entry.2 = fate).map Prod.fst

theorem having_append {offered : List α} {fates : List Fate}
    (hlength : fates.length = offered.length) (fate last : Fate) (item : α) :
    having fate (offered ++ [item]) (fates ++ [last]) =
      having fate offered fates ++ if last = fate then [item] else [] := by
  unfold having
  rw [List.zip_append hlength.symm]
  by_cases hlast : last = fate <;> simp [hlast]

/-- Every item offered has one fate; the received and the queued items are
those with that fate in the order offered, and the counters count the others. -/
def Accounted (offered received queued : List α) (dropped discarded : Nat) : Prop :=
  ∃ fates : List Fate, fates.length = offered.length ∧
    having .received offered fates = received ∧ having .queued offered fates = queued ∧
    fates.count .dropped = dropped ∧ fates.count .discarded = discarded

/-- One more item, with its fate. -/
theorem Accounted.snoc {offered received queued : List α} {dropped discarded : Nat}
    (haccounted : Accounted offered received queued dropped discarded) (item : α) (fate : Fate) :
    Accounted (offered ++ [item]) (received ++ if fate = .received then [item] else [])
      (queued ++ if fate = .queued then [item] else [])
      (dropped + if fate = .dropped then 1 else 0)
      (discarded + if fate = .discarded then 1 else 0) := by
  obtain ⟨fates, hlength, rfl, rfl, rfl, rfl⟩ := haccounted
  refine ⟨fates ++ [fate], by simp [hlength], ?_, ?_, ?_, ?_⟩
  · exact having_append hlength .received fate item
  · exact having_append hlength .queued fate item
  · cases fate <;> simp
  · cases fate <;> simp

/-- Of the accepted items, the receiver has taken the first ones and the
others wait in its queue. -/
theorem Delivered.accounted {offered accepted received queued : List α} {dropped discarded : Nat}
    (hdelivered : Delivered offered accepted dropped discarded)
    (haccepted : accepted = received ++ queued) :
    Accounted offered received queued dropped discarded := by
  induction hdelivered generalizing received queued with
  | nil =>
    obtain ⟨rfl, rfl⟩ := List.append_eq_nil_iff.mp haccepted.symm
    exact ⟨[], rfl, rfl, rfl, rfl, rfl⟩
  | @accept offered accepted dropped discarded before item ih =>
    -- The newest accepted item waits, unless nothing does.
    obtain rfl | ⟨queued, last, rfl⟩ := queued.eq_nil_or_concat'
    · rw [List.append_nil] at haccepted
      rw [← haccepted]
      simpa using (ih (List.append_nil accepted).symm).snoc item .received
    · rw [← List.append_assoc] at haccepted
      obtain ⟨hbefore, hlast⟩ := List.append_inj' haccepted rfl
      rw [← hlast]
      simpa using (ih hbefore).snoc item .queued
  | drop before item ih => simpa using (ih haccepted).snoc item .dropped
  | discard before item ih => simpa using (ih haccepted).snoc item .discarded

end lib.delivery
