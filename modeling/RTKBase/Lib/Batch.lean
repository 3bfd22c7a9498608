import Mathlib.Logic.Function.Basic
import Mathlib.Data.List.Nodup

namespace lib.batch

variable {ι κ ν : Type} [DecidableEq κ]

/-- What becomes of one entry of a batch. -/
inductive Outcome (ν : Type) where
  | skip
  | fail
  | write (value : ν)

/-- The store after some entries, and whether one of them failed. -/
abbrev State (κ ν : Type) := (κ → Option ν) × Bool

/-- Take the next entry: a failure is remembered and the batch goes on. -/
def step (key : ι → κ) (outcome : ι → Outcome ν) (state : State κ ν) (entry : ι) : State κ ν :=
  match outcome entry with
  | .skip => state
  | .fail => (state.1, true)
  | .write value => (Function.update state.1 (key entry) (some value), state.2)

def run (key : ι → κ) (outcome : ι → Outcome ν) (entries : List ι) (state : State κ ν) :
    State κ ν :=
  entries.foldl (step key outcome) state

variable {key : ι → κ} {outcome : ι → Outcome ν} {entries : List ι} {state : State κ ν}

/-- A batch fails exactly when an entry does. -/
theorem run_failed :
    (run key outcome entries state).2 = true ↔
      state.2 = true ∨ ∃ entry ∈ entries, outcome entry = .fail := by
  induction entries generalizing state with
  | nil => simp [run]
  | cons entry rest ih =>
    have hcons : run key outcome (entry :: rest) state =
        run key outcome rest (step key outcome state entry) := rfl
    rw [hcons, ih]
    unfold step
    cases houtcome : outcome entry <;> simp [houtcome]

/-- A key that no entry writes keeps its value. -/
theorem run_of_not_written {k : κ}
    (hunwritten : ∀ entry ∈ entries, key entry = k → ∀ value, outcome entry ≠ .write value) :
    (run key outcome entries state).1 k = state.1 k := by
  induction entries generalizing state with
  | nil => rfl
  | cons entry rest ih =>
    have hcons : run key outcome (entry :: rest) state =
        run key outcome rest (step key outcome state entry) := rfl
    rw [hcons, ih fun entry hentry => hunwritten entry (List.mem_cons_of_mem _ hentry)]
    unfold step
    split
    case h_1 => rfl
    case h_2 => rfl
    case h_3 value houtcome =>
      have hkey : k ≠ key entry := by
        intro heq
        exact hunwritten entry List.mem_cons_self heq.symm value houtcome
      exact Function.update_of_ne hkey _ _

/-- With distinct keys, every entry's value is there in the end. -/
theorem run_of_written (hnodup : (entries.map key).Nodup) {entry : ι} (hentry : entry ∈ entries)
    {value : ν} (houtcome : outcome entry = .write value) :
    (run key outcome entries state).1 (key entry) = some value := by
  induction entries generalizing state with
  | nil => cases hentry
  | cons first rest ih =>
    obtain ⟨hfirst, hrest⟩ := List.nodup_cons.mp hnodup
    have hcons : run key outcome (first :: rest) state =
        run key outcome rest (step key outcome state first) := rfl
    rw [hcons]
    cases hentry with
    | head =>
      rw [run_of_not_written fun other hother hkey => ?_]
      · simp [step, houtcome]
      · exact absurd (hkey ▸ List.mem_map_of_mem hother) hfirst
    | tail _ hentry => exact ih hrest hentry

/-- With distinct keys, a batch leaves the store as it is exactly when it writes
only what is there. -/
theorem run_unchanged_iff (hnodup : (entries.map key).Nodup) :
    (run key outcome entries state).1 = state.1 ↔
      ∀ entry ∈ entries, ∀ value, outcome entry = .write value →
        state.1 (key entry) = some value := by
  constructor
  · intro hunchanged entry hentry value houtcome
    rw [← hunchanged]
    exact run_of_written hnodup hentry houtcome
  · intro hthere
    funext k
    by_cases hwritten : ∃ entry ∈ entries, key entry = k ∧ ∃ value, outcome entry = .write value
    · obtain ⟨entry, hentry, rfl, value, houtcome⟩ := hwritten
      rw [run_of_written hnodup hentry houtcome, hthere entry hentry value houtcome]
    · apply run_of_not_written
      intro entry hentry hkey value houtcome
      exact hwritten ⟨entry, hentry, hkey, value, houtcome⟩

end lib.batch
