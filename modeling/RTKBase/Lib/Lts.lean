import Mathlib.Logic.Basic

namespace lib.lts

variable {σ α : Type}

/-- The states that steps from `init` reach, where every step of the way was
taken in a state and by an action that `ok` allows. -/
inductive Reach (step : σ → α → Option σ) (ok : σ → α → Prop) (init : σ) : σ → Prop where
  | refl : Reach step ok init init
  | next {s s' : σ} {a : α} (before : Reach step ok init s) (allowed : ok s a)
      (taken : step s a = some s') : Reach step ok init s'

/-- Every step is allowed. -/
def Anywhere (_ : σ) (_ : α) : Prop := True

instance (s : σ) (a : α) : Decidable (Anywhere s a) := .isTrue trivial

/-- Take the actions of a list one after another, if `ok` allows them. -/
def runs (step : σ → α → Option σ) (ok : σ → α → Prop) [∀ s a, Decidable (ok s a)] :
    σ → List α → Option σ
  | s, [] => some s
  | s, a :: rest =>
    if ok s a then
      match step s a with
      | none => none
      | some s' => runs step ok s' rest
    else none

variable {step : σ → α → Option σ} {ok : σ → α → Prop} {init s : σ}

/-- What holds at first, and after every allowed step from a state where it
holds, holds in every state reached. -/
theorem Reach.invariant {P : σ → Prop} (hreach : Reach step ok init s) (hinit : P init)
    (hstep : ∀ s a s', P s → ok s a → step s a = some s' → P s') : P s := by
  induction hreach with
  | refl => exact hinit
  | next before allowed taken ih => exact hstep _ _ _ ih allowed taken

/-- The same with the invariants already known of the states reached. -/
theorem Reach.invariant_of {K P : σ → Prop} (hreach : Reach step ok init s)
    (hknown : ∀ s, Reach step ok init s → K s) (hinit : P init)
    (hstep : ∀ s a s', K s → K s' → P s → ok s a → step s a = some s' → P s') : P s := by
  induction hreach with
  | refl => exact hinit
  | next before allowed taken ih =>
    exact hstep _ _ _ (hknown _ before) (hknown _ (.next before allowed taken)) ih allowed taken

theorem Reach.trans {s' : σ} (hreach : Reach step ok init s) (hreach' : Reach step ok s s') :
    Reach step ok init s' := by
  induction hreach' with
  | refl => exact hreach
  | next _ allowed taken ih => exact .next ih allowed taken

/-- A run whose steps are allowed is one whose steps meet any weaker condition. -/
theorem Reach.weaken {ok' : σ → α → Prop} (hreach : Reach step ok init s)
    (hweaker : ∀ s a, ok s a → ok' s a) : Reach step ok' init s := by
  induction hreach with
  | refl => exact .refl
  | next _ allowed taken ih => exact .next ih (hweaker _ _ allowed) taken

/-- What a list of actions leads to is reached. -/
theorem Reach.runs [∀ s a, Decidable (ok s a)] {s' : σ} (hreach : Reach step ok init s)
    {actions : List α} (hruns : runs step ok s actions = some s') : Reach step ok init s' := by
  induction actions generalizing s with
  | nil =>
    cases hruns
    exact hreach
  | cons a rest ih =>
    unfold lts.runs at hruns
    split at hruns
    case isTrue hok =>
      split at hruns
      case h_1 => cases hruns
      case h_2 next htaken => exact ih (.next hreach hok htaken) hruns
    case isFalse => cases hruns

/-- Two lists of actions are taken one after the other. -/
theorem runs_append [∀ s a, Decidable (ok s a)] (s : σ) (before after : List α) :
    runs step ok s (before ++ after) =
      (runs step ok s before).bind (runs step ok · after) := by
  induction before generalizing s with
  | nil => rfl
  | cons a rest ih =>
    rw [List.cons_append, runs, runs]
    split
    case isTrue =>
      split
      case h_1 => rfl
      case h_2 s' _ => exact ih s'
    case isFalse => rfl

variable (step) in
/-- No infinite run starts in `s`. -/
def Terminates (s : σ) : Prop := Acc (fun s' s => ∃ a, step s a = some s') s

/-- A measure that every step lowers, in a well-founded order and while an
invariant holds, is an end of all runs. -/
theorem Terminates.of_measure {ρ : Type} [WellFoundedRelation ρ] {P : σ → Prop} (measure : σ → ρ)
    (hinit : P s) (hstep : ∀ s a s', P s → step s a = some s' →
      P s' ∧ WellFoundedRelation.rel (measure s') (measure s)) : Terminates step s := by
  have hacc : Acc WellFoundedRelation.rel (measure s) := WellFoundedRelation.wf.apply _
  generalize hrank : measure s = rank at hacc
  induction hacc generalizing s with
  | intro rank _ ih =>
    subst hrank
    refine .intro _ fun s' hnext => ?_
    obtain ⟨a, htaken⟩ := hnext
    obtain ⟨hkeeps, hlower⟩ := hstep s a s' hinit htaken
    exact ih _ hlower hkeeps rfl

/-- Where a list of actions splits before the last one or at it. -/
theorem append_split {xs before after : List α} {x y : α}
    (heq : xs ++ [x] = before ++ y :: after) :
    (before = xs ∧ y = x ∧ after = []) ∨ ∃ rest, after = rest ++ [x] ∧ xs = before ++ y :: rest := by
  rcases List.eq_nil_or_concat after with rfl | ⟨rest, last, rfl⟩
  · obtain ⟨rfl, hlast⟩ := List.append_inj' heq rfl
    exact .inl ⟨rfl, (List.singleton_inj.mp hlast).symm, rfl⟩
  · rw [List.concat_eq_append, ← List.cons_append, ← List.append_assoc] at heq
    obtain ⟨hrest, hlast⟩ := List.append_inj' heq rfl
    obtain rfl := List.singleton_inj.mp hlast
    exact .inr ⟨rest, List.concat_eq_append, hrest⟩

end lib.lts
