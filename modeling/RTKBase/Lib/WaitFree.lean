import RTKBase.Lib.Lts

namespace lib.lts

variable {σ α : Type} (step : σ → α → Option σ)

/-- Somewhere on its way a list of actions passes through a state with `done`. -/
def Passes (done : σ → Prop) (s : σ) (actions : List α) : Prop :=
  ∃ before after s', actions = before ++ after ∧ runs step Anywhere s before = some s' ∧ done s'

variable {step} {done : σ → Prop}

theorem Passes.here {s : σ} (hdone : done s) (actions : List α) : Passes step done s actions :=
  ⟨[], actions, s, rfl, rfl, hdone⟩

theorem Passes.cons {s s' : σ} {a : α} {rest : List α} (htaken : step s a = some s')
    (hpasses : Passes step done s' rest) : Passes step done s (a :: rest) := by
  obtain ⟨before, after, s₁, rfl, hruns, hdone⟩ := hpasses
  refine ⟨a :: before, after, s₁, rfl, ?_, hdone⟩
  rw [runs, if_pos (show Anywhere s a from trivial), htaken]
  exact hruns

/-- A process among others: if each of its own steps lowers a measure, which the
steps of the others do not raise, then it is done after as many steps of its own,
whatever the others do in between. -/
theorem passes_within (own : α → Bool) (P : σ → Prop) (measure : σ → Nat)
    (hstep : ∀ s a s', P s → ¬ done s → step s a = some s' →
      P s' ∧ (done s' ∨ measure s' + (if own a then 1 else 0) ≤ measure s))
    (hzero : ∀ s, P s → measure s = 0 → done s) {s s' : σ} {actions : List α} (hinit : P s)
    (hruns : runs step Anywhere s actions = some s') (hmany : measure s ≤ actions.countP own) :
    Passes step done s actions := by
  induction actions generalizing s with
  | nil => exact .here (hzero s hinit (by simpa using hmany)) []
  | cons a rest ih =>
    by_cases hdone : done s
    · exact .here hdone _
    · rw [runs, if_pos (show Anywhere s a from trivial)] at hruns
      cases htaken : step s a with
      | none =>
        rw [htaken] at hruns
        cases hruns
      | some s₁ =>
        rw [htaken] at hruns
        obtain ⟨hP, hdone' | hlower⟩ := hstep s a s₁ hinit hdone htaken
        · exact .cons htaken (.here hdone' rest)
        · rw [List.countP_cons] at hmany
          exact .cons htaken (ih hP hruns (by omega))

end lib.lts
