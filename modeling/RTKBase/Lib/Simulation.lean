import RTKBase.Lib.Lts

namespace lib.lts

variable {σ α τ β : Type} {step : σ → α → Option σ} {ok : σ → α → Prop} {init s : σ}
  {step' : τ → β → Option τ} {ok' : τ → β → Prop}

/-- A step that `ok` allows is a run. -/
theorem Reach.single {s' : σ} {a : α} (allowed : ok s a) (taken : step s a = some s') :
    Reach step ok s s' := .next .refl allowed taken

/-- Seen through `view`, a run is a run of another system if each of its steps
is one. -/
theorem Reach.view (view : σ → τ) (hreach : Reach step ok init s)
    (hstep : ∀ s a s', ok s a → step s a = some s' → Reach step' ok' (view s) (view s')) :
    Reach step' ok' (view init) (view s) := by
  induction hreach with
  | refl => exact .refl
  | next before allowed taken ih => exact ih.trans (hstep _ _ _ allowed taken)

/-- The same with what is known of the states reached. -/
theorem Reach.view_of (view : σ → τ) {K : σ → Prop} (hreach : Reach step ok init s)
    (hknown : ∀ s, Reach step ok init s → K s)
    (hstep : ∀ s a s', K s → ok s a → step s a = some s' → Reach step' ok' (view s) (view s')) :
    Reach step' ok' (view init) (view s) := by
  induction hreach with
  | refl => exact .refl
  | next before allowed taken ih => exact ih.trans (hstep _ _ _ (hknown _ before) allowed taken)

end lib.lts
