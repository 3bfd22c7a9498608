import RTKBase.Lib.Lts

open lib.lts

namespace lib.ledger

section Traced

variable {σ α ε : Type}

/-- A state with the calls that the steps up to it have made. -/
structure Traced (σ ε : Type) where
  state : σ
  calls : List ε

/-- A system that keeps a record of its calls, where `made` tells those of each
step. -/
def traced (step : σ → α → Option σ) (made : σ → α → List ε) (t : Traced σ ε) (a : α) :
    Option (Traced σ ε) :=
  (step t.state a).map fun s => ⟨s, t.calls ++ made t.state a⟩

variable {step : σ → α → Option σ} {made : σ → α → List ε} {init : σ} {t : Traced σ ε}

/-- The record does not interfere with the system. -/
theorem reach_of_traced (hreach : Reach (traced step made) Anywhere ⟨init, []⟩ t) :
    Reach step Anywhere init t.state := by
  induction hreach with
  | refl => exact .refl
  | next _ _ taken ih =>
    obtain ⟨s, hstep, rfl⟩ := Option.map_eq_some_iff.mp taken
    exact .next ih trivial hstep

/-- A property of states and records holds in every run if it holds at first and
is kept by every step from a state that satisfies a known invariant. -/
theorem traced_invariant {K : σ → Prop} {P : σ → List ε → Prop}
    (hreach : Reach (traced step made) Anywhere ⟨init, []⟩ t)
    (hknown : ∀ s, Reach step Anywhere init s → K s) (hinit : P init [])
    (hstep : ∀ s calls a s', K s → P s calls → step s a = some s' → P s' (calls ++ made s a)) :
    P t.state t.calls := by
  induction hreach with
  | refl => exact hinit
  | next before _ taken ih =>
    obtain ⟨s', htaken, rfl⟩ := Option.map_eq_some_iff.mp taken
    exact hstep _ _ _ _ (hknown _ (reach_of_traced before)) ih htaken

end Traced

section Turns

variable {ε : Type} {acquire release : ε} {held held' : Prop} [Decidable held] [Decidable held']
  {calls : List ε}

/-- The calls about one resource: it is acquired and released in turn, so that
every time but the last it was released once, and the last time unless it is
held. -/
def Turns (acquire release : ε) (held : Prop) [Decidable held] (calls : List ε) : Prop :=
  ∃ n, calls = (List.replicate n [acquire, release]).flatten ++ if held then [acquire] else []

theorem Turns.nil (hfree : ¬ held) : Turns acquire release held [] :=
  ⟨0, by simp [hfree]⟩

theorem Turns.congr (hturns : Turns acquire release held calls) (hsame : held' ↔ held) :
    Turns acquire release held' calls := by
  obtain ⟨n, hcalls⟩ := hturns
  refine ⟨n, ?_⟩
  simp only [hsame]
  exact hcalls

theorem Turns.acquired (hturns : Turns acquire release held calls) (hfree : ¬ held)
    (hheld : held') : Turns acquire release held' (calls ++ [acquire]) := by
  obtain ⟨n, rfl⟩ := hturns
  exact ⟨n, by simp [hfree, hheld]⟩

theorem Turns.released (hturns : Turns acquire release held calls) (hheld : held)
    (hfree : ¬ held') : Turns acquire release held' (calls ++ [release]) := by
  obtain ⟨n, rfl⟩ := hturns
  exact ⟨n + 1, by simp [hfree, hheld, List.replicate_succ']⟩

end Turns

section Serial

variable {ι ε : Type} {acquire release : ι → ε} {held : Option ι} {i : ι} {calls calls' : List ε}

/-- The calls about resources of which one is held at a time: each one acquired
was released once before the next, and the last one unless it is held. -/
def Serial (acquire release : ι → ε) (held : Option ι) (calls : List ε) : Prop :=
  ∃ served : List ι,
    calls = served.flatMap (fun i => [acquire i, release i]) ++ (held.map acquire).toList

theorem Serial.nil : Serial acquire release none [] := ⟨[], rfl⟩

theorem Serial.append (hserial : Serial acquire release none calls)
    (hserial' : Serial acquire release held calls') :
    Serial acquire release held (calls ++ calls') := by
  obtain ⟨served, rfl⟩ := hserial
  obtain ⟨served', rfl⟩ := hserial'
  refine ⟨served ++ served', ?_⟩
  rw [List.flatMap_append, Option.map_none, Option.toList_none, List.append_nil, List.append_assoc]

theorem Serial.acquired (i : ι) : Serial acquire release (some i) [acquire i] := ⟨[], rfl⟩

theorem Serial.released (hserial : Serial acquire release (some i) calls) :
    Serial acquire release none (calls ++ [release i]) := by
  obtain ⟨served, rfl⟩ := hserial
  refine ⟨served ++ [i], ?_⟩
  rw [List.flatMap_append, Option.map_none, Option.toList_none, List.append_nil, List.append_assoc]
  rfl

/-- A resource that is released twice stands out. -/
theorem Serial.even (hserial : Serial acquire release none calls) :
    ∃ n, calls.length = 2 * n := by
  obtain ⟨served, rfl⟩ := hserial
  refine ⟨served.length, ?_⟩
  induction served with
  | nil => rfl
  | cons i served ih =>
    simp only [Option.map_none, Option.toList_none, List.append_nil, List.flatMap_cons,
      List.length_append, List.length_cons, List.length_nil] at ih ⊢
    omega

theorem Serial.both (i : ι) : Serial acquire release none [acquire i, release i] := ⟨[i], rfl⟩

end Serial

end lib.ledger
