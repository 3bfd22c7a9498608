import RTKBase.GnssUart.Console
import RTKBase.Lib.Lts

open lib.cstring lib.ring lib.lts

namespace rtkbase.gnss_uart

/-- The console with a call of `gnss_uart_console_consume` that may be in its
copy loop. Beside them stand the bytes `appended` since the last consume or
clear, and of the call in progress those it has to return, `promised`, and the
array it was given. -/
structure ConsoleRun where
  console : Console
  consumer : Option ConsumeFrame
  appended : List UInt8
  promised : List UInt8
  given : List UInt8

def consoleRunStart : ConsoleRun where
  console := consoleStart
  consumer := none
  appended := []
  promised := []
  given := []

inductive ConsoleAction where
  | append (data : List UInt8)
  | clear (now : Nat)
  | snapshot (dest : Option (List UInt8))
  | consume (dest : Option (List UInt8))
  | copy
  | finish

/-- Critical sections, passes of the copy loop and returns, in any order, with
one consumer at a time. -/
def consoleStep (s : ConsoleRun) : ConsoleAction → Option ConsoleRun
  | .append data =>
    if data.length < GNSS_CONSOLE_BUFFER_SIZE then
      some { s with
        console := console_append_locked s.console data
        appended := s.appended ++ data }
    else none
  | .clear now =>
    some { s with console := gnss_uart_console_clear s.console now, appended := [] }
  | .snapshot _ => some s
  | .consume dest =>
    match s.consumer, dest with
    | some _, _ => none
    | none, none => some s
    | none, some [] => some s
    | none, some (b :: rest) =>
      let swapped := consoleSwap s.console (b :: rest)
      some { console := swapped.2, consumer := some swapped.1, appended := [],
             promised := s.appended, given := b :: rest }
  | .copy =>
    match s.consumer with
    | none => none
    | some f =>
      if f.i < f.to_copy then some { s with consumer := some (consumeCopy s.console f) } else none
  | .finish =>
    match s.consumer with
    | none => none
    | some f => if f.i < f.to_copy then none else some { s with consumer := none }

/-- What each action can do, with what it tests. -/
inductive ConsoleStep (s : ConsoleRun) : ConsoleAction → ConsoleRun → Prop where
  | append {data : List UInt8} (hshort : data.length < GNSS_CONSOLE_BUFFER_SIZE) :
      ConsoleStep s (.append data)
        { s with console := console_append_locked s.console data, appended := s.appended ++ data }
  | clear {now : Nat} :
      ConsoleStep s (.clear now)
        { s with console := gnss_uart_console_clear s.console now, appended := [] }
  | snapshot {dest : Option (List UInt8)} : ConsoleStep s (.snapshot dest) s
  | nothing {dest : Option (List UInt8)} (hidle : s.consumer = none)
      (hdest : dest = none ∨ dest = some []) : ConsoleStep s (.consume dest) s
  | swap {dest : List UInt8} (hidle : s.consumer = none) (hdest : dest ≠ []) :
      ConsoleStep s (.consume (some dest))
        { console := (consoleSwap s.console dest).2
          consumer := some (consoleSwap s.console dest).1
          appended := []
          promised := s.appended
          given := dest }
  | copy {f : ConsumeFrame} (hconsumer : s.consumer = some f) (hmore : f.i < f.to_copy) :
      ConsoleStep s .copy { s with consumer := some (consumeCopy s.console f) }
  | finish {f : ConsumeFrame} (hconsumer : s.consumer = some f) (hdone : ¬ f.i < f.to_copy) :
      ConsoleStep s .finish { s with consumer := none }

theorem consoleStep_cases {s s' : ConsoleRun} {a : ConsoleAction}
    (hstep : consoleStep s a = some s') : ConsoleStep s a s' := by
  cases a with
  | append data =>
    simp only [consoleStep, Option.ite_none_right_eq_some, Option.some.injEq] at hstep
    obtain ⟨hshort, rfl⟩ := hstep
    exact .append hshort
  | clear now =>
    obtain rfl := Option.some.inj hstep
    exact .clear
  | snapshot dest =>
    obtain rfl := Option.some.inj hstep
    exact .snapshot
  | consume dest =>
    unfold consoleStep at hstep
    cases hconsumer : s.consumer with
    | some f => simp [hconsumer] at hstep
    | none =>
      match dest with
      | none =>
        simp only [hconsumer, Option.some.injEq] at hstep
        exact hstep ▸ .nothing hconsumer (.inl rfl)
      | some [] =>
        simp only [hconsumer, Option.some.injEq] at hstep
        exact hstep ▸ .nothing hconsumer (.inr rfl)
      | some (b :: rest) =>
        simp only [hconsumer, Option.some.injEq] at hstep
        exact hstep ▸ .swap hconsumer (List.cons_ne_nil b rest)
  | copy =>
    unfold consoleStep at hstep
    cases hconsumer : s.consumer with
    | none => simp [hconsumer] at hstep
    | some f =>
      simp only [hconsumer, Option.ite_none_right_eq_some, Option.some.injEq] at hstep
      obtain ⟨hmore, rfl⟩ := hstep
      exact .copy hconsumer hmore
  | finish =>
    unfold consoleStep at hstep
    cases hconsumer : s.consumer with
    | none => simp [hconsumer] at hstep
    | some f =>
      simp only [hconsumer, Option.ite_none_left_eq_some, Option.some.injEq] at hstep
      obtain ⟨hdone, rfl⟩ := hstep
      exact .finish hconsumer hdone

/-- A consumer in its copy loop: it reads the buffer that is not in use. -/
structure Consuming (s : ConsoleRun) (f : ConsumeFrame) : Prop where
  other : f.buffer ≠ s.console.active_buffer
  shows : Shows (s.console.window f) (s.given.length - 1) s.promised
  copied : Copied (s.console.window f) s.promised f.dest f.i
  behind : ∀ k, f.i ≤ k → f.dest[k]? = s.given[k]?
  within : f.i ≤ f.to_copy
  room : f.dest.length = s.given.length
  given : s.given ≠ []

structure ConsoleInvariant (s : ConsoleRun) : Prop where
  holds : Holds s.console.ring s.appended
  consuming : ∀ f, s.consumer = some f → Consuming s f

theorem ring_append (c : Console) (data : List UInt8) :
    (console_append_locked c data).ring = c.ring.append data := by
  simp [Console.ring, console_append_locked]

/-- An append does not touch the buffer that is not in use. -/
theorem window_append {c : Console} {f : ConsumeFrame} (data : List UInt8)
    (hother : f.buffer ≠ c.active_buffer) :
    (console_append_locked c data).window f = c.window f := by
  unfold Console.window console_append_locked
  dsimp only
  rw [Vector.getElem_set_ne _ _ hother.symm]

theorem xor_one_ne {n : Nat} (hn : n < 2) : n ≠ n ^^^ 1 := by
  obtain rfl | rfl : n = 0 ∨ n = 1 := by omega
  · decide
  · decide

theorem Consuming.append {s : ConsoleRun} {f : ConsumeFrame} (hf : Consuming s f)
    (data : List UInt8) : Consuming { s with
      console := console_append_locked s.console data, appended := s.appended ++ data } f := by
  obtain ⟨hother, hshows, hcopied, hbehind, hwithin, hroom, hgiven⟩ := hf
  exact ⟨hother, by rwa [window_append data hother], by rwa [window_append data hother], hbehind,
    hwithin, hroom, hgiven⟩

theorem Consuming.clear {s : ConsoleRun} {f : ConsumeFrame} (hf : Consuming s f) (now : Nat) :
    Consuming { s with console := gnss_uart_console_clear s.console now, appended := [] } f := by
  obtain ⟨hother, hshows, hcopied, hbehind, hwithin, hroom, hgiven⟩ := hf
  exact ⟨hother, hshows, hcopied, hbehind, hwithin, hroom, hgiven⟩

theorem Consuming.copy {s : ConsoleRun} {f : ConsumeFrame} (hf : Consuming s f)
    (hmore : f.i < f.to_copy) :
    Consuming { s with consumer := some (consumeCopy s.console f) } (consumeCopy s.console f) := by
  obtain ⟨hother, hshows, hcopied, hbehind, hwithin, hroom, hgiven⟩ := hf
  have hlen := List.length_pos_iff.mpr hgiven
  have hcopy : f.to_copy = _ := hshows.to_copy
  have hplace : f.i < f.dest.length := by omega
  refine ⟨hother, hshows, hcopied.set hshows (by decide) hmore hplace, ?_, hmore, ?_, hgiven⟩
  · intro k hk
    have hne : f.i ≠ k := by
      have hnext : f.i + 1 ≤ k := hk
      omega
    show (f.dest.set f.i _)[k]? = _
    rw [List.getElem?_set_ne hne]
    exact hbehind k (Nat.le_of_succ_le hk)
  · show (f.dest.set f.i _).length = _
    rw [List.length_set]
    exact hroom

/-- The critical section of a consume leaves an empty buffer in use. -/
theorem ring_swap (c : Console) (dest : List UInt8) :
    Holds (consoleSwap c dest).2.ring [] :=
  holds_empty _ (by decide)

theorem Consuming.start {s : ConsoleRun} (hs : Holds s.console.ring s.appended)
    {dest : List UInt8} (hdest : dest ≠ []) :
    Consuming { console := (consoleSwap s.console dest).2,
                consumer := some (consoleSwap s.console dest).1, appended := [],
                promised := s.appended, given := dest } (consoleSwap s.console dest).1 where
  other := xor_one_ne s.console.active_lt
  shows := holds_window hs _
  copied k hk := absurd hk (Nat.not_lt_zero k)
  behind _ _ := rfl
  within := Nat.zero_le _
  room := rfl
  given := hdest

theorem ConsoleInvariant.step {s s' : ConsoleRun} {a : ConsoleAction} (hs : ConsoleInvariant s)
    (hstep : consoleStep s a = some s') : ConsoleInvariant s' := by
  cases consoleStep_cases hstep with
  | @append data hshort =>
    refine ⟨?_, fun f hf => (hs.consuming f hf).append data⟩
    rw [ring_append]
    exact holds_append hs.holds hshort
  | @clear now => exact ⟨holds_empty _ (by decide), fun f hf => (hs.consuming f hf).clear now⟩
  | snapshot => exact hs
  | nothing => exact hs
  | @swap dest _ hdest =>
    refine ⟨ring_swap s.console dest, fun f hf => ?_⟩
    obtain rfl := Option.some.inj hf
    exact .start hs.holds hdest
  | @copy f hconsumer hmore =>
    refine ⟨hs.holds, fun g hg => ?_⟩
    obtain rfl := Option.some.inj hg
    exact (hs.consuming f hconsumer).copy hmore
  | finish => exact ⟨hs.holds, fun g hg => nomatch hg⟩

theorem console_invariant_start : ConsoleInvariant consoleRunStart where
  holds := holds_empty _ (by decide)
  consuming f hf := nomatch hf

theorem console_invariant {s : ConsoleRun}
    (hreach : Reach consoleStep Anywhere consoleRunStart s) : ConsoleInvariant s :=
  hreach.invariant console_invariant_start fun _ _ _ hs _ hstep => hs.step hstep

/-- What a consume returns was appended before its critical section, whatever
happened since. -/
theorem Consuming.returned {s : ConsoleRun} {f : ConsumeFrame} (hf : Consuming s f)
    (hdone : ¬ f.i < f.to_copy) :
    consumeReturn f = copiedOut GNSS_CONSOLE_BUFFER_SIZE 0 s.promised s.given := by
  obtain ⟨_, hshows, hcopied, hbehind, hwithin, _, hgiven⟩ := hf
  have hall : f.i = f.to_copy := by omega
  rw [hall] at hcopied hbehind
  exact copied_whole 0 hshows hcopied hbehind rfl hgiven

end rtkbase.gnss_uart
