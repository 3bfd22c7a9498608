import RTKBase.GnssUart.SplitterRun
import RTKBase.Lib.Lts

namespace rtkbase.gnss_uart

open lib.lts

variable {β : Type}

/-- The GNSS reader task with its splitter: the chunk that
`splitter_process_bytes` is working on, with the local variables, and the calls
made so far. -/
structure Reader (β : Type) where
  splitter : splitter_t β
  call : Option (List β × ProcessLocals β)
  events : List (Event β)

inductive ReaderAction (β : Type) where
  /-- A chunk read after `UART_DATA` is handed to `splitter_process_bytes`. -/
  | uartData (data : List β)
  /-- One turn of the loops of `splitter_process_bytes`. -/
  | turn
  /-- The handling of `UART_FIFO_OVF` and `UART_BUFFER_FULL`. -/
  | overflow

variable [Octet β]

def readerStep (r : Reader β) : ReaderAction β → Option (Reader β)
  | .uartData data =>
    match r.call with
    | none => some { r with call := some (data, ⟨false, [], 0, 0⟩) }
    | some _ => none
  | .turn =>
    match r.call with
    | none => none
    | some (data, locals) =>
      match processStep data locals r.splitter with
      | none => some { r with call := none }
      | some (locals, s, events) => some ⟨s, some (data, locals), r.events ++ events⟩
  | .overflow =>
    match r.call with
    | none => some { r with splitter := splitter_init r.splitter }
    | some _ => none

/-- The task initialises the splitter, whatever its memory holds. -/
def readerStart (s : splitter_t β) : Reader β := ⟨splitter_init s, none, []⟩

/-- The turns of a call are the loops of `splitter_process_bytes`. -/
theorem processLoop_reach {data : List β} {fuel : Nat} {locals : ProcessLocals β} {r : Reader β}
    {s' : splitter_t β} {events : List (Event β)} (hcall : r.call = some (data, locals))
    (hloop : processLoop data fuel locals r.splitter = some (s', events)) :
    Reach readerStep Anywhere r ⟨s', none, r.events ++ events⟩ := by
  induction fuel generalizing locals r s' events with
  | zero => cases hloop
  | succ fuel ih =>
    unfold processLoop at hloop
    cases hstep : processStep data locals r.splitter with
    | none =>
      rw [hstep] at hloop
      cases hloop
      refine .next .refl trivial (a := .turn) ?_
      simp [readerStep, hcall, hstep]
    | some next =>
      obtain ⟨locals', s₁, events₁⟩ := next
      rw [hstep] at hloop
      obtain ⟨⟨s₂, more⟩, hmore, heq⟩ := Option.map_eq_some_iff.mp hloop
      cases heq
      have hturn : readerStep r .turn = some ⟨s₁, some (data, locals'), r.events ++ events₁⟩ := by
        simp [readerStep, hcall, hstep]
      have hrest := ih (r := ⟨s₁, some (data, locals'), r.events ++ events₁⟩) rfl hmore
      rw [List.append_assoc] at hrest
      exact (Reach.next .refl trivial hturn).trans hrest

/-- `splitter_process_bytes` as the steps of the task. -/
theorem splitter_process_bytes_reach {r : Reader β} {data : List β} {s' : splitter_t β}
    {events : List (Event β)} (hidle : r.call = none)
    (hprocess : splitter_process_bytes r.splitter data = some (s', events)) :
    Reach readerStep Anywhere r ⟨s', none, r.events ++ events⟩ := by
  have hcall : readerStep r (.uartData data) =
      some { r with call := some (data, ⟨false, [], 0, 0⟩) } := by
    simp [readerStep, hidle]
  exact (Reach.next .refl trivial hcall).trans (processLoop_reach rfl hprocess)

theorem processStep_valid {data : List β} {locals locals' : ProcessLocals β} {s s' : splitter_t β}
    {events : List (Event β)} (hvalid : s.Valid)
    (hstep : processStep data locals s = some (locals', s', events)) : s'.Valid := by
  have hspec := processStep_spec hvalid data locals
  rw [hstep] at hspec
  cases hspec with
  | resume => exact hvalid
  | read _ hvalid' => exact hvalid'

/-- What one step of the task can do. -/
inductive ReaderStep (r : Reader β) : Reader β → Prop where
  | uartData {data : List β} (hidle : r.call = none) :
      ReaderStep r { r with call := some (data, ⟨false, [], 0, 0⟩) }
  | returned {data : List β} {locals : ProcessLocals β} (hcall : r.call = some (data, locals))
      (hstep : processStep data locals r.splitter = none) : ReaderStep r { r with call := none }
  | turn {data : List β} {locals locals' : ProcessLocals β} {s : splitter_t β}
      {events : List (Event β)} (hcall : r.call = some (data, locals))
      (hstep : processStep data locals r.splitter = some (locals', s, events)) :
      ReaderStep r ⟨s, some (data, locals'), r.events ++ events⟩
  | overflow (hidle : r.call = none) :
      ReaderStep r { r with splitter := splitter_init r.splitter }

theorem readerStep_cases {r r' : Reader β} {a : ReaderAction β}
    (hstep : readerStep r a = some r') : ReaderStep r r' := by
  unfold readerStep at hstep
  split at hstep
  case h_1 =>
    split at hstep
    case h_1 hidle =>
      obtain rfl := Option.some.inj hstep
      exact .uartData hidle
    case h_2 => cases hstep
  case h_2 =>
    split at hstep
    case h_1 => cases hstep
    case h_2 data locals hcall =>
      cases hprocess : processStep data locals r.splitter with
      | none =>
        rw [hprocess] at hstep
        obtain rfl := Option.some.inj hstep
        exact .returned hcall hprocess
      | some next =>
        rw [hprocess] at hstep
        obtain rfl := Option.some.inj hstep
        exact .turn hcall hprocess
  case h_3 =>
    split at hstep
    case h_1 hidle =>
      obtain rfl := Option.some.inj hstep
      exact .overflow hidle
    case h_2 => cases hstep

theorem readerStep_valid {r r' : Reader β} (hvalid : r.splitter.Valid) (hstep : ReaderStep r r') :
    r'.splitter.Valid := by
  cases hstep with
  | uartData => exact hvalid
  | returned => exact hvalid
  | turn hcall hstep => exact processStep_valid hvalid hstep
  | overflow => exact splitter_init_valid _

theorem reader_valid {s : splitter_t β} {r : Reader β}
    (hreach : Reach readerStep Anywhere (readerStart s) r) : r.splitter.Valid :=
  hreach.invariant (P := fun r => r.splitter.Valid) (splitter_init_valid s)
    fun _ _ _ hvalid _ hstep => readerStep_valid hvalid (readerStep_cases hstep)

end rtkbase.gnss_uart
