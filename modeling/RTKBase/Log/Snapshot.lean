import RTKBase.Log.Entries

open lib.cstring lib.ring

namespace rtkbase.log

theorem holds_start : Holds logStart.ring [] := holds_empty _ _

/-- Appends to the log ring that are shorter than it. -/
theorem holds_append_to_log_buffer {s : LogState} {items : List UInt8} (hs : Holds s.ring items)
    {texts : List (List UInt8)} (hshort : ∀ text ∈ texts, text.length < WEB_LOG_BUFFER_SIZE) :
    Holds (texts.foldl append_to_log_buffer_locked s).ring (items ++ texts.flatten) := by
  have hring : ∀ (texts : List (List UInt8)) (s : LogState),
      (texts.foldl append_to_log_buffer_locked s).ring = texts.foldl Ring.append s.ring := by
    intro texts
    induction texts with
    | nil => exact fun _ => rfl
    | cons text texts ih => exact fun s => ih (append_to_log_buffer_locked s text)
  rw [hring]
  exact holds_foldl_append hs hshort

theorem sanitize_line_short (line : List UInt8) :
    (sanitize_line line).length < WEB_LOG_BUFFER_SIZE :=
  Nat.lt_trans (sanitize_line_fits line) (by decide)

/-- The ring holds `init` and the stored lines behind it. -/
def Kept (init : List UInt8) (s : LogState) : Prop := Holds s.ring (init ++ s.stored.flatten)

theorem Kept.store {init : List UInt8} {s : LogState} (hs : Kept init s) :
    Kept init (store_pending_line_locked s) := by
  by_cases hline : s.pending_line = []
  · unfold store_pending_line_locked
    rw [if_pos (by rw [hline]; rfl)]
    exact hs
  · unfold Kept at hs ⊢
    obtain ⟨_, _, ⟨_, hstored, hring⟩ | ⟨_, hstored, hring⟩⟩ := store_pending_line_cases s hline
    · rw [hstored, hring, List.flatten_concat, ← List.append_assoc]
      exact holds_append hs (sanitize_line_short _)
    · rw [hstored, hring]
      exact hs

theorem Kept.character {init : List UInt8} {s : LogState} (hs : Kept init s) (c : UInt8) :
    Kept init (appendCharacter s c) := by
  have hput : ∀ {s : LogState} c, Kept init s → Kept init (s.put c) := fun _ h => h
  unfold appendCharacter
  dsimp only
  have hroom : Kept init (if s.pending_line.length + 1 ≥ WEB_LOG_LINE_SIZE then
      store_pending_line_locked (s.put 10) else s) := by
    split
    case isTrue => exact (hput 10 hs).store
    case isFalse => exact hs
  split
  case isTrue => exact (hput c hroom).store
  case isFalse => exact hput c hroom

/-- The log is the line written at the start and the stored lines, one behind
the other. -/
theorem holds_run (calls : List (Option (List UInt8))) :
    Holds (logRun calls).ring (WEB_LOG_INITIAL_LINE ++ (logRun calls).stored.flatten) := by
  have hinit : Kept WEB_LOG_INITIAL_LINE (log_init logStart) :=
    @holds_append_to_log_buffer _ _ holds_start [WEB_LOG_INITIAL_LINE] (by decide +kernel)
  have hfold : ∀ (text : List UInt8) (s : LogState), Kept WEB_LOG_INITIAL_LINE s →
      Kept WEB_LOG_INITIAL_LINE (text.foldl appendCharacter s) := by
    intro text
    induction text with
    | nil => exact fun _ hs => hs
    | cons c text ih => exact fun s hs => ih _ (hs.character c)
  unfold logRun
  rw [foldl_log_vprintf]
  exact hfold _ _ hinit

/-- A viewer is shown the newest text of the log. -/
theorem log_snapshot_run (calls : List (Option (List UInt8))) {dest : List UInt8}
    (hdest : dest ≠ []) :
    log_snapshot (logRun calls) (some dest) = copiedOut WEB_LOG_BUFFER_SIZE 0
      (WEB_LOG_INITIAL_LINE ++ (logRun calls).stored.flatten) dest :=
  snapshot_newest (holds_run calls) 0 hdest

end rtkbase.log
