import RTKBase.GnssUart.ConsoleRun
import RTKBase.Log.Snapshot

open lib.ring lib.lts
open rtkbase.log rtkbase.gnss_uart

namespace rtkbase.web_server

/-- The steps that leave alone what the consumer has to return. -/
theorem promised_step {s s' : ConsoleRun} {a : ConsoleAction}
    (hstep : consoleStep s a = some s') (hother : ∀ dest, a ≠ .consume dest) :
    s'.promised = s.promised ∧ s'.given = s.given := by
  cases consoleStep_cases hstep with
  | @swap dest => exact absurd rfl (hother (some dest))
  | _ => exact ⟨rfl, rfl⟩

theorem consume_step {s s' : ConsoleRun} {dest : List UInt8} (hdest : dest ≠ [])
    (hstep : consoleStep s (.consume (some dest)) = some s') :
    s'.promised = s.appended ∧ s'.given = dest ∧ s'.appended = [] ∧ s'.console.used = 0 := by
  cases consoleStep_cases hstep with
  | nothing _ hnone =>
    obtain hnone | hnone := hnone
    · cases hnone
    · exact absurd (Option.some.inj hnone) hdest
  | swap => exact ⟨rfl, rfl, rfl, rfl⟩

/-- Both text buffers show the newest text. A consume returns what was appended
before its critical section and since the last consume or clear, no matter which
steps of others its copy loop is interleaved with. -/
theorem newest_text_shown {texts : List (List UInt8)}
    (hshort : ∀ text ∈ texts, text.length < WEB_LOG_BUFFER_SIZE) {s : ConsoleRun}
    (hreach : Reach consoleStep Anywhere consoleRunStart s) :
    (∀ dest, dest ≠ [] →
      log_snapshot (texts.foldl append_to_log_buffer_locked logStart) (some dest) =
        copiedOut WEB_LOG_BUFFER_SIZE 0 texts.flatten dest) ∧
    (∀ dest, dest ≠ [] → gnss_uart_console_snapshot s.console (some dest) =
      copiedOut GNSS_CONSOLE_BUFFER_SIZE 0 s.appended dest) ∧
    (∀ f, s.consumer = some f → ¬ f.i < f.to_copy →
      consumeReturn f = copiedOut GNSS_CONSOLE_BUFFER_SIZE 0 s.promised s.given) ∧
    (∀ dest s', dest ≠ [] → consoleStep s (.consume (some dest)) = some s' →
      s'.promised = s.appended ∧ s'.given = dest ∧ s'.appended = [] ∧ s'.console.used = 0) ∧
    (∀ now s', consoleStep s (.clear now) = some s' →
      s'.appended = [] ∧ s'.console.used = 0) ∧
    ∀ a s', consoleStep s a = some s' → (∀ dest, a ≠ .consume dest) →
      s'.promised = s.promised ∧ s'.given = s.given := by
  have hinv := console_invariant hreach
  refine ⟨?_, ?_, ?_, ?_, ?_, ?_⟩
  · intro dest hdest
    have hlog := holds_append_to_log_buffer holds_start hshort
    rw [List.nil_append] at hlog
    exact snapshot_newest hlog 0 hdest
  · exact fun dest hdest => snapshot_newest hinv.holds 0 hdest
  · exact fun f hf hdone => (hinv.consuming f hf).returned hdone
  · exact fun dest s' hdest hstep => consume_step hdest hstep
  · intro now s' hstep
    obtain rfl := Option.some.inj hstep
    exact ⟨rfl, rfl⟩
  · exact fun a s' hstep hother => promised_step hstep hother

/-- A consume of three bytes into an array for two and the terminator, with an
append and a clear in its copy loop. -/
def interleavedConsume : List ConsoleAction :=
  [.append [65, 66, 67], .consume (some [0, 0, 0]), .append [68], .copy, .clear 7, .append [69],
    .copy]

theorem newest_text_shown_interleaved :
    ∃ s : ConsoleRun, ∃ f, s.consumer = some f ∧ ¬ f.i < f.to_copy ∧ s.appended = [69] ∧
      consumeReturn f = (2, some [66, 67, 0]) ∧
      log_snapshot ([[82], [10]].foldl append_to_log_buffer_locked logStart) (some [7, 7]) =
        (1, some [10, 0]) := by
  have hrun : (runs consoleStep Anywhere consoleRunStart interleavedConsume).map (fun s =>
      (s.consumer.map fun f => decide (f.i < f.to_copy), s.appended, s.promised, s.given)) =
      some (some false, [69], [65, 66, 67], [0, 0, 0]) := by decide +kernel
  obtain ⟨s, hs, hvalues⟩ := Option.map_eq_some_iff.mp hrun
  simp only [Prod.mk.injEq, Option.map_eq_some_iff, decide_eq_false_iff_not] at hvalues
  obtain ⟨⟨f, hf, hdone⟩, happended, hpromised, hgiven⟩ := hvalues
  obtain ⟨hlog, _, hconsume, _⟩ := @newest_text_shown [[82], [10]]
    (by decide) s (Reach.refl.runs hs)
  refine ⟨s, f, hf, hdone, happended, ?_, ?_⟩
  · rw [hconsume f hf hdone, hpromised, hgiven]
    decide
  · rw [hlog [7, 7] (by decide)]
    decide

end rtkbase.web_server
