import RTKBase.FramePool.Delivery
import RTKBase.Lib.WaitFree

namespace rtkbase.frame_pool

open lib.lts

/-- The steps that are left of a call of `publish_rtcm_frame`, at most. -/
def PublishPhase.left : PublishPhase → Nat
  | .activeCount _ _ todo => FRAME_POOL_SIZE + 16 + todo.length
  | .pool_alloc _ _ i => FRAME_POOL_SIZE - i + 15
  | .poolAllocStore _ _ _ => 14
  | .memcpy _ _ _ => 13
  | .setLen _ _ _ => 12
  | .pool_set_refs _ _ _ => 11
  | .publish _ _ _ _ todo => 3 * todo.length + 1
  | .xQueueSend _ _ _ _ _ todo => 3 * todo.length + 3
  | .queueDrop _ _ _ _ _ todo => 3 * todo.length + 2
  | .idle | .fault => 0

/-- The steps of a whole call, at most: one for each slot and nineteen more. -/
def publishSteps : Nat := FRAME_POOL_SIZE + 19

def PoolAction.publishes : PoolAction → Bool
  | .publishStep => true
  | _ => false

variable {s s' : Pipeline}

/-- Each step of `publish_rtcm_frame` leaves fewer to do, whatever it finds. -/
theorem publishStep_left (hstep : s.publishStep = some s') :
    s'.publishing.left + 1 ≤ s.publishing.left := by
  cases publishStep_cases hstep with
  | countActive hphase =>
    simp only [hphase, PublishPhase.left, List.length_cons]
    omega
  | countNull hphase =>
    simp only [hphase, PublishPhase.left, List.length_cons]
    omega
  | noConsumer hphase => simp [hphase, PublishPhase.left, Pipeline.publishReturn]
  | counted hphase => simp [hphase, PublishPhase.left]
  | allocFree hi hphase => simp [hphase, PublishPhase.left]
  | allocBusy hi hphase =>
    simp only [hphase, PublishPhase.left]
    omega
  | allocExhausted hi hphase => simp [hphase, PublishPhase.left, Pipeline.publishReturn]
  | allocStore hphase => simp [hphase, PublishPhase.left]
  | memcpy hphase => simp [hphase, PublishPhase.left]
  | setLen hphase => simp [hphase, PublishPhase.left]
  | setRefs hphase => simp [hphase, PublishPhase.left, destinations]
  | sendActive hphase =>
    simp only [hphase, PublishPhase.left, List.length_cons]
    omega
  | sendNull hphase =>
    simp only [hphase, PublishPhase.left, List.length_cons]
    omega
  | sent hphase => simp [hphase, PublishPhase.left, Pipeline.publishReturn]
  | enqueue hphase => simp [hphase, PublishPhase.left]
  | full hphase => simp [hphase, PublishPhase.left]
  | fault hphase => simp [hphase, PublishPhase.left]
  | drop hphase => simp [hphase, PublishPhase.left]

/-- A call that is under way and has not failed can go on. -/
theorem publishStep_enabled (hidle : s.publishing ≠ .idle) (hfault : s.publishing ≠ .fault) :
    s.publishStep.isSome = true := by
  unfold Pipeline.publishStep
  split
  case h_1 hphase => exact absurd hphase hidle
  case h_2 => split <;> rfl
  case h_3 => split <;> rfl
  case h_4 =>
    split
    · split <;> rfl
    · rfl
  case h_9 => split <;> rfl
  case h_11 =>
    split
    · split <;> rfl
    · rfl
  case h_13 hphase => exact absurd hphase hfault
  all_goals rfl

theorem Pipeline.Counted.publishing_ne_fault (hcounted : s.Counted) : s.publishing ≠ .fault := by
  intro hfault
  have hphase := hcounted.phase
  simp only [Pipeline.PhaseOk, hfault] at hphase

theorem PublishPhase.left_eq_zero {phase : PublishPhase} (hleft : phase.left = 0) :
    phase = .idle ∨ phase = .fault := by
  cases phase <;> simp_all [PublishPhase.left]

theorem nodup_length_le {todo : List Destination} (htodo : todo.Nodup) : todo.length ≤ 3 := by
  have hcard := htodo.length_le_card
  have hthree : Fintype.card Destination = 3 := by decide
  omega

theorem Pipeline.Counted.left_le (hcounted : s.Counted) : s.publishing.left ≤ publishSteps := by
  have hphase_ok := hcounted.phase
  unfold publishSteps
  cases hphase : s.publishing with
  | activeCount frame refs todo =>
    simp only [Pipeline.PhaseOk, hphase] at hphase_ok
    have hlength := hphase_ok.2.1.length_le
    have hthree : destinations.length = 3 := rfl
    simp only [List.length_append] at hlength
    simp only [PublishPhase.left]
    omega
  | publish frame refs f offered todo =>
    simp only [Pipeline.PhaseOk, hphase] at hphase_ok
    have htodo := nodup_length_le hphase_ok.2.2
    simp only [PublishPhase.left]
    omega
  | xQueueSend frame refs f offered k todo =>
    simp only [Pipeline.PhaseOk, hphase] at hphase_ok
    have htodo := nodup_length_le (List.nodup_cons.mp hphase_ok.2.2.1).2
    simp only [PublishPhase.left]
    omega
  | queueDrop frame refs f offered k todo =>
    simp only [Pipeline.PhaseOk, hphase] at hphase_ok
    have htodo := nodup_length_le (List.nodup_cons.mp hphase_ok.2.2).2
    simp only [PublishPhase.left]
    omega
  | _ => simp only [PublishPhase.left]; omega

/-- What the other tasks do does not move the call. -/
theorem publishing_of_other {a : PoolAction} (ha : a.publishes = false)
    (hidle : s.publishing ≠ .idle) (hstep : step s a = some s') : s'.publishing = s.publishing := by
  cases a with
  | publish_rtcm_frame frame =>
    simp only [step] at hstep
    cases hstep
  | publishStep => cases ha
  | xQueueReceive k =>
    obtain ⟨f, rest, _, _, rfl⟩ := xQueueReceive_cases hstep
    rfl
  | pool_release k =>
    obtain ⟨f, _, rfl⟩ := consumerRelease_cases hstep
    rfl
  | initStep created => cases initStep_cases hstep <;> rfl

/-- `publish_rtcm_frame` is wait-free. In every run with fixed queue handles the
reader task can always take the next step of the call, and once it has taken
`publishSteps` steps, the call has returned on the way, whatever the consumers
did in between: however slow they are, full queues and a full pool included. -/
theorem publish_rtcm_frame_wait_free {s_pool : Pool} {active running : Destination → Bool}
    (hreach : Reach step Anywhere (started s_pool active running) s) :
    (s.publishing ≠ .idle → (step s .publishStep).isSome = true) ∧
      ∀ actions s', runs step Anywhere s actions = some s' →
        publishSteps ≤ actions.countP PoolAction.publishes →
        Passes step (fun s => s.publishing = .idle) s actions := by
  have hknown := Pipeline.counted_of_started hreach
  refine ⟨fun hidle => publishStep_enabled hidle hknown.1.publishing_ne_fault,
    fun actions s' hruns hmany => ?_⟩
  refine passes_within PoolAction.publishes (fun s => s.Counted ∧ s.Steady active ∧ s.Starting)
    (fun s => s.publishing.left) ?_ ?_ hknown hruns (hknown.1.left_le.trans hmany)
  · intro s a s' hs hidle hstep
    obtain ⟨hcounted, hsteady, hstarting⟩ := hs
    obtain ⟨hok, hsteady'⟩ := hsteady.step hstep
    obtain ⟨hcounted', hstarting'⟩ := counted_step hcounted hstarting hok hstep
    refine ⟨⟨hcounted', hsteady', hstarting'⟩, .inr ?_⟩
    cases ha : a.publishes with
    | true =>
      cases a with
      | publishStep => exact publishStep_left hstep
      | _ => cases ha
    | false => simp [publishing_of_other ha hidle hstep]
  · intro s hs hzero
    exact (PublishPhase.left_eq_zero hzero).resolve_right hs.1.publishing_ne_fault

/-- Calls one after another, the first of which has begun; the only consumer takes
nothing off its queue, and each scan passes over one more slot. -/
def callsRun : List PoolAction :=
  List.flatten [List.replicate 14 .publishStep, (List.range 4).flatMap fun i =>
    .publish_rtcm_frame sampleFrame :: List.replicate (15 + i) .publishStep]

theorem publish_rtcm_frame_wait_free_of_calls :
    ∃ s s', step (started zeroedPool (· = firstUplink) fun _ => false)
        (.publish_rtcm_frame sampleFrame) = some s ∧
      runs step Anywhere s callsRun = some s' ∧ s'.offers.length = 5 ∧
      Passes step (fun s => s.publishing = .idle) s callsRun := by
  have hstart : (step (started zeroedPool (· = firstUplink) fun _ => false)
      (.publish_rtcm_frame sampleFrame)).isSome = true := rfl
  obtain ⟨s, hs⟩ := Option.isSome_iff_exists.mp hstart
  have hrun : ((step (started zeroedPool (· = firstUplink) fun _ => false)
      (.publish_rtcm_frame sampleFrame)).bind fun s =>
        (runs step Anywhere s callsRun).map (·.offers.length)) = some 5 := by
    decide +kernel
  rw [hs] at hrun
  obtain ⟨s', hs', hoffers⟩ := Option.map_eq_some_iff.mp hrun
  have hreach := Reach.next .refl (show Anywhere _ _ from trivial) hs
  exact ⟨s, s', hs, hs', hoffers,
    (publish_rtcm_frame_wait_free hreach).2 callsRun s' hs' (by decide)⟩

end rtkbase.frame_pool
