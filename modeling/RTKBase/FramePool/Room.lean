import RTKBase.FramePool.Delivery

namespace rtkbase.frame_pool

open lib.custody lib.lts

/-- Each of the three consumers can keep one frame and a queue full of them. -/
def maxHeld : Nat := 3 * (FRAME_QUEUE_DEPTH + 1)

/-- While `pool_alloc` scans, the slots it has found taken and those that are
still taken were all taken when the scan began, and they leave room. -/
structure Pipeline.Roomy (s : Pipeline) : Prop where
  scan : ∀ frame refs i, s.publishing = .pool_alloc frame refs i →
    ∃ taken : Finset FramePtr, taken.card ≤ maxHeld ∧ (∀ f : FramePtr, f.val < i → f ∈ taken) ∧
      ∀ f, (s.s_pool f).ref_count ≠ 0 → f ∈ taken
  exhausted : s.pool_exhausted = 0

namespace Pipeline

variable {s s' : Pipeline}

theorem Counted.wards_length_le (hcounted : s.Counted) (k : Destination) :
    (wardsOf s.held s.handle k).length ≤ FRAME_QUEUE_DEPTH + 1 := by
  have hdepth := hcounted.depth k
  have hheld : (s.held k).toList.length ≤ 1 := by
    cases s.held k <;> simp
  simp only [wardsOf, List.length_append]
  omega

/-- When a scan begins, at most `maxHeld` slots are taken. -/
theorem Counted.card_taken_le {frame : RtcmFrame} {refs : Nat} (hcounted : s.Counted)
    (hphase : s.publishing = .activeCount frame refs []) :
    (Finset.univ.filter fun f => (s.s_pool f).ref_count ≠ 0).card ≤ maxHeld := by
  have hsame : (Finset.univ.filter fun f => (s.s_pool f).ref_count ≠ 0) =
      Finset.univ.filter fun f => holders (wardsOf s.held s.handle) f ≠ 0 := by
    apply Finset.filter_congr
    intro f _
    have hf := hcounted.refs f
    simp only [share, hphase] at hf
    omega
  rw [hsame]
  exact card_held_le _ hcounted.wards_length_le

/-- A scan over more slots than can be taken finds a free one. -/
theorem Roomy.scan_lt (hroomy : s.Roomy) {frame : RtcmFrame} {refs i : Nat}
    (hphase : s.publishing = .pool_alloc frame refs i) : i < FRAME_POOL_SIZE := by
  obtain ⟨taken, hcard, hscanned, _⟩ := hroomy.scan frame refs i hphase
  by_contra hi
  have hall : taken = Finset.univ := by
    apply Finset.eq_univ_of_forall
    intro f
    apply hscanned
    have hf := f.isLt
    omega
  rw [hall, Finset.card_univ, Fintype.card_fin] at hcard
  exact absurd hcard (by decide)

theorem Roomy.publishStep (hroomy : s.Roomy) (hcounted : s.Counted)
    (hstep : s.publishStep = some s') : s'.Roomy := by
  cases publishStep_cases hstep with
  | @counted frame refs hphase hrefs =>
    refine ⟨fun frame' refs' i hscan => ?_, hroomy.exhausted⟩
    cases hscan
    exact ⟨_, hcounted.card_taken_le hphase, fun f hf => absurd hf (Nat.not_lt_zero _),
      fun f hf => by simpa using hf⟩
  | @allocBusy frame refs i hi hphase hbusy =>
    obtain ⟨taken, hcard, hscanned, htaken⟩ := hroomy.scan frame refs i hphase
    refine ⟨fun frame' refs' j hscan => ?_, hroomy.exhausted⟩
    cases hscan
    refine ⟨taken, hcard, fun f hf => ?_, htaken⟩
    obtain hlt | heq := Nat.lt_or_eq_of_le (Nat.le_of_lt_succ hf)
    · exact hscanned f hlt
    · obtain rfl : f = ⟨i, hi⟩ := Fin.ext heq
      exact htaken _ hbusy
  | allocExhausted hi hphase => exact absurd (hroomy.scan_lt hphase) (Nat.not_lt.mpr hi)
  | _ => exact ⟨by simp [publishReturn], hroomy.exhausted⟩

/-- Consumers take no slot and only end the use of one. -/
theorem Roomy.of_consumer (hroomy : s.Roomy) (hphase : s'.publishing = s.publishing)
    (hexhausted : s'.pool_exhausted = s.pool_exhausted)
    (hrefs : ∀ f, (s'.s_pool f).ref_count ≠ 0 → (s.s_pool f).ref_count ≠ 0) : s'.Roomy := by
  refine ⟨fun frame refs i hscan => ?_, hexhausted.trans hroomy.exhausted⟩
  obtain ⟨taken, hcard, hscanned, htaken⟩ := hroomy.scan frame refs i (hphase ▸ hscan)
  exact ⟨taken, hcard, hscanned, fun f hf => htaken f (hrefs f hf)⟩

theorem Roomy.consumerRelease (hroomy : s.Roomy) (hcounted : s.Counted) {k : Destination}
    (hstep : s.consumerRelease k = some s') : s'.Roomy := by
  obtain ⟨f, hheld, rfl⟩ := consumerRelease_cases hstep
  apply hroomy.of_consumer
  · rfl
  · rfl
  · intro g hg
    simp only [pool_release_ref_count] at hg
    by_cases hfg : f = g
    · subst hfg
      have hholders := holders_of_held hheld
      have hrefs := hcounted.refs f
      omega
    · simpa [hfg] using hg

theorem Roomy.step {active : Destination → Bool} {a : PoolAction} (hroomy : s.Roomy)
    (hcounted : s.Counted) (hsteady : s.Steady active) (hstep : step s a = some s') :
    s'.Roomy := by
  cases a with
  | publish_rtcm_frame frame =>
    simp only [frame_pool.step] at hstep
    split at hstep
    case h_1 =>
      cases hstep
      exact ⟨by simp, hroomy.exhausted⟩
    case h_2 => cases hstep
  | publishStep => exact hroomy.publishStep hcounted hstep
  | xQueueReceive k =>
    obtain ⟨f, rest, _, _, rfl⟩ := xQueueReceive_cases hstep
    exact hroomy.of_consumer rfl rfl fun _ h => h
  | pool_release k => exact hroomy.consumerRelease hcounted hstep
  | initStep created => cases initStep_cases hstep <;> simp_all [hsteady.done]

end Pipeline

/-- In every run with fixed queue handles the scan of `pool_alloc` stops at a
free slot before the end of the pool, and `pool_alloc` has never returned NULL. -/
theorem pool_alloc_never_exhausted {s_pool : Pool} {active running : Destination → Bool}
    {s : Pipeline} (hreach : Reach step Anywhere (started s_pool active running) s) :
    s.pool_exhausted = 0 ∧
      ∀ frame refs i, s.publishing = .pool_alloc frame refs i → i < FRAME_POOL_SIZE := by
  have hroomy : s.Roomy := by
    apply hreach.invariant_of (K := fun s => s.Counted ∧ s.Steady active ∧ s.Starting)
    · exact fun s hs => Pipeline.counted_of_started hs
    · exact ⟨by simp [started, booted], rfl⟩
    · intro s a s' hknown _ hroomy _ hstep
      exact hroomy.step hknown.1 hknown.2.1 hstep
  exact ⟨hroomy.exhausted, fun _ _ _ hphase => hroomy.scan_lt hphase⟩

/-- A consumer that never dequeues: while the first frame waits in its queue,
the second one's scan passes over that frame's slot. -/
def stalledRun : List PoolAction :=
  List.flatten [[.publish_rtcm_frame sampleFrame], List.replicate 14 .publishStep,
    [.publish_rtcm_frame sampleFrame], List.replicate 5 .publishStep]

theorem pool_alloc_never_exhausted_of_stalled_run :
    ∃ s, runs step Anywhere (started zeroedPool (· = firstUplink) fun _ => false) stalledRun =
        some s ∧ s.offers = [(1, 1)] ∧ s.pool_exhausted = 0 ∧
      ∀ frame refs i, s.publishing = .pool_alloc frame refs i → i < FRAME_POOL_SIZE := by
  have hrun : (runs step Anywhere (started zeroedPool (· = firstUplink) fun _ => false)
      stalledRun).map (·.offers) = some [(1, 1)] := by
    decide
  obtain ⟨s, hs, hoffers⟩ := Option.map_eq_some_iff.mp hrun
  exact ⟨s, hs, hoffers, pool_alloc_never_exhausted (Reach.refl.runs hs)⟩

end rtkbase.frame_pool
