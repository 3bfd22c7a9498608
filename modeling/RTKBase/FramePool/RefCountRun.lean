import RTKBase.FramePool.RefCount

namespace rtkbase.frame_pool

open lib.custody lib.lts

/-- The destination whose handle the next step of `publish_rtcm_frame` reads
in order to send to it. -/
def PublishPhase.sending : PublishPhase → Option Destination
  | .publish _ _ _ _ (k :: _) => some k
  | .xQueueSend _ _ _ _ k _ => some k
  | _ => none

/-- The step does not let start-up and a publish call get into each other's
way: no handle is read for sending after an init function has written it since
the call counted it, or while it points to a deleted queue; and the queue that
`ntrip_caster_init` deletes is empty. -/
def Undisturbed (s : Pipeline) : PoolAction → Prop
  | .publishStep => ∀ k, s.publishing.sending = some k →
      s.rewritten k = false ∧ s.handle k ≠ .deleted
  | .initStep _ => s.starting = .vQueueDelete → (s.handle .caster).entries = []
  | _ => True

instance (s : Pipeline) : (a : PoolAction) → Decidable (Undisturbed s a)
  | .publishStep => inferInstanceAs (Decidable (∀ k, s.publishing.sending = some k →
      s.rewritten k = false ∧ s.handle k ≠ .deleted))
  | .initStep _ => inferInstanceAs (Decidable (s.starting = .vQueueDelete →
      (s.handle .caster).entries = []))
  | .publish_rtcm_frame _ => .isTrue trivial
  | .xQueueReceive _ => .isTrue trivial
  | .pool_release _ => .isTrue trivial

namespace Pipeline

variable {s s' : Pipeline}

theorem Counted.publish_rtcm_frame (hcounted : s.Counted) (hidle : s.publishing = .idle)
    (frame : RtcmFrame) :
    Counted { s with publishing := .activeCount frame 0 destinations, counted := [] } where
  refs f := by simpa [share, hidle] using hcounted.refs f
  depth := hcounted.depth
  phase := ⟨rfl, by simp, fun k hk => absurd (mem_destinations k) hk⟩
  offers := hcounted.offers

/-- Counting a destination. -/
theorem Counted.count {frame : RtcmFrame} {refs : Nat} {k : Destination}
    {todo : List Destination} (hcounted : s.Counted)
    (hphase : s.publishing = .activeCount frame refs (k :: todo)) :
    Counted { s with
      publishing := .activeCount frame (if (s.handle k).active then refs + 1 else refs) todo
      counted := if (s.handle k).active then s.counted ++ [k] else s.counted
      rewritten := Function.update s.rewritten k false } := by
  have hok := hcounted.phase
  simp only [PhaseOk, hphase] at hok
  obtain ⟨hrefs, hsub, hright⟩ := hok
  have hnew : k ∉ s.counted := by
    have hnodup := destinations_nodup.sublist hsub
    rw [List.nodup_append] at hnodup
    exact fun hmem => hnodup.2.2 k hmem k (by simp) rfl
  refine ⟨fun f => ?_, hcounted.depth, ⟨?_, ?_, ?_⟩, hcounted.offers⟩
  · simpa [share, hphase] using hcounted.refs f
  · split <;> simp [hrefs]
  · split
    · simpa using hsub
    · exact (List.Sublist.append_left (List.sublist_cons_self k todo) _).trans hsub
  · intro j hj hfalse
    by_cases hjk : j = k
    · subst hjk
      cases hactive : (s.handle j).active <;> simp [hnew]
    · simp only [Function.update_of_ne hjk] at hfalse
      have hold := hright j (by simp [hjk, hj]) hfalse
      split <;> simp [hold, hjk]

theorem Counted.publishStep (hcounted : s.Counted) (hok : Undisturbed s .publishStep)
    (hstep : s.publishStep = some s') : s'.Counted := by
  have hphase_ok := hcounted.phase
  cases publishStep_cases hstep with
  | countActive hphase hactive => simpa [hactive] using hcounted.count hphase
  | countNull hphase hnull => simpa [hnull] using hcounted.count hphase
  | noConsumer hphase =>
    exact ⟨fun f => by simpa [share, hphase, publishReturn] using hcounted.refs f,
      hcounted.depth, trivial, hcounted.offers⟩
  | @counted frame refs hphase hrefs =>
    simp only [PhaseOk, hphase] at hphase_ok
    obtain ⟨hlength, hsub, hright⟩ := hphase_ok
    rw [List.append_nil] at hsub
    refine ⟨fun f => ?_, hcounted.depth, ⟨?_, hright⟩, hcounted.offers⟩
    · simpa [share, hphase] using hcounted.refs f
    · rw [hlength]
      exact (countP_mem_of_sublist hsub destinations_nodup).symm
  | allocFree hi hphase hfree =>
    simp only [PhaseOk, hphase] at hphase_ok
    exact ⟨fun f => by simpa [share, hphase] using hcounted.refs f, hcounted.depth,
      ⟨hphase_ok.1, hphase_ok.2, hfree⟩, hcounted.offers⟩
  | allocBusy hi hphase hbusy =>
    simp only [PhaseOk, hphase] at hphase_ok
    exact ⟨fun f => by simpa [share, hphase] using hcounted.refs f, hcounted.depth,
      hphase_ok, hcounted.offers⟩
  | allocExhausted hi hphase =>
    exact ⟨fun f => by simpa [share, hphase, publishReturn] using hcounted.refs f,
      hcounted.depth, trivial, hcounted.offers⟩
  | @allocStore frame refs f hphase =>
    simp only [PhaseOk, hphase] at hphase_ok
    obtain ⟨hrefs, hright, hfree⟩ := hphase_ok
    have hunheld : holders (wardsOf s.held s.handle) f = 0 := by
      have hf := hcounted.refs f
      simp only [share, hphase] at hf
      omega
    refine ⟨fun g => ?_, hcounted.depth, ⟨hrefs, hright, hunheld⟩, hcounted.offers⟩
    have hg := hcounted.refs g
    simp only [share, hphase] at hg
    simp only [pool_set_refs_ref_count, share]
    by_cases hfg : f = g
    · subst hfg
      simp [hunheld]
    · simpa [hfg] using hg
  | @memcpy frame refs f hphase =>
    simp only [PhaseOk, hphase] at hphase_ok
    exact ⟨fun g => by simpa [share, hphase] using hcounted.refs g, hcounted.depth,
      hphase_ok, hcounted.offers⟩
  | @setLen frame refs f hphase =>
    simp only [PhaseOk, hphase] at hphase_ok
    exact ⟨fun g => by simpa [share, hphase] using hcounted.refs g, hcounted.depth,
      hphase_ok, hcounted.offers⟩
  | @setRefs frame refs f hphase =>
    simp only [PhaseOk, hphase] at hphase_ok
    obtain ⟨hrefs, hright, hunheld⟩ := hphase_ok
    refine ⟨fun g => ?_, hcounted.depth, ⟨by simpa [owed] using hrefs, hright, destinations_nodup⟩,
      hcounted.offers⟩
    have hg := hcounted.refs g
    simp only [share, hphase] at hg
    simp only [pool_set_refs_ref_count, share]
    by_cases hfg : f = g
    · subst hfg
      simp [hunheld, hrefs, owed]
    · simpa [hfg] using hg
  | @sendActive frame refs offered f k todo hphase hactive =>
    simp only [PhaseOk, hphase] at hphase_ok
    obtain ⟨hrefs, hright, hnodup⟩ := hphase_ok
    obtain ⟨hfalse, _⟩ := hok k (by simp [PublishPhase.sending, hphase])
    have hmem : k ∈ s.counted := (hright k (by simp) hfalse).mpr hactive
    rw [owed_cons_of_mem hmem] at hrefs
    refine ⟨fun g => ?_, hcounted.depth, ⟨?_, hright, hnodup, hmem⟩, hcounted.offers⟩
    · have hg := hcounted.refs g
      simp only [share, hphase, owed_cons_of_mem hmem] at hg
      exact hg
    · change refs = offered + 1 + owed s.counted todo
      omega
  | @sendNull frame refs offered f k todo hphase hnull =>
    simp only [PhaseOk, hphase] at hphase_ok
    obtain ⟨hrefs, hright, hnodup⟩ := hphase_ok
    obtain ⟨hfalse, _⟩ := hok k (by simp [PublishPhase.sending, hphase])
    have hmem : k ∉ s.counted := by
      rw [hright k (by simp) hfalse, hnull]
      simp
    rw [owed_cons_of_not_mem hmem] at hrefs
    refine ⟨fun g => ?_, hcounted.depth, ⟨hrefs, hright, hnodup.of_cons⟩, hcounted.offers⟩
    have hg := hcounted.refs g
    simp only [share, hphase, owed_cons_of_not_mem hmem] at hg
    exact hg
  | @sent frame refs offered f hphase =>
    simp only [PhaseOk, hphase] at hphase_ok
    refine ⟨fun g => ?_, hcounted.depth, trivial, ?_⟩
    · simpa [share, hphase, owed, publishReturn] using hcounted.refs g
    · intro offer hoffer
      obtain hold | rfl := List.mem_append.mp hoffer |>.imp_right List.mem_singleton.mp
      · exact hcounted.offers offer hold
      · simpa [owed] using hphase_ok.1
  | @enqueue frame refs offered f k todo entries hphase hqueue hroom =>
    simp only [PhaseOk, hphase] at hphase_ok
    obtain ⟨hrefs, hright, hnodup, hmem⟩ := hphase_ok
    refine ⟨fun g => ?_, fun j => ?_, ⟨hrefs, ?_, hnodup.of_cons⟩, hcounted.offers⟩
    · have hg := hcounted.refs g
      simp only [share, hphase] at hg
      simp only [wardsOf_send hqueue, holders_append, share]
      by_cases hfg : f = g
      · simp only [hfg, if_true] at hg ⊢
        change _ = ((_ + 1 : Nat) : Int) + owed s.counted todo
        omega
      · simpa [hfg] using hg
    · by_cases hj : j = k
      · subst hj
        simp only [Function.update_self, QueueHandle.entries, List.length_append,
          List.length_singleton]
        omega
      · simpa [hj] using hcounted.depth j
    · exact hright.of_active rfl rfl (update_queue_active hqueue)
  | @full frame refs offered f k todo entries hphase hqueue hfull =>
    simp only [PhaseOk, hphase] at hphase_ok
    exact ⟨fun g => by simpa [share, hphase] using hcounted.refs g, hcounted.depth,
      ⟨hphase_ok.1, hphase_ok.2.1, hphase_ok.2.2.1⟩, hcounted.offers⟩
  | @fault frame refs offered f k todo hphase hqueue =>
    simp only [PhaseOk, hphase] at hphase_ok
    obtain ⟨_, hright, _, hmem⟩ := hphase_ok
    obtain ⟨hfalse, hdeleted⟩ := hok k (by simp [PublishPhase.sending, hphase])
    have hactive := (hright k (by simp) hfalse).mp hmem
    cases hhandle : s.handle k with
    | null => simp [hhandle, QueueHandle.active] at hactive
    | queue entries => exact absurd hhandle (hqueue entries)
    | deleted => exact absurd hhandle hdeleted
  | @drop frame refs offered f k todo hphase =>
    simp only [PhaseOk, hphase] at hphase_ok
    obtain ⟨hrefs, hright, hnodup⟩ := hphase_ok
    refine ⟨fun g => ?_, hcounted.depth, ⟨hrefs, hright, hnodup.of_cons⟩, hcounted.offers⟩
    have hg := hcounted.refs g
    simp only [share, hphase] at hg
    simp only [pool_release_ref_count, share]
    by_cases hfg : f = g
    · simp only [hfg, if_true] at hg ⊢
      change _ = (holders (wardsOf s.held s.handle) g : Int) + owed s.counted todo
      omega
    · simpa [hfg] using hg

theorem Counted.xQueueReceive (hcounted : s.Counted) {k : Destination}
    (hstep : s.xQueueReceive k = some s') : s'.Counted := by
  obtain ⟨f, rest, hqueue, hheld, rfl⟩ := xQueueReceive_cases hstep
  have hwards : wardsOf (Function.update s.held k (some f))
      (Function.update s.handle k (.queue rest)) = wardsOf s.held s.handle :=
    wardsOf_receive hqueue hheld
  refine ⟨fun g => ?_, fun j => ?_, ?_, hcounted.offers⟩
  · rw [hwards]
    exact hcounted.refs g
  · by_cases hj : j = k
    · subst hj
      have hdepth := hcounted.depth j
      rw [hqueue] at hdepth
      simp only [QueueHandle.entries, List.length_cons] at hdepth
      simp only [Function.update_self, QueueHandle.entries]
      omega
    · simpa [hj] using hcounted.depth j
  · apply hcounted.phase.mono
    · rfl
    · rfl
    · exact fun todo hright => hright.of_active rfl rfl (update_queue_active hqueue)
    · exact fun g hfree => hfree
    · intro g hunheld
      rwa [hwards]

theorem Counted.consumerRelease (hcounted : s.Counted) {k : Destination}
    (hstep : s.consumerRelease k = some s') : s'.Counted := by
  obtain ⟨f, hheld, rfl⟩ := consumerRelease_cases hstep
  have hwards : wardsOf s.held s.handle k = f :: (s.handle k).entries := wardsOf_held hheld
  have htail := holders_tail hwards
  rw [← wardsOf_release] at htail
  refine ⟨fun g => ?_, hcounted.depth, ?_, hcounted.offers⟩
  · have hg := hcounted.refs g
    have hrest := htail g
    simp only [pool_release_ref_count]
    by_cases hfg : f = g
    · simp only [hfg, if_true] at hrest ⊢
      omega
    · simp only [hfg, if_false] at hrest ⊢
      omega
  · apply hcounted.phase.mono
    · rfl
    · rfl
    · exact fun todo hright => hright
    · intro g hfree
      have hg := hcounted.refs g
      have hrest := htail g
      have hne : f ≠ g := by
        rintro rfl
        simp only [if_true] at hrest
        omega
      simpa [pool_release_ref_count, hne] using hfree
    · intro g hunheld
      have hrest := htail g
      change holders (wardsOf (Function.update s.held k none) s.handle) g = 0
      omega

/-- Writing a handle that held no frames. -/
theorem Counted.writeHandle (hcounted : s.Counted) {k : Destination} {h : QueueHandle}
    (hentries : h.entries = []) (hold : (s.handle k).entries = []) :
    (s.writeHandle k h).Counted := by
  have hwards : wardsOf s.held (Function.update s.handle k h) = wardsOf s.held s.handle :=
    wardsOf_write (hentries.trans hold.symm)
  refine ⟨fun g => ?_, fun j => ?_, ?_, hcounted.offers⟩
  · have hg := hcounted.refs g
    simpa only [Pipeline.writeHandle, hwards, share] using hg
  · by_cases hj : j = k
    · subst hj
      simp [Pipeline.writeHandle, hentries]
    · simpa [Pipeline.writeHandle, hj] using hcounted.depth j
  · apply hcounted.phase.mono
    · rfl
    · rfl
    · intro todo hright j hj hfalse
      by_cases hjk : j = k
      · subst hjk
        simp [Pipeline.writeHandle] at hfalse
      · simp only [Pipeline.writeHandle, Function.update_of_ne hjk] at hfalse ⊢
        exact hright j hj hfalse
    · exact fun g hfree => hfree
    · intro g hunheld
      simpa only [Pipeline.writeHandle, hwards] using hunheld

/-- The progress of the init functions and the creation of tasks matter to no
reference. -/
theorem Counted.start (hcounted : s.Counted) (phase : InitPhase) (task : Destination → Bool) :
    Counted { s with starting := phase, task := task } :=
  ⟨hcounted.refs, hcounted.depth, hcounted.phase, hcounted.offers⟩

end Pipeline

end rtkbase.frame_pool
