import RTKBase.FramePool.Pipeline

namespace rtkbase.frame_pool

/-- What one step of `publish_rtcm_frame` can do. -/
inductive PublishStep (s : Pipeline) : Pipeline → Prop where
  | countActive {frame : RtcmFrame} {refs : Nat} {k : Destination} {todo : List Destination}
      (hphase : s.publishing = .activeCount frame refs (k :: todo))
      (hactive : (s.handle k).active = true) :
      PublishStep s { s with
        publishing := .activeCount frame (refs + 1) todo
        counted := s.counted ++ [k]
        rewritten := Function.update s.rewritten k false }
  | countNull {frame : RtcmFrame} {refs : Nat} {k : Destination} {todo : List Destination}
      (hphase : s.publishing = .activeCount frame refs (k :: todo))
      (hnull : (s.handle k).active = false) :
      PublishStep s { s with
        publishing := .activeCount frame refs todo
        rewritten := Function.update s.rewritten k false }
  | noConsumer {frame : RtcmFrame} (hphase : s.publishing = .activeCount frame 0 []) :
      PublishStep s (s.publishReturn frame)
  | counted {frame : RtcmFrame} {refs : Nat} (hphase : s.publishing = .activeCount frame refs [])
      (hrefs : refs ≠ 0) :
      PublishStep s { s with publishing := .pool_alloc frame refs 0 }
  | allocFree {frame : RtcmFrame} {refs i : Nat} (hi : i < FRAME_POOL_SIZE)
      (hphase : s.publishing = .pool_alloc frame refs i)
      (hfree : (s.s_pool ⟨i, hi⟩).ref_count = 0) :
      PublishStep s { s with publishing := .poolAllocStore frame refs ⟨i, hi⟩ }
  | allocBusy {frame : RtcmFrame} {refs i : Nat} (hi : i < FRAME_POOL_SIZE)
      (hphase : s.publishing = .pool_alloc frame refs i)
      (hbusy : (s.s_pool ⟨i, hi⟩).ref_count ≠ 0) :
      PublishStep s { s with publishing := .pool_alloc frame refs (i + 1) }
  | allocExhausted {frame : RtcmFrame} {refs i : Nat} (hi : FRAME_POOL_SIZE ≤ i)
      (hphase : s.publishing = .pool_alloc frame refs i) :
      PublishStep s { s.publishReturn frame with pool_exhausted := s.pool_exhausted + 1 }
  | allocStore {frame : RtcmFrame} {refs : Nat} {f : FramePtr}
      (hphase : s.publishing = .poolAllocStore frame refs f) :
      PublishStep s { s with
        s_pool := pool_set_refs s.s_pool f 1
        publishing := .memcpy frame refs f }
  | memcpy {frame : RtcmFrame} {refs : Nat} {f : FramePtr}
      (hphase : s.publishing = .memcpy frame refs f) :
      PublishStep s { s with
        s_pool := poolMemcpy s.s_pool f frame.data
        publishing := .setLen frame refs f }
  | setLen {frame : RtcmFrame} {refs : Nat} {f : FramePtr}
      (hphase : s.publishing = .setLen frame refs f) :
      PublishStep s { s with
        s_pool := poolSetLen s.s_pool f frame
        publishing := .pool_set_refs frame refs f }
  | setRefs {frame : RtcmFrame} {refs : Nat} {f : FramePtr}
      (hphase : s.publishing = .pool_set_refs frame refs f) :
      PublishStep s { s with
        s_pool := pool_set_refs s.s_pool f refs
        publishing := .publish frame refs f 0 destinations }
  | sendActive {frame : RtcmFrame} {refs offered : Nat} {f : FramePtr} {k : Destination}
      {todo : List Destination} (hphase : s.publishing = .publish frame refs f offered (k :: todo))
      (hactive : (s.handle k).active = true) :
      PublishStep s { s with publishing := .xQueueSend frame refs f offered k todo }
  | sendNull {frame : RtcmFrame} {refs offered : Nat} {f : FramePtr} {k : Destination}
      {todo : List Destination} (hphase : s.publishing = .publish frame refs f offered (k :: todo))
      (hnull : (s.handle k).active = false) :
      PublishStep s { s with publishing := .publish frame refs f offered todo }
  | sent {frame : RtcmFrame} {refs offered : Nat} {f : FramePtr}
      (hphase : s.publishing = .publish frame refs f offered []) :
      PublishStep s { s.publishReturn frame with offers := s.offers ++ [(refs, offered)] }
  | enqueue {frame : RtcmFrame} {refs offered : Nat} {f : FramePtr} {k : Destination}
      {todo : List Destination} {entries : List FramePtr}
      (hphase : s.publishing = .xQueueSend frame refs f offered k todo)
      (hqueue : s.handle k = .queue entries) (hroom : entries.length < FRAME_QUEUE_DEPTH) :
      PublishStep s { s with
        handle := Function.update s.handle k (.queue (entries ++ [f]))
        publishing := .publish frame refs f (offered + 1) todo }
  | full {frame : RtcmFrame} {refs offered : Nat} {f : FramePtr} {k : Destination}
      {todo : List Destination} {entries : List FramePtr}
      (hphase : s.publishing = .xQueueSend frame refs f offered k todo)
      (hqueue : s.handle k = .queue entries) (hfull : FRAME_QUEUE_DEPTH ≤ entries.length) :
      PublishStep s { s with publishing := .queueDrop frame refs f (offered + 1) k todo }
  | fault {frame : RtcmFrame} {refs offered : Nat} {f : FramePtr} {k : Destination}
      {todo : List Destination} (hphase : s.publishing = .xQueueSend frame refs f offered k todo)
      (hqueue : ∀ entries, s.handle k ≠ .queue entries) :
      PublishStep s { s with publishing := .fault }
  | drop {frame : RtcmFrame} {refs offered : Nat} {f : FramePtr} {k : Destination}
      {todo : List Destination}
      (hphase : s.publishing = .queueDrop frame refs f offered k todo) :
      PublishStep s { s with
        queue_drops := Function.update s.queue_drops k (s.queue_drops k + 1)
        s_pool := pool_release s.s_pool f
        publishing := .publish frame refs f offered todo }

theorem publishStep_cases {s s' : Pipeline} (hstep : s.publishStep = some s') :
    PublishStep s s' := by
  unfold Pipeline.publishStep at hstep
  split at hstep
  case h_1 => cases hstep
  case h_2 frame refs k todo hphase =>
    cases hactive : (s.handle k).active with
    | true =>
      rw [if_pos hactive] at hstep
      cases hstep
      exact .countActive hphase hactive
    | false =>
      simp only [hactive, Bool.false_eq_true, if_false] at hstep
      cases hstep
      exact .countNull hphase hactive
  case h_3 frame refs hphase =>
    split at hstep
    case isTrue hrefs =>
      subst hrefs
      cases hstep
      exact .noConsumer hphase
    case isFalse hrefs =>
      cases hstep
      exact .counted hphase hrefs
  case h_4 frame refs i hphase =>
    split at hstep
    case isTrue hi =>
      split at hstep
      case isTrue hfree =>
        cases hstep
        exact .allocFree hi hphase hfree
      case isFalse hbusy =>
        cases hstep
        exact .allocBusy hi hphase hbusy
    case isFalse hi =>
      cases hstep
      exact .allocExhausted (Nat.le_of_not_lt hi) hphase
  case h_5 hphase =>
    cases hstep
    exact .allocStore hphase
  case h_6 hphase =>
    cases hstep
    exact .memcpy hphase
  case h_7 hphase =>
    cases hstep
    exact .setLen hphase
  case h_8 hphase =>
    cases hstep
    exact .setRefs hphase
  case h_9 frame refs f offered k todo hphase =>
    cases hactive : (s.handle k).active with
    | true =>
      rw [if_pos hactive] at hstep
      cases hstep
      exact .sendActive hphase hactive
    | false =>
      simp only [hactive, Bool.false_eq_true, if_false] at hstep
      cases hstep
      exact .sendNull hphase hactive
  case h_10 hphase =>
    cases hstep
    exact .sent hphase
  case h_11 frame refs f offered k todo hphase =>
    cases hqueue : s.handle k with
    | queue entries =>
      simp only [hqueue] at hstep
      split at hstep
      case isTrue hroom =>
        cases hstep
        exact .enqueue hphase hqueue hroom
      case isFalse hfull =>
        cases hstep
        exact .full hphase hqueue (Nat.le_of_not_lt hfull)
    | null =>
      simp only [hqueue] at hstep
      cases hstep
      exact .fault hphase (by simp [hqueue])
    | deleted =>
      simp only [hqueue] at hstep
      cases hstep
      exact .fault hphase (by simp [hqueue])
  case h_12 hphase =>
    cases hstep
    exact .drop hphase
  case h_13 => cases hstep

/-- A consumer dequeues only from a queue that holds a frame, and only after
it has released the one before. -/
theorem xQueueReceive_cases {s s' : Pipeline} {k : Destination}
    (hstep : s.xQueueReceive k = some s') :
    ∃ f rest, s.handle k = .queue (f :: rest) ∧ s.held k = none ∧
      s' = { s with
        handle := Function.update s.handle k (.queue rest)
        held := Function.update s.held k (some f)
        received := Function.update s.received k (s.received k ++ [(s.s_pool f).bytes]) } := by
  unfold Pipeline.xQueueReceive at hstep
  split at hstep
  case h_1 f rest _ hheld hqueue =>
    cases hstep
    exact ⟨f, rest, hqueue, hheld, rfl⟩
  case h_2 => cases hstep

theorem consumerRelease_cases {s s' : Pipeline} {k : Destination}
    (hstep : s.consumerRelease k = some s') :
    ∃ f, s.held k = some f ∧
      s' = { s with
        s_pool := pool_release s.s_pool f
        held := Function.update s.held k none } := by
  unfold Pipeline.consumerRelease at hstep
  split at hstep
  case h_1 f hheld =>
    cases hstep
    exact ⟨f, hheld, rfl⟩
  case h_2 => cases hstep

/-- What one step of the init functions can do. -/
inductive InitStep (s : Pipeline) : Pipeline → Prop where
  | queue {k : Destination} (hphase : s.starting = .xQueueCreate k) :
      InitStep s { s.writeHandle k (.queue []) with starting := .xTaskCreate k }
  | skip {k : Destination}
      (hphase : s.starting = .xQueueCreate k ∨ s.starting = .xTaskCreate k) :
      InitStep s { s with starting := Pipeline.nextInit k }
  | task {k : Destination} (hphase : s.starting = .xTaskCreate k) :
      InitStep s { s with
        task := Function.update s.task k true, starting := Pipeline.nextInit k }
  | noTask (hphase : s.starting = .xTaskCreate .caster) :
      InitStep s { s with starting := .vQueueDelete }
  | delete (hphase : s.starting = .vQueueDelete) :
      InitStep s { s.writeHandle .caster .deleted with starting := .clearHandle }
  | clear (hphase : s.starting = .clearHandle) :
      InitStep s { s.writeHandle .caster .null with starting := .done }

theorem initStep_cases {s s' : Pipeline} {created : Bool}
    (hstep : s.initStep created = some s') : InitStep s s' := by
  unfold Pipeline.initStep at hstep
  split at hstep
  case h_1 k hphase =>
    cases created with
    | true =>
      cases hstep
      exact .queue hphase
    | false =>
      cases hstep
      exact .skip (.inl hphase)
  case h_2 k hphase =>
    cases created with
    | true =>
      cases hstep
      exact .task hphase
    | false =>
      cases k with
      | uplink i =>
        cases hstep
        exact .skip (.inr hphase)
      | caster =>
        cases hstep
        exact .noTask hphase
  case h_3 hphase =>
    cases hstep
    exact .delete hphase
  case h_4 hphase =>
    cases hstep
    exact .clear hphase
  case h_5 => cases hstep

end rtkbase.frame_pool
