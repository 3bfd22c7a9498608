import RTKBase.FramePool.Startup
import RTKBase.Lib.Delivery

namespace rtkbase.frame_pool

open lib.custody lib.delivery lib.lts

/-- The init functions have finished, and the handles of `active` are those
that are not NULL. -/
structure Pipeline.Steady (active : Destination → Bool) (s : Pipeline) : Prop where
  done : s.starting = .done
  unwritten : ∀ k, s.rewritten k = false
  queue : ∀ k, active k = true → ∃ entries, s.handle k = .queue entries
  null : ∀ k, active k = false → s.handle k = .null

/-- The frame of the call under way, for a destination it is done with. -/
def PublishPhase.dealt (k : Destination) : PublishPhase → List (List UInt8)
  | .publish frame _ _ _ todo => if k ∈ todo then [] else [frame.data]
  | .xQueueSend frame _ _ _ j todo | .queueDrop frame _ _ _ j todo =>
    if k ∈ j :: todo then [] else [frame.data]
  | _ => []

/-- What the entries of a queue point to. -/
def Pipeline.waiting (s : Pipeline) (k : Destination) : List (List UInt8) :=
  (s.handle k).entries.map fun f => (s.s_pool f).bytes

/-- Of the frames offered to `k`, its queue accepted those the consumer has
received and those still waiting, and the others are counted. -/
def Pipeline.Ledger (s : Pipeline) (k : Destination) : Prop :=
  ∃ dropped, s.queue_drops k = UInt32.ofNat dropped ∧
    Delivered (s.published ++ s.publishing.dealt k) (s.received k ++ s.waiting k) dropped
      s.pool_exhausted

/-- What the slot of the call under way holds so far. -/
def Pipeline.Filled (s : Pipeline) : Prop :=
  match s.publishing with
  | .setLen frame _ f => (s.s_pool f).data.toList.take frame.data.length = frame.data
  | .pool_set_refs frame _ f | .publish frame _ f _ _ | .xQueueSend frame _ f _ _ _
  | .queueDrop frame _ f _ _ _ => (s.s_pool f).bytes = frame.data
  | _ => True

structure Pipeline.Delivering (active : Destination → Bool) (s : Pipeline) : Prop where
  ledger : ∀ k, active k = true → s.Ledger k
  filled : s.Filled
  held : ∀ k f, s.held k = some f → (s.received k).getLast? = some (s.s_pool f).bytes

namespace Pipeline

variable {active : Destination → Bool} {s s' : Pipeline}

/-- Without init steps every step is undisturbed, and the handles stay. -/
theorem Steady.step {a : PoolAction} (hsteady : s.Steady active) (hstep : step s a = some s') :
    Undisturbed s a ∧ s'.Steady active := by
  have hkeep : s'.starting = s.starting → (∀ k, s.rewritten k = false → s'.rewritten k = false) →
      (∀ k, s'.handle k = s.handle k ∨
        ∃ entries entries', s.handle k = .queue entries ∧ s'.handle k = .queue entries') →
      s'.Steady active := by
    intro hphase hrewritten hhandle
    refine ⟨hphase.trans hsteady.done, fun k => hrewritten k (hsteady.unwritten k), ?_, ?_⟩
    · intro k hk
      obtain ⟨entries, hqueue⟩ := hsteady.queue k hk
      obtain heq | ⟨_, entries', _, hqueue'⟩ := hhandle k
      · exact ⟨entries, heq.trans hqueue⟩
      · exact ⟨entries', hqueue'⟩
    · intro k hk
      have hnull := hsteady.null k hk
      obtain heq | ⟨entries, _, hqueue, _⟩ := hhandle k
      · exact heq.trans hnull
      · rw [hnull] at hqueue
        cases hqueue
  cases a with
  | publish_rtcm_frame frame =>
    simp only [frame_pool.step] at hstep
    split at hstep
    case h_1 hidle =>
      cases hstep
      exact ⟨trivial, hkeep rfl (fun _ h => h) (fun _ => .inl rfl)⟩
    case h_2 => cases hstep
  | publishStep =>
    refine ⟨fun k _ => ⟨hsteady.unwritten k, ?_⟩, ?_⟩
    · cases hk : active k with
      | true =>
        obtain ⟨entries, hqueue⟩ := hsteady.queue k hk
        simp [hqueue]
      | false => simp [hsteady.null k hk]
    · have hcount : ∀ k j, s.rewritten j = false → Function.update s.rewritten k false j = false := by
        intro k j hj
        by_cases hjk : j = k
        · simp [hjk]
        · simpa [hjk] using hj
      cases publishStep_cases hstep with
      | @countActive frame refs k => exact hkeep rfl (hcount k) (fun _ => .inl rfl)
      | @countNull frame refs k => exact hkeep rfl (hcount k) (fun _ => .inl rfl)
      | @enqueue frame refs offered f k todo entries hphase hqueue hroom =>
        refine hkeep rfl (fun _ h => h) fun j => ?_
        by_cases hj : j = k
        · subst hj
          exact .inr ⟨entries, _, hqueue, Function.update_self ..⟩
        · exact .inl (Function.update_of_ne hj _ _)
      | _ => exact hkeep rfl (fun _ h => h) (fun _ => .inl rfl)
  | xQueueReceive k =>
    obtain ⟨f, rest, hqueue, _, rfl⟩ := xQueueReceive_cases hstep
    refine ⟨trivial, hkeep rfl (fun _ h => h) fun j => ?_⟩
    by_cases hj : j = k
    · subst hj
      exact .inr ⟨_, _, hqueue, Function.update_self ..⟩
    · exact .inl (Function.update_of_ne hj _ _)
  | pool_release k =>
    obtain ⟨f, _, rfl⟩ := consumerRelease_cases hstep
    exact ⟨trivial, hkeep rfl (fun _ h => h) (fun _ => .inl rfl)⟩
  | initStep created =>
    cases initStep_cases hstep <;> simp_all [hsteady.done]

/-- The ledger reads five components of the state. -/
theorem Ledger.congr {k : Destination} (hledger : s.Ledger k)
    (hdrops : s'.queue_drops k = s.queue_drops k)
    (hoffered : s'.published ++ s'.publishing.dealt k = s.published ++ s.publishing.dealt k)
    (haccepted : s'.received k ++ s'.waiting k = s.received k ++ s.waiting k)
    (hexhausted : s'.pool_exhausted = s.pool_exhausted) : s'.Ledger k := by
  unfold Ledger
  rw [hdrops, hoffered, haccepted, hexhausted]
  exact hledger

/-- The bytes in the slots that consumers hold or will receive do not change
when the slot written to has no holder. -/
theorem waiting_congr {k : Destination} (hhandle : s'.handle k = s.handle k)
    (hbytes : ∀ f, holders (wardsOf s.held s.handle) f ≠ 0 →
      (s'.s_pool f).bytes = (s.s_pool f).bytes) : s'.waiting k = s.waiting k := by
  unfold waiting
  rw [hhandle]
  apply List.map_congr_left
  intro f hf
  apply hbytes
  have hpos : 0 < holders (wardsOf s.held s.handle) f :=
    holders_pos_of_mem (k := k) (List.mem_append_right (s.held k).toList hf)
  omega

theorem holders_of_held {k : Destination} {f : FramePtr} (hheld : s.held k = some f) :
    holders (wardsOf s.held s.handle) f ≠ 0 := by
  have hpos : 0 < holders (wardsOf s.held s.handle) f :=
    holders_pos_of_mem (k := k) (by rw [wardsOf_held hheld]; exact List.mem_cons_self)
  omega

/-- A step of `publish_rtcm_frame` that writes to no held slot and offers the
frame to no queue changes no ledger. -/
theorem Delivering.quiet (hdelivering : s.Delivering active) (hheld : s'.held = s.held)
    (hreceived : s'.received = s.received) (hhandle : s'.handle = s.handle)
    (hdrops : s'.queue_drops = s.queue_drops) (hexhausted : s'.pool_exhausted = s.pool_exhausted)
    (hoffered : ∀ k, active k = true →
      s'.published ++ s'.publishing.dealt k = s.published ++ s.publishing.dealt k)
    (hbytes : ∀ f, holders (wardsOf s.held s.handle) f ≠ 0 →
      (s'.s_pool f).bytes = (s.s_pool f).bytes)
    (hfilled : s'.Filled) : s'.Delivering active where
  ledger k hk := by
    apply (hdelivering.ledger k hk).congr
    · rw [hdrops]
    · exact hoffered k hk
    · rw [hreceived, waiting_congr (by rw [hhandle]) hbytes]
    · exact hexhausted
  filled := hfilled
  held k f hf := by
    rw [hheld] at hf
    rw [hreceived, hbytes f (holders_of_held hf)]
    exact hdelivering.held k f hf

theorem Delivering.publishStep (hdelivering : s.Delivering active) (hcounted : s.Counted)
    (hsteady : s.Steady active) (hcounted' : s'.Counted) (hstep : s.publishStep = some s') :
    s'.Delivering active := by
  have hphase_ok := hcounted.phase
  have hfilled := hdelivering.filled
  cases publishStep_cases hstep with
  | countActive hphase hactive =>
    exact hdelivering.quiet rfl rfl rfl rfl rfl (by simp [hphase, PublishPhase.dealt])
      (fun _ _ => rfl) trivial
  | countNull hphase hnull =>
    exact hdelivering.quiet rfl rfl rfl rfl rfl (by simp [hphase, PublishPhase.dealt])
      (fun _ _ => rfl) trivial
  | @noConsumer frame hphase =>
    simp only [PhaseOk, hphase] at hphase_ok
    obtain ⟨hlength, _, hright⟩ := hphase_ok
    have hnone : s.counted = [] := List.length_eq_zero_iff.mp hlength.symm
    refine ⟨fun k hk => ?_, trivial, hdelivering.held⟩
    obtain ⟨entries, hqueue⟩ := hsteady.queue k hk
    have hmem := (hright k (by simp) (hsteady.unwritten k)).mpr (by rw [hqueue]; rfl)
    simp [hnone] at hmem
  | counted hphase hrefs =>
    exact hdelivering.quiet rfl rfl rfl rfl rfl (by simp [hphase, PublishPhase.dealt])
      (fun _ _ => rfl) trivial
  | allocFree hi hphase hfree =>
    exact hdelivering.quiet rfl rfl rfl rfl rfl (by simp [hphase, PublishPhase.dealt])
      (fun _ _ => rfl) trivial
  | allocBusy hi hphase hbusy =>
    exact hdelivering.quiet rfl rfl rfl rfl rfl (by simp [hphase, PublishPhase.dealt])
      (fun _ _ => rfl) trivial
  | @allocExhausted frame refs i hi hphase =>
    refine ⟨fun k hk => ?_, trivial, hdelivering.held⟩
    obtain ⟨dropped, hdrops, hdelivered⟩ := hdelivering.ledger k hk
    simp only [hphase, PublishPhase.dealt, List.append_nil] at hdelivered
    refine ⟨dropped, hdrops, ?_⟩
    simpa [publishReturn, PublishPhase.dealt, waiting] using hdelivered.discard frame.data
  | allocStore hphase =>
    exact hdelivering.quiet rfl rfl rfl rfl rfl (by simp [hphase, PublishPhase.dealt])
      (fun _ _ => pool_set_refs_bytes _ _ _ _) trivial
  | @memcpy frame refs f hphase =>
    simp only [PhaseOk, hphase] at hphase_ok
    refine hdelivering.quiet rfl rfl rfl rfl rfl (by simp [hphase, PublishPhase.dealt]) ?_ ?_
    · intro g hg
      have hne : g ≠ f := by
        rintro rfl
        exact hg hphase_ok.2.2
      exact congrArg pool_frame_t.bytes (poolMemcpy_of_ne s.s_pool frame.data hne)
    · exact poolMemcpy_take s.s_pool f frame
  | @setLen frame refs f hphase =>
    simp only [PhaseOk, hphase] at hphase_ok
    simp only [Filled, hphase] at hfilled
    refine hdelivering.quiet rfl rfl rfl rfl rfl (by simp [hphase, PublishPhase.dealt]) ?_ ?_
    · intro g hg
      have hne : g ≠ f := by
        rintro rfl
        exact hg hphase_ok.2.2
      exact congrArg pool_frame_t.bytes (poolSetLen_of_ne s.s_pool frame hne)
    · exact (poolSetLen_bytes s.s_pool f frame).trans hfilled
  | @setRefs frame refs f hphase =>
    simp only [Filled, hphase] at hfilled
    refine hdelivering.quiet rfl rfl rfl rfl rfl ?_ (fun _ _ => pool_set_refs_bytes _ _ _ _) ?_
    · intro k _
      simp [hphase, PublishPhase.dealt, mem_destinations]
    · exact (pool_set_refs_bytes _ _ _ _).trans hfilled
  | sendActive hphase hactive =>
    simp only [Filled, hphase] at hfilled
    exact hdelivering.quiet rfl rfl rfl rfl rfl (by simp [hphase, PublishPhase.dealt])
      (fun _ _ => rfl) hfilled
  | @sendNull frame refs offered f k todo hphase hnull =>
    simp only [Filled, hphase] at hfilled
    refine hdelivering.quiet rfl rfl rfl rfl rfl ?_ (fun _ _ => rfl) hfilled
    intro j hj
    have hne : j ≠ k := by
      rintro rfl
      obtain ⟨entries, hqueue⟩ := hsteady.queue j hj
      simp [hqueue, QueueHandle.active] at hnull
    simp [hphase, PublishPhase.dealt, hne]
  | sent hphase =>
    exact hdelivering.quiet rfl rfl rfl rfl rfl
      (by simp [hphase, publishReturn, PublishPhase.dealt]) (fun _ _ => rfl) trivial
  | @enqueue frame refs offered f k todo entries hphase hqueue hroom =>
    simp only [Filled, hphase] at hfilled
    simp only [PhaseOk, hphase] at hphase_ok
    have hnot : k ∉ todo := (List.nodup_cons.mp hphase_ok.2.2.1).1
    refine ⟨fun j hj => ?_, hfilled, hdelivering.held⟩
    by_cases hjk : j = k
    · subst hjk
      obtain ⟨dropped, hdrops, hdelivered⟩ := hdelivering.ledger j hj
      simp only [hphase, PublishPhase.dealt, List.mem_cons_self, if_true, List.append_nil,
        waiting, hqueue, QueueHandle.entries] at hdelivered
      refine ⟨dropped, hdrops, ?_⟩
      simpa [PublishPhase.dealt, hnot, waiting, QueueHandle.entries, hfilled] using
        hdelivered.accept frame.data
    · apply (hdelivering.ledger j hj).congr
      · rfl
      · simp [hphase, PublishPhase.dealt, hjk]
      · simp [waiting, hjk]
      · rfl
  | full hphase hqueue hfull =>
    simp only [Filled, hphase] at hfilled
    exact hdelivering.quiet rfl rfl rfl rfl rfl (by simp [hphase, PublishPhase.dealt])
      (fun _ _ => rfl) hfilled
  | fault hphase hqueue => exact absurd hcounted'.phase (by simp [PhaseOk])
  | @drop frame refs offered f k todo hphase =>
    simp only [Filled, hphase] at hfilled
    simp only [PhaseOk, hphase] at hphase_ok
    have hnot : k ∉ todo := (List.nodup_cons.mp hphase_ok.2.2).1
    refine ⟨fun j hj => ?_, (pool_release_bytes _ _ _).trans hfilled, fun j g hg => ?_⟩
    · by_cases hjk : j = k
      · subst hjk
        obtain ⟨dropped, hdrops, hdelivered⟩ := hdelivering.ledger j hj
        simp only [hphase, PublishPhase.dealt, List.mem_cons_self, if_true,
          List.append_nil] at hdelivered
        refine ⟨dropped + 1, by simp [hdrops, UInt32.ofNat_add], ?_⟩
        simpa [PublishPhase.dealt, hnot, waiting] using hdelivered.drop frame.data
      · apply (hdelivering.ledger j hj).congr
        · simp [hjk]
        · simp [hphase, PublishPhase.dealt, hjk]
        · simp [waiting]
        · rfl
    · rw [hdelivering.held j g hg]
      simp

theorem Delivering.xQueueReceive (hdelivering : s.Delivering active) {k : Destination}
    (hstep : s.xQueueReceive k = some s') : s'.Delivering active := by
  obtain ⟨f, rest, hqueue, hnone, rfl⟩ := xQueueReceive_cases hstep
  refine ⟨fun j hj => ?_, hdelivering.filled, fun j g hg => ?_⟩
  · apply (hdelivering.ledger j hj).congr
    · rfl
    · rfl
    · by_cases hjk : j = k
      · subst hjk
        simp [waiting, hqueue, QueueHandle.entries]
      · simp [waiting, hjk]
    · rfl
  · by_cases hjk : j = k
    · subst hjk
      simp only [Function.update_self, Option.some.injEq] at hg
      simp [hg]
    · simp only [Function.update_of_ne hjk] at hg ⊢
      exact hdelivering.held j g hg

theorem Delivering.consumerRelease (hdelivering : s.Delivering active) {k : Destination}
    (hstep : s.consumerRelease k = some s') : s'.Delivering active := by
  obtain ⟨f, hheld, rfl⟩ := consumerRelease_cases hstep
  refine ⟨fun j hj => ?_, ?_, fun j g hg => ?_⟩
  · apply (hdelivering.ledger j hj).congr
    · rfl
    · rfl
    · simp [waiting]
    · rfl
  · have hfilled := hdelivering.filled
    unfold Filled at hfilled ⊢
    cases hphase : s.publishing <;> simp_all
  · by_cases hjk : j = k
    · subst hjk
      simp at hg
    · simp only [Function.update_of_ne hjk] at hg
      rw [hdelivering.held j g hg]
      simp

theorem started_counted (s_pool : Pool) (active running : Destination → Bool) :
    (started s_pool active running).Counted := by
  apply counted_of_empty
  · exact fun _ => rfl
  · exact fun _ => rfl
  · intro k
    simp only [started]
    split <;> rfl
  · rfl
  · rfl

theorem started_steady (s_pool : Pool) (active running : Destination → Bool) :
    (started s_pool active running).Steady active where
  done := rfl
  unwritten _ := rfl
  queue k hk := ⟨[], by simp [started, hk]⟩
  null k hk := by simp [started, hk]

theorem started_delivering (s_pool : Pool) (active running : Destination → Bool) :
    (started s_pool active running).Delivering active where
  ledger k hk := ⟨0, rfl, by
    simpa [started, booted, PublishPhase.dealt, waiting, hk, QueueHandle.entries] using
      Delivered.nil⟩
  filled := trivial
  held k f hf := by simp [started, booted] at hf

/-- With the init functions finished, the reference counts stay right. -/
theorem counted_of_started {s_pool : Pool} {running : Destination → Bool}
    (hreach : Reach step Anywhere (started s_pool active running) s) :
    s.Counted ∧ s.Steady active ∧ s.Starting := by
  apply hreach.invariant
  · exact ⟨started_counted .., started_steady .., by simp [started, InitPhase.upcoming],
      by simp [started]⟩
  · intro s a s' hs _ hstep
    obtain ⟨hcounted, hsteady, hstarting⟩ := hs
    obtain ⟨hok, hsteady'⟩ := hsteady.step hstep
    obtain ⟨hcounted', hstarting'⟩ := counted_step hcounted hstarting hok hstep
    exact ⟨hcounted', hsteady', hstarting'⟩

theorem delivering_of_started {s_pool : Pool} {running : Destination → Bool}
    (hreach : Reach step Anywhere (started s_pool active running) s) : s.Delivering active := by
  apply hreach.invariant_of (K := fun s => s.Counted ∧ s.Steady active ∧ s.Starting)
  · exact fun s hs => counted_of_started hs
  · exact started_delivering ..
  · intro s a s' hknown hknown' hdelivering _ hstep
    obtain ⟨hcounted, hsteady, _⟩ := hknown
    cases a with
    | publish_rtcm_frame frame =>
      simp only [frame_pool.step] at hstep
      split at hstep
      case h_1 hidle =>
        cases hstep
        exact hdelivering.quiet rfl rfl rfl rfl rfl (by simp [hidle, PublishPhase.dealt])
          (fun _ _ => rfl) trivial
      case h_2 => cases hstep
    | publishStep => exact hdelivering.publishStep hcounted hsteady hknown'.1 hstep
    | xQueueReceive k => exact hdelivering.xQueueReceive hstep
    | pool_release k => exact hdelivering.consumerRelease hstep
    | initStep created => cases initStep_cases hstep <;> simp_all [hsteady.done]

end Pipeline

/-- In every run with fixed queue handles, at every point: no reference count
is negative, and between calls of `publish_rtcm_frame` each is the number of
queue entries and consumers that hold the slot. A consumer finds in the slot it
holds the bytes it found when it dequeued it. And of the frames offered to a
queue, in order, the consumer has received some, some still wait in the queue
with their bytes untouched, some are counted as dropped, and the others were
discarded by `pool_alloc`. -/
theorem frame_pool_integrity {s_pool : Pool} {active running : Destination → Bool} {s : Pipeline}
    (hreach : Reach step Anywhere (started s_pool active running) s) :
    (∀ f, 0 ≤ (s.s_pool f).ref_count) ∧
      (s.publishing = .idle → ∀ f, (s.s_pool f).ref_count = s.slotHolders f) ∧
      (∀ k f, s.held k = some f → (s.received k).getLast? = some (s.s_pool f).bytes) ∧
      ∀ k, active k = true → ∃ dropped, s.queue_drops k = UInt32.ofNat dropped ∧
        Accounted (s.published ++ s.publishing.dealt k) (s.received k) (s.waiting k) dropped
          s.pool_exhausted := by
  obtain ⟨hcounted, _, _⟩ := Pipeline.counted_of_started hreach
  have hdelivering := Pipeline.delivering_of_started hreach
  refine ⟨hcounted.refsRight.nonneg, fun hidle f => ?_, hdelivering.held, fun k hk => ?_⟩
  · have hf := hcounted.refs f
    simpa [share, hidle, Pipeline.slotHolders] using hf
  · obtain ⟨dropped, hdrops, hdelivered⟩ := hdelivering.ledger k hk
    exact ⟨dropped, hdrops, hdelivered.accounted rfl⟩

/-- One uplink; a frame is published and the uplink takes it. -/
def deliveryRun : List PoolAction :=
  List.flatten [[.publish_rtcm_frame sampleFrame], List.replicate 14 .publishStep,
    [.xQueueReceive firstUplink]]

theorem frame_pool_integrity_of_delivery_run :
    ∃ s, runs step Anywhere (started zeroedPool (· = firstUplink) fun _ => true) deliveryRun =
        some s ∧ s.held firstUplink = some 0 ∧
      (s.received firstUplink).getLast? = some (s.s_pool 0).bytes ∧
      ∃ dropped, s.queue_drops firstUplink = UInt32.ofNat dropped ∧
        Accounted (s.published ++ s.publishing.dealt firstUplink) (s.received firstUplink)
          (s.waiting firstUplink) dropped s.pool_exhausted := by
  have hrun : (runs step Anywhere (started zeroedPool (· = firstUplink) fun _ => true)
      deliveryRun).map (·.held firstUplink) = some (some 0) := by
    decide
  obtain ⟨s, hs, hheld⟩ := Option.map_eq_some_iff.mp hrun
  obtain ⟨_, _, hbytes, hledger⟩ := frame_pool_integrity (Reach.refl.runs hs)
  exact ⟨s, hs, hheld, hbytes _ _ hheld, hledger _ (by decide)⟩

end rtkbase.frame_pool
