import RTKBase.FramePool.RefCountRun

namespace rtkbase.frame_pool

open lib.custody lib.lts

/-- The destinations whose queue the init functions have not come to. -/
def InitPhase.upcoming : InitPhase → List Destination
  | .xQueueCreate k => destinations.dropWhile (· ≠ k)
  | .xTaskCreate k => (destinations.dropWhile (· ≠ k)).tail
  | _ => []

/-- The handles of the queues to come are NULL, and the deleted queue goes as
soon as the next step of `ntrip_caster_init`. -/
structure Pipeline.Starting (s : Pipeline) : Prop where
  upcoming : ∀ k ∈ s.starting.upcoming, s.handle k = .null
  cleared : s.starting = .clearHandle → s.handle .caster = .deleted

theorem upcoming_nextInit (k : Destination) :
    (Pipeline.nextInit k).upcoming = (InitPhase.xTaskCreate k).upcoming := by
  revert k
  decide

theorem mem_upcoming_xQueueCreate (k : Destination) : k ∈ (InitPhase.xQueueCreate k).upcoming := by
  revert k
  decide

theorem not_mem_upcoming_xTaskCreate (k : Destination) :
    k ∉ (InitPhase.xTaskCreate k).upcoming := by
  revert k
  decide

theorem nextInit_ne_clear (k : Destination) : Pipeline.nextInit k ≠ .clearHandle := by
  cases k with
  | uplink i =>
    simp only [Pipeline.nextInit]
    split <;> simp
  | caster => simp [Pipeline.nextInit]

/-- What the other tasks do to a handle keeps NULL and a deleted queue. -/
theorem Pipeline.Starting.of_handle {s s' : Pipeline} (hstarting : s.Starting)
    (hphase : s'.starting = s.starting)
    (hhandle : ∀ k, s'.handle k = s.handle k ∨ ∃ entries, s.handle k = .queue entries) :
    s'.Starting := by
  refine ⟨fun k hk => ?_, fun hclear => ?_⟩
  · rw [hphase] at hk
    have hnull := hstarting.upcoming k hk
    obtain heq | ⟨entries, hqueue⟩ := hhandle k
    · rw [heq, hnull]
    · rw [hnull] at hqueue
      cases hqueue
  · rw [hphase] at hclear
    have hdeleted := hstarting.cleared hclear
    obtain heq | ⟨entries, hqueue⟩ := hhandle .caster
    · rw [heq, hdeleted]
    · rw [hdeleted] at hqueue
      cases hqueue

/-- A step outside the init functions writes only to handles of queues. -/
theorem handle_of_publishStep {s s' : Pipeline} (hstep : s.publishStep = some s') :
    s'.starting = s.starting ∧
      ∀ k, s'.handle k = s.handle k ∨ ∃ entries, s.handle k = .queue entries := by
  cases publishStep_cases hstep with
  | @enqueue frame refs offered f k todo entries hphase hqueue hroom =>
    refine ⟨rfl, fun j => ?_⟩
    by_cases hj : j = k
    · subst hj
      exact .inr ⟨entries, hqueue⟩
    · exact .inl (Function.update_of_ne hj _ _)
  | _ => exact ⟨rfl, fun _ => .inl rfl⟩

theorem handle_of_xQueueReceive {s s' : Pipeline} {k : Destination}
    (hstep : s.xQueueReceive k = some s') :
    s'.starting = s.starting ∧
      ∀ k, s'.handle k = s.handle k ∨ ∃ entries, s.handle k = .queue entries := by
  obtain ⟨f, rest, hqueue, _, rfl⟩ := xQueueReceive_cases hstep
  refine ⟨rfl, fun j => ?_⟩
  by_cases hj : j = k
  · subst hj
    exact .inr ⟨_, hqueue⟩
  · exact .inl (Function.update_of_ne hj _ _)

theorem starting_initStep {s s' : Pipeline} {created : Bool} (hstarting : s.Starting)
    (hstep : s.initStep created = some s') : s'.Starting := by
  cases initStep_cases hstep with
  | @queue k hphase =>
    refine ⟨fun j hj => ?_, by simp⟩
    have hne : j ≠ k := by
      rintro rfl
      exact not_mem_upcoming_xTaskCreate j hj
    have hold := hstarting.upcoming j (by rw [hphase]; exact List.mem_of_mem_tail hj)
    simpa [Pipeline.writeHandle, hne] using hold
  | @skip k hphase =>
    refine ⟨fun j hj => ?_, fun hclear => absurd hclear (nextInit_ne_clear k)⟩
    rw [upcoming_nextInit] at hj
    obtain hphase | hphase := hphase
    · exact hstarting.upcoming j (by rw [hphase]; exact List.mem_of_mem_tail hj)
    · exact hstarting.upcoming j (by rwa [hphase])
  | @task k hphase =>
    refine ⟨fun j hj => ?_, fun hclear => absurd hclear (nextInit_ne_clear k)⟩
    rw [upcoming_nextInit] at hj
    exact hstarting.upcoming j (by rwa [hphase])
  | noTask hphase => constructor <;> simp [InitPhase.upcoming]
  | delete hphase => constructor <;> simp [InitPhase.upcoming, Pipeline.writeHandle]
  | clear hphase => constructor <;> simp [InitPhase.upcoming]

theorem counted_initStep {s s' : Pipeline} {created : Bool} (hcounted : s.Counted)
    (hstarting : s.Starting) (hok : Undisturbed s (.initStep created))
    (hstep : s.initStep created = some s') : s'.Counted := by
  cases initStep_cases hstep with
  | @queue k hphase =>
    have hnull := hstarting.upcoming k (by rw [hphase]; exact mem_upcoming_xQueueCreate k)
    have hwritten : (s.writeHandle k (.queue [])).Counted :=
      hcounted.writeHandle rfl (by rw [hnull]; rfl)
    exact hwritten.start _ _
  | skip hphase => exact hcounted.start _ _
  | task hphase => exact hcounted.start _ _
  | noTask hphase => exact hcounted.start _ _
  | delete hphase =>
    have hwritten : (s.writeHandle .caster .deleted).Counted :=
      hcounted.writeHandle rfl (hok hphase)
    exact hwritten.start _ _
  | clear hphase =>
    have hwritten : (s.writeHandle .caster .null).Counted :=
      hcounted.writeHandle rfl (by rw [hstarting.cleared hphase]; rfl)
    exact hwritten.start _ _

/-- Every undisturbed step keeps the reference counts right. -/
theorem counted_step {s s' : Pipeline} {a : PoolAction} (hcounted : s.Counted)
    (hstarting : s.Starting) (hok : Undisturbed s a) (hstep : step s a = some s') :
    s'.Counted ∧ s'.Starting := by
  cases a with
  | publish_rtcm_frame frame =>
    simp only [step] at hstep
    split at hstep
    case h_1 hidle =>
      cases hstep
      exact ⟨hcounted.publish_rtcm_frame hidle frame, ⟨hstarting.upcoming, hstarting.cleared⟩⟩
    case h_2 => cases hstep
  | publishStep =>
    obtain ⟨hphase, hhandle⟩ := handle_of_publishStep hstep
    exact ⟨hcounted.publishStep hok hstep, hstarting.of_handle hphase hhandle⟩
  | xQueueReceive k =>
    obtain ⟨hphase, hhandle⟩ := handle_of_xQueueReceive hstep
    exact ⟨hcounted.xQueueReceive hstep, hstarting.of_handle hphase hhandle⟩
  | pool_release k =>
    refine ⟨hcounted.consumerRelease hstep, ?_⟩
    obtain ⟨f, _, rfl⟩ := consumerRelease_cases hstep
    exact ⟨hstarting.upcoming, hstarting.cleared⟩
  | initStep created =>
    exact ⟨counted_initStep hcounted hstarting hok hstep, starting_initStep hstarting hstep⟩

theorem counted_of_empty {s : Pipeline} (hpool : ∀ f, (s.s_pool f).ref_count = 0)
    (hheld : ∀ k, s.held k = none) (hentries : ∀ k, (s.handle k).entries = [])
    (hidle : s.publishing = .idle) (hoffers : s.offers = []) : s.Counted where
  refs f := by
    have hnone : holders (wardsOf s.held s.handle) f = 0 := by
      rw [holders_eq_zero]
      intro k
      simp [wardsOf, hheld, hentries]
    simp [hpool, hnone, share, hidle]
  depth k := by simp [hentries]
  phase := by simp [Pipeline.PhaseOk, hidle]
  offers := by simp [hoffers]

theorem booted_counted (s_pool : Pool) : (booted s_pool).Counted :=
  counted_of_empty (fun _ => rfl) (fun _ => rfl) (fun _ => rfl) rfl rfl

theorem booted_starting (s_pool : Pool) : (booted s_pool).Starting :=
  ⟨fun _ _ => rfl, by simp [booted]⟩

/-- The number of queue entries and consumers that hold the slot. -/
def Pipeline.slotHolders (s : Pipeline) (f : FramePtr) : Nat :=
  holders (wardsOf s.held s.handle) f

/-- Every frame was offered to as many queues as it was given references; no
count is negative; no slot is free while a queue or a consumer holds it; and
between calls of `publish_rtcm_frame` none is taken that nobody holds. -/
structure Pipeline.RefsRight (s : Pipeline) : Prop where
  offers : ∀ offer ∈ s.offers, offer.1 = offer.2
  nonneg : ∀ f, 0 ≤ (s.s_pool f).ref_count
  unheld_of_free : ∀ f, (s.s_pool f).ref_count = 0 → s.slotHolders f = 0
  held_of_taken : s.publishing = .idle → ∀ f, 0 < (s.s_pool f).ref_count → 0 < s.slotHolders f

theorem Pipeline.Counted.refsRight {s : Pipeline} (hcounted : s.Counted) : s.RefsRight where
  offers := hcounted.offers
  nonneg f := by
    rw [hcounted.refs f]
    omega
  unheld_of_free f hfree := by
    have hf := hcounted.refs f
    unfold Pipeline.slotHolders
    omega
  held_of_taken hidle f hpos := by
    have hf := hcounted.refs f
    simp only [share, hidle] at hf
    unfold Pipeline.slotHolders
    omega

/-- Reference counts stay right from boot on in every run whose steps are all
undisturbed. -/
theorem refs_right_of_undisturbed (s_pool : Pool) {s : Pipeline}
    (hreach : Reach step Undisturbed (booted s_pool) s) : s.RefsRight := by
  have hinvariant : s.Counted ∧ s.Starting := by
    apply hreach.invariant
    · exact ⟨booted_counted s_pool, booted_starting s_pool⟩
    · intro s a s' hs hok hstep
      exact counted_step hs.1 hs.2 hok hstep
  exact hinvariant.1.refsRight

/-- The first uplink is up; a frame is published to it and the caster's queue
is created after that. -/
def undisturbedRun : List PoolAction :=
  List.flatten [
    [.initStep true, .initStep true, .initStep false, .publish_rtcm_frame sampleFrame],
    List.replicate 14 .publishStep, [.initStep true]]

theorem refs_right_of_undisturbed_run :
    ∃ s, runs step Undisturbed (booted zeroedPool) undisturbedRun = some s ∧
      s.offers = [(1, 1)] ∧ s.RefsRight := by
  have hrun : (runs step Undisturbed (booted zeroedPool) undisturbedRun).map
      (·.offers) = some [(1, 1)] := by
    decide
  obtain ⟨s, hs, hoffers⟩ := Option.map_eq_some_iff.mp hrun
  exact ⟨s, hs, hoffers, refs_right_of_undisturbed _ (Reach.refl.runs hs)⟩

/-- The first uplink is up when a frame is published. The caster's queue is
created after the destinations were counted and before the frame is sent. -/
def lateCasterRun : List PoolAction :=
  List.flatten [
    [.initStep true, .initStep true, .initStep false, .publish_rtcm_frame sampleFrame],
    List.replicate 9 .publishStep, [.initStep true], List.replicate 6 .publishStep,
    [.xQueueReceive firstUplink, .pool_release firstUplink]]

/-- The frame is offered to two queues with one reference, and its slot is
free while the caster's queue still holds it. -/
theorem refs_wrong_after_late_caster :
    ∃ s, Reach step Anywhere (booted zeroedPool) s ∧ (1, 2) ∈ s.offers ∧
      (s.s_pool 0).ref_count = 0 ∧ (s.handle .caster).entries = [0] ∧ ¬ s.RefsRight := by
  have hrun : (runs step Anywhere (booted zeroedPool) lateCasterRun).map
      (fun s => (s.offers, (s.s_pool 0).ref_count, (s.handle .caster).entries)) =
        some ([(1, 2)], 0, [0]) := by
    decide
  obtain ⟨s, hs, hshape⟩ := Option.map_eq_some_iff.mp hrun
  simp only [Prod.mk.injEq] at hshape
  obtain ⟨hoffers, hfree, hqueue⟩ := hshape
  have hmem : (1, 2) ∈ s.offers := by simp [hoffers]
  refine ⟨s, Reach.refl.runs hs, hmem, hfree, hqueue, fun hright => ?_⟩
  have heq := hright.offers _ hmem
  simp at heq

end rtkbase.frame_pool
