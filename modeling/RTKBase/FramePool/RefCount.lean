import RTKBase.FramePool.Steps
import RTKBase.Lib.Custody
import RTKBase.Lib.Lts

namespace rtkbase.frame_pool

open lib.custody

/-- The frames each consumer still has to release: the one in its hands, then
those in its queue. -/
def wardsOf (held : Destination → Option FramePtr) (handle : Destination → QueueHandle)
    (k : Destination) : List FramePtr := (held k).toList ++ (handle k).entries

/-- The counted destinations among those still to be sent to. -/
def owed (counted todo : List Destination) : Nat := todo.countP (· ∈ counted)

/-- The references that `publish_rtcm_frame` has taken and not passed on. -/
def share (publishing : PublishPhase) (counted : List Destination) (f : FramePtr) : Nat :=
  match publishing with
  | .memcpy _ _ g | .setLen _ _ g | .pool_set_refs _ _ g => if g = f then 1 else 0
  | .publish _ _ g _ todo => if g = f then owed counted todo else 0
  | .xQueueSend _ _ g _ _ todo | .queueDrop _ _ g _ _ todo =>
    if g = f then owed counted todo + 1 else 0
  | _ => 0

/-- The count of the destinations outside `todo` is right for those whose
handle has not been written since. -/
def Pipeline.CountedRight (s : Pipeline) (todo : List Destination) : Prop :=
  ∀ k, k ∉ todo → s.rewritten k = false → (k ∈ s.counted ↔ (s.handle k).active = true)

/-- What holds of the counts and of the slot at each point of
`publish_rtcm_frame`. -/
def Pipeline.PhaseOk (s : Pipeline) : Prop :=
  match s.publishing with
  | .idle => True
  | .activeCount _ refs todo =>
    refs = s.counted.length ∧ (s.counted ++ todo).Sublist destinations ∧ s.CountedRight todo
  | .pool_alloc _ refs _ => refs = owed s.counted destinations ∧ s.CountedRight []
  | .poolAllocStore _ refs f =>
    refs = owed s.counted destinations ∧ s.CountedRight [] ∧ (s.s_pool f).ref_count = 0
  | .memcpy _ refs f | .setLen _ refs f | .pool_set_refs _ refs f =>
    refs = owed s.counted destinations ∧ s.CountedRight [] ∧ holders (wardsOf s.held s.handle) f = 0
  | .publish _ refs _ offered todo =>
    refs = offered + owed s.counted todo ∧ s.CountedRight [] ∧ todo.Nodup
  | .xQueueSend _ refs _ offered k todo =>
    refs = offered + 1 + owed s.counted todo ∧ s.CountedRight [] ∧ (k :: todo).Nodup ∧ k ∈ s.counted
  | .queueDrop _ refs _ offered k todo =>
    refs = offered + owed s.counted todo ∧ s.CountedRight [] ∧ (k :: todo).Nodup
  | .fault => False

/-- Every reference of a slot belongs to a queue entry, to a consumer, or to
the call of `publish_rtcm_frame` under way. -/
structure Pipeline.Counted (s : Pipeline) : Prop where
  refs : ∀ f, (s.s_pool f).ref_count = holders (wardsOf s.held s.handle) f + share s.publishing s.counted f
  depth : ∀ k, (s.handle k).entries.length ≤ FRAME_QUEUE_DEPTH
  phase : s.PhaseOk
  offers : ∀ offer ∈ s.offers, offer.1 = offer.2

section wards

variable {held : Destination → Option FramePtr} {handle : Destination → QueueHandle}
  {k : Destination} {f : FramePtr}

theorem wardsOf_send {entries : List FramePtr} (hqueue : handle k = .queue entries) :
    wardsOf held (Function.update handle k (.queue (entries ++ [f]))) =
      Function.update (wardsOf held handle) k (wardsOf held handle k ++ [f]) := by
  funext j
  by_cases hj : j = k
  · subst hj
    simp [wardsOf, hqueue, QueueHandle.entries]
  · simp [wardsOf, hj]

/-- A frame that moves from the queue into the consumer's hands stays in its
custody. -/
theorem wardsOf_receive {rest : List FramePtr} (hqueue : handle k = .queue (f :: rest))
    (hheld : held k = none) :
    wardsOf (Function.update held k (some f)) (Function.update handle k (.queue rest)) =
      wardsOf held handle := by
  funext j
  by_cases hj : j = k
  · subst hj
    simp [wardsOf, hqueue, hheld, QueueHandle.entries]
  · simp [wardsOf, hj]

theorem wardsOf_held (hheld : held k = some f) :
    wardsOf held handle k = f :: (handle k).entries := by
  simp [wardsOf, hheld]

theorem wardsOf_release :
    wardsOf (Function.update held k none) handle =
      Function.update (wardsOf held handle) k (handle k).entries := by
  funext j
  by_cases hj : j = k
  · subst hj
    simp [wardsOf]
  · simp [wardsOf, hj]

theorem wardsOf_write {h : QueueHandle} (hentries : h.entries = (handle k).entries) :
    wardsOf held (Function.update handle k h) = wardsOf held handle := by
  funext j
  by_cases hj : j = k
  · subst hj
    simp [wardsOf, hentries]
  · simp [wardsOf, hj]

end wards

theorem destinations_nodup : destinations.Nodup := by decide

theorem mem_destinations (k : Destination) : k ∈ destinations := by
  revert k
  decide

/-- The counted destinations of the whole list are the ones counted. -/
theorem countP_mem_of_sublist {counted all : List Destination} (hsub : counted.Sublist all)
    (hnodup : all.Nodup) : all.countP (· ∈ counted) = counted.length := by
  induction hsub with
  | slnil => rfl
  | @cons counted all k hsub ih =>
    obtain ⟨hk, hnodup⟩ := List.nodup_cons.mp hnodup
    have hnot : k ∉ counted := fun hmem => hk (hsub.subset hmem)
    rw [List.countP_cons, ih hnodup]
    simp [hnot]
  | @cons_cons counted all k hsub ih =>
    obtain ⟨hk, hnodup⟩ := List.nodup_cons.mp hnodup
    have hrest : all.countP (· ∈ k :: counted) = all.countP (· ∈ counted) := by
      apply List.countP_congr
      intro j hj
      have hne : j ≠ k := fun heq => hk (heq ▸ hj)
      simp [hne]
    rw [List.countP_cons, hrest, ih hnodup]
    simp

theorem owed_cons_of_mem {k : Destination} {counted todo : List Destination}
    (hk : k ∈ counted) : owed counted (k :: todo) = owed counted todo + 1 := by
  simp [owed, hk]

theorem owed_cons_of_not_mem {k : Destination} {counted todo : List Destination}
    (hk : k ∉ counted) : owed counted (k :: todo) = owed counted todo := by
  simp [owed, hk]

namespace Pipeline

/-- What the invariant of the phase asks of the other tasks. -/
theorem PhaseOk.mono {s s' : Pipeline} (hok : s.PhaseOk)
    (hphase : s'.publishing = s.publishing) (hcounted : s'.counted = s.counted)
    (hright : ∀ todo, s.CountedRight todo → s'.CountedRight todo)
    (hfree : ∀ f, (s.s_pool f).ref_count = 0 → (s'.s_pool f).ref_count = 0)
    (hunheld : ∀ f, holders (wardsOf s.held s.handle) f = 0 →
      holders (wardsOf s'.held s'.handle) f = 0) : s'.PhaseOk := by
  unfold PhaseOk at hok ⊢
  rw [hphase]
  cases hp : s.publishing <;> simp only [hp, hcounted] at hok ⊢
  case activeCount => exact ⟨hok.1, hok.2.1, hright _ hok.2.2⟩
  case pool_alloc => exact ⟨hok.1, hright _ hok.2⟩
  case poolAllocStore => exact ⟨hok.1, hright _ hok.2.1, hfree _ hok.2.2⟩
  case memcpy => exact ⟨hok.1, hright _ hok.2.1, hunheld _ hok.2.2⟩
  case setLen => exact ⟨hok.1, hright _ hok.2.1, hunheld _ hok.2.2⟩
  case pool_set_refs => exact ⟨hok.1, hright _ hok.2.1, hunheld _ hok.2.2⟩
  case publish => exact ⟨hok.1, hright _ hok.2.1, hok.2.2⟩
  case xQueueSend => exact ⟨hok.1, hright _ hok.2.1, hok.2.2⟩
  case queueDrop => exact ⟨hok.1, hright _ hok.2.1, hok.2.2⟩

/-- A queue whose handle keeps pointing to a queue is counted as before. -/
theorem CountedRight.of_active {s s' : Pipeline} {todo : List Destination}
    (hright : s.CountedRight todo) (hcounted : s'.counted = s.counted)
    (hrewritten : s'.rewritten = s.rewritten)
    (hactive : ∀ k, (s'.handle k).active = (s.handle k).active) : s'.CountedRight todo := by
  intro k hk hfalse
  rw [hcounted, hactive k]
  rw [hrewritten] at hfalse
  exact hright k hk hfalse

theorem update_queue_active {handle : Destination → QueueHandle} {k : Destination}
    {entries entries' : List FramePtr} (hqueue : handle k = .queue entries) (j : Destination) :
    (Function.update handle k (.queue entries') j).active = (handle j).active := by
  by_cases hj : j = k
  · subst hj
    simp [hqueue, QueueHandle.active]
  · simp [hj]

end Pipeline

end rtkbase.frame_pool
