import Mathlib.Data.Fintype.Sum
import Mathlib.Tactic.DeriveFintype
import RTKBase.FramePool.Pool

namespace rtkbase.frame_pool

abbrev NTRIP_UPLINK_COUNT : Nat := 2

/-- The owners of the queue handles: `s_uplinks[i].queue` and
`s_q_ntrip_caster`. -/
inductive Destination where
  | uplink (i : Fin NTRIP_UPLINK_COUNT)
  | caster
  deriving DecidableEq, Fintype

/-- In the order in which they are counted and sent to. -/
def destinations : List Destination := [.uplink 0, .uplink 1, .caster]

def firstUplink : Destination := .uplink 0

/-- A queue handle with the queue it points to. Between `vQueueDelete` and the
assignment of NULL the handle points to freed memory. -/
inductive QueueHandle where
  | null
  | queue (entries : List FramePtr)
  | deleted
  deriving DecidableEq

/-- `handle != NULL`. -/
def QueueHandle.active : QueueHandle → Bool
  | .null => false
  | .queue _ => true
  | .deleted => true

def QueueHandle.entries : QueueHandle → List FramePtr
  | .queue entries => entries
  | _ => []

/-- How far the GNSS reader task is in `publish_rtcm_frame`. The lists are the
destinations that `ntrip_client_active_count` and `ntrip_caster_active_count`,
or `ntrip_client_publish` and `ntrip_caster_publish`, have not come to yet. -/
inductive PublishPhase where
  | idle
  | activeCount (frame : RtcmFrame) (refs : Nat) (todo : List Destination)
  | pool_alloc (frame : RtcmFrame) (refs : Nat) (i : Nat)
  | poolAllocStore (frame : RtcmFrame) (refs : Nat) (f : FramePtr)
  | memcpy (frame : RtcmFrame) (refs : Nat) (f : FramePtr)
  | setLen (frame : RtcmFrame) (refs : Nat) (f : FramePtr)
  | pool_set_refs (frame : RtcmFrame) (refs : Nat) (f : FramePtr)
  | publish (frame : RtcmFrame) (refs : Nat) (f : FramePtr) (offered : Nat)
      (todo : List Destination)
  | xQueueSend (frame : RtcmFrame) (refs : Nat) (f : FramePtr) (offered : Nat)
      (k : Destination) (todo : List Destination)
  | queueDrop (frame : RtcmFrame) (refs : Nat) (f : FramePtr) (offered : Nat)
      (k : Destination) (todo : List Destination)
  /-- `xQueueSend` was called on NULL or on a deleted queue. -/
  | fault

/-- How far `app_main` is in `ntrip_client_init` and `ntrip_caster_init`. -/
inductive InitPhase where
  | xQueueCreate (k : Destination)
  | xTaskCreate (k : Destination)
  | vQueueDelete
  | clearHandle
  | done
  deriving DecidableEq

structure Pipeline where
  s_pool : Pool
  handle : Destination → QueueHandle
  /-- The consumer task of the queue has been created. -/
  task : Destination → Bool
  /-- The frame a consumer has dequeued and not released. -/
  held : Destination → Option FramePtr
  queue_drops : Destination → UInt32
  publishing : PublishPhase
  starting : InitPhase
  /-- The destinations the call of `publish_rtcm_frame` under way has counted. -/
  counted : List Destination
  /-- The handle was written by an init function since it was last counted. -/
  rewritten : Destination → Bool
  /-- The frames of the calls of `publish_rtcm_frame` that have returned. -/
  published : List (List UInt8)
  /-- For each frame sent out, the argument of `pool_set_refs` and the number
  of queues it was offered to. -/
  offers : List (Nat × Nat)
  /-- The frames read by each consumer, at the time it dequeued them. -/
  received : Destination → List (List UInt8)
  /-- How often `pool_alloc` has returned NULL. -/
  pool_exhausted : Nat

namespace Pipeline

/-- `publish_rtcm_frame` returns. -/
def publishReturn (s : Pipeline) (frame : RtcmFrame) : Pipeline :=
  { s with publishing := .idle, published := s.published ++ [frame.data] }

/-- The next atomic step of `publish_rtcm_frame`. -/
def publishStep (s : Pipeline) : Option Pipeline :=
  match s.publishing with
  | .idle => none
  | .activeCount frame refs (k :: todo) =>
    if (s.handle k).active then
      some { s with
        publishing := .activeCount frame (refs + 1) todo
        counted := s.counted ++ [k]
        rewritten := Function.update s.rewritten k false }
    else
      some { s with
        publishing := .activeCount frame refs todo
        rewritten := Function.update s.rewritten k false }
  | .activeCount frame refs [] =>
    if refs = 0 then some (s.publishReturn frame)
    else some { s with publishing := .pool_alloc frame refs 0 }
  | .pool_alloc frame refs i =>
    if h : i < FRAME_POOL_SIZE then
      if (s.s_pool ⟨i, h⟩).ref_count = 0 then
        some { s with publishing := .poolAllocStore frame refs ⟨i, h⟩ }
      else some { s with publishing := .pool_alloc frame refs (i + 1) }
    else some { s.publishReturn frame with pool_exhausted := s.pool_exhausted + 1 }
  | .poolAllocStore frame refs f =>
    some { s with
      s_pool := pool_set_refs s.s_pool f 1
      publishing := .memcpy frame refs f }
  | .memcpy frame refs f =>
    some { s with
      s_pool := poolMemcpy s.s_pool f frame.data
      publishing := .setLen frame refs f }
  | .setLen frame refs f =>
    some { s with
      s_pool := poolSetLen s.s_pool f frame
      publishing := .pool_set_refs frame refs f }
  | .pool_set_refs frame refs f =>
    some { s with
      s_pool := pool_set_refs s.s_pool f refs
      publishing := .publish frame refs f 0 destinations }
  | .publish frame refs f offered (k :: todo) =>
    if (s.handle k).active then
      some { s with publishing := .xQueueSend frame refs f offered k todo }
    else some { s with publishing := .publish frame refs f offered todo }
  | .publish frame refs _ offered [] =>
    some { s.publishReturn frame with offers := s.offers ++ [(refs, offered)] }
  | .xQueueSend frame refs f offered k todo =>
    match s.handle k with
    | .queue entries =>
      if entries.length < FRAME_QUEUE_DEPTH then
        some { s with
          handle := Function.update s.handle k (.queue (entries ++ [f]))
          publishing := .publish frame refs f (offered + 1) todo }
      else some { s with publishing := .queueDrop frame refs f (offered + 1) k todo }
    | _ => some { s with publishing := .fault }
  | .queueDrop frame refs f offered k todo =>
    some { s with
      queue_drops := Function.update s.queue_drops k (s.queue_drops k + 1)
      s_pool := pool_release s.s_pool f
      publishing := .publish frame refs f offered todo }
  | .fault => none

/-- The consumer of `k` takes the next frame off its queue. -/
def xQueueReceive (s : Pipeline) (k : Destination) : Option Pipeline :=
  match s.task k, s.held k, s.handle k with
  | true, none, .queue (f :: rest) =>
    some { s with
      handle := Function.update s.handle k (.queue rest)
      held := Function.update s.held k (some f)
      received := Function.update s.received k (s.received k ++ [(s.s_pool f).bytes]) }
  | _, _, _ => none

/-- The consumer of `k` is done with its frame. -/
def consumerRelease (s : Pipeline) (k : Destination) : Option Pipeline :=
  match s.held k with
  | some f =>
    some { s with
      s_pool := pool_release s.s_pool f
      held := Function.update s.held k none }
  | none => none

/-- The init functions go on to the next destination. -/
def nextInit : Destination → InitPhase
  | .uplink i => if i = 0 then .xQueueCreate (.uplink 1) else .xQueueCreate .caster
  | .caster => .done

def writeHandle (s : Pipeline) (k : Destination) (h : QueueHandle) : Pipeline :=
  { s with
    handle := Function.update s.handle k h
    rewritten := Function.update s.rewritten k true }

/-- The next step of `ntrip_client_init` and `ntrip_caster_init`. Where a
service can be disabled or a creation can fail, `created` tells what happens.
The `memset` at the start of `ntrip_uplink_start` is left out: it writes NULL
over a handle that is NULL. -/
def initStep (s : Pipeline) (created : Bool) : Option Pipeline :=
  match s.starting with
  | .xQueueCreate k =>
    if created then some { s.writeHandle k (.queue []) with starting := .xTaskCreate k }
    else some { s with starting := nextInit k }
  | .xTaskCreate k =>
    if created then
      some { s with task := Function.update s.task k true, starting := nextInit k }
    else
      match k with
      | .uplink _ => some { s with starting := nextInit k }
      | .caster => some { s with starting := .vQueueDelete }
  | .vQueueDelete => some { s.writeHandle .caster .deleted with starting := .clearHandle }
  | .clearHandle => some { s.writeHandle .caster .null with starting := .done }
  | .done => none

end Pipeline

inductive PoolAction where
  | publish_rtcm_frame (frame : RtcmFrame)
  | publishStep
  | xQueueReceive (k : Destination)
  | pool_release (k : Destination)
  | initStep (created : Bool)

/-- One atomic step of the GNSS reader, of a consumer task or of `app_main`. -/
def step (s : Pipeline) : PoolAction → Option Pipeline
  | .publish_rtcm_frame frame =>
    match s.publishing with
    | .idle => some { s with publishing := .activeCount frame 0 destinations, counted := [] }
    | _ => none
  | .publishStep => s.publishStep
  | .xQueueReceive k => s.xQueueReceive k
  | .pool_release k => s.consumerRelease k
  | .initStep created => s.initStep created

/-- The state `pool_init` leaves, before any queue exists. -/
def booted (s_pool : Pool) : Pipeline where
  s_pool := pool_init s_pool
  handle := fun _ => .null
  task := fun _ => false
  held := fun _ => none
  queue_drops := fun _ => 0
  publishing := .idle
  starting := .xQueueCreate (.uplink 0)
  counted := []
  rewritten := fun _ => false
  published := []
  offers := []
  received := fun _ => []
  pool_exhausted := 0

/-- The same with the init functions finished: the queues of `active` exist,
and the tasks of `running` were created. -/
def started (s_pool : Pool) (active running : Destination → Bool) : Pipeline :=
  { booted s_pool with
    handle := fun k => if active k then .queue [] else .null
    task := running
    starting := .done }

end rtkbase.frame_pool
