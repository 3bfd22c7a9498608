import RTKBase.Firmware.Steps
import RTKBase.GnssUart.EventLoopRun

namespace rtkbase.firmware

open lib.lts lib.scan frame_pool gnss_uart
open ntrip_caster (SendResult serverStep ServerAction ServerPhase)
open ntrip_client (Uplink QueuedFrame UplinkAction UplinkStep)
open tcp_server (raw_frame_t tcpStep)

/-- The frame of the call of `publish_rtcm_frame` under way. -/
def inProgress : PublishPhase → List (List UInt8)
  | .activeCount frame _ _ | .pool_alloc frame _ _ | .poolAllocStore frame _ _
  | .memcpy frame _ _ | .setLen frame _ _ | .pool_set_refs frame _ _ | .publish frame _ _ _ _
  | .xQueueSend frame _ _ _ _ _ | .queueDrop frame _ _ _ _ _ => [frame.data]
  | .idle | .fault => []

/-- The frame that the forwarding loop is working on. -/
def inHand : ServerPhase → List (List UInt8)
  | .sending frame _ => [frame.data]
  | _ => []

/-- What the caster's task holds of the pool: behind the forwarding loop the frame
may not be released yet. -/
def Holds (held : Option FramePtr) : ServerPhase → Prop
  | .sending _ _ => held.isSome
  | .forward => True
  | _ => held = none

/-- An uplink works on the frame it has last dequeued and not released. -/
structure UplinkCoupled (p : Pipeline) (k : Destination) (u : Uplink) : Prop where
  held : (p.held k).toList = u.phase.held.map (·.f)
  received : u.dequeued.map (·.data) = p.received k
  last : ∀ f ∈ u.phase.held, u.dequeued.getLast? = some f

structure CasterCoupled (p : Pipeline) (c : ntrip_caster.Server) : Prop where
  held : Holds (p.held .caster) c.phase
  received : c.forwarded ++ inHand c.phase = p.received .caster

/-- What the components know of each other. -/
structure Coupled (s : Firmware) : Prop where
  published : s.pipeline.published ++ inProgress s.pipeline.publishing =
    gnss_uart.published s.reader.events
  posted : s.tcp.posted.map (·.frame) = s.reader.posted
  uplinks : ∀ i, UplinkCoupled s.pipeline (.uplink i) (s.uplinks i)
  caster : CasterCoupled s.pipeline s.caster

section Reader

variable {r r' : GnssReader}

/-- A turn publishes at most one frame. -/
theorem processStep_published {data : List UInt8} {locals locals' : ProcessLocals UInt8}
    {s s' : splitter_t UInt8} {events : List (Event UInt8)} (hvalid : s.Valid)
    (hstep : processStep data locals s = some (locals', s', events)) :
    published events = (published events).head?.toList := by
  have hspec := processStep_spec hvalid data locals
  rw [hstep] at hspec
  cases hspec with
  | resume => rfl
  | read _ _ _ hpublished =>
    rw [hpublished]
    unfold advance
    split <;> rfl

/-- What a step of the reader hands on. -/
theorem loopStep_outputs {a : LoopAction} (hvalid : r.splitter.Valid)
    (hstep : loopStep r a = some r') :
    r'.posted = r.posted ++ (posts r).toList ∧
      published r'.events = published r.events ++ (publishes r).toList := by
  cases loopStep_cases hstep with
  | data hphase => simp [posts, publishes, hphase, GnssReader.events]
  | reset hphase => simp [posts, publishes, hphase, GnssReader.events, GnssReader.reset]
  | logged hphase => simp [posts, publishes, hphase]
  | nothingRead hphase => simp [posts, publishes, hphase, GnssReader.events]
  | read hphase => simp [posts, publishes, hphase, GnssReader.events]
  | posted hphase => simp [posts, publishes, hphase, GnssReader.events]
  | console hphase => simp [posts, publishes, hphase, GnssReader.events]
  | returned hphase hprocess => simp [posts, publishes, hphase, hprocess, GnssReader.events]
  | turn hphase hprocess =>
    have hone := processStep_published hvalid hprocess
    simp only [posts, publishes, hphase, hprocess]
    rw [← hone]
    simp [GnssReader.events, published]

theorem posts_of_publishes {data : List UInt8} (hpublishes : publishes r = some data) :
    posts r = none := by
  unfold publishes at hpublishes
  unfold posts
  cases hphase : r.phase <;> simp_all

end Reader

section Tcp

variable {s s' : tcp_server.Server}

theorem sendingLoop_posted (s : tcp_server.Server) : s.sendingLoop.posted = s.posted := by
  unfold tcp_server.Server.sendingLoop
  split <;> rfl

theorem servePending_posted (s : tcp_server.Server) : s.servePending.posted = s.posted := by
  unfold tcp_server.Server.servePending
  split
  · exact sendingLoop_posted s
  · rfl

/-- Only the reader's calls post a chunk. -/
theorem tcpStep_posted {a : tcp_server.TcpAction} (hother : ∀ frame, a ≠ .post frame)
    (hstep : tcpStep s a = some s') : s'.posted = s.posted := by
  cases a with
  | task b =>
    cases tcp_server.Server.taskStep_cases hstep with
    | recvNothing => exact servePending_posted s
    | write => exact servePending_posted s
    | send => exact sendingLoop_posted _
    | fetchFrame => exact sendingLoop_posted _
    | _ => rfl
  | post frame => exact absurd rfl (hother frame)
  | posting =>
    obtain ⟨queue, posting, rfl⟩ := tcp_server.Server.postStep_frame hstep
    rfl
  | disconnectClient =>
    obtain ⟨requests, heq⟩ := s.disconnectClient_frame
    obtain rfl := Option.some.inj hstep
    rw [heq]
  | request i =>
    obtain ⟨flag, raised, requests, hits, rfl⟩ := tcp_server.Server.requestStep_frame hstep
    rfl

theorem tcpStep_post {raw_frame : raw_frame_t} (hstep : tcpStep s (.post raw_frame) = some s') :
    s'.posted = s.posted ++ [⟨s.posted.length, raw_frame⟩] := by
  simp only [tcpStep] at hstep
  split at hstep
  · cases hstep
    rfl
  · cases hstep

end Tcp

section Pipeline

variable {p p' : Pipeline} {k : Destination}

/-- The steps of `publish_rtcm_frame` leave to the consumers what is theirs. -/
theorem publishStep_consumers (hstep : p.publishStep = some p') :
    p'.held = p.held ∧ p'.received = p.received ∧ p'.task = p.task := by
  cases publishStep_cases hstep <;> exact ⟨rfl, rfl, rfl⟩

theorem publishStep_published (hstep : p.publishStep = some p')
    (hfault : p'.publishing ≠ .fault) :
    p'.published ++ inProgress p'.publishing = p.published ++ inProgress p.publishing := by
  cases publishStep_cases hstep with
  | noConsumer hphase => simp [Pipeline.publishReturn, inProgress, hphase]
  | allocExhausted _ hphase => simp [Pipeline.publishReturn, inProgress, hphase]
  | sent hphase => simp [Pipeline.publishReturn, inProgress, hphase]
  | fault => exact absurd rfl hfault
  | countActive hphase => simp [inProgress, hphase]
  | countNull hphase => simp [inProgress, hphase]
  | counted hphase => simp [inProgress, hphase]
  | allocFree _ hphase => simp [inProgress, hphase]
  | allocBusy _ hphase => simp [inProgress, hphase]
  | allocStore hphase => simp [inProgress, hphase]
  | memcpy hphase => simp [inProgress, hphase]
  | setLen hphase => simp [inProgress, hphase]
  | setRefs hphase => simp [inProgress, hphase]
  | sendActive hphase => simp [inProgress, hphase]
  | sendNull hphase => simp [inProgress, hphase]
  | enqueue hphase => simp [inProgress, hphase]
  | full hphase => simp [inProgress, hphase]
  | drop hphase => simp [inProgress, hphase]

theorem publish_rtcm_frame_step {frame : RtcmFrame}
    (hstep : frame_pool.step p (.publish_rtcm_frame frame) = some p') :
    p.publishing = .idle ∧
      p' = { p with publishing := .activeCount frame 0 destinations, counted := [] } := by
  simp only [frame_pool.step] at hstep
  split at hstep
  case h_1 hidle => exact ⟨hidle, (Option.some.inj hstep).symm⟩
  case h_2 => cases hstep

end Pipeline

section Uplink

variable {u u' : Uplink}

theorem uplink_frameless {a : UplinkAction} (ha : FramelessUplink a)
    (hstep : ntrip_client.uplinkStep u a = some u') :
    u.phase.held = [] ∧ u'.phase.held = [] ∧ u'.dequeued = u.dequeued := by
  have hclose : (ntrip_client.uplink_close_socket u).dequeued = u.dequeued := by
    unfold ntrip_client.uplink_close_socket
    split <;> rfl
  cases ntrip_client.uplinkStep_cases hstep with
  | notConnected hphase => exact ⟨by rw [hphase]; rfl, by rw [hphase]; rfl, rfl⟩
  | connected hphase => exact ⟨by rw [hphase]; rfl, rfl, rfl⟩
  | queueEmpty hphase => exact ⟨by rw [hphase]; rfl, rfl, rfl⟩
  | dequeued => exact absurd ha id
  | sending => exact absurd ha id
  | released => exact absurd ha id
  | peeked hphase => exact ⟨by rw [hphase]; rfl, rfl, rfl⟩
  | lost hphase => exact ⟨by rw [hphase]; rfl, rfl, hclose⟩

theorem uplink_takes {f : QueuedFrame}
    (hstep : ntrip_client.uplinkStep u (.xQueueReceive (some f)) = some u') :
    u.phase.held = [] ∧ u'.phase.held = [f] ∧ u'.dequeued = u.dequeued ++ [f] := by
  cases ntrip_client.uplinkStep_cases hstep with
  | dequeued hphase =>
    exact ⟨by rw [hphase]; rfl, ntrip_client.sendingLoop_held f 0, rfl⟩

theorem uplink_sends {result : SendResult}
    (hstep : ntrip_client.uplinkStep u (.send result) = some u') :
    u'.phase.held = u.phase.held ∧ u'.dequeued = u.dequeued := by
  cases ntrip_client.uplinkStep_cases hstep with
  | @sending f ptr retries _ _ hphase hsend =>
    have hheld : u.phase.held = [f] := by rw [hphase]; rfl
    rw [hheld]
    cases ntrip_client.sendStep_cases hsend with
    | sent => exact ⟨ntrip_client.sendingLoop_held f _, rfl⟩
    | again => exact ⟨rfl, rfl⟩
    | failed =>
      refine ⟨rfl, ?_⟩
      change (ntrip_client.uplink_close_socket u).dequeued = u.dequeued
      unfold ntrip_client.uplink_close_socket
      split <;> rfl

theorem uplink_releases (hstep : ntrip_client.uplinkStep u .pool_release = some u') :
    u'.phase.held = [] ∧ u'.dequeued = u.dequeued := by
  cases ntrip_client.uplinkStep_cases hstep with
  | released =>
    refine ⟨?_, rfl⟩
    change ntrip_client.UplinkPhase.held (if 0 ≤ u.sock then .peek else .connect) = []
    split <;> rfl

variable {p p' : Pipeline} {k : Destination}

theorem UplinkCoupled.congr (hcoupled : UplinkCoupled p k u) (hheld : p'.held k = p.held k)
    (hreceived : p'.received k = p.received k) : UplinkCoupled p' k u := by
  refine ⟨?_, ?_, hcoupled.last⟩
  · rw [hheld]
    exact hcoupled.held
  · rw [hreceived]
    exact hcoupled.received

/-- What an uplink dequeued is what it finds in the slot as long as it holds it. -/
theorem UplinkCoupled.slot_bytes (hcoupled : UplinkCoupled p k u)
    (hheld : ∀ f, p.held k = some f → (p.received k).getLast? = some (p.s_pool f).bytes)
    {f : QueuedFrame} (hf : f ∈ u.phase.held) : (p.s_pool f.f).bytes = f.data := by
  have hslot : f.f ∈ (p.held k).toList := by
    rw [hcoupled.held]
    exact List.mem_map_of_mem hf
  have hlast := hheld f.f (Option.mem_toList.mp hslot)
  rw [← hcoupled.received, List.getLast?_map, hcoupled.last f hf] at hlast
  exact (Option.some.inj hlast).symm

theorem take_bytes_length (slot : pool_frame_t) :
    slot.data.toList.take slot.bytes.length = slot.bytes := by
  have hlen : slot.bytes.length = slot.len := by
    simp only [pool_frame_t.bytes, List.length_take, Vector.length_toList]
    exact Nat.min_eq_left slot.len_le
  rw [hlen, pool_frame_t.bytes]

/-- Reading the slot in place makes no difference. -/
theorem UplinkCoupled.reread (hcoupled : UplinkCoupled p k u)
    (hheld : ∀ f, p.held k = some f → (p.received k).getLast? = some (p.s_pool f).bytes) :
    reread p.s_pool u = u := by
  unfold firmware.reread
  split
  case h_1 f ptr retries hphase =>
    have hbytes := hcoupled.slot_bytes hheld (f := f) (by rw [hphase]; exact List.mem_singleton_self f)
    rw [← hbytes, take_bytes_length, hbytes, ← hphase]
  case h_2 => rfl

end Uplink

section Caster

variable {s_cfg : ntrip_caster.caster_config_t}
  {mbedtls_base64_decode : List UInt8 → Option (List UInt8)} {c c' : ntrip_caster.Server}

theorem afterService_frameless (i : Fin ntrip_caster.MAX_ROVERS) :
    inHand (ntrip_caster.afterService i) = [] ∧
      ∀ held, held = none → Holds held (ntrip_caster.afterService i) := by
  unfold ntrip_caster.afterService
  split
  · exact ⟨rfl, fun held hnone => hnone⟩
  · exact ⟨rfl, fun held _ => trivial⟩

/-- Without a frame in hand the task stays so, and only behind the forwarding loop
does it hold one. -/
theorem caster_frameless {a : ServerAction} (ha : FramelessCaster a)
    (hstep : serverStep s_cfg mbedtls_base64_decode c a = some c') :
    inHand c.phase = [] ∧ inHand c'.phase = [] ∧ c'.forwarded = c.forwarded ∧
      ∀ held, Holds held c.phase → (a = .queueEmpty → held = none) → Holds held c'.phase := by
  unfold serverStep at hstep
  split at hstep
  case h_1 hphase =>
    cases hstep
    refine ⟨by rw [hphase]; rfl, rfl, rfl, fun held hheld _ => ?_⟩
    rw [hphase] at hheld
    exact hheld
  case h_2 new_fd results hphase =>
    have hshape : c'.phase = .service 0 ∧ c'.forwarded = c.forwarded := by
      have hcases : ntrip_caster.ServerStep s_cfg mbedtls_base64_decode c c' :=
        ntrip_caster.acceptClient_cases hphase hstep
      cases hcases <;> simp_all
    refine ⟨by rw [hphase]; rfl, by rw [hshape.1]; rfl, hshape.2, fun held hheld _ => ?_⟩
    rw [hphase] at hheld
    rw [hshape.1]
    exact hheld
  case h_3 i hphase =>
    cases hstep
    refine ⟨by rw [hphase]; rfl, (afterService_frameless i).1, rfl, fun held hheld _ => ?_⟩
    rw [hphase] at hheld
    exact (afterService_frameless i).2 held hheld
  case h_4 i received results hphase =>
    split at hstep
    case h_1 => cases hstep
    case h_2 =>
      cases hstep
      refine ⟨by rw [hphase]; rfl, (afterService_frameless i).1, rfl, fun held hheld _ => ?_⟩
      rw [hphase] at hheld
      exact (afterService_frameless i).2 held hheld
  case h_5 => exact absurd ha id
  case h_6 hphase =>
    cases hstep
    exact ⟨by rw [hphase]; rfl, rfl, rfl, fun held _ hnone => hnone rfl⟩
  case h_7 => exact absurd ha id
  case h_8 => cases hstep

theorem caster_takes {frame : RtcmFrame}
    (hstep : serverStep s_cfg mbedtls_base64_decode c (.dequeue frame) = some c') :
    inHand c.phase = [] ∧ c' = { c with phase := .sending frame 0 } := by
  cases hphase : c.phase with
  | forward =>
    simp only [serverStep, hphase] at hstep
    exact ⟨rfl, (Option.some.inj hstep).symm⟩
  | accept => simp [serverStep, hphase] at hstep
  | service i => simp [serverStep, hphase] at hstep
  | sending frame i => simp [serverStep, hphase] at hstep

theorem caster_sends {frame : RtcmFrame} {i : Fin ntrip_caster.MAX_ROVERS}
    {results : List SendResult} (hphase : c.phase = .sending frame i)
    (hstep : serverStep s_cfg mbedtls_base64_decode c (.send results) = some c') :
    c'.forwarded ++ inHand c'.phase = c.forwarded ++ inHand c.phase ∧
      ∀ held, Holds held c.phase → Holds held c'.phase := by
  unfold serverStep at hstep
  simp only [hphase] at hstep
  split at hstep
  case h_1 => cases hstep
  case h_2 slot _ =>
    cases hstep
    rw [hphase]
    unfold ntrip_caster.Server.afterSend
    split
    case isTrue => exact ⟨rfl, fun held hheld => hheld⟩
    case isFalse => exact ⟨by simp [inHand, ntrip_caster.Server.setSlot], fun held _ => trivial⟩

end Caster

end rtkbase.firmware
