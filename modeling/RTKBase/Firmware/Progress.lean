import RTKBase.Firmware.Streams
import RTKBase.TcpServer.WaitFree

namespace rtkbase.firmware

open lib.lts frame_pool gnss_uart
open ntrip_caster (caster_config_t rover_conn_t Socket serverStep ServerAction openCaster)
open ntrip_client (UplinkAction)

/-- The call of `task_ntrip_uplink` behind a step of its own model. -/
def UplinkCall.of : UplinkAction → UplinkCall
  | .ntrip_connect result => .ntrip_connect result
  | .xQueueReceive _ => .xQueueReceive
  | .send result => .send result
  | .pool_release => .pool_release
  | .recv result => .recv result

/-- The call of `task_ntrip_server` behind a step of its own model. -/
def CasterCall.of : ServerAction → CasterCall
  | .noClient => .noClient
  | .accept new_fd results => .accept new_fd results
  | .notReady => .notReady
  | .service received results => .service received results
  | .dequeue _ => .xQueueReceive
  | .queueEmpty => .xQueueReceive
  | .send results => .send results

section

variable (s_cfg : caster_config_t) (mbedtls_base64_decode : List UInt8 → Option (List UInt8))

/-- The action is possible. -/
def Firmware.Can (s : Firmware) (a : FirmwareAction) : Prop :=
  (firmwareStep s_cfg mbedtls_base64_decode s a).isSome

/-- No task waits for another one: the reader can go on whenever its calls have
returned, and these can always take their next step, `post_raw_gnss_data_tcp` as
long as the TCP server's task has not stopped; the TCP server's task, the uplinks
and the caster can do in the firmware what they could do alone, the caster after it
has released the frame that it is done with. -/
structure Unhindered (s : Firmware) : Prop where
  reader : s.tcp.posting = .idle → s.pipeline.publishing = .idle →
    ∀ a, (loopStep s.reader a).isSome → s.Can s_cfg mbedtls_base64_decode (.task_gnss_reader a)
  posting : s.tcp.phase ≠ .stopped → s.tcp.posting ≠ .idle →
    s.Can s_cfg mbedtls_base64_decode .posting
  publishing : s.pipeline.publishing ≠ .idle → s.Can s_cfg mbedtls_base64_decode .publishStep
  server : ∀ a, (s.tcp.taskStep a).isSome → s.Can s_cfg mbedtls_base64_decode (.task_tcp_server a)
  uplink : ∀ i, s.pipeline.task (.uplink i) = true → ∀ a,
    (ntrip_client.uplinkStep (s.uplinks i) a).isSome →
      s.Can s_cfg mbedtls_base64_decode (.task_ntrip_uplink i (.of a))
  caster : s.pipeline.task .caster = true → ∀ a,
    (serverStep s_cfg mbedtls_base64_decode s.caster a).isSome →
      s.Can s_cfg mbedtls_base64_decode (.task_ntrip_server (.of a)) ∨
        ∃ s', firmwareStep s_cfg mbedtls_base64_decode s (.task_ntrip_server .pool_release) =
          some s' ∧ s'.Can s_cfg mbedtls_base64_decode (.task_ntrip_server (.of a))

end

variable {s_cfg : caster_config_t} {mbedtls_base64_decode : List UInt8 → Option (List UInt8)}
  {s₀ : splitter_t UInt8} {s_pool : Pool} {active running : Destination → Bool}
  {s_rovers : Fin ntrip_caster.MAX_ROVERS → rover_conn_t} {sockets : Int → Socket} {s : Firmware}

/-- Where the caster's task is when it asks for the next frame. -/
theorem serverStep_forward {c c' : ntrip_caster.Server} {a : ServerAction}
    (ha : a = .queueEmpty ∨ ∃ frame, a = .dequeue frame)
    (hstep : serverStep s_cfg mbedtls_base64_decode c a = some c') : c.phase = .forward := by
  obtain rfl | ⟨frame, rfl⟩ := ha <;> cases hphase : c.phase <;> simp_all [serverStep]

theorem serverStep_sending {c c' : ntrip_caster.Server} {results : List ntrip_caster.SendResult}
    (hstep : serverStep s_cfg mbedtls_base64_decode c (.send results) = some c') :
    ∃ frame i, c.phase = .sending frame i := by
  cases hphase : c.phase <;> simp_all [serverStep]

theorem frameOf_isSome {bytes : List UInt8} (hframe : RtcmFrame bytes) :
    (frameOf bytes).isSome := by
  obtain ⟨hlow, hhigh⟩ := hframe.length_bounds
  rw [frameOf, dif_pos ⟨by omega, hhigh⟩]
  rfl

section Runs

variable (hreach : Reach (firmwareStep s_cfg mbedtls_base64_decode) Anywhere
  (firmwareStart s₀ s_pool active running s_rovers sockets) s)

include hreach

/-- What the reader is about to publish is a frame, so that it fits a slot. -/
theorem publishes_rtcmFrame {a : LoopAction} {reader : GnssReader}
    (hstep : loopStep s.reader a = some reader) {data : List UInt8}
    (hpublishes : publishes s.reader = some data) : RtcmFrame data := by
  have hnext : Reach loopStep Anywhere (gnssReaderStart s₀) reader :=
    (firmware_reader hreach).next trivial hstep
  apply published_rtcmFrame hnext
  rw [(loopStep_outputs (firmware_known hreach).valid hstep).2, hpublishes]
  simp

theorem reader_unhindered (hposting : s.tcp.posting = .idle)
    (hpublishing : s.pipeline.publishing = .idle) {a : LoopAction}
    (hable : (loopStep s.reader a).isSome) :
    s.Can s_cfg mbedtls_base64_decode (.task_gnss_reader a) := by
  obtain ⟨reader, hreader⟩ := Option.isSome_iff_exists.mp hable
  simp only [Firmware.Can, firmwareStep, Firmware.readerStep, hposting, hpublishing, hreader]
  split
  case h_1 => rfl
  case h_2 => simp [tcp_server.tcpStep, hposting]
  case h_3 data hposts hpublishes =>
    have hframe := publishes_rtcmFrame hreach hreader hpublishes
    obtain ⟨frame, hframe⟩ := Option.isSome_iff_exists.mp (frameOf_isSome hframe)
    simp [hframe, frame_pool.step, hpublishing]

theorem posting_unhindered (hrunning : s.tcp.phase ≠ .stopped) (hposting : s.tcp.posting ≠ .idle) :
    s.Can s_cfg mbedtls_base64_decode .posting := by
  have hqueueing := tcp_server.server_queueing (firmware_tcp hreach)
  have hable := tcp_server.postStep_enabled hposting fun hnone => hrunning (hqueueing hnone)
  simpa [Firmware.Can, firmwareStep, Firmware.tcpAlone, tcp_server.tcpStep] using hable

/-- A frame that waits in a queue is one the splitter published. -/
theorem waiting_rtcmFrame {k : Destination} {f : FramePtr}
    (hwaiting : f ∈ (s.pipeline.handle k).entries) : RtcmFrame (s.pipeline.s_pool f).bytes := by
  have hactive : active k = true := by
    cases hactive : active k with
    | true => rfl
    | false =>
      rw [(firmware_known hreach).steady.null k hactive] at hwaiting
      cases hwaiting
  apply accepted_rtcmFrame hreach hactive
  exact List.mem_append_right _ (List.mem_map_of_mem hwaiting)

theorem uplink_unhindered {i : Fin NTRIP_UPLINK_COUNT}
    (htask : s.pipeline.task (.uplink i) = true) {a : UplinkAction}
    (hable : (ntrip_client.uplinkStep (s.uplinks i) a).isSome) :
    s.Can s_cfg mbedtls_base64_decode (.task_ntrip_uplink i (.of a)) := by
  have hknown := firmware_known hreach
  have hcoupled := firmware_coupled hreach
  have hheld := (hcoupled.uplinks i).held
  obtain ⟨u, hu⟩ := Option.isSome_iff_exists.mp hable
  simp only [Firmware.Can, firmwareStep, htask, if_true]
  cases a with
  | ntrip_connect result => simp [UplinkCall.of, Firmware.uplinkStep, Firmware.uplinkAlone, hu]
  | xQueueReceive entry =>
    have hphase : (s.uplinks i).phase = .receive := by
      cases ntrip_client.uplinkStep_cases hu <;> assumption
    rw [hphase] at hheld
    have hnone : s.pipeline.held (.uplink i) = none := Option.toList_eq_nil_iff.mp hheld
    simp only [UplinkCall.of, Firmware.uplinkStep]
    split
    case h_1 => simp [Firmware.uplinkAlone, ntrip_client.uplinkStep, hphase]
    case h_2 f rest hentries =>
      have hqueue : s.pipeline.handle (.uplink i) = .queue (f :: rest) := by
        cases hhandle : s.pipeline.handle (.uplink i) <;> simp_all [QueueHandle.entries]
      simp [Pipeline.xQueueReceive, htask, hnone, hqueue, Firmware.uplinkAlone,
        ntrip_client.uplinkStep, hphase]
  | send result =>
    simp [UplinkCall.of, Firmware.uplinkStep, hcoupled.uplink_slot hknown, hu]
  | pool_release =>
    obtain ⟨f, hphase⟩ : ∃ f, (s.uplinks i).phase = .release f := by
      cases ntrip_client.uplinkStep_cases hu with
      | released hphase => exact ⟨_, hphase⟩
    rw [hphase] at hheld
    have hsome : s.pipeline.held (.uplink i) = some f.f :=
      Option.mem_toList.mp (by rw [hheld]; exact List.mem_singleton_self _)
    simp [UplinkCall.of, Firmware.uplinkStep, Pipeline.consumerRelease, hsome,
      Firmware.uplinkAlone, hu]
  | recv result => simp [UplinkCall.of, Firmware.uplinkStep, Firmware.uplinkAlone, hu]

/-- Between two frames the caster's task can ask its queue for the next one. -/
theorem casterReceive_unhindered (htask : s.pipeline.task .caster = true)
    (hheld : s.pipeline.held .caster = none) (hphase : s.caster.phase = .forward) :
    s.Can s_cfg mbedtls_base64_decode (.task_ntrip_server .xQueueReceive) := by
  simp only [Firmware.Can, firmwareStep, htask, if_true, Firmware.casterStep, hheld]
  split
  case h_1 heq => cases heq
  case h_2 => simp [Firmware.casterAlone, serverStep, hphase]
  case h_3 f rest _ hentries =>
    have hframe : RtcmFrame (s.pipeline.s_pool f).bytes :=
      waiting_rtcmFrame hreach (k := .caster) (by rw [hentries]; exact List.mem_cons_self)
    obtain ⟨frame, hframe⟩ := Option.isSome_iff_exists.mp (frameOf_isSome hframe)
    have hqueue : s.pipeline.handle .caster = .queue (f :: rest) := by
      cases hhandle : s.pipeline.handle .caster <;> simp_all [QueueHandle.entries]
    simp [hframe, Pipeline.xQueueReceive, htask, hheld, hqueue, Firmware.casterAlone,
      serverStep, hphase]

/-- With a frame in its hands it can release it first. -/
theorem caster_forward_unhindered (htask : s.pipeline.task .caster = true)
    (hphase : s.caster.phase = .forward) :
    s.Can s_cfg mbedtls_base64_decode (.task_ntrip_server .xQueueReceive) ∨
      ∃ s', firmwareStep s_cfg mbedtls_base64_decode s (.task_ntrip_server .pool_release) =
        some s' ∧ s'.Can s_cfg mbedtls_base64_decode (.task_ntrip_server .xQueueReceive) := by
  cases hheld : s.pipeline.held .caster with
  | none => exact .inl (casterReceive_unhindered hreach htask hheld hphase)
  | some f =>
    have hstep : firmwareStep s_cfg mbedtls_base64_decode s (.task_ntrip_server .pool_release) =
        some { s with pipeline := { s.pipeline with
          s_pool := pool_release s.pipeline.s_pool f
          held := Function.update s.pipeline.held .caster none } } := by
      simp [firmwareStep, htask, Firmware.casterStep, hphase, Pipeline.consumerRelease, hheld]
    refine .inr ⟨_, hstep, ?_⟩
    exact casterReceive_unhindered (hreach.next trivial hstep) htask
        (Function.update_self Destination.caster none s.pipeline.held) hphase

theorem casterSend_unhindered (htask : s.pipeline.task .caster = true)
    {results : List ntrip_caster.SendResult}
    (hable : (serverStep s_cfg mbedtls_base64_decode s.caster (.send results)).isSome) :
    s.Can s_cfg mbedtls_base64_decode (.task_ntrip_server (.send results)) := by
  have hknown := firmware_known hreach
  have hcoupled := firmware_coupled hreach
  obtain ⟨c, hc⟩ := Option.isSome_iff_exists.mp hable
  obtain ⟨old, i, hphase⟩ := serverStep_sending hc
  have hholds := hcoupled.caster.held
  rw [hphase] at hholds
  obtain ⟨f, hheld⟩ := Option.isSome_iff_exists.mp hholds
  have hbytes := hcoupled.caster_slot hknown hphase hheld
  have hframe : frameOf (s.pipeline.s_pool f).bytes = some old := by
    rw [hbytes, frameOf, dif_pos ⟨old.len_pos, old.len_le⟩]
  have hsame := hcoupled.caster_reread hknown hphase hheld hbytes.symm
  simp [Firmware.Can, firmwareStep, htask, Firmware.casterStep, hphase, hheld, hframe,
    Firmware.casterAlone, hsame, hc]

theorem caster_unhindered (htask : s.pipeline.task .caster = true) {a : ServerAction}
    (hable : (serverStep s_cfg mbedtls_base64_decode s.caster a).isSome) :
    s.Can s_cfg mbedtls_base64_decode (.task_ntrip_server (.of a)) ∨
      ∃ s', firmwareStep s_cfg mbedtls_base64_decode s (.task_ntrip_server .pool_release) =
        some s' ∧ s'.Can s_cfg mbedtls_base64_decode (.task_ntrip_server (.of a)) := by
  obtain ⟨c, hc⟩ := Option.isSome_iff_exists.mp hable
  cases a with
  | dequeue frame =>
    exact caster_forward_unhindered hreach htask (serverStep_forward (.inr ⟨frame, rfl⟩) hc)
  | queueEmpty =>
    exact caster_forward_unhindered hreach htask (serverStep_forward (.inl rfl) hc)
  | send results => exact .inl (casterSend_unhindered hreach htask hable)
  | _ =>
    left
    simpa [Firmware.Can, firmwareStep, htask, Firmware.casterStep, Firmware.casterAlone,
      CasterCall.of] using hable

end Runs

/-- The tasks together are as free as each of them is alone: in every reachable
state no step that a task's own model can take is refused because of what the
others did, whatever the sockets answer; only a call of `post_raw_gnss_data_tcp` is
left without a step when the TCP server's task stops under it. A full queue, a full
pool or a frame that another consumer still works on keeps nobody waiting. -/
theorem firmware_unhindered
    (hreach : Reach (firmwareStep s_cfg mbedtls_base64_decode) Anywhere
      (firmwareStart s₀ s_pool active running s_rovers sockets) s) :
    Unhindered s_cfg mbedtls_base64_decode s where
  reader hposting hpublishing _ hable := reader_unhindered hreach hposting hpublishing hable
  posting hrunning hposting := posting_unhindered hreach hrunning hposting
  server _ hable := by
    simpa [Firmware.Can, firmwareStep, Firmware.tcpAlone, tcp_server.tcpStep] using hable
  publishing hidle := by
    have hfault := (firmware_known hreach).counted.publishing_ne_fault
    simpa [Firmware.Can, firmwareStep] using publishStep_enabled hidle hfault
  uplink _ htask _ hable := uplink_unhindered hreach htask hable
  caster htask _ hable := caster_unhindered hreach htask hable

theorem firmware_unhindered_of_delivery :
    ∃ s, delivered = some s ∧
      s.Can openCaster (fun _ => none) (.task_ntrip_uplink uplink0 (.send (.sent 2))) ∧
      (s.Can openCaster (fun _ => none) (.task_ntrip_server (.send [])) ∨
        ∃ s', firmwareStep openCaster (fun _ => none) s (.task_ntrip_server .pool_release) =
          some s' ∧ s'.Can openCaster (fun _ => none) (.task_ntrip_server (.send []))) := by
  have hrun : delivered.map (fun s => (s.pipeline.task (.uplink uplink0),
      s.pipeline.task .caster,
      (ntrip_client.uplinkStep (s.uplinks uplink0) (.send (.sent 2))).isSome,
      (serverStep openCaster (fun _ => none) s.caster (.send [])).isSome)) =
        some (true, true, true, true) := by
    decide +kernel
  obtain ⟨s, hs, heq⟩ := Option.map_eq_some_iff.mp hrun
  simp only [Prod.mk.injEq] at heq
  obtain ⟨htask, htask_caster, huplink, hcaster⟩ := heq
  have hunhindered := firmware_unhindered (Reach.refl.runs hs)
  exact ⟨s, hs, hunhindered.uplink _ htask _ huplink, hunhindered.caster htask_caster _ hcaster⟩

end rtkbase.firmware
