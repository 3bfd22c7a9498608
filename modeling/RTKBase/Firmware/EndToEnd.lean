import RTKBase.Firmware.Refinement
import RTKBase.FramePool.Room
import RTKBase.GnssUart.EventLoopFrames
import RTKBase.NtripCaster.FrameAlignment

namespace rtkbase.firmware

open lib.delivery lib.lts lib.session frame_pool gnss_uart
open ntrip_caster (caster_config_t rover_conn_t Socket serverStep FrameAligned)
open ntrip_client (uplinkStart QueuedFrame)
open tcp_server (tcpStep PostedFrame)

variable {s_cfg : caster_config_t} {mbedtls_base64_decode : List UInt8 → Option (List UInt8)}
  {s₀ : splitter_t UInt8} {s_pool : Pool} {active running : Destination → Bool}
  {s_rovers : Fin ntrip_caster.MAX_ROVERS → rover_conn_t} {sockets : Int → Socket} {s : Firmware}

section Runs

variable (hreach : Reach (firmwareStep s_cfg mbedtls_base64_decode) Anywhere
  (firmwareStart s₀ s_pool active running s_rovers sockets) s)

include hreach

theorem firmware_reader : Reach loopStep Anywhere (gnssReaderStart s₀) s.reader :=
  hreach.view Firmware.reader fun _ _ _ _ hstep =>
    firmwareStep_reader (firmwareStep_cases hstep)

theorem firmware_tcp : Reach tcpStep Anywhere tcp_server.listening s.tcp :=
  hreach.view Firmware.tcp fun _ _ _ _ hstep =>
    firmwareStep_tcp (firmwareStep_cases hstep)

theorem firmware_pipeline :
    Reach frame_pool.step Anywhere (started s_pool active running) s.pipeline :=
  hreach.view Firmware.pipeline fun _ _ _ _ hstep =>
    firmwareStep_pipeline (firmwareStep_cases hstep)

theorem firmware_known : Known active s := by
  have hpipeline := firmware_pipeline hreach
  obtain ⟨hcounted, hsteady, _⟩ := Pipeline.counted_of_started hpipeline
  exact ⟨hcounted, hsteady, Pipeline.delivering_of_started hpipeline,
    (gnssReader_sound (firmware_reader hreach)).valid⟩

theorem firmware_coupled : Coupled s := by
  apply hreach.invariant_of (K := Known active)
  · exact fun s hs => firmware_known hs
  · exact ⟨rfl, rfl, fun i => ⟨rfl, rfl, by simp [firmwareStart, uplinkStart,
      ntrip_client.UplinkPhase.held]⟩, ⟨rfl, rfl⟩⟩
  · exact fun s a s' hknown hknown' hcoupled _ hstep =>
      coupled_step hknown hknown' hcoupled (firmwareStep_cases hstep)

theorem firmware_uplink (i : Fin NTRIP_UPLINK_COUNT) :
    Reach ntrip_client.uplinkStep Anywhere uplinkStart (s.uplinks i) := by
  refine hreach.view_of (fun s => s.uplinks i) (K := fun s => Known active s ∧ Coupled s)
    (fun s hs => ⟨firmware_known hs, firmware_coupled hs⟩) fun s a s' hs _ hstep => ?_
  obtain ⟨hknown, hcoupled⟩ := hs
  have hset : ∀ {j u} {t : Firmware}, t.uplinks = s.uplinks →
      (∃ b, ntrip_client.uplinkStep (s.uplinks j) b = some u) →
      Reach ntrip_client.uplinkStep Anywhere (s.uplinks i) ((t.setUplink j u).uplinks i) := by
    rintro j u t hsame ⟨b, hu⟩
    by_cases hj : i = j
    · subst hj
      simpa [Firmware.setUplink] using Reach.single (show Anywhere _ _ from trivial) hu
    · simpa [Firmware.setUplink, hj, hsame] using Reach.refl
  cases firmwareStep_cases hstep with
  | uplink _ hu => exact hset rfl ⟨_, hu⟩
  | uplinkReceive _ _ hu => exact hset rfl ⟨_, hu⟩
  | uplinkSend hu =>
    rw [hcoupled.uplink_slot hknown] at hu
    exact hset rfl ⟨_, hu⟩
  | uplinkRelease _ hu => exact hset rfl ⟨_, hu⟩
  | _ => exact .refl

theorem firmware_caster :
    Reach (serverStep s_cfg mbedtls_base64_decode) Anywhere
      (ntrip_caster.listening s_rovers sockets) s.caster := by
  refine hreach.view_of Firmware.caster (K := fun s => Known active s ∧ Coupled s)
    (fun s hs => ⟨firmware_known hs, firmware_coupled hs⟩) fun s a s' hs _ hstep => ?_
  obtain ⟨hknown, hcoupled⟩ := hs
  cases firmwareStep_cases hstep with
  | caster _ _ hc => exact .single trivial hc
  | casterReceive _ _ _ hc => exact .single trivial hc
  | casterSend hphase hheld hframe hc =>
    rw [hcoupled.caster_reread hknown hphase hheld hframe] at hc
    exact .single trivial hc
  | _ => exact .refl

/-- What a queue has accepted are frames that the splitter published. -/
theorem accepted_sublist {k : Destination} (hactive : active k = true) :
    (s.pipeline.received k ++ s.pipeline.waiting k).Sublist (published s.reader.events) := by
  obtain ⟨dropped, _, hdelivered⟩ := (firmware_known hreach).delivering.ledger k hactive
  refine hdelivered.sublist.trans ?_
  rw [← (firmware_coupled hreach).published]
  refine (List.Sublist.refl _).append ?_
  cases s.pipeline.publishing <;> simp only [PublishPhase.dealt, inProgress] <;>
    first
    | exact List.nil_sublist _
    | (split <;> simp)

theorem accepted_rtcmFrame {k : Destination} (hactive : active k = true) {frame : List UInt8}
    (hframe : frame ∈ s.pipeline.received k ++ s.pipeline.waiting k) : RtcmFrame frame :=
  published_rtcmFrame (firmware_reader hreach) frame
    ((accepted_sublist hreach hactive).subset hframe)

/-- The bytes of such frames are bytes the UART gave, in their order. -/
theorem flatten_sublist {frames : List (List UInt8)}
    (hframes : frames.Sublist (published s.reader.events)) :
    frames.flatten.Sublist (s.reader.chunks.flatMap (·.data)) :=
  hframes.flatten.trans (gnssReader_sound (firmware_reader hreach)).published_sublist

/-- Between the calls of `publish_rtcm_frame` every frame published so far was
received, waits or is counted as dropped. -/
theorem published_accounted (hidle : s.pipeline.publishing = .idle) {k : Destination}
    (hactive : active k = true) :
    ∃ dropped, s.pipeline.queue_drops k = UInt32.ofNat dropped ∧
      Accounted (published s.reader.events) (s.pipeline.received k) (s.pipeline.waiting k)
        dropped 0 := by
  obtain ⟨dropped, hdrops, hdelivered⟩ := (firmware_known hreach).delivering.ledger k hactive
  have hroomy : s.pipeline.Roomy := by
    apply (firmware_pipeline hreach).invariant_of
      (K := fun s => s.Counted ∧ s.Steady active ∧ s.Starting)
    · exact fun s hs => Pipeline.counted_of_started hs
    · exact ⟨by simp [started, booted], rfl⟩
    · intro s a s' hknown _ hroomy _ hstep
      exact hroomy.step hknown.1 hknown.2.1 hstep
  have hpublished := (firmware_coupled hreach).published
  rw [hidle] at hdelivered hpublished
  simp only [inProgress, PublishPhase.dealt, List.append_nil] at hdelivered hpublished
  rw [hroomy.exhausted, hpublished] at hdelivered
  exact ⟨dropped, hdrops, hdelivered.accounted rfl⟩

end Runs

end rtkbase.firmware
