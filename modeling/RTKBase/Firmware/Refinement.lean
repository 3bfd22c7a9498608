import RTKBase.Firmware.Coupling
import RTKBase.FramePool.WaitFree
import RTKBase.Lib.Simulation

namespace rtkbase.firmware

open lib.lts frame_pool gnss_uart
open ntrip_caster (caster_config_t rover_conn_t Socket SendResult serverStep)
open ntrip_client (Uplink uplinkStart)
open tcp_server (tcpStep)

section Step

variable {s_cfg : caster_config_t} {mbedtls_base64_decode : List UInt8 → Option (List UInt8)}
  {s s' : Firmware}

/-- Each step of the firmware is a step of the frame pool's pipeline or hidden from
it. -/
theorem firmwareStep_pipeline (hstep : FirmwareStep s_cfg mbedtls_base64_decode s s') :
    Reach frame_pool.step Anywhere s.pipeline s'.pipeline := by
  cases hstep with
  | reader => exact .refl
  | post => exact .refl
  | publish _ _ _ hpublish => exact .single trivial hpublish
  | tcp => exact .refl
  | publishStep hstep => exact .single (a := .publishStep) trivial hstep
  | uplink => exact .refl
  | uplinkReceive _ hreceive => exact .single (a := .xQueueReceive _) trivial hreceive
  | uplinkSend => exact .refl
  | uplinkRelease hrelease => exact .single (a := .pool_release _) trivial hrelease
  | caster => exact .refl
  | casterReceive _ _ hreceive => exact .single (a := .xQueueReceive _) trivial hreceive
  | casterSend => exact .refl
  | casterRelease _ hrelease => exact .single (a := .pool_release _) trivial hrelease

theorem firmwareStep_reader (hstep : FirmwareStep s_cfg mbedtls_base64_decode s s') :
    Reach loopStep Anywhere s.reader s'.reader := by
  cases hstep with
  | reader hstep => exact .single trivial hstep
  | post hstep => exact .single trivial hstep
  | publish hstep => exact .single trivial hstep
  | _ => exact .refl

theorem firmwareStep_tcp (hstep : FirmwareStep s_cfg mbedtls_base64_decode s s') :
    Reach tcpStep Anywhere s.tcp s'.tcp := by
  cases hstep with
  | post _ _ hpost => exact .single trivial hpost
  | tcp _ hstep => exact .single trivial hstep
  | _ => exact .refl

/-- What is known of the components by themselves. -/
structure Known (active : Destination → Bool) (s : Firmware) : Prop where
  counted : s.pipeline.Counted
  steady : s.pipeline.Steady active
  delivering : s.pipeline.Delivering active
  valid : s.reader.splitter.Valid

variable {active : Destination → Bool}

theorem Coupled.uplink_slot (hcoupled : Coupled s) (hknown : Known active s)
    (i : Fin NTRIP_UPLINK_COUNT) : reread s.pipeline.s_pool (s.uplinks i) = s.uplinks i :=
  (hcoupled.uplinks i).reread (hknown.delivering.held _)

/-- What the caster's task finds in the slot is what it dequeued. -/
theorem Coupled.caster_slot (hcoupled : Coupled s) (hknown : Known active s) {frame : RtcmFrame}
    {i : Fin ntrip_caster.MAX_ROVERS} (hphase : s.caster.phase = .sending frame i)
    {f : FramePtr} (hheld : s.pipeline.held .caster = some f) :
    (s.pipeline.s_pool f).bytes = frame.data := by
  have hlast := hknown.delivering.held _ f hheld
  have hreceived := hcoupled.caster.received
  simp only [hphase, inHand] at hreceived
  rw [← hreceived, List.getLast?_concat] at hlast
  exact (Option.some.inj hlast).symm

/-- The caster sends the frame it dequeued. -/
theorem Coupled.caster_reread (hcoupled : Coupled s) (hknown : Known active s)
    {old frame : RtcmFrame} {i : Fin ntrip_caster.MAX_ROVERS}
    (hphase : s.caster.phase = .sending old i) {f : FramePtr}
    (hheld : s.pipeline.held .caster = some f)
    (hframe : frame.data = (s.pipeline.s_pool f).bytes) :
    { s.caster with phase := .sending frame i } = s.caster := by
  have hsame : frame = old := by
    have hdata := hframe.trans (hcoupled.caster_slot hknown hphase hheld)
    cases frame
    cases old
    simpa using hdata
  rw [hsame, ← hphase]

theorem Coupled.setUplink (hcoupled : Coupled s) {p : Pipeline} {i : Fin NTRIP_UPLINK_COUNT}
    {u : Uplink} (hpublished : p.published ++ inProgress p.publishing =
      s.pipeline.published ++ inProgress s.pipeline.publishing)
    (hu : UplinkCoupled p (.uplink i) u)
    (hheld : ∀ k, k ≠ .uplink i → p.held k = s.pipeline.held k)
    (hreceived : ∀ k, k ≠ .uplink i → p.received k = s.pipeline.received k) :
    Coupled (Firmware.setUplink { s with pipeline := p } i u) where
  published := hpublished.trans hcoupled.published
  posted := hcoupled.posted
  uplinks j := by
    by_cases hj : j = i
    · subst hj
      simpa [Firmware.setUplink] using hu
    · have hne : Destination.uplink j ≠ .uplink i := fun heq => hj (Destination.uplink.inj heq)
      simpa [Firmware.setUplink, hj] using
        (hcoupled.uplinks j).congr (hheld _ hne) (hreceived _ hne)
  caster := by
    refine ⟨?_, ?_⟩
    · change Holds (p.held .caster) s.caster.phase
      rw [hheld _ (by simp)]
      exact hcoupled.caster.held
    · exact hcoupled.caster.received.trans (hreceived _ (by simp)).symm

/-- The caster's consumer steps leave the uplinks alone. -/
theorem Coupled.set_caster (hcoupled : Coupled s) {p : Pipeline} {c : ntrip_caster.Server}
    (hpublished : p.published ++ inProgress p.publishing =
      s.pipeline.published ++ inProgress s.pipeline.publishing)
    (hc : CasterCoupled p c)
    (hheld : ∀ k, k ≠ .caster → p.held k = s.pipeline.held k)
    (hreceived : ∀ k, k ≠ .caster → p.received k = s.pipeline.received k) :
    Coupled { s with pipeline := p, caster := c } where
  published := hpublished.trans hcoupled.published
  posted := hcoupled.posted
  uplinks i := (hcoupled.uplinks i).congr (hheld _ (by simp)) (hreceived _ (by simp))
  caster := hc

theorem Coupled.uplinkReceive (hcoupled : Coupled s) {i : Fin NTRIP_UPLINK_COUNT} {f : FramePtr}
    {rest : List FramePtr} {p : Pipeline} {u : Uplink}
    (hentries : (s.pipeline.handle (.uplink i)).entries = f :: rest)
    (hreceive : s.pipeline.xQueueReceive (.uplink i) = some p)
    (hstep : ntrip_client.uplinkStep (s.uplinks i)
      (.xQueueReceive (some ⟨f, (s.pipeline.s_pool f).bytes⟩)) = some u) :
    Coupled (Firmware.setUplink { s with pipeline := p } i u) := by
  obtain ⟨g, rest', hqueue, _, rfl⟩ := xQueueReceive_cases hreceive
  rw [hqueue] at hentries
  obtain ⟨rfl, rfl⟩ := List.cons.inj hentries
  obtain ⟨_, hheld, hdequeued⟩ := uplink_takes hstep
  refine hcoupled.setUplink rfl ⟨?_, ?_, ?_⟩ (fun k hk => ?_) (fun k hk => ?_)
  · simp [hheld]
  · simp [hdequeued, (hcoupled.uplinks i).received]
  · simp [hheld, hdequeued]
  · exact Function.update_of_ne hk _ _
  · exact Function.update_of_ne hk _ _

theorem Coupled.uplinkRelease (hcoupled : Coupled s) {i : Fin NTRIP_UPLINK_COUNT} {p : Pipeline}
    {u : Uplink} (hrelease : s.pipeline.consumerRelease (.uplink i) = some p)
    (hstep : ntrip_client.uplinkStep (s.uplinks i) .pool_release = some u) :
    Coupled (Firmware.setUplink { s with pipeline := p } i u) := by
  obtain ⟨f, _, rfl⟩ := consumerRelease_cases hrelease
  obtain ⟨hheld, hdequeued⟩ := uplink_releases hstep
  refine hcoupled.setUplink rfl ⟨?_, ?_, ?_⟩ (fun k hk => ?_) (fun _ _ => rfl)
  · simp [hheld]
  · rw [hdequeued]
    exact (hcoupled.uplinks i).received
  · simp [hheld]
  · exact Function.update_of_ne hk _ _

theorem Coupled.casterReceive (hcoupled : Coupled s) {f : FramePtr} {rest : List FramePtr}
    {frame : RtcmFrame} {p : Pipeline} {c : ntrip_caster.Server}
    (hentries : (s.pipeline.handle .caster).entries = f :: rest)
    (hframe : frame.data = (s.pipeline.s_pool f).bytes)
    (hreceive : s.pipeline.xQueueReceive .caster = some p)
    (hstep : serverStep s_cfg mbedtls_base64_decode s.caster (.dequeue frame) = some c) :
    Coupled { s with pipeline := p, caster := c } := by
  obtain ⟨g, rest', hqueue, _, rfl⟩ := xQueueReceive_cases hreceive
  rw [hqueue] at hentries
  obtain ⟨rfl, rfl⟩ := List.cons.inj hentries
  obtain ⟨hnone, rfl⟩ := caster_takes hstep
  have hreceived := hcoupled.caster.received
  rw [hnone, List.append_nil] at hreceived
  refine hcoupled.set_caster rfl ⟨?_, ?_⟩ (fun k hk => ?_) (fun k hk => ?_)
  · simp [Holds]
  · simp [inHand, hreceived, hframe]
  · exact Function.update_of_ne hk _ _
  · exact Function.update_of_ne hk _ _

theorem coupled_step (hknown : Known active s) (hknown' : Known active s') (hcoupled : Coupled s)
    (hstep : FirmwareStep s_cfg mbedtls_base64_decode s s') : Coupled s' := by
  cases hstep with
  | reader hstep hposts hpublishes =>
    obtain ⟨hposted, hpublished⟩ := loopStep_outputs hknown.valid hstep
    simp only [hposts, hpublishes, Option.toList_none, List.append_nil] at hposted hpublished
    exact ⟨hcoupled.published.trans hpublished.symm, hcoupled.posted.trans hposted.symm,
      hcoupled.uplinks, hcoupled.caster⟩
  | post hstep hposts hpost =>
    obtain ⟨hposted, hpublished⟩ := loopStep_outputs hknown.valid hstep
    have hnone : publishes s.reader = none := by
      cases hpublishes : publishes s.reader with
      | none => rfl
      | some data =>
        rw [posts_of_publishes hpublishes] at hposts
        cases hposts
    rw [hnone, Option.toList_none, List.append_nil] at hpublished
    refine ⟨hcoupled.published.trans hpublished.symm, ?_, hcoupled.uplinks, hcoupled.caster⟩
    simp [hposted, tcpStep_post hpost, hposts, hcoupled.posted]
  | publish hstep hposts hpublishes hpublish =>
    obtain ⟨hposted, hpublished⟩ := loopStep_outputs hknown.valid hstep
    simp only [hposts, hpublishes, Option.toList_none, Option.toList_some, List.append_nil]
      at hposted hpublished
    obtain ⟨hidle, rfl⟩ := publish_rtcm_frame_step hpublish
    have hbefore := hcoupled.published
    simp only [hidle, inProgress, List.append_nil] at hbefore
    refine ⟨?_, hcoupled.posted.trans hposted.symm, fun i => (hcoupled.uplinks i).congr rfl rfl,
      hcoupled.caster.held, hcoupled.caster.received⟩
    simp [inProgress, hpublished, hbefore]
  | tcp hother hstep =>
    refine ⟨hcoupled.published, ?_, hcoupled.uplinks, hcoupled.caster⟩
    simp [tcpStep_posted hother hstep, hcoupled.posted]
  | publishStep hstep =>
    obtain ⟨hheld, hreceived, _⟩ := publishStep_consumers hstep
    have hpublished := publishStep_published hstep hknown'.counted.publishing_ne_fault
    refine ⟨hpublished.trans hcoupled.published, hcoupled.posted,
      fun i => (hcoupled.uplinks i).congr (by rw [hheld]) (by rw [hreceived]), ?_, ?_⟩
    · rw [hheld]
      exact hcoupled.caster.held
    · rw [hreceived]
      exact hcoupled.caster.received
  | @uplink i a u ha hstep =>
    obtain ⟨hbefore, hafter, hdequeued⟩ := uplink_frameless ha hstep
    have hu := hcoupled.uplinks i
    refine hcoupled.setUplink rfl ⟨?_, ?_, by simp [hafter]⟩ (fun _ _ => rfl) (fun _ _ => rfl)
    · rw [hafter, ← hbefore]
      exact hu.held
    · rw [hdequeued]
      exact hu.received
  | uplinkReceive hentries hreceive hstep => exact hcoupled.uplinkReceive hentries hreceive hstep
  | @uplinkSend i result u hstep =>
    rw [hcoupled.uplink_slot hknown] at hstep
    obtain ⟨hheld, hdequeued⟩ := uplink_sends hstep
    have hu := hcoupled.uplinks i
    refine hcoupled.setUplink rfl ⟨?_, ?_, ?_⟩ (fun _ _ => rfl) (fun _ _ => rfl)
    · rw [hheld]
      exact hu.held
    · rw [hdequeued]
      exact hu.received
    · rw [hheld, hdequeued]
      exact hu.last
  | uplinkRelease hrelease hstep => exact hcoupled.uplinkRelease hrelease hstep
  | caster ha hheld hstep =>
    obtain ⟨hbefore, hafter, hforwarded, hholds⟩ := caster_frameless ha hstep
    refine hcoupled.set_caster rfl ⟨hholds _ hcoupled.caster.held hheld, ?_⟩ (fun _ _ => rfl)
      (fun _ _ => rfl)
    rw [hafter, hforwarded, ← hbefore]
    exact hcoupled.caster.received
  | casterReceive hentries hframe hreceive hstep =>
    exact hcoupled.casterReceive hentries hframe hreceive hstep
  | casterSend hphase hheld hframe hstep =>
    have hsame := hcoupled.caster_reread hknown hphase hheld hframe
    rw [hsame] at hstep
    have hphase' : s.caster.phase = .sending _ _ := (congrArg (·.phase) hsame).symm
    obtain ⟨hreceived, hholds⟩ := caster_sends hphase' hstep
    exact hcoupled.set_caster rfl ⟨hholds _ hcoupled.caster.held,
      hreceived.trans hcoupled.caster.received⟩ (fun _ _ => rfl) (fun _ _ => rfl)
  | casterRelease hphase hrelease =>
    obtain ⟨f, _, rfl⟩ := consumerRelease_cases hrelease
    refine hcoupled.set_caster rfl ⟨?_, hcoupled.caster.received⟩ (fun k hk => ?_) (fun _ _ => rfl)
    · rw [hphase]
      trivial
    · exact Function.update_of_ne hk _ _

end Step

end rtkbase.firmware
