import RTKBase.Firmware.EndToEnd

namespace rtkbase.firmware

open lib.cstring lib.delivery lib.lts lib.session frame_pool gnss_uart
open ntrip_caster (caster_config_t rover_conn_t Socket serverStep frame_aligned_reach blankRover
  blankRover_blank openCaster)
open ntrip_client (uplinkStart uplink_valid QueuedFrame)
open tcp_server (tcpStep server_streams PostedFrame desktop)

variable {s_cfg : caster_config_t} {mbedtls_base64_decode : List UInt8 → Option (List UInt8)}
  {s₀ : splitter_t UInt8} {s_pool : Pool} {active running : Destination → Bool}
  {s_rovers : Fin ntrip_caster.MAX_ROVERS → rover_conn_t} {sockets : Int → Socket} {s : Firmware}

/-- The uplink with index 0. -/
def uplink0 : Fin NTRIP_UPLINK_COUNT := ⟨0, by decide⟩

/-- A client of the TCP server, an uplink and a rover are connected; a frame comes
in, and each of them is sent all or some of it. -/
def deliveryRun : List FirmwareAction :=
  List.flatten [
    [.task_tcp_server .turn, .task_tcp_server .turn,
      .task_tcp_server (.accept (.client 5 desktop)), .task_tcp_server (.setup .ready),
      .task_tcp_server (.recv (.error true)), .task_ntrip_uplink uplink0 (.ntrip_connect 7),
      .task_ntrip_server (.accept 9 []),
      .task_ntrip_server (.service (.data (ascii "GET /BASE HTTP/1.0\r\n\r\n")) [.sent 14]),
      .task_ntrip_server .notReady, .task_ntrip_server .notReady, .task_ntrip_server .notReady,
      .task_gnss_reader (.event (.UART_DATA 7)),
      .task_gnss_reader (.uart_read_bytes (some shortestFrame)),
      .task_gnss_reader .post_raw_gnss_data_tcp, .posting, .posting, .posting,
      .task_gnss_reader .console_push_bytes],
    List.replicate 7 (.task_gnss_reader (.turn 5000)), List.replicate 16 .publishStep,
    [.task_tcp_server .turn, .task_tcp_server (.send (.sent 6)),
      .task_ntrip_uplink uplink0 .xQueueReceive,
      .task_ntrip_uplink uplink0 (.send (.sent 5)), .task_ntrip_server .xQueueReceive,
      .task_ntrip_server (.send (.sent 3 :: List.replicate 6 .again))]]

/-- Where that run leads with everything enabled. -/
def delivered : Option Firmware :=
  runs (firmwareStep openCaster fun _ => none) Anywhere
    (firmwareStart (zeroedSplitter 0) zeroedPool (fun _ => true) (fun _ => true)
      (fun _ => blankRover) fun _ => ⟨false, [], [], 0⟩) deliveryRun

/-- The tasks together take no step that one of them would not take by itself, as
the models of the single tasks have it: each component's part of a run is a run of
that component. There the uplinks and the caster work on copies of the frames;
here they read the shared slots while the reader publishes into the pool, and what
they find is what they took off their queues. -/
theorem firmware_refines_tasks
    (hreach : Reach (firmwareStep s_cfg mbedtls_base64_decode) Anywhere
      (firmwareStart s₀ s_pool active running s_rovers sockets) s) :
    Reach loopStep Anywhere (gnssReaderStart s₀) s.reader ∧
      Reach tcpStep Anywhere tcp_server.listening s.tcp ∧
      Reach frame_pool.step Anywhere (started s_pool active running) s.pipeline ∧
      (∀ i, Reach ntrip_client.uplinkStep Anywhere uplinkStart (s.uplinks i)) ∧
      Reach (serverStep s_cfg mbedtls_base64_decode) Anywhere
        (ntrip_caster.listening s_rovers sockets) s.caster ∧
      (∀ i f, f ∈ (s.uplinks i).phase.held → s.pipeline.held (.uplink i) = some f.f ∧
        (s.pipeline.s_pool f.f).bytes = f.data) ∧
      ∀ frame i, s.caster.phase = .sending frame i → ∃ f, s.pipeline.held .caster = some f ∧
        (s.pipeline.s_pool f).bytes = frame.data := by
  have hknown := firmware_known hreach
  have hcoupled := firmware_coupled hreach
  refine ⟨firmware_reader hreach, firmware_tcp hreach, firmware_pipeline hreach,
    firmware_uplink hreach, firmware_caster hreach, fun i f hf => ⟨?_, ?_⟩, fun frame i hphase => ?_⟩
  · have hheld : f.f ∈ (s.pipeline.held (.uplink i)).toList := by
      rw [(hcoupled.uplinks i).held]
      exact List.mem_map_of_mem hf
    exact Option.mem_toList.mp hheld
  · exact (hcoupled.uplinks i).slot_bytes (hknown.delivering.held _) hf
  · have hholds := hcoupled.caster.held
    rw [hphase] at hholds
    obtain ⟨f, hf⟩ := Option.isSome_iff_exists.mp hholds
    exact ⟨f, hf, hcoupled.caster_slot hknown hphase hf⟩

theorem firmware_refines_tasks_of_delivery :
    ∃ s, delivered = some s ∧ (s.caster.slot 0).streamed = shortestFrame.take 3 ∧
      (∃ f ∈ (s.uplinks 0).phase.held, (s.pipeline.s_pool f.f).bytes = f.data) ∧
      ∀ frame i, s.caster.phase = .sending frame i → ∃ f, s.pipeline.held .caster = some f ∧
        (s.pipeline.s_pool f).bytes = frame.data := by
  have hrun : delivered.map (fun s => ((s.caster.slot 0).streamed, (s.uplinks 0).phase.held.length)) =
      some (shortestFrame.take 3, 1) := by
    decide +kernel
  obtain ⟨s, hs, heq⟩ := Option.map_eq_some_iff.mp hrun
  obtain ⟨hstreamed, hlength⟩ := Prod.mk.inj heq
  obtain ⟨f, hf⟩ := List.length_eq_one_iff.mp hlength
  have hmem : f ∈ (s.uplinks 0).phase.held := by simp [hf]
  obtain ⟨_, _, _, _, _, huplinks, hcaster⟩ := firmware_refines_tasks (Reach.refl.runs hs)
  exact ⟨s, hs, hstreamed, ⟨f, hmem, (huplinks 0 f hmem).2⟩, hcaster⟩

/-- From the UART to an uplink's connections: whatever the tasks do in between and
however often the connection breaks, the frames taken up for the connections, one
connection after the other, are frames that the splitter published, in their order
and each at most once, whole and with a right CRC; each connection was sent those
frames whole but for the last; and all the bytes sent are bytes the UART gave, in
their order. -/
theorem uplink_carries_published
    (hreach : Reach (firmwareStep s_cfg mbedtls_base64_decode) Anywhere
      (firmwareStart s₀ s_pool active running s_rovers sockets) s)
    {i : Fin NTRIP_UPLINK_COUNT} (hactive : active (.uplink i) = true) :
    (((s.uplinks i).connections.flatMap (·.taken)).map (·.data)).Sublist
        (published s.reader.events) ∧
      (∀ f ∈ (s.uplinks i).connections.flatMap (·.taken), RtcmFrame f.data) ∧
      (∀ c ∈ (s.uplinks i).connections, c.Sound QueuedFrame.data) ∧
      ((s.uplinks i).connections.flatMap (·.sent)).Sublist (s.reader.chunks.flatMap (·.data)) := by
  have hvalid := uplink_valid (firmware_uplink hreach i)
  have hreceived : ((s.uplinks i).connections.flatMap (·.taken)).map (·.data) =
      s.pipeline.received (.uplink i) := by
    rw [hvalid.dequeued]
    exact ((firmware_coupled hreach).uplinks i).received
  have hsublist : (s.pipeline.received (.uplink i)).Sublist (published s.reader.events) :=
    (List.sublist_append_left _ _).trans (accepted_sublist hreach hactive)
  have hsound : ∀ c ∈ (s.uplinks i).connections, c.Sound QueuedFrame.data := by
    intro c hc
    obtain hc | hc := List.mem_append.mp hc
    · exact hvalid.closed c hc
    · split at hc
      case isTrue hsock =>
        obtain rfl := List.mem_singleton.mp hc
        exact (hvalid.current hsock).sound
      case isFalse => cases hc
  refine ⟨?_, fun f hf => ?_, hsound, ?_⟩
  · rw [hreceived]
    exact hsublist
  · apply accepted_rtcmFrame hreach hactive
    rw [← hreceived]
    exact List.mem_append_left _ (List.mem_map_of_mem hf)
  · refine (sent_sublist hsound).trans ?_
    rw [List.flatMap_def, hreceived]
    exact flatten_sublist hreach hsublist

theorem uplink_carries_published_of_delivery :
    ∃ s, delivered = some s ∧
      (s.uplinks 0).connections.map (·.sent) = [shortestFrame.take 5] ∧
      (((s.uplinks 0).connections.flatMap (·.taken)).map (·.data)).Sublist
        (published s.reader.events) ∧
      ∀ f ∈ (s.uplinks 0).connections.flatMap (·.taken), RtcmFrame f.data := by
  have hrun : delivered.map (fun s => (s.uplinks 0).connections.map (·.sent)) =
      some [shortestFrame.take 5] := by
    decide +kernel
  obtain ⟨s, hs, hsent⟩ := Option.map_eq_some_iff.mp hrun
  obtain ⟨hsublist, hframes, _⟩ := uplink_carries_published (i := 0) (Reach.refl.runs hs) rfl
  exact ⟨s, hs, hsent, hsublist, hframes⟩

/-- From the UART to a rover: what was streamed to it and what its slot holds back
are together whole frames with a right CRC, frames that the splitter published in
their order and each at most once, made of bytes the UART gave in their order. -/
theorem rover_carries_published
    (hreach : Reach (firmwareStep s_cfg mbedtls_base64_decode) Anywhere
      (firmwareStart s₀ s_pool active running s_rovers sockets) s)
    (hblank : ∀ i, (s_rovers i).Blank) (hactive : active .caster = true)
    {i : Fin ntrip_caster.MAX_ROVERS} (hstate : (s.caster.s_rovers i).state = .ROVER_STREAMING) :
    ∃ frames : List (List UInt8),
      (s.caster.slot i).streamed ++ (s.caster.slot i).pending = frames.flatten ∧
      frames.Sublist (published s.reader.events) ∧ (∀ frame ∈ frames, RtcmFrame frame) ∧
      (s.caster.slot i).streamed.Sublist (s.reader.chunks.flatMap (·.data)) := by
  have haligned := frame_aligned_reach hblank (firmware_caster hreach) i
  obtain ⟨frames, hoffered, hframes⟩ := haligned.stream hstate
  have hpassed : (s.caster.offered i).Sublist (s.pipeline.received .caster) := by
    rw [← (firmware_coupled hreach).caster.received]
    refine (List.Sublist.refl _).append ?_
    cases s.caster.phase with
    | sending frame k =>
      simp only [ntrip_caster.ServerPhase.passed, inHand]
      split
      · exact List.Sublist.refl _
      · exact List.nil_sublist _
    | _ => exact List.Sublist.refl _
  have hreceived : frames.Sublist (s.pipeline.received .caster) := hoffered.trans hpassed
  have hsublist : frames.Sublist (published s.reader.events) :=
    (hreceived.trans (List.sublist_append_left _ _)).trans (accepted_sublist hreach hactive)
  refine ⟨frames, hframes, hsublist, fun frame hframe => ?_, ?_⟩
  · exact accepted_rtcmFrame hreach hactive (List.mem_append_left _ (hreceived.subset hframe))
  · refine (List.sublist_append_left _ (s.caster.slot i).pending).trans ?_
    rw [hframes]
    exact flatten_sublist hreach hsublist

theorem rover_carries_published_of_delivery :
    ∃ s, delivered = some s ∧ (s.caster.slot 0).streamed = shortestFrame.take 3 ∧
      ∃ frames : List (List UInt8),
        (s.caster.slot 0).streamed ++ (s.caster.slot 0).pending = frames.flatten ∧
        frames.Sublist (published s.reader.events) ∧ ∀ frame ∈ frames, RtcmFrame frame := by
  have hrun : delivered.map (fun s => ((s.caster.slot 0).streamed, (s.caster.s_rovers 0).state)) =
      some (shortestFrame.take 3, .ROVER_STREAMING) := by
    decide +kernel
  obtain ⟨s, hs, heq⟩ := Option.map_eq_some_iff.mp hrun
  obtain ⟨hstreamed, hstate⟩ := Prod.mk.inj heq
  obtain ⟨frames, hframes, hsublist, hwhole, _⟩ :=
    rover_carries_published (Reach.refl.runs hs) (fun _ => blankRover_blank) rfl hstate
  exact ⟨s, hs, hstreamed, frames, hframes, hsublist, hwhole⟩

/-- From the UART to the clients of the TCP server: the chunks taken up for the
sessions, one session after the other, are chunks that `uart_read_bytes` returned,
in their order and each at most once; each session was sent those chunks whole but
for the last; and all the bytes sent are bytes the UART gave, in their order. -/
theorem tcp_sessions_carry_uart
    (hreach : Reach (firmwareStep s_cfg mbedtls_base64_decode) Anywhere
      (firmwareStart s₀ s_pool active running s_rovers sockets) s) :
    ((s.tcp.sessions.flatMap (·.taken)).map (·.frame)).Sublist s.reader.chunks ∧
      ((s.tcp.sessions.flatMap (·.taken)).map (·.serial)).Nodup ∧
      (∀ c ∈ s.tcp.sessions, c.Sound PostedFrame.data) ∧
      (s.tcp.sessions.flatMap (·.sent)).Sublist (s.reader.chunks.flatMap (·.data)) := by
  have hstreams := server_streams (firmware_tcp hreach)
  have hposted : (s.tcp.posted.map (·.frame)).Sublist s.reader.chunks := by
    rw [(firmware_coupled hreach).posted, ← (gnssReader_sound (firmware_reader hreach)).posted]
    exact List.sublist_append_left _ _
  have horder : (s.tcp.sessions.flatMap (·.taken)).Sublist s.tcp.posted :=
    (List.sublist_append_left _ _).trans hstreams.order
  have hchunks : ((s.tcp.sessions.flatMap (·.taken)).map (·.frame)).Sublist s.reader.chunks :=
    (horder.map _).trans hposted
  have hsound : ∀ c ∈ s.tcp.sessions, c.Sound PostedFrame.data := by
    intro c hc
    obtain hc | hc := List.mem_append.mp hc
    · exact hstreams.closed c hc
    · split at hc
      case isTrue hopen =>
        obtain rfl := List.mem_singleton.mp hc
        exact (hstreams.current hopen).sound
      case isFalse => cases hc
  refine ⟨hchunks, ?_, hsound, (sent_sublist hsound).trans ?_⟩
  · refine (horder.map (·.serial)).nodup ?_
    rw [hstreams.serials]
    exact List.nodup_range
  · have hbytes : (s.tcp.sessions.flatMap (·.taken)).flatMap PostedFrame.data =
        ((s.tcp.sessions.flatMap (·.taken)).map (·.frame)).flatMap (·.data) := by
      rw [List.flatMap_map]
      rfl
    rw [hbytes, List.flatMap_def, List.flatMap_def]
    exact (hchunks.map _).flatten

theorem tcp_sessions_carry_uart_of_delivery :
    ∃ s, delivered = some s ∧ s.tcp.sessions.map (·.sent) = [shortestFrame.take 6] ∧
      ((s.tcp.sessions.flatMap (·.taken)).map (·.frame)).Sublist s.reader.chunks := by
  have hrun : delivered.map (fun s => s.tcp.sessions.map (·.sent)) =
      some [shortestFrame.take 6] := by
    decide +kernel
  obtain ⟨s, hs, hsent⟩ := Option.map_eq_some_iff.mp hrun
  exact ⟨s, hs, hsent, (tcp_sessions_carry_uart (Reach.refl.runs hs)).1⟩

/-- Between the calls of `publish_rtcm_frame` no frame that the splitter has
published is unaccounted for. Of all of them, in order: an uplink has taken up some
for its connections, some wait in its queue, and as many as its counter tells were
dropped at the queue, which was full; none was lost in the pool. The same holds of
the caster and the frames its forwarding loop has come to. -/
theorem no_published_frame_unaccounted
    (hreach : Reach (firmwareStep s_cfg mbedtls_base64_decode) Anywhere
      (firmwareStart s₀ s_pool active running s_rovers sockets) s)
    (hidle : s.pipeline.publishing = .idle) :
    (∀ i, active (.uplink i) = true → ∃ dropped,
      s.pipeline.queue_drops (.uplink i) = UInt32.ofNat dropped ∧
        Accounted (published s.reader.events)
          (((s.uplinks i).connections.flatMap (·.taken)).map (·.data))
          (s.pipeline.waiting (.uplink i)) dropped 0) ∧
      (active .caster = true → ∃ dropped,
        s.pipeline.queue_drops .caster = UInt32.ofNat dropped ∧
          Accounted (published s.reader.events) (s.caster.forwarded ++ inHand s.caster.phase)
            (s.pipeline.waiting .caster) dropped 0) := by
  have hcoupled := firmware_coupled hreach
  refine ⟨fun i hactive => ?_, fun hactive => ?_⟩
  · rw [(uplink_valid (firmware_uplink hreach i)).dequeued, (hcoupled.uplinks i).received]
    exact published_accounted hreach hidle hactive
  · rw [hcoupled.caster.received]
    exact published_accounted hreach hidle hactive

theorem no_published_frame_unaccounted_of_delivery :
    ∃ s, delivered = some s ∧ published s.reader.events = [shortestFrame] ∧
      (∃ dropped, s.pipeline.queue_drops .caster = UInt32.ofNat dropped ∧
        Accounted (published s.reader.events) (s.caster.forwarded ++ inHand s.caster.phase)
          (s.pipeline.waiting .caster) dropped 0) ∧
      ∃ dropped, s.pipeline.queue_drops (.uplink 1) = UInt32.ofNat dropped ∧
        Accounted (published s.reader.events)
          (((s.uplinks 1).connections.flatMap (·.taken)).map (·.data))
          (s.pipeline.waiting (.uplink 1)) dropped 0 := by
  have hrun : delivered.map (fun s => (published s.reader.events, inProgress s.pipeline.publishing)) =
      some ([shortestFrame], []) := by
    decide +kernel
  obtain ⟨s, hs, heq⟩ := Option.map_eq_some_iff.mp hrun
  obtain ⟨hframes, hphase⟩ := Prod.mk.inj heq
  have hfault := (firmware_known (Reach.refl.runs hs)).counted.publishing_ne_fault
  have hidle : s.pipeline.publishing = .idle := by
    cases hpublishing : s.pipeline.publishing <;> simp_all [inProgress]
  obtain ⟨huplinks, hcaster⟩ := no_published_frame_unaccounted (Reach.refl.runs hs) hidle
  exact ⟨s, hs, hframes, hcaster rfl, huplinks 1 rfl⟩

end rtkbase.firmware
