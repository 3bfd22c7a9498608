import RTKBase.Lib.Delivery
import RTKBase.NtripCaster.RoverLog

namespace rtkbase.ntrip_caster

open lib.cstring lib.delivery lib.ledger lib.lts frame_pool gnss_uart

/-- What a streaming rover has been sent, and the tail it is still to be sent. -/
def RoverSlot.stream (c : RoverSlot) : List UInt8 := c.streamed ++ c.pending

section Send

variable {offered : List (List UInt8)} {c c' : RoverSlot} {frame : RtcmFrame}
  {results rest : List SendResult} {ok : Bool}

/-- Of the pending tail the socket takes some. -/
theorem transmit_pending_stream {stop : Nat} (haligned : FrameAligned offered c)
    (hstate : c.rover.state = .ROVER_STREAMING) (hfrom : c.rover.tx_pending_pos ≤ stop)
    (hto : stop ≤ c.rover.tx_pending_len) :
    (RoverSlot.setPending
      { c with sock := c.sock.transmit c.rover.tx_pending c.rover.tx_pending_pos stop }
      c.rover.tx_pending_len stop).stream = c.stream := by
  calc _ = c.streamed ++ (c.rover.tx_pending.take stop).drop c.rover.tx_pending_pos ++
        (c.rover.tx_pending.take c.rover.tx_pending_len).drop stop := by
          rw [← streamed_transmit (haligned.started hstate)]
          rfl
    _ = c.stream := by
          rw [List.append_assoc, slice_append hfrom hto]
          rfl

/-- An exhausted tail is empty. -/
theorem resetPending_stream (hdone : c.rover.tx_pending_len ≤ c.rover.tx_pending_pos) :
    (c.setPending 0 0).stream = c.stream := by
  have hnone : c.pending = [] := by
    simp only [RoverSlot.pending, List.drop_eq_nil_iff, List.length_take]
    omega
  rw [RoverSlot.stream, RoverSlot.stream, hnone]
  simp [RoverSlot.pending, RoverSlot.streamed, RoverSlot.setPending]

theorem flush_rover_pending_stream (haligned : FrameAligned offered c)
    (hstate : c.rover.state = .ROVER_STREAMING)
    (hflush : flush_rover_pending c results = some (ok, c', rest))
    (hstate' : c'.rover.state = .ROVER_STREAMING) : c'.stream = c.stream := by
  unfold flush_rover_pending at hflush
  split at hflush
  case isTrue hdone =>
    cases hflush
    exact resetPending_stream hdone
  case isFalse hmore =>
    have hpos := haligned.pos_le
    split at hflush
    case h_1 => cases hflush
    case h_2 hsend =>
      obtain ⟨_, _, hslot⟩ := send_bytes_to_rover_spec hpos hsend
      cases hslot
      cases hflush
      simp [RoverSlot.setPending, close_rover] at hstate'
    case h_3 hsend =>
      obtain ⟨hfrom, hto, hslot⟩ := send_bytes_to_rover_spec hpos hsend
      cases hslot
      cases hflush
      exact transmit_pending_stream haligned hstate hfrom hto
    case h_4 sent stop left hsend =>
      obtain ⟨hfrom, hto, rfl, hfinished⟩ := send_bytes_to_rover_spec hpos hsend
      cases hflush
      have hdone : c.rover.tx_pending_len ≤ stop := Nat.le_of_eq hfinished.symm
      rw [← transmit_pending_stream haligned hstate hfrom hto]
      exact @resetPending_stream (RoverSlot.setPending
        { c with sock := c.sock.transmit c.rover.tx_pending c.rover.tx_pending_pos stop }
        c.rover.tx_pending_len stop) hdone

/-- A rover that goes on streaming has been sent the frame, or will be sent the
rest of it, unless it was dropped as a whole and that was logged. -/
theorem send_frame_to_rover_stream (haligned : FrameAligned offered c)
    (hstate : c.rover.state = .ROVER_STREAMING)
    (hframe : send_frame_to_rover c frame results = some (ok, c'))
    (hstate' : c'.rover.state = .ROVER_STREAMING) :
    (slowDrop c frame results = true ∧ c'.stream = c.stream) ∨
      (slowDrop c frame results = false ∧ c'.stream = c.stream ++ frame.data) := by
  have hflushed : ∀ {c₁ : RoverSlot} {rest : List SendResult},
      flush_rover_pending c results = some (true, c₁, rest) →
        c₁.rover.state = .ROVER_STREAMING ∧ c₁.sock.streamStart ≤ c₁.sock.sent.length ∧
          c₁.pending = [] ∧ c₁.streamed = c.stream := by
    intro c₁ rest hflush
    obtain ⟨haligned₁, hnext⟩ := flush_rover_pending_aligned haligned hstate hflush
    obtain ⟨hstate₁, hlen⟩ := hnext rfl
    have hnone : c₁.pending = [] := by simp [RoverSlot.pending, hlen]
    have hstream := flush_rover_pending_stream haligned hstate hflush hstate₁
    rw [RoverSlot.stream, hnone, List.append_nil] at hstream
    exact ⟨hstate₁, haligned₁.started hstate₁, hnone, hstream⟩
  cases send_frame_to_rover_cases hframe with
  | notFlushed hflush =>
    left
    exact ⟨by simp [slowDrop, hflush, hstate'],
      flush_rover_pending_stream haligned hstate hflush hstate'⟩
  | @finished c₁ c' rest rest' stop hflush hsend =>
    obtain ⟨hstate₁, hstarted, hnone, hstream⟩ := hflushed hflush
    obtain ⟨_, _, rfl, hwhole⟩ := send_bytes_to_rover_spec (Nat.zero_le _) hsend
    right
    refine ⟨by simp [slowDrop, hflush, hsend], ?_⟩
    calc _ = c₁.streamed ++ (frame.data.take stop).drop 0 ++ c₁.pending := by
            rw [← streamed_transmit hstarted]
            rfl
      _ = c.stream ++ frame.data := by simp [hnone, hstream, hwhole]
  | @stopped c₁ c' rest rest' result stop hflush hsend hresult =>
    obtain ⟨hstate₁, hstarted, hnone, hstream⟩ := hflushed hflush
    obtain rfl | ⟨rfl, hstopped⟩ := hresult
    · obtain ⟨_, _, hslot⟩ := send_bytes_to_rover_spec (Nat.zero_le _) hsend
      cases hslot
      simp [close_rover] at hstate'
    · obtain rfl := hstopped.resolve_left fun hne => hne hstate'
      left
      refine ⟨by simp [slowDrop, hflush, hsend, hstate'], ?_⟩
      obtain ⟨_, _, hslot⟩ := send_bytes_to_rover_spec (Nat.zero_le _) hsend
      cases hslot
      calc _ = c₁.streamed ++ (frame.data.take 0).drop 0 ++ c₁.pending := by
              rw [← streamed_transmit hstarted]
              rfl
        _ = c.stream := by simp [hnone, hstream]
  | @kept c₁ c₂ rest rest' stop hflush hsend hstate₂ hstop =>
    obtain ⟨hstate₁, hstarted, hnone, hstream⟩ := hflushed hflush
    right
    refine ⟨by simp [slowDrop, hflush, hsend, hstop], ?_⟩
    obtain ⟨_, _, hslot⟩ := send_bytes_to_rover_spec (Nat.zero_le _) hsend
    cases hslot
    calc _ = c₁.streamed ++ (frame.data.take stop).drop 0 ++ frame.data.drop stop := by
            rw [← streamed_transmit hstarted]
            simp [RoverSlot.stream, RoverSlot.streamed, RoverSlot.pending, RoverSlot.keepTail]
      _ = c.stream ++ frame.data := by
            rw [List.drop_zero, List.append_assoc, List.take_append_drop, hstream]

end Send

/-- Since streaming began each frame offered to the rover is in its stream or was
logged as dropped. -/
def Told (offered : List (List UInt8)) (c : RoverSlot) (log : List SlotEvent) : Prop :=
  ∃ before start drops frames,
    log = before ++ .streaming start :: List.replicate drops .caster_log_rover_slow_drop ∧
      start ≤ offered.length ∧ Delivered (offered.drop start) frames drops 0 ∧
      c.stream = frames.flatten

section Slot

variable {offered : List (List UInt8)} {c c' : RoverSlot} {log : List SlotEvent}

theorem Told.congr (htold : Told offered c log) (hstream : c'.stream = c.stream) :
    Told offered c' log := by
  obtain ⟨before, start, drops, frames, hlog, hstart, hdelivered, hframes⟩ := htold
  exact ⟨before, start, drops, frames, hlog, hstart, hdelivered, hstream.trans hframes⟩

/-- One more frame. -/
theorem Told.forward (htold : Told offered c log) {frame : RtcmFrame} {dropped : Bool}
    (hstream : dropped = true ∧ c'.stream = c.stream ∨
      dropped = false ∧ c'.stream = c.stream ++ frame.data) :
    Told (offered ++ [frame.data]) c'
      (log ++ if dropped then [.caster_log_rover_slow_drop] else []) := by
  obtain ⟨before, start, drops, frames, rfl, hstart, hdelivered, hframes⟩ := htold
  have hdrop : (offered ++ [frame.data]).drop start = offered.drop start ++ [frame.data] :=
    List.drop_append_of_le_length hstart
  have hstart' : start ≤ (offered ++ [frame.data]).length := by
    rw [List.length_append]
    omega
  obtain ⟨rfl, hsame⟩ | ⟨rfl, hsent⟩ := hstream
  · refine ⟨before, start, drops + 1, frames, ?_, hstart', ?_, hsame.trans hframes⟩
    · simp [List.replicate_succ']
    · rw [hdrop]
      exact hdelivered.drop frame.data
  · refine ⟨before, start, drops, frames ++ [frame.data], ?_, hstart', ?_, ?_⟩
    · simp
    · rw [hdrop]
      exact hdelivered.accept frame.data
    · simp [hsent, hframes]

variable {s_cfg : caster_config_t} {mbedtls_base64_decode : List UInt8 → Option (List UInt8)}

theorem serviceRover_told {received : RecvResult} {results : List SendResult}
    (haligned : FrameAligned offered c)
    (htold : c.rover.state = .ROVER_STREAMING → Told offered c log)
    (hservice : serviceRover s_cfg mbedtls_base64_decode c received results = some c')
    (hstate : c'.rover.state = .ROVER_STREAMING) :
    Told offered c' (log ++ serviceLog offered c c') := by
  have hquiet : c.rover.state = .ROVER_STREAMING → c'.stream = c.stream →
      Told offered c' (log ++ serviceLog offered c c') := by
    intro hbefore hstream
    rw [serviceLog, if_neg (by simp [hbefore]), List.append_nil]
    exact (htold hbefore).congr hstream
  cases serviceRover_cases hservice with
  | same => exact hquiet hstate rfl
  | @request c' bytes hbefore hroom hrequest =>
    have hempty : c.rover.tx_pending_len = 0 := haligned.idle (by simp [hbefore])
    cases hrequest with
    | more => simp [RoverSlot.storeRequest, hbefore] at hstate
    | closed => simp [close_rover] at hstate
    | accepted =>
      rw [serviceLog, if_pos ⟨hbefore, hstate⟩]
      refine ⟨log, offered.length, 0, [], rfl, Nat.le_refl _, ?_, ?_⟩
      · rw [List.drop_length]
        exact .nil
      · simp [RoverSlot.stream, RoverSlot.streamed, RoverSlot.pending,
          RoverSlot.startStreaming, RoverSlot.storeRequest, hempty]
  | drain hbefore => exact hquiet hbefore rfl
  | closed => simp [close_rover] at hstate

/-- In the life of a slot nothing offered to it while it streams is lost unseen. -/
theorem slot_run_told (hrun : SlotRun s_cfg mbedtls_base64_decode offered c log) :
    FrameAligned offered c ∧ (c.rover.state = .ROVER_STREAMING → Told offered c log) := by
  have hslots := @frame_aligned_invariant s_cfg mbedtls_base64_decode
  induction hrun with
  | blank hblank sock =>
    refine ⟨⟨hblank.tx_pending, by simp [hblank.pending_pos], by simp [hblank.pending_len],
      fun _ => hblank.pending_len, ?_, ?_⟩, ?_⟩ <;>
    · intro hstate
      simp [hblank.state] at hstate
  | free _ hempty sock' ih =>
    refine ⟨hslots.free hempty ih.1, fun hstate => ?_⟩
    rw [hempty] at hstate
    cases hstate
  | accept _ new_fd ih =>
    refine ⟨hslots.accept new_fd ih.1, fun hstate => ?_⟩
    simp [acceptRover] at hstate
  | service _ hservice ih =>
    exact ⟨hslots.service ih.1 hservice, serviceRover_told ih.1 ih.2 hservice⟩
  | @forward offered c c' log frame results _ hforward ih =>
    refine ⟨hslots.forward ih.1 hforward, fun hstate => ?_⟩
    obtain ⟨hbefore, ok, hframe⟩ | ⟨hbefore, rfl⟩ := forwardToRover_cases hforward
    · have htold := (ih.2 hbefore).forward
        (send_frame_to_rover_stream ih.1 hbefore hframe hstate)
      simpa [forwardLog, hbefore] using htold
    · exact absurd hstate hbefore

end Slot

/-- Every frame is accounted for at every rover. While a slot streams, its log ends
with the beginning of streaming, after `start` frames, and calls of
`caster_log_rover_slow_drop`. Of the frames forwarded since then each is in the
rover's stream, whole and in order, or is one of those dropped as a whole; those
are as many as the calls. -/
theorem rover_frames_accounted {s_cfg : caster_config_t}
    {mbedtls_base64_decode : List UInt8 → Option (List UInt8)}
    {s_rovers : Fin MAX_ROVERS → rover_conn_t} {sockets : Int → Socket}
    {t : Traced Server (Fin MAX_ROVERS × SlotEvent)} (hblank : ∀ i, (s_rovers i).Blank)
    (hreach : Reach (loggedServer s_cfg mbedtls_base64_decode) Anywhere
      ⟨listening s_rovers sockets, []⟩ t) {i : Fin MAX_ROVERS}
    (hstate : (t.state.s_rovers i).state = .ROVER_STREAMING) :
    ∃ before start drops frames,
      roverLog i t.calls =
          before ++ .streaming start :: List.replicate drops .caster_log_rover_slow_drop ∧
        start ≤ (t.state.offered i).length ∧
        lib.delivery.Accounted ((t.state.offered i).drop start) frames [] drops 0 ∧
        (t.state.slot i).streamed ++ (t.state.slot i).pending = frames.flatten := by
  obtain ⟨_, htold⟩ := slot_run_told (slot_run_of_logged hblank hreach i)
  obtain ⟨before, start, drops, frames, hlog, hstart, hdelivered, hframes⟩ := htold hstate
  exact ⟨before, start, drops, frames, hlog, hstart,
    hdelivered.accounted (List.append_nil frames).symm, hframes⟩

/-- The rover still has not taken the tail of the first frame when the second one
comes. -/
def slowRoverRun : List ServerAction :=
  List.flatten [shortWriteRun, [.send [], .send [], .send [], .dequeue sampleFrame,
    .send (List.replicate 6 .again)]]

theorem rover_frames_accounted_of_slow_rover :
    ∃ t, runs (loggedServer openCaster fun _ => none) Anywhere
        ⟨listening (fun _ => blankRover) fun _ => ⟨false, [], [], 0⟩, []⟩ slowRoverRun = some t ∧
      roverLog 0 t.calls = [.streaming 0, .caster_log_rover_slow_drop] ∧
      ∃ before start drops frames,
        roverLog 0 t.calls =
            before ++ .streaming start :: List.replicate drops .caster_log_rover_slow_drop ∧
          start ≤ (t.state.offered 0).length ∧
          lib.delivery.Accounted ((t.state.offered 0).drop start) frames [] drops 0 ∧
          (t.state.slot 0).streamed ++ (t.state.slot 0).pending = frames.flatten := by
  have hrun : (runs (loggedServer openCaster fun _ => none) Anywhere
      ⟨listening (fun _ => blankRover) fun _ => ⟨false, [], [], 0⟩, []⟩ slowRoverRun).map
      (fun t => ((t.state.s_rovers 0).state, roverLog 0 t.calls)) =
        some (.ROVER_STREAMING, [.streaming 0, .caster_log_rover_slow_drop]) := by
    decide +kernel
  obtain ⟨t, ht, heq⟩ := Option.map_eq_some_iff.mp hrun
  obtain ⟨hstate, hlog⟩ := Prod.mk.inj heq
  exact ⟨t, ht, hlog,
    rover_frames_accounted (fun _ => blankRover_blank) (Reach.refl.runs ht) hstate⟩

end rtkbase.ntrip_caster
