import RTKBase.NtripCaster.ServerRun

namespace rtkbase.ntrip_caster

open lib.cstring lib.lts frame_pool gnss_uart

/-- What `tx_pending` holds back. -/
def RoverSlot.pending (c : RoverSlot) : List UInt8 :=
  (c.rover.tx_pending.take c.rover.tx_pending_len).drop c.rover.tx_pending_pos

/-- What was sent since streaming began. -/
def RoverSlot.streamed (c : RoverSlot) : List UInt8 := c.sock.sent.drop c.sock.streamStart

/-- The pending tail lies inside its buffer, and is empty outside of streaming;
what was streamed and the pending tail are whole frames of those offered. -/
structure FrameAligned (offered : List (List UInt8)) (c : RoverSlot) : Prop where
  buffer : c.rover.tx_pending.length = MAX_RTCM_FRAME
  pos_le : c.rover.tx_pending_pos ≤ c.rover.tx_pending_len
  len_le : c.rover.tx_pending_len ≤ MAX_RTCM_FRAME
  idle : c.rover.state ≠ .ROVER_STREAMING → c.rover.tx_pending_len = 0
  started : c.rover.state = .ROVER_STREAMING → c.sock.streamStart ≤ c.sock.sent.length
  stream : c.rover.state = .ROVER_STREAMING →
    ∃ frames : List (List UInt8), frames.Sublist offered ∧
      c.streamed ++ c.pending = frames.flatten

theorem slice_append {α : Type} {l : List α} {i j k : Nat} (hij : i ≤ j) (hjk : j ≤ k) :
    (l.take j).drop i ++ (l.take k).drop j = (l.take k).drop i := by
  have hfirst : (l.take j).drop i = ((l.take k).drop i).take (j - i) := by
    rw [← List.drop_take, List.take_take, Nat.min_eq_left hjk]
  have hrest : (l.take k).drop j = ((l.take k).drop i).drop (j - i) := by
    rw [List.drop_drop, Nat.add_sub_cancel' hij]
  rw [hfirst, hrest, List.take_append_drop]

/-- The bytes that go out follow those streamed before. -/
theorem streamed_transmit {c : RoverSlot} (hstarted : c.sock.streamStart ≤ c.sock.sent.length)
    (data : List UInt8) (offset stop : Nat) :
    ({ c with sock := c.sock.transmit data offset stop } : RoverSlot).streamed =
      c.streamed ++ (data.take stop).drop offset :=
  List.drop_append_of_le_length hstarted

/-- A closed slot holds nothing back. -/
theorem close_rover_aligned {rover : rover_conn_t}
    (hbuffer : rover.tx_pending.length = MAX_RTCM_FRAME) (sock : Socket)
    (offered : List (List UInt8)) : FrameAligned offered (close_rover ⟨rover, sock⟩) where
  buffer := hbuffer
  pos_le := Nat.le_refl _
  len_le := Nat.zero_le _
  idle _ := rfl
  started hstate := by simp [close_rover] at hstate
  stream hstate := by simp [close_rover] at hstate

/-- A frame that a slot is not sent is skipped as a whole. -/
theorem FrameAligned.skip {offered : List (List UInt8)} {c : RoverSlot}
    (haligned : FrameAligned offered c) (data : List UInt8) :
    FrameAligned (offered ++ [data]) c where
  buffer := haligned.buffer
  pos_le := haligned.pos_le
  len_le := haligned.len_le
  idle := haligned.idle
  started := haligned.started
  stream hstate := by
    obtain ⟨frames, hsub, hframes⟩ := haligned.stream hstate
    exact ⟨frames, hsub.trans (List.sublist_append_left _ _), hframes⟩

/-- The pending tail shrinks by what is sent of it. -/
theorem FrameAligned.advance {offered : List (List UInt8)} {c : RoverSlot} {stop : Nat}
    (haligned : FrameAligned offered c) (hstate : c.rover.state = .ROVER_STREAMING)
    (hfrom : c.rover.tx_pending_pos ≤ stop) (hto : stop ≤ c.rover.tx_pending_len) :
    FrameAligned offered (RoverSlot.setPending
      { c with sock := c.sock.transmit c.rover.tx_pending c.rover.tx_pending_pos stop }
      c.rover.tx_pending_len stop) where
  buffer := haligned.buffer
  pos_le := hto
  len_le := haligned.len_le
  idle hne := absurd hstate hne
  started _ := by
    have hstarted := haligned.started hstate
    simp only [RoverSlot.setPending, Socket.transmit, List.length_append]
    omega
  stream _ := by
    obtain ⟨frames, hsub, hframes⟩ := haligned.stream hstate
    refine ⟨frames, hsub, ?_⟩
    calc _ = c.streamed ++ ((c.rover.tx_pending.take stop).drop c.rover.tx_pending_pos ++
          (c.rover.tx_pending.take c.rover.tx_pending_len).drop stop) := by
            rw [← List.append_assoc, ← streamed_transmit (haligned.started hstate)]
            rfl
      _ = c.streamed ++ c.pending := by rw [slice_append hfrom hto, RoverSlot.pending]
      _ = frames.flatten := hframes

/-- An exhausted tail is forgotten. -/
theorem FrameAligned.reset {offered : List (List UInt8)} {c : RoverSlot}
    (haligned : FrameAligned offered c)
    (hdone : c.rover.tx_pending_len ≤ c.rover.tx_pending_pos) :
    FrameAligned offered (c.setPending 0 0) where
  buffer := haligned.buffer
  pos_le := Nat.le_refl _
  len_le := Nat.zero_le _
  idle _ := rfl
  started := haligned.started
  stream hstate := by
    obtain ⟨frames, hsub, hframes⟩ := haligned.stream hstate
    have hnone : c.pending = [] := by
      simp only [RoverSlot.pending, List.drop_eq_nil_iff, List.length_take]
      omega
    refine ⟨frames, hsub, ?_⟩
    rw [hnone] at hframes
    simpa [RoverSlot.pending, RoverSlot.streamed, RoverSlot.setPending] using hframes

/-- After `flush_rover_pending` a slot that is still streaming is aligned, and
holds nothing back if the flush succeeded. -/
theorem flush_rover_pending_aligned {offered : List (List UInt8)} {c c' : RoverSlot}
    {results rest : List SendResult} {ok : Bool} (haligned : FrameAligned offered c)
    (hstate : c.rover.state = .ROVER_STREAMING)
    (hflush : flush_rover_pending c results = some (ok, c', rest)) :
    FrameAligned offered c' ∧
      (ok = true → c'.rover.state = .ROVER_STREAMING ∧ c'.rover.tx_pending_len = 0) := by
  unfold flush_rover_pending at hflush
  split at hflush
  case isTrue hdone =>
    cases hflush
    exact ⟨haligned.reset hdone, fun _ => ⟨hstate, rfl⟩⟩
  case isFalse hmore =>
    have hpos := haligned.pos_le
    split at hflush
    case h_1 => cases hflush
    case h_2 hsend =>
      obtain ⟨_, _, hslot⟩ := send_bytes_to_rover_spec hpos hsend
      cases hslot
      cases hflush
      exact ⟨close_rover_aligned haligned.buffer _ offered, by simp⟩
    case h_3 hsend =>
      obtain ⟨hfrom, hto, hslot⟩ := send_bytes_to_rover_spec hpos hsend
      cases hslot
      cases hflush
      exact ⟨haligned.advance hstate hfrom hto, by simp⟩
    case h_4 hsend =>
      obtain ⟨hfrom, hto, rfl, hfinished⟩ := send_bytes_to_rover_spec hpos hsend
      cases hflush
      refine ⟨?_, fun _ => ⟨hstate, rfl⟩⟩
      exact (haligned.advance hstate hfrom hto).reset (Nat.le_of_eq hfinished.symm)

/-- The frame goes out up to `stop`, and the slot holds back the rest. -/
theorem FrameAligned.send_frame {offered : List (List UInt8)} {c : RoverSlot}
    {rover : rover_conn_t} {frame : RtcmFrame} {stop : Nat} (haligned : FrameAligned offered c)
    (hstate : c.rover.state = .ROVER_STREAMING) (hnone : c.pending = [])
    (hrover : rover.state = .ROVER_STREAMING)
    (hbuffer : rover.tx_pending.length = MAX_RTCM_FRAME)
    (hpos : rover.tx_pending_pos ≤ rover.tx_pending_len)
    (hlen : rover.tx_pending_len ≤ MAX_RTCM_FRAME)
    (hpending : (rover.tx_pending.take rover.tx_pending_len).drop rover.tx_pending_pos =
      frame.data.drop stop) :
    FrameAligned (offered ++ [frame.data]) ⟨rover, c.sock.transmit frame.data 0 stop⟩ where
  buffer := hbuffer
  pos_le := hpos
  len_le := hlen
  idle hne := absurd hrover hne
  started _ := by
    have hstarted := haligned.started hstate
    simp only [Socket.transmit, List.length_append]
    omega
  stream _ := by
    obtain ⟨frames, hsub, hframes⟩ := haligned.stream hstate
    rw [hnone, List.append_nil] at hframes
    refine ⟨frames ++ [frame.data], hsub.append (List.Sublist.refl _), ?_⟩
    calc _ = c.streamed ++ (frame.data.take stop).drop 0 ++ frame.data.drop stop := by
            rw [← streamed_transmit (haligned.started hstate), ← hpending]
            rfl
      _ = c.streamed ++ frame.data := by
            rw [List.drop_zero, List.append_assoc, List.take_append_drop]
      _ = (frames ++ [frame.data]).flatten := by simp [hframes]

theorem send_frame_to_rover_aligned {offered : List (List UInt8)} {c c' : RoverSlot}
    {frame : RtcmFrame} {results : List SendResult} {ok : Bool}
    (haligned : FrameAligned offered c) (hstate : c.rover.state = .ROVER_STREAMING)
    (hframe : send_frame_to_rover c frame results = some (ok, c')) :
    FrameAligned (offered ++ [frame.data]) c' := by
  have hframe_le := frame.len_le
  have hflushed : ∀ {c₁ : RoverSlot} {rest : List SendResult},
      flush_rover_pending c results = some (true, c₁, rest) →
        FrameAligned offered c₁ ∧ c₁.rover.state = .ROVER_STREAMING ∧ c₁.pending = [] := by
    intro c₁ rest hflush
    obtain ⟨haligned₁, hflushed⟩ := flush_rover_pending_aligned haligned hstate hflush
    obtain ⟨hstate₁, hlen⟩ := hflushed rfl
    exact ⟨haligned₁, hstate₁, by simp [RoverSlot.pending, hlen]⟩
  cases send_frame_to_rover_cases hframe with
  | notFlushed hflush =>
    exact (flush_rover_pending_aligned haligned hstate hflush).1.skip frame.data
  | finished hflush hsend =>
    obtain ⟨haligned₁, hstate₁, hnone⟩ := hflushed hflush
    obtain ⟨_, _, rfl, hwhole⟩ := send_bytes_to_rover_spec (Nat.zero_le _) hsend
    apply haligned₁.send_frame hstate₁ hnone hstate₁ haligned₁.buffer haligned₁.pos_le
      haligned₁.len_le
    rw [hwhole, List.drop_length]
    exact hnone
  | stopped hflush hsend hresult =>
    obtain ⟨haligned₁, hstate₁, _⟩ := hflushed hflush
    obtain rfl | ⟨rfl, hstopped⟩ := hresult
    · obtain ⟨_, _, hslot⟩ := send_bytes_to_rover_spec (Nat.zero_le _) hsend
      cases hslot
      exact close_rover_aligned haligned₁.buffer _ _
    · obtain ⟨_, _, hslot⟩ := send_bytes_to_rover_spec (Nat.zero_le _) hsend
      cases hslot
      obtain rfl := hstopped.resolve_left fun hne => hne hstate₁
      simpa [Socket.transmit] using haligned₁.skip frame.data
  | kept hflush hsend =>
    obtain ⟨haligned₁, hstate₁, hnone⟩ := hflushed hflush
    obtain ⟨_, hto, hslot⟩ := send_bytes_to_rover_spec (Nat.zero_le _) hsend
    cases hslot
    have hbuffer := haligned₁.buffer
    unfold RoverSlot.keepTail
    apply haligned₁.send_frame hstate₁ hnone
    · exact hstate₁
    · simp only [List.length_append, List.length_drop]
      omega
    · exact Nat.zero_le _
    · simp only [List.length_drop]
      omega
    · simp

section

variable {s_cfg : caster_config_t} {mbedtls_base64_decode : List UInt8 → Option (List UInt8)}

theorem frame_aligned_invariant : SlotInvariant s_cfg mbedtls_base64_decode FrameAligned where
  free hempty haligned :=
    { buffer := haligned.buffer
      pos_le := haligned.pos_le
      len_le := haligned.len_le
      idle := haligned.idle
      started := fun hstate => by simp [hempty] at hstate
      stream := fun hstate => by simp [hempty] at hstate }
  accept _ haligned :=
    { buffer := haligned.buffer
      pos_le := Nat.le_refl _
      len_le := Nat.zero_le _
      idle := fun _ => rfl
      started := fun hstate => by simp [acceptRover] at hstate
      stream := fun hstate => by simp [acceptRover] at hstate }
  service := by
    intro offered c c' received results haligned hservice
    cases serviceRover_cases hservice with
    | same => exact haligned
    | @request c' bytes hstate hroom hrequest =>
      have hempty : c.rover.tx_pending_len = 0 := haligned.idle (by simp [hstate])
      cases hrequest with
      | more hshort =>
        exact ⟨haligned.buffer, haligned.pos_le, haligned.len_le, haligned.idle, haligned.started,
          haligned.stream⟩
      | closed =>
        apply close_rover_aligned
        exact haligned.buffer
      | accepted haccepted =>
        refine ⟨haligned.buffer, haligned.pos_le, haligned.len_le, fun _ => hempty,
          fun _ => Nat.le_refl _, fun _ => ⟨[], List.nil_sublist _, ?_⟩⟩
        simp [RoverSlot.streamed, RoverSlot.pending, RoverSlot.startStreaming,
          RoverSlot.storeRequest, hempty]
    | drain hstate =>
      exact ⟨haligned.buffer, haligned.pos_le, haligned.len_le, haligned.idle, haligned.started,
        haligned.stream⟩
    | closed => exact close_rover_aligned haligned.buffer _ _
  forward haligned hforward := by
    obtain ⟨hstate, ok, hframe⟩ | ⟨_, rfl⟩ := forwardToRover_cases hforward
    · exact send_frame_to_rover_aligned haligned hstate hframe
    · exact haligned.skip _

theorem frame_aligned_reach {s_rovers : Fin MAX_ROVERS → rover_conn_t} {sockets : Int → Socket}
    {s : Server} (hblank : ∀ i, (s_rovers i).Blank)
    (hreach : Reach (serverStep s_cfg mbedtls_base64_decode) Anywhere
      (listening s_rovers sockets) s) (i : Fin MAX_ROVERS) :
    FrameAligned (s.offered i) (s.slot i) := by
  apply frame_aligned_invariant.reach hblank _ hreach
  intro rover sock hrover
  exact {
    buffer := hrover.tx_pending
    pos_le := by simp [hrover.pending_pos]
    len_le := by simp [hrover.pending_len]
    idle := fun _ => hrover.pending_len
    started := fun hstate => by simp [hrover.state] at hstate
    stream := fun hstate => by simp [hrover.state] at hstate }

end

/-- In every run of `task_ntrip_server` and for every slot: `tx_pending` keeps
its size, and while the slot is streaming, what was sent since streaming began
and what `tx_pending` holds back are together whole frames, in order and each at
most once among the frames forwarded so far. -/
theorem rover_stream_frame_aligned {s_cfg : caster_config_t}
    {mbedtls_base64_decode : List UInt8 → Option (List UInt8)}
    {s_rovers : Fin MAX_ROVERS → rover_conn_t} {sockets : Int → Socket} {s : Server}
    (hblank : ∀ i, (s_rovers i).Blank)
    (hreach : Reach (serverStep s_cfg mbedtls_base64_decode) Anywhere
      (listening s_rovers sockets) s) (i : Fin MAX_ROVERS) :
    (s.s_rovers i).tx_pending.length = MAX_RTCM_FRAME ∧
      ((s.s_rovers i).state = .ROVER_STREAMING →
        ∃ frames : List (List UInt8), frames.Sublist (s.offered i) ∧
          (s.slot i).streamed ++ (s.slot i).pending = frames.flatten) := by
  have haligned := frame_aligned_reach hblank hreach i
  exact ⟨haligned.buffer, haligned.stream⟩

def openCaster : caster_config_t where
  loaded := true
  auth_required := false
  port := 2101
  mountpoint := strlcpy 32 (ascii "BASE")
  identifier := strlcpy 32 (ascii "RTK Base")
  username := strlcpy 32 []
  password := strlcpy 64 []

/-- A rover is let in; of the first frame only three bytes go out before the
socket blocks. -/
def shortWriteRun : List ServerAction :=
  [.accept 5 [], .service (.data (ascii "GET /BASE HTTP/1.0\r\n\r\n")) [.sent 14], .notReady,
    .notReady, .notReady, .dequeue sampleFrame, .send (.sent 3 :: List.replicate 6 .again)]

theorem rover_stream_frame_aligned_of_short_write :
    ∃ s, runs (serverStep openCaster fun _ => none) Anywhere
        (listening (fun _ => blankRover) fun _ => ⟨false, [], [], 0⟩) shortWriteRun = some s ∧
      (s.slot 0).pending = [0x00, 0x0A, 0x18, 0x8D] ∧
      ∃ frames : List (List UInt8), frames.Sublist (s.offered 0) ∧
        (s.slot 0).streamed ++ (s.slot 0).pending = frames.flatten := by
  have hrun : (runs (serverStep openCaster fun _ => none) Anywhere
      (listening (fun _ => blankRover) fun _ => ⟨false, [], [], 0⟩) shortWriteRun).map
      (fun s => ((s.s_rovers 0).state, (s.slot 0).pending)) =
        some (.ROVER_STREAMING, [0x00, 0x0A, 0x18, 0x8D]) := by
    decide +kernel
  obtain ⟨s, hs, hshape⟩ := Option.map_eq_some_iff.mp hrun
  simp only [Prod.mk.injEq] at hshape
  obtain ⟨hstate, hpending⟩ := hshape
  have haligned := rover_stream_frame_aligned (fun _ => blankRover_blank) (Reach.refl.runs hs) 0
  exact ⟨s, hs, hpending, haligned.2 hstate⟩

end rtkbase.ntrip_caster
