import RTKBase.NtripCaster.Server

namespace rtkbase.ntrip_caster

open lib.cstring lib.lts frame_pool

/-- The frame being forwarded, for a slot the loop has passed. -/
def ServerPhase.passed (i : Fin MAX_ROVERS) : ServerPhase → List (List UInt8)
  | .sending frame k => if i < k then [frame.data] else []
  | _ => []

/-- The frames whose forwarding has come to slot `i`. -/
def Server.offered (s : Server) (i : Fin MAX_ROVERS) : List (List UInt8) :=
  s.forwarded ++ s.phase.passed i

/-- A slot in use holds an open descriptor of its own. -/
structure Server.OwnSockets (s : Server) : Prop where
  empty : ∀ i, (s.s_rovers i).state = .ROVER_EMPTY → (s.s_rovers i).fd = -1
  used : ∀ i, (s.s_rovers i).state ≠ .ROVER_EMPTY →
    0 ≤ (s.s_rovers i).fd ∧ (s.sockets (s.s_rovers i).fd).isOpen = true
  distinct : ∀ i j, i ≠ j → (s.s_rovers i).state ≠ .ROVER_EMPTY →
    (s.s_rovers j).state ≠ .ROVER_EMPTY → (s.s_rovers i).fd ≠ (s.s_rovers j).fd

/-- A pass over a slot leaves the connection as it is or closes it. -/
inductive Kept (c c' : RoverSlot) : Prop where
  | same (hfd : c'.rover.fd = c.rover.fd)
      (hstate : c'.rover.state = .ROVER_EMPTY ↔ c.rover.state = .ROVER_EMPTY)
      (hopen : c'.sock.isOpen = c.sock.isOpen)
  | closed (hfd : c'.rover.fd = -1) (hstate : c'.rover.state = .ROVER_EMPTY)

theorem Kept.refl (c : RoverSlot) : Kept c c := .same rfl Iff.rfl rfl

theorem close_rover_kept (c : RoverSlot) : Kept c (close_rover c) := .closed rfl rfl

/-- Sending to a rover touches what is held back and what was sent, or closes
the connection. -/
inductive Sent (c c' : RoverSlot) : Prop where
  | same (hrover : ∃ buf len pos, c'.rover =
        { c.rover with tx_pending := buf, tx_pending_len := len, tx_pending_pos := pos })
      (hsock : ∃ sent, c'.sock = { c.sock with sent := sent })
  | closed (hfd : c'.rover.fd = -1) (hstate : c'.rover.state = .ROVER_EMPTY)

theorem Sent.kept {c c' : RoverSlot} (hsent : Sent c c') : Kept c c' := by
  cases hsent with
  | same hrover hsock =>
    obtain ⟨buf, len, pos, hrover⟩ := hrover
    obtain ⟨sent, hsock⟩ := hsock
    exact .same (by rw [hrover]) (by rw [hrover]) (by rw [hsock])
  | closed hfd hstate => exact .closed hfd hstate

theorem Sent.trans {c c' c'' : RoverSlot} (h : Sent c c') (h' : Sent c' c'') : Sent c c'' := by
  cases h' with
  | closed hfd hstate => exact .closed hfd hstate
  | same hrover' hsock' =>
    obtain ⟨buf', len', pos', hrover'⟩ := hrover'
    obtain ⟨sent', hsock'⟩ := hsock'
    cases h with
    | closed hfd hstate =>
      exact .closed (by rw [hrover']; exact hfd) (by rw [hrover']; exact hstate)
    | same hrover hsock =>
      obtain ⟨buf, len, pos, hrover⟩ := hrover
      obtain ⟨sent, hsock⟩ := hsock
      exact .same ⟨buf', len', pos', by rw [hrover', hrover]⟩ ⟨sent', by rw [hsock', hsock]⟩

theorem setPending_sent (c : RoverSlot) (len pos : Nat) : Sent c (c.setPending len pos) :=
  .same ⟨_, _, _, rfl⟩ ⟨_, rfl⟩

theorem send_bytes_to_rover_sent {c c' : RoverSlot} {data : List UInt8} {len offset stop : Nat}
    {results rest : List SendResult} {result : SendEnd}
    (hsend : send_bytes_to_rover c data len offset results = some (result, c', stop, rest)) :
    Sent c c' := by
  unfold send_bytes_to_rover at hsend
  split at hsend
  case h_1 => cases hsend
  case h_2 =>
    cases hsend
    exact .closed rfl rfl
  case h_3 =>
    cases hsend
    exact .same ⟨_, _, _, rfl⟩ ⟨_, rfl⟩

theorem flush_rover_pending_sent {c c' : RoverSlot} {results rest : List SendResult} {ok : Bool}
    (hflush : flush_rover_pending c results = some (ok, c', rest)) : Sent c c' := by
  unfold flush_rover_pending at hflush
  split at hflush
  case isTrue =>
    cases hflush
    exact setPending_sent ..
  case isFalse =>
    split at hflush
    case h_1 => cases hflush
    all_goals
      rename_i hsend
      cases hflush
      exact (send_bytes_to_rover_sent hsend).trans (setPending_sent ..)

theorem send_frame_to_rover_sent {c c' : RoverSlot} {frame : RtcmFrame}
    {results : List SendResult} {ok : Bool}
    (hframe : send_frame_to_rover c frame results = some (ok, c')) : Sent c c' := by
  cases send_frame_to_rover_cases hframe with
  | notFlushed hflush => exact flush_rover_pending_sent hflush
  | finished hflush hsend =>
    exact (flush_rover_pending_sent hflush).trans (send_bytes_to_rover_sent hsend)
  | stopped hflush hsend =>
    exact (flush_rover_pending_sent hflush).trans (send_bytes_to_rover_sent hsend)
  | kept hflush hsend =>
    have hsent := (flush_rover_pending_sent hflush).trans (send_bytes_to_rover_sent hsend)
    exact hsent.trans (.same ⟨_, _, _, rfl⟩ ⟨_, rfl⟩)

/-- A frame is sent to a streaming slot and passes the others by. -/
theorem forwardToRover_cases {c c' : RoverSlot} {frame : RtcmFrame}
    {results : List SendResult} (hforward : forwardToRover c frame results = some c') :
    (c.rover.state = .ROVER_STREAMING ∧ ∃ ok, send_frame_to_rover c frame results = some (ok, c')) ∨
      (c.rover.state ≠ .ROVER_STREAMING ∧ c' = c) := by
  unfold forwardToRover at hforward
  split at hforward
  case isTrue hstate =>
    obtain ⟨⟨ok, c''⟩, hframe, rfl⟩ := Option.map_eq_some_iff.mp hforward
    exact .inl ⟨hstate, ok, hframe⟩
  case isFalse hstate =>
    cases hforward
    exact .inr ⟨hstate, rfl⟩

theorem forwardToRover_sent {c c' : RoverSlot} {frame : RtcmFrame}
    {results : List SendResult} (hforward : forwardToRover c frame results = some c') :
    Sent c c' := by
  obtain ⟨_, ok, hframe⟩ | ⟨_, rfl⟩ := forwardToRover_cases hforward
  · exact send_frame_to_rover_sent hframe
  · exact .same ⟨_, _, _, rfl⟩ ⟨_, rfl⟩

/-- Sending puts bytes on the wire and changes nothing else of the socket. -/
theorem send_all_nonblocking_spec {sock sock' : Socket} {data : List UInt8}
    {results rest : List SendResult} {ok : Bool}
    (hsend : send_all_nonblocking sock data results = some (ok, sock', rest)) :
    ∃ more, sock' = { sock with sent := sock.sent ++ more } := by
  unfold send_all_nonblocking at hsend
  split at hsend
  case h_1 => cases hsend
  all_goals
    cases hsend
    exact ⟨_, rfl⟩

theorem sendTexts_spec {sock sock' : Socket} {texts : List (List UInt8)}
    {results rest : List SendResult} {ok : Bool}
    (hsend : sendTexts sock texts results = some (ok, sock', rest)) :
    ∃ more, sock' = { sock with sent := sock.sent ++ more } := by
  induction texts generalizing sock results with
  | nil =>
    cases hsend
    exact ⟨[], by simp⟩
  | cons data texts ih =>
    unfold sendTexts at hsend
    split at hsend
    case h_1 => cases hsend
    case h_2 hfirst =>
      cases hsend
      exact send_all_nonblocking_spec hfirst
    case h_3 hfirst =>
      obtain ⟨more, rfl⟩ := send_all_nonblocking_spec hfirst
      obtain ⟨more', rfl⟩ := ih hsend
      exact ⟨more ++ more', by simp⟩

section

variable {s_cfg : caster_config_t} {mbedtls_base64_decode : List UInt8 → Option (List UInt8)}

/-- `handle_request` records the protocol version and sends its response. -/
theorem handle_request_spec {c c' : RoverSlot} {results : List SendResult} {ok : Bool}
    (hhandle : handle_request s_cfg mbedtls_base64_decode c results = some (ok, c')) :
    ok = (requestDecision mbedtls_base64_decode s_cfg (cstr c.rover.rx_buf)).accepted ∧
      ∃ v2 more, c' = ⟨{ c.rover with is_ntrip_v2 := v2 },
        { c.sock with sent := c.sock.sent ++ more }⟩ := by
  unfold handle_request at hhandle
  simp only at hhandle
  split at hhandle
  case h_1 => cases hhandle
  case h_2 hsend =>
    obtain ⟨more, rfl⟩ := sendTexts_spec hsend
    cases hhandle
    exact ⟨rfl, _, more, rfl⟩

variable (s_cfg mbedtls_base64_decode) in
/-- The ways through the handshake branch, with what they test. -/
inductive HandshakeStep (c : RoverSlot) (bytes : List UInt8) (results : List SendResult) :
    RoverSlot → Prop where
  | letIn {d : RoverSlot}
      (hblank : (strstr (cstr (c.storeRequest bytes).rover.rx_buf) (ascii "\r\n\r\n")).isSome)
      (hhandle : handle_request s_cfg mbedtls_base64_decode (c.storeRequest bytes) results =
        some (true, d)) : HandshakeStep c bytes results d.startStreaming
  | refused {d : RoverSlot}
      (hblank : (strstr (cstr (c.storeRequest bytes).rover.rx_buf) (ascii "\r\n\r\n")).isSome)
      (hhandle : handle_request s_cfg mbedtls_base64_decode (c.storeRequest bytes) results =
        some (false, d)) : HandshakeStep c bytes results (close_rover d)
  | tooLarge
      (hpart : ¬ (strstr (cstr (c.storeRequest bytes).rover.rx_buf) (ascii "\r\n\r\n")).isSome)
      (hfull : ROVER_REQ_BUF_SIZE - 1 ≤ (c.storeRequest bytes).rover.rx_pos) :
      HandshakeStep c bytes results (close_rover (c.storeRequest bytes))
  | more
      (hpart : ¬ (strstr (cstr (c.storeRequest bytes).rover.rx_buf) (ascii "\r\n\r\n")).isSome)
      (hroom : ¬ ROVER_REQ_BUF_SIZE - 1 ≤ (c.storeRequest bytes).rover.rx_pos) :
      HandshakeStep c bytes results (c.storeRequest bytes)

theorem receiveRequest_branches {c c' : RoverSlot} {bytes : List UInt8}
    {results : List SendResult}
    (hreceive : receiveRequest s_cfg mbedtls_base64_decode c bytes results = some c') :
    bytes.length ≤ ROVER_REQ_BUF_SIZE - c.rover.rx_pos - 1 ∧
      HandshakeStep s_cfg mbedtls_base64_decode c bytes results c' := by
  unfold receiveRequest at hreceive
  split at hreceive
  case isFalse => cases hreceive
  case isTrue hbytes =>
    refine ⟨hbytes.2, ?_⟩
    dsimp only at hreceive
    split at hreceive
    case isTrue hblank =>
      split at hreceive
      case h_1 => cases hreceive
      case h_2 hhandle =>
        cases hreceive
        exact .letIn hblank hhandle
      case h_3 hhandle =>
        cases hreceive
        exact .refused hblank hhandle
    case isFalse hpart =>
      split at hreceive
      case isTrue hfull =>
        cases hreceive
        exact .tooLarge hpart hfull
      case isFalse hroom =>
        cases hreceive
        exact .more hpart hroom

variable (s_cfg mbedtls_base64_decode) in
/-- What the handshake branch does with received bytes. -/
inductive RequestStep (c : RoverSlot) (bytes : List UInt8) : RoverSlot → Prop where
  | more (hshort : (c.storeRequest bytes).rover.rx_pos < ROVER_REQ_BUF_SIZE - 1) :
      RequestStep c bytes (c.storeRequest bytes)
  | closed {v2 : Bool} {sock : Socket} :
      RequestStep c bytes
        (close_rover ⟨{ (c.storeRequest bytes).rover with is_ntrip_v2 := v2 }, sock⟩)
  | accepted {v2 : Bool} {more : List UInt8}
      (haccepted : (requestDecision mbedtls_base64_decode s_cfg
        (cstr (c.storeRequest bytes).rover.rx_buf)).accepted = true) :
      RequestStep c bytes (RoverSlot.startStreaming
        ⟨{ (c.storeRequest bytes).rover with is_ntrip_v2 := v2 },
          { (c.storeRequest bytes).sock with
            sent := (c.storeRequest bytes).sock.sent ++ more }⟩)

theorem receiveRequest_cases {c c' : RoverSlot} {bytes : List UInt8}
    {results : List SendResult}
    (hreceive : receiveRequest s_cfg mbedtls_base64_decode c bytes results = some c') :
    bytes.length ≤ ROVER_REQ_BUF_SIZE - c.rover.rx_pos - 1 ∧
      RequestStep s_cfg mbedtls_base64_decode c bytes c' := by
  obtain ⟨hbytes, hbranch⟩ := receiveRequest_branches hreceive
  refine ⟨hbytes, ?_⟩
  cases hbranch with
  | letIn _ hhandle =>
    obtain ⟨haccepted, v2, more, rfl⟩ := handle_request_spec hhandle
    exact .accepted haccepted.symm
  | refused _ hhandle =>
    obtain ⟨_, v2, more, rfl⟩ := handle_request_spec hhandle
    exact .closed
  | tooLarge => exact .closed
  | more _ hroom => exact .more (Nat.lt_of_not_le hroom)

variable (s_cfg mbedtls_base64_decode) in
/-- What a pass of the service loop over a slot can do. -/
inductive ServiceStep (c : RoverSlot) : RoverSlot → Prop where
  | same : ServiceStep c c
  | request {c' : RoverSlot} {bytes : List UInt8} (hstate : c.rover.state = .ROVER_HANDSHAKE)
      (hroom : bytes.length ≤ ROVER_REQ_BUF_SIZE - c.rover.rx_pos - 1)
      (hrequest : RequestStep s_cfg mbedtls_base64_decode c bytes c') : ServiceStep c c'
  | drain {bytes : List UInt8} (hstate : c.rover.state = .ROVER_STREAMING) :
      ServiceStep c { c with sock := { c.sock with received := c.sock.received ++ bytes } }
  | closed : ServiceStep c (close_rover c)

theorem serviceRover_cases {c c' : RoverSlot} {received : RecvResult}
    {results : List SendResult}
    (hservice : serviceRover s_cfg mbedtls_base64_decode c received results = some c') :
    ServiceStep s_cfg mbedtls_base64_decode c c' := by
  unfold serviceRover at hservice
  split at hservice
  case h_1 =>
    cases hservice
    exact .same
  case h_2 bytes hstate =>
    obtain ⟨hroom, hrequest⟩ := receiveRequest_cases hservice
    exact .request hstate hroom hrequest
  case h_3 =>
    cases hservice
    exact .closed
  case h_4 bytes hstate =>
    split at hservice
    · cases hservice
      exact .drain hstate
    · cases hservice
  case h_5 =>
    cases hservice
    exact .same
  case h_6 =>
    cases hservice
    exact .closed

theorem serviceRover_kept {c c' : RoverSlot} {received : RecvResult}
    {results : List SendResult}
    (hservice : serviceRover s_cfg mbedtls_base64_decode c received results = some c') :
    Kept c c' := by
  cases serviceRover_cases hservice with
  | same => exact .refl c
  | request hstate hroom hrequest =>
    cases hrequest with
    | more hshort => exact .same rfl Iff.rfl rfl
    | closed => exact .closed rfl rfl
    | accepted haccepted => exact .same rfl (by simp [RoverSlot.startStreaming, hstate]) rfl
  | drain hstate => exact .same rfl Iff.rfl rfl
  | closed => exact close_rover_kept c

variable (s_cfg mbedtls_base64_decode) in
/-- A property of one slot, given the frames it has been offered, that every
pass over the slot keeps; it says nothing of the socket of a free slot. -/
structure SlotInvariant (P : List (List UInt8) → RoverSlot → Prop) : Prop where
  free : ∀ {offered rover sock sock'}, rover.state = .ROVER_EMPTY → P offered ⟨rover, sock⟩ →
    P offered ⟨rover, sock'⟩
  accept : ∀ {offered rover sock} new_fd, P offered ⟨rover, sock⟩ →
    P offered ⟨acceptRover rover new_fd, acceptedSocket⟩
  service : ∀ {offered c c' received results}, P offered c →
    serviceRover s_cfg mbedtls_base64_decode c received results = some c' → P offered c'
  forward : ∀ {offered c c' frame results}, P offered c →
    forwardToRover c frame results = some c' → P (offered ++ [frame.data]) c'

variable (s_cfg mbedtls_base64_decode) in
/-- The same where the passes of the service loop that receive and send as
`allowed` says keep the property. -/
structure GuardedInvariant (allowed : RoverSlot → RecvResult → List SendResult → Prop)
    (P : List (List UInt8) → RoverSlot → Prop) : Prop where
  free : ∀ {offered rover sock sock'}, rover.state = .ROVER_EMPTY → P offered ⟨rover, sock⟩ →
    P offered ⟨rover, sock'⟩
  accept : ∀ {offered rover sock} new_fd, P offered ⟨rover, sock⟩ →
    P offered ⟨acceptRover rover new_fd, acceptedSocket⟩
  service : ∀ {offered c c' received results}, P offered c → allowed c received results →
    serviceRover s_cfg mbedtls_base64_decode c received results = some c' → P offered c'
  forward : ∀ {offered c c' frame results}, P offered c →
    forwardToRover c frame results = some c' → P (offered ++ [frame.data]) c'

theorem SlotInvariant.guarded {P : List (List UInt8) → RoverSlot → Prop}
    (hP : SlotInvariant s_cfg mbedtls_base64_decode P) :
    GuardedInvariant s_cfg mbedtls_base64_decode (fun _ _ _ => True) P where
  free := hP.free
  accept := hP.accept
  service hc _ := hP.service hc
  forward := hP.forward

end

namespace Server

variable {s : Server}

@[simp]
theorem afterSend_slot (frame : RtcmFrame) (i j : Fin MAX_ROVERS) :
    (s.afterSend frame i).slot j = s.slot j := by
  unfold afterSend
  split <;> rfl

/-- The slots of a server in another phase are the same. -/
theorem OwnSockets.of_eq {s' : Server} (hown : s.OwnSockets) (hrovers : s'.s_rovers = s.s_rovers)
    (hsockets : s'.sockets = s.sockets) : s'.OwnSockets := by
  constructor
  · rw [hrovers]
    exact hown.empty
  · rw [hrovers, hsockets]
    exact hown.used
  · rw [hrovers]
    exact hown.distinct

/-- Only the slot's own descriptor is touched: the others find their sockets
as they were. -/
theorem OwnSockets.setSlot_of_ne (hown : s.OwnSockets) {i j : Fin MAX_ROVERS} (hij : j ≠ i)
    (hused : (s.s_rovers j).state ≠ .ROVER_EMPTY) (c : RoverSlot) :
    (s.setSlot i c).slot j = s.slot j := by
  have hfd : (s.s_rovers j).fd ≠ (s.s_rovers i).fd := by
    by_cases hempty : (s.s_rovers i).state = .ROVER_EMPTY
    · have hnonneg := (hown.used j hused).1
      have hnone := hown.empty i hempty
      omega
    · exact hown.distinct j i hij hused hempty
  simp [setSlot, slot, hij, hfd]

theorem OwnSockets.setSlot (hown : s.OwnSockets) {i : Fin MAX_ROVERS} {c : RoverSlot}
    (hkept : Kept (s.slot i) c) : (s.setSlot i c).OwnSockets := by
  have hother : ∀ j, j ≠ i → (s.setSlot i c).s_rovers j = s.s_rovers j := by
    intro j hj
    simp [Server.setSlot, hj]
  have hself : (s.setSlot i c).s_rovers i = c.rover := by simp [Server.setSlot]
  refine ⟨fun j hempty => ?_, fun j hused => ?_, fun j k hjk hj hk => ?_⟩
  · by_cases hj : j = i
    · subst hj
      rw [hself] at hempty ⊢
      cases hkept with
      | same hfd hstate hopen => exact hfd.trans (hown.empty j (hstate.mp hempty))
      | closed hfd hstate => exact hfd
    · rw [hother j hj] at hempty ⊢
      exact hown.empty j hempty
  · by_cases hj : j = i
    · subst hj
      rw [hself] at hused ⊢
      cases hkept with
      | same hfd hstate hopen =>
        have hbefore := hown.used j fun hempty => hused (hstate.mpr hempty)
        simp only [slot] at hfd hopen
        rw [hfd]
        exact ⟨hbefore.1, by simpa [Server.setSlot, hopen] using hbefore.2⟩
      | closed hfd hstate => exact absurd hstate hused
    · have hslot := hown.setSlot_of_ne hj (by rwa [hother j hj] at hused) c
      rw [hother j hj] at hused
      have hbefore := hown.used j hused
      simp only [slot, hother j hj, RoverSlot.mk.injEq, true_and] at hslot
      rw [hother j hj, hslot]
      exact hbefore
  · have hfd : ∀ k, ((s.setSlot i c).s_rovers k).state ≠ .ROVER_EMPTY →
        ((s.setSlot i c).s_rovers k).fd = (s.s_rovers k).fd ∧
          (s.s_rovers k).state ≠ .ROVER_EMPTY := by
      intro k hk
      by_cases hki : k = i
      · subst hki
        rw [hself] at hk ⊢
        cases hkept with
        | same hfd hstate hopen => exact ⟨hfd, fun hempty => hk (hstate.mpr hempty)⟩
        | closed hfd hstate => exact absurd hstate hk
      · rw [hother k hki] at hk ⊢
        exact ⟨rfl, hk⟩
    rw [(hfd j hj).1, (hfd k hk).1]
    exact hown.distinct j k hjk (hfd j hj).2 (hfd k hk).2

end Server

end rtkbase.ntrip_caster
