import RTKBase.NtripCaster.ServerRun

namespace rtkbase.ntrip_caster

open lib.cstring frame_pool

/-- What `task_ntrip_server` asks of the socket layer about descriptors. -/
inductive FdCall where
  | accept (new_fd : Int)
  | close (fd : Int)
  deriving DecidableEq

def FdCall.fd : FdCall → Int
  | .accept new_fd => new_fd
  | .close fd => fd

/-- The call of `close` in `close_rover`. -/
def closeRoverCalls (c : RoverSlot) : List FdCall :=
  if 0 ≤ c.rover.fd then [.close c.rover.fd] else []

def sendBytesToRoverCalls (c : RoverSlot) (len offset : Nat) (results : List SendResult) :
    List FdCall :=
  match sendLoop ROVER_STREAM_SEND_RETRIES len results offset 0 with
  | some (.failed, _, _) => closeRoverCalls c
  | _ => []

def flushRoverPendingCalls (c : RoverSlot) (results : List SendResult) : List FdCall :=
  if c.rover.tx_pending_len ≤ c.rover.tx_pending_pos then []
  else sendBytesToRoverCalls c c.rover.tx_pending_len c.rover.tx_pending_pos results

def sendFrameToRoverCalls (c : RoverSlot) (frame : RtcmFrame) (results : List SendResult) :
    List FdCall :=
  flushRoverPendingCalls c results ++
    match flush_rover_pending c results with
    | some (true, c, rest) => sendBytesToRoverCalls c frame.data.length 0 rest
    | _ => []

def forwardToRoverCalls (c : RoverSlot) (frame : RtcmFrame) (results : List SendResult) :
    List FdCall :=
  if c.rover.state = .ROVER_STREAMING then sendFrameToRoverCalls c frame results else []

section

variable (s_cfg : caster_config_t) (mbedtls_base64_decode : List UInt8 → Option (List UInt8))

def receiveRequestCalls (c : RoverSlot) (bytes : List UInt8) (results : List SendResult) :
    List FdCall :=
  let c := c.storeRequest bytes
  if (strstr (cstr c.rover.rx_buf) (ascii "\r\n\r\n")).isSome then
    match handle_request s_cfg mbedtls_base64_decode c results with
    | some (false, c) => closeRoverCalls c
    | _ => []
  else if ROVER_REQ_BUF_SIZE - 1 ≤ c.rover.rx_pos then closeRoverCalls c
  else []

def serviceRoverCalls (c : RoverSlot) (received : RecvResult) (results : List SendResult) :
    List FdCall :=
  match c.rover.state, received with
  | .ROVER_EMPTY, _ => []
  | .ROVER_HANDSHAKE, .data bytes =>
    receiveRequestCalls s_cfg mbedtls_base64_decode c bytes results
  | .ROVER_HANDSHAKE, _ => closeRoverCalls c
  | .ROVER_STREAMING, .data _ => []
  | .ROVER_STREAMING, .error true => []
  | .ROVER_STREAMING, _ => closeRoverCalls c

def Server.acceptClientCalls (s : Server) (new_fd : Int) : List FdCall :=
  .accept new_fd ::
    match firstEmpty s.s_rovers with
    | some _ => []
    | none => [.close new_fd]

/-- The calls of one step of `task_ntrip_server`. -/
def serverCalls (s : Server) (a : ServerAction) : List FdCall :=
  match s.phase, a with
  | .accept, .accept new_fd _ => s.acceptClientCalls new_fd
  | .service i, .service received results =>
    serviceRoverCalls s_cfg mbedtls_base64_decode (s.slot i) received results
  | .sending frame i, .send results => forwardToRoverCalls (s.slot i) frame results
  | _, _ => []

end

/-- A pass over a slot makes no call and keeps its descriptor, or makes those of
`close_rover` and gives the descriptor up. -/
inductive Closes (c c' : RoverSlot) : List FdCall → Prop where
  | same (hfd : c'.rover.fd = c.rover.fd)
      (hstate : c'.rover.state = .ROVER_EMPTY ↔ c.rover.state = .ROVER_EMPTY) : Closes c c' []
  | closed (hfd : c'.rover.fd = -1) (hstate : c'.rover.state = .ROVER_EMPTY) :
      Closes c c' (closeRoverCalls c)

theorem closeRoverCalls_congr {c c' : RoverSlot} (hfd : c'.rover.fd = c.rover.fd) :
    closeRoverCalls c' = closeRoverCalls c := by
  rw [closeRoverCalls, closeRoverCalls, hfd]

theorem close_rover_closes {c c₁ : RoverSlot} (hfd : c₁.rover.fd = c.rover.fd) :
    Closes c (close_rover c₁) (closeRoverCalls c₁) := by
  rw [closeRoverCalls_congr hfd]
  exact .closed rfl rfl

/-- A pass that follows one without a call. -/
theorem Closes.after {c c₁ c' : RoverSlot} {calls : List FdCall}
    (hfd : c₁.rover.fd = c.rover.fd)
    (hstate : c₁.rover.state = .ROVER_EMPTY ↔ c.rover.state = .ROVER_EMPTY)
    (hcloses : Closes c₁ c' calls) : Closes c c' calls := by
  cases hcloses with
  | same hfd' hstate' => exact .same (hfd'.trans hfd) (hstate'.trans hstate)
  | closed hfd' hstate' =>
    rw [closeRoverCalls_congr hfd]
    exact .closed hfd' hstate'

/-- A pass that is followed by an assignment to other fields. -/
theorem Closes.before {c c₁ c' : RoverSlot} {calls : List FdCall} (hcloses : Closes c c₁ calls)
    (hfd : c'.rover.fd = c₁.rover.fd) (hstate : c'.rover.state = c₁.rover.state) :
    Closes c c' calls := by
  cases hcloses with
  | same hfd' hstate' => exact .same (hfd.trans hfd') (by rw [hstate]; exact hstate')
  | closed hfd' hstate' => exact .closed (hfd.trans hfd') (hstate.trans hstate')

/-- Unless the socket fails, `send_bytes_to_rover` makes no call. -/
theorem send_bytes_to_rover_closes {c c' : RoverSlot} {data : List UInt8} {len offset stop : Nat}
    {results rest : List SendResult} {result : SendEnd}
    (hsend : send_bytes_to_rover c data len offset results = some (result, c', stop, rest)) :
    Closes c c' (sendBytesToRoverCalls c len offset results) ∧
      (result ≠ .failed → c'.rover = c.rover ∧
        sendBytesToRoverCalls c len offset results = []) := by
  unfold send_bytes_to_rover at hsend
  unfold sendBytesToRoverCalls
  cases hloop : sendLoop ROVER_STREAM_SEND_RETRIES len results offset 0 with
  | none => simp [hloop] at hsend
  | some outcome =>
    obtain ⟨result', stop', rest'⟩ := outcome
    simp only [hloop] at hsend ⊢
    cases result' with
    | failed =>
      cases hsend
      exact ⟨.closed rfl rfl, fun hfailed => absurd rfl hfailed⟩
    | blocked =>
      cases hsend
      exact ⟨.same rfl Iff.rfl, fun _ => ⟨rfl, rfl⟩⟩
    | finished =>
      cases hsend
      exact ⟨.same rfl Iff.rfl, fun _ => ⟨rfl, rfl⟩⟩

theorem flush_rover_pending_closes {c c' : RoverSlot} {results rest : List SendResult}
    {ok : Bool} (hflush : flush_rover_pending c results = some (ok, c', rest)) :
    Closes c c' (flushRoverPendingCalls c results) ∧
      (ok = true → c'.rover.fd = c.rover.fd ∧ c'.rover.state = c.rover.state ∧
        flushRoverPendingCalls c results = []) := by
  unfold flush_rover_pending at hflush
  unfold flushRoverPendingCalls
  split at hflush
  case isTrue hdone =>
    cases hflush
    rw [if_pos hdone]
    exact ⟨.same rfl Iff.rfl, fun _ => ⟨rfl, rfl, rfl⟩⟩
  case isFalse hmore =>
    rw [if_neg hmore]
    split at hflush
    case h_1 => cases hflush
    case h_2 hsend =>
      cases hflush
      exact ⟨(send_bytes_to_rover_closes hsend).1.before rfl rfl, by simp⟩
    case h_3 hsend =>
      cases hflush
      exact ⟨(send_bytes_to_rover_closes hsend).1.before rfl rfl, by simp⟩
    case h_4 hsend =>
      cases hflush
      obtain ⟨hcloses, hquiet⟩ := send_bytes_to_rover_closes hsend
      obtain ⟨hrover, hnone⟩ := hquiet (by simp)
      have hfd := congrArg rover_conn_t.fd hrover
      have hstate := congrArg rover_conn_t.state hrover
      exact ⟨hcloses.before rfl rfl, fun _ => ⟨hfd, hstate, hnone⟩⟩

/-- After a flush that fails nothing more is sent, so that a slot that the flush
has closed is not closed again. -/
theorem send_frame_to_rover_closes {c c' : RoverSlot} {frame : RtcmFrame}
    {results : List SendResult} {ok : Bool}
    (hframe : send_frame_to_rover c frame results = some (ok, c')) :
    Closes c c' (sendFrameToRoverCalls c frame results) := by
  have hquiet : ∀ {c₁ c₂ : RoverSlot} {rest rest' : List SendResult} {result : SendEnd}
      {stop : Nat}, flush_rover_pending c results = some (true, c₁, rest) →
      send_bytes_to_rover c₁ frame.data frame.data.length 0 rest = some (result, c₂, stop, rest') →
        Closes c c₂ (sendFrameToRoverCalls c frame results) := by
    intro c₁ c₂ rest rest' result stop hflush hsend
    obtain ⟨hfd, hstate, hnone⟩ := (flush_rover_pending_closes hflush).2 rfl
    rw [sendFrameToRoverCalls, hflush, hnone, List.nil_append]
    exact (send_bytes_to_rover_closes hsend).1.after hfd (by rw [hstate])
  cases send_frame_to_rover_cases hframe with
  | notFlushed hflush =>
    rw [sendFrameToRoverCalls, hflush, List.append_nil]
    exact (flush_rover_pending_closes hflush).1
  | finished hflush hsend => exact hquiet hflush hsend
  | stopped hflush hsend => exact hquiet hflush hsend
  | kept hflush hsend => exact (hquiet hflush hsend).before rfl rfl

theorem forwardToRover_closes {c c' : RoverSlot} {frame : RtcmFrame}
    {results : List SendResult} (hforward : forwardToRover c frame results = some c') :
    Closes c c' (forwardToRoverCalls c frame results) := by
  obtain ⟨hstate, ok, hframe⟩ | ⟨hstate, rfl⟩ := forwardToRover_cases hforward
  · rw [forwardToRoverCalls, if_pos hstate]
    exact send_frame_to_rover_closes hframe
  · rw [forwardToRoverCalls, if_neg hstate]
    exact .same rfl Iff.rfl

section

variable {s_cfg : caster_config_t} {mbedtls_base64_decode : List UInt8 → Option (List UInt8)}

theorem receiveRequest_closes {c c' : RoverSlot} {bytes : List UInt8}
    {results : List SendResult} (hstate : c.rover.state = .ROVER_HANDSHAKE)
    (hreceive : receiveRequest s_cfg mbedtls_base64_decode c bytes results = some c') :
    Closes c c' (receiveRequestCalls s_cfg mbedtls_base64_decode c bytes results) := by
  rw [receiveRequestCalls]
  cases (receiveRequest_branches hreceive).2 with
  | letIn hblank hhandle =>
    obtain ⟨_, v2, more, rfl⟩ := handle_request_spec hhandle
    rw [if_pos hblank, hhandle]
    refine .same rfl ?_
    simp [RoverSlot.startStreaming, hstate]
  | refused hblank hhandle =>
    obtain ⟨_, v2, more, rfl⟩ := handle_request_spec hhandle
    rw [if_pos hblank, hhandle]
    exact close_rover_closes rfl
  | tooLarge hpart hfull =>
    rw [if_neg hpart, if_pos hfull]
    exact close_rover_closes rfl
  | more hpart hroom =>
    rw [if_neg hpart, if_neg hroom]
    exact .same rfl Iff.rfl

theorem serviceRover_closes {c c' : RoverSlot} {received : RecvResult}
    {results : List SendResult}
    (hservice : serviceRover s_cfg mbedtls_base64_decode c received results = some c') :
    Closes c c' (serviceRoverCalls s_cfg mbedtls_base64_decode c received results) := by
  unfold serviceRover at hservice
  unfold serviceRoverCalls
  cases hstate : c.rover.state with
  | ROVER_EMPTY =>
    simp only [hstate] at hservice ⊢
    cases hservice
    exact .same rfl Iff.rfl
  | ROVER_HANDSHAKE =>
    cases received with
    | data bytes =>
      simp only [hstate] at hservice ⊢
      exact receiveRequest_closes hstate hservice
    | _ =>
      simp only [hstate] at hservice ⊢
      cases hservice
      exact close_rover_closes rfl
  | ROVER_STREAMING =>
    cases received with
    | data bytes =>
      simp only [hstate] at hservice ⊢
      split at hservice
      · cases hservice
        exact .same rfl Iff.rfl
      · cases hservice
    | closed =>
      simp only [hstate] at hservice ⊢
      cases hservice
      exact close_rover_closes rfl
    | error again =>
      cases again with
      | true =>
        simp only [hstate] at hservice ⊢
        cases hservice
        exact .same rfl Iff.rfl
      | false =>
        simp only [hstate] at hservice ⊢
        cases hservice
        exact close_rover_closes rfl

end

/-- What one step of `task_ntrip_server` does with descriptors. -/
inductive CallsStep (s s' : Server) : List FdCall → Prop where
  | quiet (hrovers : s'.s_rovers = s.s_rovers) : CallsStep s s' []
  | accepted {i : Fin MAX_ROVERS} {new_fd : Int} (hclosed : (s.sockets new_fd).isOpen = false)
      (hempty : (s.s_rovers i).state = .ROVER_EMPTY)
      (hrovers : s'.s_rovers =
        Function.update s.s_rovers i (acceptRover (s.s_rovers i) new_fd)) :
      CallsStep s s' [.accept new_fd]
  | busy {new_fd : Int} (hclosed : (s.sockets new_fd).isOpen = false)
      (hrovers : s'.s_rovers = s.s_rovers) : CallsStep s s' [.accept new_fd, .close new_fd]
  | pass {i : Fin MAX_ROVERS} {c : RoverSlot} {calls : List FdCall}
      (hcloses : Closes (s.slot i) c calls)
      (hrovers : s'.s_rovers = Function.update s.s_rovers i c.rover) : CallsStep s s' calls

theorem acceptClientCalls_step {s s' : Server} {new_fd : Int} {results : List SendResult}
    (haccept : s.acceptClient new_fd results = some s') :
    CallsStep s s' (s.acceptClientCalls new_fd) := by
  unfold Server.acceptClient at haccept
  unfold Server.acceptClientCalls
  split at haccept
  case isFalse => cases haccept
  case isTrue hfd =>
    cases hfirst : firstEmpty s.s_rovers with
    | some i =>
      simp only [hfirst] at haccept ⊢
      cases haccept
      have hempty := List.find?_some hfirst
      exact .accepted hfd.2 (of_decide_eq_true hempty) rfl
    | none =>
      simp only [hfirst] at haccept ⊢
      split at haccept
      case h_1 => cases haccept
      case h_2 =>
        cases haccept
        exact .busy hfd.2 rfl

theorem serverStep_calls {s_cfg : caster_config_t}
    {mbedtls_base64_decode : List UInt8 → Option (List UInt8)} {s s' : Server} {a : ServerAction}
    (hstep : serverStep s_cfg mbedtls_base64_decode s a = some s') :
    CallsStep s s' (serverCalls s_cfg mbedtls_base64_decode s a) := by
  unfold serverStep at hstep
  split at hstep
  case h_1 hphase =>
    cases hstep
    simp only [serverCalls, hphase]
    exact .quiet rfl
  case h_2 hphase =>
    simp only [serverCalls, hphase]
    exact acceptClientCalls_step hstep
  case h_3 hphase =>
    cases hstep
    simp only [serverCalls, hphase]
    exact .quiet rfl
  case h_4 hphase =>
    simp only [serverCalls, hphase]
    split at hstep
    case h_1 => cases hstep
    case h_2 hservice =>
      cases hstep
      exact .pass (serviceRover_closes hservice) rfl
  case h_5 hphase =>
    cases hstep
    simp only [serverCalls, hphase]
    exact .quiet rfl
  case h_6 hphase =>
    cases hstep
    simp only [serverCalls, hphase]
    exact .quiet rfl
  case h_7 frame i results hphase =>
    simp only [serverCalls, hphase]
    split at hstep
    case h_1 => cases hstep
    case h_2 hforward =>
      cases hstep
      refine .pass (forwardToRover_closes hforward) ?_
      unfold Server.afterSend
      split <;> rfl
  case h_8 => cases hstep

end rtkbase.ntrip_caster
