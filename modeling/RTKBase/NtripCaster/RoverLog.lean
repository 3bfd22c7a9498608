import RTKBase.Lib.Ledger
import RTKBase.NtripCaster.FrameAlignment

namespace rtkbase.ntrip_caster

open lib.cstring lib.ledger lib.lts frame_pool gnss_uart

/-- What is told of a slot: that streaming begins, after so many frames, and the
calls of `caster_log_rover_slow_drop`. -/
inductive SlotEvent where
  | streaming (offered : Nat)
  | caster_log_rover_slow_drop
  deriving DecidableEq

/-- Whether `send_frame_to_rover` calls `caster_log_rover_slow_drop`. -/
def slowDrop (c : RoverSlot) (frame : RtcmFrame) (results : List SendResult) : Bool :=
  match flush_rover_pending c results with
  | none => false
  | some (false, c, _) => c.rover.state = .ROVER_STREAMING
  | some (true, c, results) =>
    match send_bytes_to_rover c frame.data frame.data.length 0 results with
    | some (.blocked, c, offset, _) => c.rover.state = .ROVER_STREAMING ∧ offset = 0
    | _ => false

def serviceLog (offered : List (List UInt8)) (c c' : RoverSlot) : List SlotEvent :=
  if c.rover.state = .ROVER_HANDSHAKE ∧ c'.rover.state = .ROVER_STREAMING then
    [.streaming offered.length]
  else []

def forwardLog (c : RoverSlot) (frame : RtcmFrame) (results : List SendResult) :
    List SlotEvent :=
  if c.rover.state = .ROVER_STREAMING ∧ slowDrop c frame results then
    [.caster_log_rover_slow_drop]
  else []

section

variable (s_cfg : caster_config_t) (mbedtls_base64_decode : List UInt8 → Option (List UInt8))

/-- What a step of the task tells, with the number of the rover. -/
def serverLog (s : Server) (a : ServerAction) : List (Fin MAX_ROVERS × SlotEvent) :=
  match s.phase, a with
  | .service i, .service received results =>
    match serviceRover s_cfg mbedtls_base64_decode (s.slot i) received results with
    | some c => (serviceLog (s.offered i) (s.slot i) c).map (i, ·)
    | none => []
  | .sending frame i, .send results => (forwardLog (s.slot i) frame results).map (i, ·)
  | _, _ => []

/-- `task_ntrip_server` with a record of what it tells. -/
def loggedServer : Traced Server (Fin MAX_ROVERS × SlotEvent) → ServerAction →
    Option (Traced Server (Fin MAX_ROVERS × SlotEvent)) :=
  traced (serverStep s_cfg mbedtls_base64_decode) (serverLog s_cfg mbedtls_base64_decode)

/-- The life of a slot by itself: the frames offered to it, the slot, and what was
told of it. -/
inductive SlotRun : List (List UInt8) → RoverSlot → List SlotEvent → Prop where
  | blank {rover : rover_conn_t} (hblank : rover.Blank) (sock : Socket) :
      SlotRun [] ⟨rover, sock⟩ []
  | free {offered : List (List UInt8)} {rover : rover_conn_t} {sock : Socket}
      {log : List SlotEvent} (before : SlotRun offered ⟨rover, sock⟩ log)
      (hempty : rover.state = .ROVER_EMPTY) (sock' : Socket) : SlotRun offered ⟨rover, sock'⟩ log
  | accept {offered : List (List UInt8)} {rover : rover_conn_t} {sock : Socket}
      {log : List SlotEvent} (before : SlotRun offered ⟨rover, sock⟩ log) (new_fd : Int) :
      SlotRun offered ⟨acceptRover rover new_fd, acceptedSocket⟩ log
  | service {offered : List (List UInt8)} {c c' : RoverSlot} {log : List SlotEvent}
      {received : RecvResult} {results : List SendResult} (before : SlotRun offered c log)
      (hservice : serviceRover s_cfg mbedtls_base64_decode c received results = some c') :
      SlotRun offered c' (log ++ serviceLog offered c c')
  | forward {offered : List (List UInt8)} {c c' : RoverSlot} {log : List SlotEvent}
      {frame : RtcmFrame} {results : List SendResult} (before : SlotRun offered c log)
      (hforward : forwardToRover c frame results = some c') :
      SlotRun (offered ++ [frame.data]) c' (log ++ forwardLog c frame results)

end

/-- What was told of rover `i`. -/
def roverLog {ε : Type} (i : Fin MAX_ROVERS) (calls : List (Fin MAX_ROVERS × ε)) : List ε :=
  (calls.filter fun call => call.1 = i).map Prod.snd

theorem roverLog_append {ε : Type} (i : Fin MAX_ROVERS) (calls more : List (Fin MAX_ROVERS × ε)) :
    roverLog i (calls ++ more) = roverLog i calls ++ roverLog i more := by
  simp [roverLog]

theorem roverLog_map {ε : Type} (i j : Fin MAX_ROVERS) (log : List ε) :
    roverLog i (log.map (j, ·)) = if j = i then log else [] := by
  unfold roverLog
  by_cases hj : j = i
  · simp [hj, List.filter_map, Function.comp_def]
  · simp [hj, List.filter_map, Function.comp_def]

section

variable {s_cfg : caster_config_t} {mbedtls_base64_decode : List UInt8 → Option (List UInt8)}

/-- A pass over slot `i` is a step of that slot, and none of the others. -/
theorem SlotRun.setSlot {s : Server} (hown : s.OwnSockets) {i j : Fin MAX_ROVERS} {c : RoverSlot}
    (hkept : Kept (s.slot i) c) {offered : List (List UInt8)} {log : List SlotEvent}
    (hc : j = i → SlotRun s_cfg mbedtls_base64_decode offered c log)
    (hbefore : j ≠ i → SlotRun s_cfg mbedtls_base64_decode offered (s.slot j) log) :
    SlotRun s_cfg mbedtls_base64_decode offered ((s.setSlot i c).slot j) log := by
  by_cases hj : j = i
  · subst hj
    have hslot := hc rfl
    cases hkept with
    | same hfd hstate hopen =>
      simp only [Server.slot] at hfd
      simpa [Server.setSlot, Server.slot, hfd] using hslot
    | closed hfd hstate =>
      simp only [Server.setSlot, Server.slot, Function.update_self]
      exact .free hslot hstate _
  · by_cases hused : (s.s_rovers j).state = .ROVER_EMPTY
    · have hslot := hbefore hj
      simp only [Server.setSlot, Server.slot, Function.update_of_ne hj]
      exact .free hslot hused _
    · rw [hown.setSlot_of_ne hj hused]
      exact hbefore hj

/-- A step that offers the slot no frame. -/
theorem SlotRun.quiet {s s' : Server} {j : Fin MAX_ROVERS} {log : List SlotEvent}
    (hforwarded : s'.forwarded = s.forwarded) (hbefore : s.phase.passed j = [])
    (hafter : s'.phase.passed j = [])
    (hslot : SlotRun s_cfg mbedtls_base64_decode (s.offered j) (s'.slot j) log) :
    SlotRun s_cfg mbedtls_base64_decode (s'.offered j) (s'.slot j) log := by
  rwa [Server.offered_eq hforwarded hbefore hafter]

/-- A new client is for its slot the beginning of a connection. -/
theorem slot_run_accept {s s' : Server} {new_fd : Int} {results : List SendResult}
    {j : Fin MAX_ROVERS} {log : List SlotEvent} (hown : s.OwnSockets)
    (hslot : SlotRun s_cfg mbedtls_base64_decode (s.offered j) (s.slot j) log)
    (hphase : s.phase = .accept) (haccept : s.acceptClient new_fd results = some s') :
    SlotRun s_cfg mbedtls_base64_decode (s'.offered j) (s'.slot j) log := by
  have hbefore : s.phase.passed j = [] := by
    rw [hphase]
    rfl
  have hstep : ServerStep s_cfg mbedtls_base64_decode s s' := acceptClient_cases hphase haccept
  cases hstep with
  | noClient => exact .quiet (by rfl) hbefore rfl hslot
  | @accepted i new_fd _ hfd hclosed hempty =>
    apply SlotRun.quiet (by rfl) hbefore rfl
    by_cases hj : j = i
    · subst hj
      simpa [Server.slot, acceptRover] using SlotRun.accept hslot new_fd
    · by_cases hused : (s.s_rovers j).state = .ROVER_EMPTY
      · simp only [Server.slot, Function.update_of_ne hj]
        exact .free hslot hused _
      · have hne : (s.s_rovers j).fd ≠ new_fd := hown.fd_ne hused hclosed
        simpa [Server.slot, hj, hne] using hslot
  | @busy new_fd sock _ hclosed hfull =>
    apply SlotRun.quiet (by rfl) hbefore rfl
    have hne : (s.s_rovers j).fd ≠ new_fd := hown.fd_ne (hfull j) hclosed
    simpa [Server.slot, hne] using hslot
  | notReady hother => simp [hphase] at hother
  | service hother => simp [hphase] at hother
  | dequeue hother => simp [hphase] at hother
  | queueEmpty hother => simp [hphase] at hother
  | send hother => simp [hphase] at hother

/-- Each step of the task is for each slot a step of its own, or none. -/
theorem slot_run_step {s s' : Server} {a : ServerAction} {j : Fin MAX_ROVERS}
    {log : List SlotEvent} (hown : s.OwnSockets)
    (hslot : SlotRun s_cfg mbedtls_base64_decode (s.offered j) (s.slot j) log)
    (hstep : serverStep s_cfg mbedtls_base64_decode s a = some s') :
    SlotRun s_cfg mbedtls_base64_decode (s'.offered j) (s'.slot j)
      (log ++ roverLog j (serverLog s_cfg mbedtls_base64_decode s a)) := by
  have hnone : roverLog j ([] : List (Fin MAX_ROVERS × SlotEvent)) = [] := rfl
  unfold serverStep at hstep
  split at hstep
  case h_1 hphase =>
    cases hstep
    simp only [serverLog, hphase, hnone, List.append_nil]
    exact .quiet (by rfl) (by rw [hphase]; rfl) rfl hslot
  case h_2 hphase =>
    simp only [serverLog, hphase, hnone, List.append_nil]
    exact slot_run_accept hown hslot hphase hstep
  case h_3 i hphase =>
    cases hstep
    simp only [serverLog, hphase, hnone, List.append_nil]
    exact .quiet (by rfl) (by rw [hphase]; rfl) (afterService_passed i j) hslot
  case h_4 i received results hphase =>
    split at hstep
    case h_1 => cases hstep
    case h_2 c hservice =>
      cases hstep
      simp only [serverLog, hphase, hservice, roverLog_map]
      apply SlotRun.quiet (s := s) (by rfl) (by rw [hphase]; rfl) (afterService_passed i j)
      apply SlotRun.setSlot hown (serviceRover_kept hservice)
      · rintro rfl
        rw [if_pos rfl]
        exact .service hslot hservice
      · intro hj
        rw [if_neg (Ne.symm hj), List.append_nil]
        exact hslot
  case h_5 hphase =>
    cases hstep
    simp only [serverLog, hphase, hnone, List.append_nil]
    exact .quiet (by rfl) (by rw [hphase]; rfl) (by simp [ServerPhase.passed]) hslot
  case h_6 hphase =>
    cases hstep
    simp only [serverLog, hphase, hnone, List.append_nil]
    exact .quiet (by rfl) (by rw [hphase]; rfl) rfl hslot
  case h_7 frame i results hphase =>
    split at hstep
    case h_1 => cases hstep
    case h_2 c hforward =>
      cases hstep
      simp only [serverLog, hphase, roverLog_map]
      rw [afterSend_offered hphase, Server.afterSend_slot]
      apply SlotRun.setSlot hown (forwardToRover_sent hforward).kept
      · rintro rfl
        rw [if_pos rfl, if_pos rfl]
        exact .forward hslot hforward
      · intro hj
        rw [if_neg hj, if_neg (Ne.symm hj), List.append_nil]
        exact hslot
  case h_8 => cases hstep

/-- In every run the task is as many slots, each for itself. -/
theorem slot_run_of_logged {s_rovers : Fin MAX_ROVERS → rover_conn_t} {sockets : Int → Socket}
    {t : Traced Server (Fin MAX_ROVERS × SlotEvent)} (hblank : ∀ i, (s_rovers i).Blank)
    (hreach : Reach (loggedServer s_cfg mbedtls_base64_decode) Anywhere
      ⟨listening s_rovers sockets, []⟩ t) (i : Fin MAX_ROVERS) :
    SlotRun s_cfg mbedtls_base64_decode (t.state.offered i) (t.state.slot i)
      (roverLog i t.calls) := by
  apply traced_invariant (K := Server.OwnSockets) (P := fun s calls =>
    SlotRun s_cfg mbedtls_base64_decode (s.offered i) (s.slot i) (roverLog i calls)) hreach
  · intro s hs
    exact hs.invariant (listening_own_sockets hblank) fun _ _ _ hown _ hstep =>
      own_socketsStep hown hstep
  · exact .blank (hblank i) _
  · intro s calls a s' hown hslot hstep
    rw [roverLog_append]
    exact slot_run_step hown hslot hstep

end

end rtkbase.ntrip_caster
