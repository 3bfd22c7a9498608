import RTKBase.TcpServer.Server

namespace rtkbase.tcp_server

open ntrip_caster (SendResult RecvResult)

/-- What one step of `task_tcp_server` can do. -/
inductive TaskStep (s : Server) : TaskAction → Server → Prop where
  | dropClient (hphase : s.phase = .head) (hflag : s.disconnect_requested = true)
      (hsock : s.client_socket ≠ INVALID_SOCK) :
      TaskStep s .turn { s with
        phase := .dropFlag s.client_socket
        client_socket := INVALID_SOCK
        hits := s.hits ++ s.raisedFor.map (⟨s.accepted, ·⟩) }
  | noDrop (hphase : s.phase = .head)
      (hkeep : s.disconnect_requested = false ∨ s.client_socket = INVALID_SOCK) :
      TaskStep s .turn { s with phase := .headElse }
  | dropFlag {sock : Int} (hphase : s.phase = .dropFlag sock) :
      TaskStep s .turn { s.clearRequest with phase := .dropDrain sock }
  | dropDrain {sock : Int} {f : PostedFrame} {rest : List PostedFrame}
      (hphase : s.phase = .dropDrain sock) (hqueue : s.q_tcp_server = some (f :: rest)) :
      TaskStep s .turn { s with q_tcp_server := some rest }
  | dropped {sock : Int} (hphase : s.phase = .dropDrain sock) (hqueue : s.queued = []) :
      TaskStep s .turn { s.resetPending.closeSocket with client_endpoint := [], phase := .accept }
  | clearAlone (hphase : s.phase = .headElse) (hsock : s.client_socket = INVALID_SOCK) :
      TaskStep s .turn { s.clearRequest with phase := .accept }
  | clearServing (hphase : s.phase = .headElse) (hsock : s.client_socket ≠ INVALID_SOCK) :
      TaskStep s .turn { s.clearRequest with phase := .reject }
  | reject (hphase : s.phase = .reject) : TaskStep s .turn { s with phase := .recv }
  | acceptRetry (hphase : s.phase = .accept) :
      TaskStep s (.accept .retry) { s with client_socket := INVALID_SOCK, phase := .fetch }
  | acceptClient {fd : Int} {source_addr : sockaddr_storage} (hphase : s.phase = .accept)
      (hfd : 0 ≤ fd) :
      TaskStep s (.accept (.client fd source_addr)) { s with
        phase := .setup
        client_socket := fd
        client_endpoint := endpointText source_addr
        accepted := s.accepted + 1
        openSocket := some fd
        current := .fresh }
  | acceptFailed (hphase : s.phase = .accept) : TaskStep s (.accept .failed) s.stop
  | setupLost {result : SetupResult} (hphase : s.phase = .setup)
      (hlost : result = .setsockoptFailed ∨ result = .getflFailed) :
      TaskStep s (.setup result) { s.closeSocket with phase := .closed .setup }
  | setupFailed (hphase : s.phase = .setup) : TaskStep s (.setup .setflFailed) s.closeSocket.stop
  | setupReady (hphase : s.phase = .setup) : TaskStep s (.setup .ready) { s with phase := .recv }
  | closedSetup (hphase : s.phase = .closed .setup) :
      TaskStep s .turn { s.resetPending with client_socket := INVALID_SOCK, phase := .head }
  | closedServing (hphase : s.phase = .closed .serving) :
      TaskStep s .turn { s.resetPending with
        client_socket := INVALID_SOCK, client_endpoint := [], phase := .fetch }
  | recvData {bytes : List UInt8} (hphase : s.phase = .recv) (hbytes : bytes ≠ [])
      (hroom : bytes.length ≤ rxBufferSize) :
      TaskStep s (.recv (.data bytes)) { s with phase := .drain bytes }
  | recvNothing (hphase : s.phase = .recv) : TaskStep s (.recv (.error true)) s.servePending
  | recvFailed {result : RecvResult} (hphase : s.phase = .recv)
      (hfailed : result = .error false ∨ result = .closed) :
      TaskStep s (.recv result) { s.closeSocket with phase := .closed .serving }
  | drain {rx_buffer : List UInt8} {f : PostedFrame} {rest : List PostedFrame}
      (hphase : s.phase = .drain rx_buffer) (hqueue : s.q_tcp_server = some (f :: rest)) :
      TaskStep s .turn { s with q_tcp_server := some rest }
  | drained {rx_buffer : List UInt8} (hphase : s.phase = .drain rx_buffer)
      (hqueue : s.queued = []) :
      TaskStep s .turn { s with phase := .write rx_buffer }
  | write {rx_buffer : List UInt8} {n : Nat} (hphase : s.phase = .write rx_buffer) :
      TaskStep s (.uart_write_bytes n) s.servePending
  | send {retries n : Nat} (hphase : s.phase = .sending retries) (hpos : n ≠ 0)
      (hn : n ≤ s.pending_tx_frame.data.length - s.pending_tx_offset) :
      TaskStep s (.send (.sent n)) (Server.sendingLoop { s with
        pending_tx_offset := s.pending_tx_offset + n
        current := s.current.send ((s.pending_tx_frame.data.drop s.pending_tx_offset).take n) })
  | sendRetry {retries : Nat} (hphase : s.phase = .sending retries)
      (hmore : retries < SOCKET_MAX_RETRIES) :
      TaskStep s (.send .again) { s with phase := .sending (retries + 1) }
  | sendDeferred {retries : Nat} (hphase : s.phase = .sending retries)
      (hlast : SOCKET_MAX_RETRIES ≤ retries) : TaskStep s (.send .again) { s with phase := .fetch }
  | sendFailed {retries : Nat} {result : SendResult} (hphase : s.phase = .sending retries)
      (hfailed : result = .sent 0 ∨ result = .error) :
      TaskStep s (.send result) { s.closeSocket with phase := .closed .serving }
  | fetchDone (hphase : s.phase = .fetch) (hdone : s.pending_tx_valid = true ∨ s.queued = []) :
      TaskStep s .turn { s with phase := .head }
  | fetchDiscard {f : PostedFrame} {rest : List PostedFrame} (hphase : s.phase = .fetch)
      (hsock : s.client_socket = INVALID_SOCK) (hqueue : s.q_tcp_server = some (f :: rest)) :
      TaskStep s .turn { s with q_tcp_server := some rest }
  | fetchFrame {f : PostedFrame} {rest : List PostedFrame} (hphase : s.phase = .fetch)
      (hpending : s.pending_tx_valid = false) (hsock : s.client_socket ≠ INVALID_SOCK)
      (hqueue : s.q_tcp_server = some (f :: rest)) :
      TaskStep s .turn (s.takeFrame f rest)

namespace Server

variable {s s' : Server}

theorem queued_eq_nil (hempty : ∀ f rest, s.q_tcp_server = some (f :: rest) → False) :
    s.queued = [] := by
  match hqueue : s.q_tcp_server with
  | none => simp [queued, hqueue]
  | some [] => simp [queued, hqueue]
  | some (f :: rest) => exact absurd hqueue (hempty f rest)

theorem acceptStep_cases {result : AcceptResult} (hphase : s.phase = .accept)
    (hstep : s.acceptStep result = some s') : TaskStep s (.accept result) s' := by
  cases result with
  | retry =>
    obtain rfl := Option.some.inj hstep
    exact .acceptRetry hphase
  | client fd source_addr =>
    simp only [acceptStep] at hstep
    split at hstep
    case isTrue hfd =>
      obtain rfl := Option.some.inj hstep
      exact .acceptClient hphase hfd
    case isFalse => cases hstep
  | failed =>
    obtain rfl := Option.some.inj hstep
    exact .acceptFailed hphase

theorem setupStep_cases (hphase : s.phase = .setup) (result : SetupResult) :
    TaskStep s (.setup result) (s.setupStep result) := by
  cases result with
  | setsockoptFailed => exact .setupLost hphase (.inl rfl)
  | getflFailed => exact .setupLost hphase (.inr rfl)
  | setflFailed => exact .setupFailed hphase
  | ready => exact .setupReady hphase

theorem recvStep_cases {result : RecvResult} (hphase : s.phase = .recv)
    (hstep : s.recvStep result = some s') : TaskStep s (.recv result) s' := by
  unfold recvStep at hstep
  split at hstep
  case h_1 =>
    split at hstep
    case isTrue hbytes =>
      obtain rfl := Option.some.inj hstep
      exact .recvData hphase hbytes.1 hbytes.2
    case isFalse => cases hstep
  case h_2 =>
    obtain rfl := Option.some.inj hstep
    exact .recvNothing hphase
  case h_3 =>
    obtain rfl := Option.some.inj hstep
    exact .recvFailed hphase (.inl rfl)
  case h_4 =>
    obtain rfl := Option.some.inj hstep
    exact .recvFailed hphase (.inr rfl)

theorem sendStep_cases {retries : Nat} {result : SendResult} (hphase : s.phase = .sending retries)
    (hstep : s.sendStep retries result = some s') : TaskStep s (.send result) s' := by
  cases result with
  | sent n =>
    simp only [sendStep] at hstep
    split at hstep
    case isTrue hzero =>
      obtain rfl := Option.some.inj hstep
      exact .sendFailed hphase (.inl (by rw [hzero]))
    case isFalse hpos =>
      split at hstep
      case isTrue hn =>
        obtain rfl := Option.some.inj hstep
        exact .send hphase hpos hn
      case isFalse => cases hstep
  | again =>
    simp only [sendStep] at hstep
    split at hstep
    case isTrue hmore =>
      obtain rfl := Option.some.inj hstep
      exact .sendRetry hphase hmore
    case isFalse hlast =>
      obtain rfl := Option.some.inj hstep
      exact .sendDeferred hphase (Nat.le_of_not_lt hlast)
  | error =>
    obtain rfl := Option.some.inj hstep
    exact .sendFailed hphase (.inr rfl)

theorem fetchStep_cases (hphase : s.phase = .fetch) : TaskStep s .turn s.fetchStep := by
  unfold fetchStep
  split
  case isTrue hpending => exact .fetchDone hphase (.inl hpending)
  case isFalse hpending =>
    split
    case h_1 hqueue =>
      split
      case isTrue hsock => exact .fetchDiscard hphase hsock hqueue
      case isFalse hsock => exact .fetchFrame hphase (by simpa using hpending) hsock hqueue
    case h_2 hempty => exact .fetchDone hphase (.inr (queued_eq_nil hempty))

theorem headStep_cases (hphase : s.phase = .head) : TaskStep s .turn s.headStep := by
  unfold headStep
  split
  case isTrue hdrop => exact .dropClient hphase hdrop.1 hdrop.2
  case isFalse hkeep =>
    refine .noDrop hphase ?_
    by_cases hflag : s.disconnect_requested = true
    · exact .inr (by_contra fun hsock => hkeep ⟨hflag, hsock⟩)
    · exact .inl (by simpa using hflag)

theorem taskStep_cases {a : TaskAction} (hstep : s.taskStep a = some s') : TaskStep s a s' := by
  unfold taskStep at hstep
  split at hstep
  case h_1 hphase =>
    obtain rfl := Option.some.inj hstep
    exact headStep_cases hphase
  case h_2 hphase =>
    obtain rfl := Option.some.inj hstep
    exact .dropFlag hphase
  case h_3 hphase =>
    obtain rfl := Option.some.inj hstep
    unfold drainStep
    split
    case h_1 hqueue => exact .dropDrain hphase hqueue
    case h_2 hempty => exact .dropped hphase (queued_eq_nil hempty)
  case h_4 hphase =>
    obtain rfl := Option.some.inj hstep
    split
    case isTrue hsock => exact .clearAlone hphase hsock
    case isFalse hsock => exact .clearServing hphase hsock
  case h_5 hphase =>
    obtain rfl := Option.some.inj hstep
    exact .reject hphase
  case h_6 hphase => exact acceptStep_cases hphase hstep
  case h_7 result hphase =>
    obtain rfl := Option.some.inj hstep
    exact setupStep_cases hphase result
  case h_8 hphase =>
    obtain rfl := Option.some.inj hstep
    exact .closedSetup hphase
  case h_9 hphase =>
    obtain rfl := Option.some.inj hstep
    exact .closedServing hphase
  case h_10 hphase => exact recvStep_cases hphase hstep
  case h_11 hphase =>
    obtain rfl := Option.some.inj hstep
    unfold drainStep
    split
    case h_1 hqueue => exact .drain hphase hqueue
    case h_2 hempty => exact .drained hphase (queued_eq_nil hempty)
  case h_12 hphase =>
    obtain rfl := Option.some.inj hstep
    exact .write hphase
  case h_13 hphase => exact sendStep_cases hphase hstep
  case h_14 hphase =>
    obtain rfl := Option.some.inj hstep
    exact fetchStep_cases hphase
  case h_15 => cases hstep

theorem acceptClient_step {fd : Int} {source_addr : sockaddr_storage}
    (hstep : s.taskStep (.accept (.client fd source_addr)) = some s') :
    s.phase = .accept ∧ 0 ≤ fd ∧ s' = { s with
      phase := .setup
      client_socket := fd
      client_endpoint := endpointText source_addr
      accepted := s.accepted + 1
      openSocket := some fd
      current := .fresh } := by
  cases taskStep_cases hstep with
  | acceptClient hphase hfd => exact ⟨hphase, hfd, rfl⟩

theorem postStep_frame (hstep : s.postStep = some s') :
    ∃ queue posting, s' = { s with q_tcp_server := queue, posting := posting } := by
  unfold postStep at hstep
  split at hstep
  case h_1 => cases hstep
  case h_2 => exact ⟨_, _, (Option.some.inj hstep).symm⟩
  case h_3 => exact ⟨_, _, (Option.some.inj hstep).symm⟩
  case h_4 =>
    split at hstep
    case h_1 => cases hstep
    case h_2 =>
      split at hstep
      · exact ⟨_, _, (Option.some.inj hstep).symm⟩
      · exact ⟨_, _, (Option.some.inj hstep).symm⟩
  case h_5 =>
    split at hstep
    case h_1 => cases hstep
    case h_2 => exact ⟨_, _, (Option.some.inj hstep).symm⟩
    case h_3 => exact ⟨_, _, (Option.some.inj hstep).symm⟩

theorem disconnectClient_frame (s : Server) :
    ∃ requests, s.disconnectClient = { s with requests := requests } := by
  unfold disconnectClient
  split
  · exact ⟨_, rfl⟩
  · exact ⟨_, rfl⟩

theorem requestStep_frame {i : Nat} (hstep : s.requestStep i = some s') :
    ∃ flag raised requests hits, s' = { s with
      disconnect_requested := flag, raisedFor := raised, requests := requests, hits := hits } := by
  unfold requestStep at hstep
  split at hstep
  case h_1 => cases hstep
  case h_2 => exact ⟨_, _, _, _, (Option.some.inj hstep).symm⟩
  case h_3 => exact ⟨_, _, _, _, (Option.some.inj hstep).symm⟩

end Server

/-- A step is the server task's, or leaves alone what only that task writes. -/
theorem tcpStep_cases {s s' : Server} {a : TcpAction} (hstep : tcpStep s a = some s') :
    (∃ b, a = .task b ∧ s.taskStep b = some s') ∨
      ∃ queue posting posted flag raised requests hits, s' = { s with
        q_tcp_server := queue, posting := posting, posted := posted, disconnect_requested := flag,
        raisedFor := raised, requests := requests, hits := hits } := by
  cases a with
  | task b => exact .inl ⟨b, rfl, hstep⟩
  | post frame =>
    simp only [tcpStep] at hstep
    split at hstep
    case h_1 => exact .inr ⟨_, _, _, _, _, _, _, (Option.some.inj hstep).symm⟩
    case h_2 => cases hstep
  | posting =>
    obtain ⟨queue, posting, rfl⟩ := Server.postStep_frame hstep
    exact .inr ⟨_, _, _, _, _, _, _, rfl⟩
  | disconnectClient =>
    obtain ⟨requests, heq⟩ := s.disconnectClient_frame
    obtain rfl := Option.some.inj hstep
    exact .inr ⟨_, _, _, _, _, _, _, heq⟩
  | request i =>
    obtain ⟨flag, raised, requests, hits, rfl⟩ := Server.requestStep_frame hstep
    exact .inr ⟨_, _, _, _, _, _, _, rfl⟩

end rtkbase.tcp_server
