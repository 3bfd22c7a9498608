import RTKBase.TcpServer.Sockets

namespace rtkbase.tcp_server

open lib.lts lib.cstring
open ntrip_caster (SendResult RecvResult)

/-- What a state without a client should look like. -/
structure Server.Clean (s : Server) : Prop where
  client_endpoint : s.client_endpoint = []
  pending_tx_valid : s.pending_tx_valid = false
  pending_tx_offset : s.pending_tx_offset = 0

/-- `setsockopt` or `fcntl(F_GETFL)` fails on the socket of a new client. -/
def TcpAction.losesNewClient : TcpAction → Bool
  | .task (.setup .setsockoptFailed) => true
  | .task (.setup .getflFailed) => true
  | _ => false

def NewClientKept (_ : Server) (a : TcpAction) : Prop := a.losesNewClient = false

instance (s : Server) (a : TcpAction) : Decidable (NewClientKept s a) :=
  inferInstanceAs (Decidable (a.losesNewClient = false))

/-- Without a client there is no endpoint, wherever new clients are never lost. -/
def Server.Tidy (s : Server) : Prop :=
  match s.phase with
  | .head | .headElse | .fetch | .accept => s.client_socket = INVALID_SOCK → s.client_endpoint = []
  | .closed .setup => False
  | _ => True

/-- From `accept` on a new client has an endpoint. -/
def Server.Labelled (s : Server) : Prop :=
  match s.phase with
  | .setup | .closed .setup => s.client_endpoint ≠ []
  | _ => True

theorem endpointText_ne_nil (source_addr : sockaddr_storage) : endpointText source_addr ≠ [] := by
  simp [endpointText, ascii]

section

variable {s s' : Server}

theorem Server.sendingLoop_tidy (hsock : s.client_socket ≠ INVALID_SOCK) : s.sendingLoop.Tidy := by
  unfold Server.sendingLoop
  split
  case isTrue => trivial
  case isFalse => exact fun hclosed => absurd hclosed hsock

theorem Server.servePending_tidy (hsock : s.client_socket ≠ INVALID_SOCK) :
    s.servePending.Tidy := by
  unfold Server.servePending
  split
  case isTrue => exact Server.sendingLoop_tidy hsock
  case isFalse => exact fun hclosed => absurd hclosed hsock

/-- Only where a phase asks for more of the endpoint is there something to keep. -/
theorem taskStep_tidy (hplaced : s.Placed) (htidy : s.Tidy) {a : TaskAction}
    (hkept : (TcpAction.task a).losesNewClient = false) (hstep : TaskStep s a s') : s'.Tidy := by
  cases hstep with
  | noDrop hphase =>
    simp only [Server.Tidy, hphase] at htidy
    exact htidy
  | dropDrain => exact htidy
  | dropped => exact fun _ => rfl
  | clearAlone hphase =>
    simp only [Server.Tidy, hphase] at htidy
    exact htidy
  | acceptRetry hphase =>
    simp only [Server.Placed, hphase] at hplaced
    simp only [Server.Tidy, hphase] at htidy
    exact fun _ => htidy hplaced.disconnected
  | setupLost hphase hlost =>
    obtain rfl | rfl := hlost
    · simp [TcpAction.losesNewClient] at hkept
    · simp [TcpAction.losesNewClient] at hkept
  | closedSetup hphase => simp only [Server.Tidy, hphase] at htidy
  | closedServing => exact fun _ => rfl
  | recvNothing hphase =>
    simp only [Server.Placed, hphase] at hplaced
    exact Server.servePending_tidy hplaced.connected
  | drain => exact htidy
  | write hphase =>
    simp only [Server.Placed, hphase] at hplaced
    exact Server.servePending_tidy hplaced.1.connected
  | send hphase =>
    simp only [Server.Placed, hphase] at hplaced
    exact Server.sendingLoop_tidy hplaced.1.connected
  | sendDeferred hphase =>
    simp only [Server.Placed, hphase] at hplaced
    exact fun hclosed => absurd hclosed hplaced.1.connected
  | fetchDone hphase =>
    simp only [Server.Tidy, hphase] at htidy
    exact htidy
  | fetchDiscard => exact htidy
  | fetchFrame hphase hpending hsock => exact Server.sendingLoop_tidy hsock
  | _ => trivial

theorem Server.sendingLoop_labelled (s : Server) : s.sendingLoop.Labelled := by
  unfold Server.sendingLoop
  split
  case isTrue => trivial
  case isFalse => trivial

theorem Server.servePending_labelled (s : Server) : s.servePending.Labelled := by
  unfold Server.servePending
  split
  case isTrue => exact s.sendingLoop_labelled
  case isFalse => trivial

theorem taskStep_labelled (hlabelled : s.Labelled) {a : TaskAction} (hstep : TaskStep s a s') :
    s'.Labelled := by
  cases hstep with
  | dropDrain => exact hlabelled
  | @acceptClient fd source_addr => exact endpointText_ne_nil source_addr
  | setupLost hphase =>
    simp only [Server.Labelled, hphase] at hlabelled
    exact hlabelled
  | recvNothing => exact s.servePending_labelled
  | drain => exact hlabelled
  | write => exact s.servePending_labelled
  | send => exact Server.sendingLoop_labelled _
  | fetchDiscard => exact hlabelled
  | fetchFrame => exact Server.sendingLoop_labelled _
  | _ => trivial

end

theorem server_tidy {s : Server} (hreach : Reach tcpStep NewClientKept listening s) : s.Tidy := by
  refine hreach.invariant_of (fun _ => server_placed) (fun _ => rfl) ?_
  intro s a s' hplaced _ htidy hkept hstep
  obtain ⟨b, rfl, hstep⟩ | ⟨_, _, _, _, _, _, _, rfl⟩ := tcpStep_cases hstep
  · exact taskStep_tidy hplaced htidy hkept (Server.taskStep_cases hstep)
  · exact htidy

theorem server_labelled {s : Server} (hreach : Reach tcpStep Anywhere listening s) :
    s.Labelled := by
  refine hreach.invariant trivial ?_
  intro s a s' hlabelled _ hstep
  obtain ⟨b, rfl, hstep⟩ | ⟨_, _, _, _, _, _, _, rfl⟩ := tcpStep_cases hstep
  · exact taskStep_labelled hlabelled (Server.taskStep_cases hstep)
  · exact hlabelled

/-- As long as `setsockopt` and `fcntl(F_GETFL)` succeed on the sockets of new
clients, the loop head without a client finds the endpoint empty and no frame
pending. Each time one of them fails, the next loop head finds no client and
the endpoint of the one that was lost. -/
theorem clean_while_new_clients_kept (s : Server) :
    (Reach tcpStep NewClientKept listening s → s.phase = .head →
      s.client_socket = INVALID_SOCK → s.Clean) ∧
    ∀ a s₁, Reach tcpStep Anywhere listening s → ¬ NewClientKept s a → tcpStep s a = some s₁ →
      ∃ s₂, tcpStep s₁ (.task .turn) = some s₂ ∧ s₂.phase = .head ∧
        s₂.client_socket = INVALID_SOCK ∧ ¬ s₂.Clean := by
  refine ⟨fun hreach hphase hsock => ?_, fun a s₁ hreach hlost hstep => ?_⟩
  · have hplaced := server_placed hreach
    have htidy := server_tidy hreach
    simp only [Server.Placed, hphase] at hplaced
    simp only [Server.Tidy, hphase] at htidy
    have hidle := hplaced.resolve_right fun h => h.connected hsock
    exact ⟨htidy hsock, hidle.pending_tx_valid, hidle.pending_tx_offset⟩
  · have hlabelled := server_labelled (.next hreach trivial hstep)
    have hphase : s₁.phase = .closed .setup := by
      unfold NewClientKept TcpAction.losesNewClient at hlost
      split at hlost
      case h_1 =>
        cases Server.taskStep_cases hstep with
        | setupLost => rfl
      case h_2 =>
        cases Server.taskStep_cases hstep with
        | setupLost => rfl
      case h_3 => exact absurd rfl hlost
    simp only [Server.Labelled, hphase] at hlabelled
    refine ⟨{ s₁.resetPending with client_socket := INVALID_SOCK, phase := .head }, ?_, rfl, rfl,
      fun hclean => hlabelled hclean.client_endpoint⟩
    simp only [tcpStep, Server.taskStep, hphase]

/-- `setsockopt(TCP_NODELAY)` fails on the socket of a new client. -/
def lostClientRun : List TcpAction :=
  [.task .turn, .task .turn, .task (.accept (.client 5 desktop)),
    .task (.setup .setsockoptFailed), .task .turn]

theorem endpoint_of_lost_client :
    ¬ ∀ s, Reach tcpStep Anywhere listening s → s.phase = .head →
      s.client_socket = INVALID_SOCK → s.Clean := by
  intro hclean
  have hrun : (runs tcpStep Anywhere listening lostClientRun).map
      (fun s => (s.phase, s.client_socket, s.client_endpoint)) =
        some (.head, INVALID_SOCK, ascii "192.168.0.7:50000") := by
    decide +kernel
  obtain ⟨s, hs, hstate⟩ := Option.map_eq_some_iff.mp hrun
  obtain ⟨hphase, hsock, hendpoint⟩ := by simpa only [Prod.mk.injEq] using hstate
  have hempty := (hclean s (Reach.refl.runs hs) hphase hsock).client_endpoint
  rw [hendpoint] at hempty
  exact absurd hempty (by decide)

/-- A client comes and goes; then the socket of a new client is lost. -/
def clientGoneRun : List TcpAction :=
  List.flatten [acceptClient 5 desktop, [.task (.recv .closed), .task .turn, .task .turn]]

theorem clean_while_new_clients_kept_of_client_gone :
    (∃ s, runs tcpStep NewClientKept listening clientGoneRun = some s ∧ s.Clean) ∧
      ∃ s s₁ s₂, runs tcpStep Anywhere listening (lostClientRun.take 3) = some s ∧
        tcpStep s (.task (.setup .setsockoptFailed)) = some s₁ ∧
        tcpStep s₁ (.task .turn) = some s₂ ∧ ¬ s₂.Clean := by
  constructor
  · have hrun : (runs tcpStep NewClientKept listening clientGoneRun).map
        (fun s => (s.phase, s.client_socket)) = some (.head, INVALID_SOCK) := by
      decide +kernel
    obtain ⟨s, hs, hstate⟩ := Option.map_eq_some_iff.mp hrun
    obtain ⟨hphase, hsock⟩ := by simpa only [Prod.mk.injEq] using hstate
    exact ⟨s, hs, (clean_while_new_clients_kept s).1 (Reach.refl.runs hs) hphase hsock⟩
  · have hrun : (runs tcpStep Anywhere listening (lostClientRun.take 3)).map
        (fun s => (tcpStep s (.task (.setup .setsockoptFailed))).isSome) = some true := by
      decide +kernel
    obtain ⟨s, hs, hsome⟩ := Option.map_eq_some_iff.mp hrun
    obtain ⟨s₁, hs₁⟩ := Option.isSome_iff_exists.mp hsome
    obtain ⟨s₂, hs₂, _, _, hclean⟩ := (clean_while_new_clients_kept s).2
      (.task (.setup .setsockoptFailed)) s₁ (Reach.refl.runs hs)
      (by simp [NewClientKept, TcpAction.losesNewClient]) hs₁
    exact ⟨s, s₁, s₂, hs, hs₁, hs₂, hclean⟩

end rtkbase.tcp_server
