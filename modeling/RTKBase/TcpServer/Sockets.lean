import Mathlib.Tactic.MkIffOfInductiveProp
import RTKBase.TcpServer.Steps

namespace rtkbase.tcp_server

open lib.lts lib.session
open ntrip_caster (SendResult RecvResult)

/-- No session is open, and no frame is pending. -/
@[mk_iff]
structure Server.Idle (s : Server) : Prop where
  disconnected : s.client_socket = INVALID_SOCK
  closed : s.openSocket = none
  pending_tx_valid : s.pending_tx_valid = false
  pending_tx_offset : s.pending_tx_offset = 0

/-- The session of `client_socket` is open. -/
@[mk_iff]
structure Server.Connected (s : Server) : Prop where
  connected : s.client_socket ≠ INVALID_SOCK
  opened : s.openSocket = some s.client_socket

/-- How `client_socket`, the open socket and the pending frame fit to where the
task is. -/
def Server.Placed (s : Server) : Prop :=
  match s.phase with
  | .head | .headElse | .fetch => s.Idle ∨ s.Connected
  | .dropFlag sock | .dropDrain sock =>
    s.client_socket = INVALID_SOCK ∧ s.openSocket = some sock
  | .accept | .stopped => s.Idle
  | .closed _ => s.openSocket = none
  | .reject | .setup | .recv => s.Connected
  | .drain rx_buffer | .write rx_buffer => s.Connected ∧ rx_buffer ≠ []
  | .sending _ =>
    s.Connected ∧ s.pending_tx_valid = true ∧
      s.pending_tx_offset < s.pending_tx_frame.data.length

section

variable {s s' : Server}

/-- Neither what is in the queue nor how far the other tasks are matters. -/
theorem Server.Placed.frame (hplaced : s.Placed) (hphase : s'.phase = s.phase)
    (hclient : s'.client_socket = s.client_socket) (hopen : s'.openSocket = s.openSocket)
    (hframe : s'.pending_tx_frame = s.pending_tx_frame)
    (hvalid : s'.pending_tx_valid = s.pending_tx_valid)
    (hoffset : s'.pending_tx_offset = s.pending_tx_offset) : s'.Placed := by
  simpa only [Server.Placed, Server.idle_iff, Server.connected_iff, hphase, hclient, hopen, hframe,
    hvalid, hoffset] using hplaced

theorem Server.Connected.sendingLoop (hconnected : s.Connected) (hvalid : s.pending_tx_valid = true) :
    s.sendingLoop.Placed := by
  unfold Server.sendingLoop
  split
  case isTrue hmore => exact ⟨⟨hconnected.connected, hconnected.opened⟩, hvalid, hmore⟩
  case isFalse => exact .inr ⟨hconnected.connected, hconnected.opened⟩

theorem Server.Connected.servePending (hconnected : s.Connected) : s.servePending.Placed := by
  unfold Server.servePending
  split
  case isTrue hvalid => exact hconnected.sendingLoop hvalid
  case isFalse => exact .inr ⟨hconnected.connected, hconnected.opened⟩

theorem Server.stop_placed (hclosed : s.openSocket = none) : s.stop.Placed :=
  ⟨rfl, hclosed, rfl, rfl⟩

/-- A pop of the queue, in whichever loop. -/
theorem Server.Placed.pop (hplaced : s.Placed) (rest : List PostedFrame) :
    Server.Placed { s with q_tcp_server := some rest } :=
  hplaced.frame rfl rfl rfl rfl rfl rfl

/-- In another phase a server is as idle or connected as it was. -/
theorem Server.idle_or_connected (hplaced : s.Idle ∨ s.Connected) {phase : TaskPhase} :
    Server.Idle { s with phase := phase } ∨ Server.Connected { s with phase := phase } :=
  hplaced.imp (fun hidle => ⟨hidle.1, hidle.2, hidle.3, hidle.4⟩)
    fun hconnected => ⟨hconnected.1, hconnected.2⟩

theorem taskStep_placed {a : TaskAction} (hplaced : s.Placed) (hstep : TaskStep s a s') :
    s'.Placed := by
  have hpop := hplaced.pop
  cases hstep with
  | dropClient hphase hflag hsock =>
    simp only [Server.Placed, hphase] at hplaced
    have hconnected := hplaced.resolve_left fun hidle => hsock hidle.disconnected
    exact ⟨rfl, hconnected.opened⟩
  | noDrop hphase =>
    simp only [Server.Placed, hphase] at hplaced
    exact Server.idle_or_connected hplaced
  | dropFlag hphase =>
    simp only [Server.Placed, hphase] at hplaced
    exact hplaced
  | dropDrain => exact hpop _
  | dropped hphase =>
    simp only [Server.Placed, hphase] at hplaced
    exact ⟨hplaced.1, rfl, rfl, rfl⟩
  | clearAlone hphase hsock =>
    simp only [Server.Placed, hphase] at hplaced
    have hidle := hplaced.resolve_right fun hconnected => hconnected.connected hsock
    exact ⟨hidle.1, hidle.2, hidle.3, hidle.4⟩
  | clearServing hphase hsock =>
    simp only [Server.Placed, hphase] at hplaced
    have hconnected := hplaced.resolve_left fun hidle => hsock hidle.disconnected
    exact ⟨hconnected.1, hconnected.2⟩
  | reject hphase =>
    simp only [Server.Placed, hphase] at hplaced
    exact ⟨hplaced.1, hplaced.2⟩
  | acceptRetry hphase =>
    simp only [Server.Placed, hphase] at hplaced
    exact .inl ⟨rfl, hplaced.2, hplaced.3, hplaced.4⟩
  | acceptClient hphase hfd => exact ⟨by simp only [INVALID_SOCK]; omega, rfl⟩
  | acceptFailed hphase =>
    simp only [Server.Placed, hphase] at hplaced
    exact Server.stop_placed hplaced.closed
  | setupLost => exact rfl
  | setupFailed => exact Server.stop_placed rfl
  | setupReady hphase =>
    simp only [Server.Placed, hphase] at hplaced
    exact ⟨hplaced.1, hplaced.2⟩
  | closedSetup hphase =>
    simp only [Server.Placed, hphase] at hplaced
    exact .inl ⟨rfl, hplaced, rfl, rfl⟩
  | closedServing hphase =>
    simp only [Server.Placed, hphase] at hplaced
    exact .inl ⟨rfl, hplaced, rfl, rfl⟩
  | recvData hphase hbytes =>
    simp only [Server.Placed, hphase] at hplaced
    exact ⟨⟨hplaced.1, hplaced.2⟩, hbytes⟩
  | recvNothing hphase =>
    simp only [Server.Placed, hphase] at hplaced
    exact hplaced.servePending
  | recvFailed => exact rfl
  | drain => exact hpop _
  | drained hphase =>
    simp only [Server.Placed, hphase] at hplaced
    exact ⟨⟨hplaced.1.1, hplaced.1.2⟩, hplaced.2⟩
  | write hphase =>
    simp only [Server.Placed, hphase] at hplaced
    exact hplaced.1.servePending
  | send hphase =>
    simp only [Server.Placed, hphase] at hplaced
    exact Server.Connected.sendingLoop ⟨hplaced.1.1, hplaced.1.2⟩ hplaced.2.1
  | sendRetry hphase =>
    simp only [Server.Placed, hphase] at hplaced
    exact ⟨⟨hplaced.1.1, hplaced.1.2⟩, hplaced.2⟩
  | sendDeferred hphase =>
    simp only [Server.Placed, hphase] at hplaced
    exact .inr ⟨hplaced.1.1, hplaced.1.2⟩
  | sendFailed => exact rfl
  | fetchDone hphase =>
    simp only [Server.Placed, hphase] at hplaced
    exact Server.idle_or_connected hplaced
  | fetchDiscard => exact hpop _
  | fetchFrame hphase hpending hsock =>
    simp only [Server.Placed, hphase] at hplaced
    have hconnected := hplaced.resolve_left fun hidle => hsock hidle.disconnected
    exact Server.Connected.sendingLoop ⟨hconnected.1, hconnected.2⟩ rfl

theorem tcpStep_placed {a : TcpAction} (hplaced : s.Placed) (hstep : tcpStep s a = some s') :
    s'.Placed := by
  obtain ⟨b, rfl, hstep⟩ | ⟨_, _, _, _, _, _, _, rfl⟩ := tcpStep_cases hstep
  · exact taskStep_placed hplaced (Server.taskStep_cases hstep)
  · exact hplaced.frame rfl rfl rfl rfl rfl rfl

end

theorem listening_placed : listening.Placed := .inl ⟨rfl, rfl, rfl, rfl⟩

theorem server_placed {ok : Server → TcpAction → Prop} {s : Server}
    (hreach : Reach tcpStep ok listening s) : s.Placed :=
  hreach.invariant listening_placed fun _ _ _ hplaced _ hstep => tcpStep_placed hplaced hstep

end rtkbase.tcp_server
