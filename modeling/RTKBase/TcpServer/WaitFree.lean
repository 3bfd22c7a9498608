import RTKBase.Lib.WaitFree
import RTKBase.TcpServer.Chunks

namespace rtkbase.tcp_server

open lib.lts

def TcpAction.postingStep : TcpAction → Bool
  | .posting => true
  | _ => false

/-- The queue is there until the server's task stops. -/
def Server.Queueing (s : Server) : Prop := s.q_tcp_server = none → s.phase = .stopped

/-- The reader's call stays where it is, and chunks are only taken off the queue. -/
def Server.Drained (s s' : Server) : Prop :=
  s'.posting = s.posting ∧ s'.queued.length ≤ s.queued.length

section

variable {s s' : Server}

theorem Server.Drained.pop {f : PostedFrame} {rest : List PostedFrame}
    (hqueue : s.q_tcp_server = some (f :: rest)) (hposting : s'.posting = s.posting)
    (hrest : s'.q_tcp_server = some rest) : s.Drained s' := by
  refine ⟨hposting, ?_⟩
  simp [Server.queued, hqueue, hrest]

theorem postStep_enabled (hidle : s.posting ≠ .idle) (hqueue : s.q_tcp_server ≠ none) :
    s.postStep.isSome = true := by
  unfold Server.postStep
  split
  case h_1 hposting => exact absurd hposting hidle
  case h_4 =>
    split
    case h_1 hnone => exact absurd hnone hqueue
    case h_2 => split <;> rfl
  case h_5 =>
    split
    case h_1 hnone => exact absurd hnone hqueue
    all_goals rfl
  all_goals rfl

/-- A step is the server task's, one of the reader's call, or leaves the queue alone; it may
begin a call then. -/
theorem tcpStep_queue {a : TcpAction} (hstep : tcpStep s a = some s') :
    (∃ b, a = .task b ∧ TaskStep s b s') ∨ (a = .posting ∧ s.postStep = some s') ∨
      a.postingStep = false ∧ s'.phase = s.phase ∧ s'.q_tcp_server = s.q_tcp_server ∧
        (s.posting = .idle ∨ s'.posting = s.posting) := by
  cases a with
  | task b => exact .inl ⟨b, rfl, Server.taskStep_cases hstep⟩
  | post frame =>
    simp only [tcpStep] at hstep
    split at hstep
    case h_1 hidle =>
      cases hstep
      exact .inr (.inr ⟨rfl, rfl, rfl, .inl hidle⟩)
    case h_2 => cases hstep
  | posting => exact .inr (.inl ⟨rfl, hstep⟩)
  | disconnectClient =>
    obtain ⟨requests, heq⟩ := s.disconnectClient_frame
    obtain rfl := Option.some.inj hstep
    rw [heq]
    exact .inr (.inr ⟨rfl, rfl, rfl, .inr rfl⟩)
  | request i =>
    obtain ⟨flag, raised, requests, hits, rfl⟩ := Server.requestStep_frame hstep
    exact .inr (.inr ⟨rfl, rfl, rfl, .inr rfl⟩)

theorem Server.sendingLoop_queue (s : Server) : s.sendingLoop.q_tcp_server = s.q_tcp_server := by
  unfold Server.sendingLoop
  split <;> rfl

theorem Server.servePending_queue (s : Server) :
    s.servePending.q_tcp_server = s.q_tcp_server := by
  unfold Server.servePending
  split
  · exact s.sendingLoop_queue
  · rfl

/-- Only the server's task stops, and it deletes the queue then. -/
theorem taskStep_queue {a : TaskAction} (hstep : TaskStep s a s') :
    s.phase ≠ .stopped ∧
      (s'.phase = .stopped ∨ s'.q_tcp_server = s.q_tcp_server ∨
        ∃ rest, s'.q_tcp_server = some rest) := by
  constructor
  · cases hstep <;> simp_all
  · cases hstep with
    | acceptFailed => exact .inl rfl
    | setupFailed => exact .inl rfl
    | dropDrain | drain | fetchDiscard => exact .inr (.inr ⟨_, rfl⟩)
    | fetchFrame => exact .inr (.inr ⟨_, Server.sendingLoop_queue _⟩)
    | recvNothing | write => exact .inr (.inl s.servePending_queue)
    | send => exact .inr (.inl (Server.sendingLoop_queue _))
    | _ => exact .inr (.inl rfl)

/-- The reader's call neither creates the queue nor deletes it. -/
theorem postStep_queue (hstep : s.postStep = some s') :
    s'.phase = s.phase ∧ (s'.q_tcp_server = none → s.q_tcp_server = none) := by
  unfold Server.postStep at hstep
  split at hstep
  case h_1 => cases hstep
  case h_4 | h_5 =>
    split at hstep
    all_goals try split at hstep
    all_goals cases hstep <;> simp_all
  all_goals
    cases hstep
    exact ⟨rfl, id⟩

theorem tcpStep_queueing {a : TcpAction} (hqueueing : s.Queueing) (hstep : tcpStep s a = some s') :
    s'.Queueing ∧ (s.phase = .stopped → s'.phase = .stopped) := by
  obtain ⟨b, rfl, htask⟩ | ⟨rfl, hpost⟩ | ⟨_, hphase, hqueue, _⟩ := tcpStep_queue hstep
  · obtain ⟨hrunning, hcases⟩ := taskStep_queue htask
    refine ⟨fun hnone => ?_, fun hstopped => absurd hstopped hrunning⟩
    obtain hstopped | hsame | ⟨rest, hrest⟩ := hcases
    · exact hstopped
    · exact absurd (hqueueing (hsame.symm.trans hnone)) hrunning
    · rw [hnone] at hrest
      cases hrest
  · obtain ⟨hphase, hqueue⟩ := postStep_queue hpost
    exact ⟨fun hnone => hphase.trans (hqueueing (hqueue hnone)),
      fun hstopped => hphase.trans hstopped⟩
  · exact ⟨fun hnone => hphase.trans (hqueueing (hqueue.symm.trans hnone)),
      fun hstopped => hphase.trans hstopped⟩

theorem server_queueing (hreach : Reach tcpStep Anywhere listening s) : s.Queueing :=
  hreach.invariant (P := Server.Queueing) (fun hnone => by cases hnone)
    fun _ _ _ hqueueing _ hstep => (tcpStep_queueing hqueueing hstep).1

end

end rtkbase.tcp_server
