import RTKBase.TcpServer.Sockets

namespace rtkbase.tcp_server

open lib.lts lib.session
open ntrip_caster (SendResult RecvResult)

/-- What the open session was sent: up to `pending_tx_offset` of the frame that
is pending, and otherwise all the chunks taken up. -/
def Server.Current (s : Server) : Prop :=
  if s.pending_tx_valid = true then
    s.current.At PostedFrame.data s.pending_tx_frame s.pending_tx_offset
  else s.current.Whole PostedFrame.data

structure Server.Streams (s : Server) : Prop where
  current : s.openSocket.isSome = true → s.Current
  closed : ∀ c ∈ s.closed, c.Sound PostedFrame.data
  /-- A chunk is taken up, in the queue or in the hand of its poster once. -/
  order : (s.sessions.flatMap (·.taken) ++ (s.queued ++ s.posting.inHand)).Sublist s.posted
  serials : s.posted.map (·.serial) = List.range s.posted.length

theorem Server.Current.sound {s : Server} (hcurrent : s.Current) :
    s.current.Sound PostedFrame.data := by
  unfold Server.Current at hcurrent
  split at hcurrent
  case isTrue => exact hcurrent.sound
  case isFalse => exact hcurrent.sound

section

variable {s s' : Server}

theorem Server.sessions_of_connected (hconnected : s.Connected) :
    s.sessions = s.closed ++ [s.current] := by
  simp [Server.sessions, hconnected.opened]

theorem Server.sessions_of_closed (hclosed : s.openSocket = none) : s.sessions = s.closed := by
  simp [Server.sessions, hclosed]

theorem Server.Streams.pop (hstreams : s.Streams) {f : PostedFrame} {rest : List PostedFrame}
    (hqueue : s.q_tcp_server = some (f :: rest)) :
    Server.Streams { s with q_tcp_server := some rest } where
  current := hstreams.current
  closed := hstreams.closed
  order := by
    have horder := hstreams.order
    simp only [Server.queued, hqueue, Option.getD_some] at horder
    refine List.Sublist.trans ?_ horder
    simp [Server.sessions, Server.queued]
  serials := hstreams.serials

theorem Server.Streams.take_up (hstreams : s.Streams) (hconnected : s.Connected)
    (hpending : s.pending_tx_valid = false) {f : PostedFrame} {rest : List PostedFrame}
    (hqueue : s.q_tcp_server = some (f :: rest)) :
    Server.Streams { s with
      q_tcp_server := some rest, pending_tx_frame := f, pending_tx_valid := true,
      pending_tx_offset := 0, current := s.current.take f } where
  current _ := by
    have hcurrent := hstreams.current (by simp [hconnected.opened])
    simp only [Server.Current, hpending, Bool.false_eq_true, if_false] at hcurrent
    simpa [Server.Current] using hcurrent.take f
  closed := hstreams.closed
  order := by
    have horder := hstreams.order
    rw [Server.sessions_of_connected hconnected] at horder
    simpa [Server.sessions, Server.queued, hqueue, hconnected.opened, Session.take] using horder
  serials := hstreams.serials

theorem Server.Streams.send (hstreams : s.Streams) (hconnected : s.Connected)
    (hpending : s.pending_tx_valid = true) (n : Nat) :
    Server.Streams { s with
      pending_tx_offset := s.pending_tx_offset + n
      current := s.current.send
        ((s.pending_tx_frame.data.drop s.pending_tx_offset).take n) } where
  current _ := by
    have hcurrent := hstreams.current (by simp [hconnected.opened])
    simp only [Server.Current, hpending, if_true] at hcurrent
    simpa [Server.Current, hpending] using hcurrent.send n
  closed := hstreams.closed
  order := by
    have horder := hstreams.order
    rw [Server.sessions_of_connected hconnected] at horder
    simpa [Server.sessions, Server.queued, hconnected.opened, Session.send] using horder
  serials := hstreams.serials

theorem Server.Streams.sendingLoop (hstreams : s.Streams) (hconnected : s.Connected)
    (hpending : s.pending_tx_valid = true) : s.sendingLoop.Streams := by
  unfold Server.sendingLoop
  split
  case isTrue => exact ⟨hstreams.current, hstreams.closed, hstreams.order, hstreams.serials⟩
  case isFalse hdone =>
    refine ⟨fun _ => ?_, hstreams.closed, hstreams.order, hstreams.serials⟩
    have hcurrent := hstreams.current (by simp [hconnected.opened])
    simp only [Server.Current, hpending, if_true] at hcurrent
    exact hcurrent.whole (Nat.le_of_not_lt hdone)

theorem Server.Streams.servePending (hstreams : s.Streams) (hconnected : s.Connected) :
    s.servePending.Streams := by
  unfold Server.servePending
  split
  case isTrue hpending => exact hstreams.sendingLoop hconnected hpending
  case isFalse => exact ⟨hstreams.current, hstreams.closed, hstreams.order, hstreams.serials⟩

/-- Whatever becomes of the pending frame, the session keeps what it was sent. -/
theorem Server.Streams.closeSocket (hstreams : s.Streams) {sock : Int}
    (hopen : s.openSocket = some sock) : s.closeSocket.Streams where
  current hsome := by simp [Server.closeSocket] at hsome
  closed c hc := by
    obtain hc | hc := List.mem_append.mp hc
    · exact hstreams.closed c hc
    · obtain rfl := List.mem_singleton.mp hc
      exact (hstreams.current (by simp [hopen])).sound
  order := by
    have horder := hstreams.order
    simpa [Server.sessions, Server.queued, Server.closeSocket, hopen] using horder
  serials := hstreams.serials

/-- With no session open, the pending frame does not matter. -/
theorem Server.Streams.closed_frame (hstreams : s.Streams) (hclosed : s.openSocket = none)
    (hopen : s'.openSocket = none) (hsessions : s'.closed = s.closed)
    (hqueue : s'.queued.Sublist s.queued) (hposting : s'.posting = s.posting)
    (hposted : s'.posted = s.posted) : s'.Streams where
  current hsome := by simp [hopen] at hsome
  closed := by
    rw [hsessions]
    exact hstreams.closed
  order := by
    have horder := hstreams.order
    rw [Server.sessions_of_closed hclosed] at horder
    rw [Server.sessions_of_closed hopen, hsessions, hposting, hposted]
    exact ((List.Sublist.refl _).append (hqueue.append (List.Sublist.refl _))).trans horder
  serials := by
    rw [hposted]
    exact hstreams.serials

theorem Server.Streams.close_and_move (hstreams : s.Streams) {sock : Int}
    (hopen : s.openSocket = some sock) (phase : TaskPhase) :
    Server.Streams { s.closeSocket with phase := phase } :=
  (hstreams.closeSocket hopen).closed_frame rfl rfl rfl (List.Sublist.refl _) rfl rfl

theorem Server.Streams.accept (hstreams : s.Streams) (hidle : s.Idle) {fd : Int}
    {endpoint : List UInt8} {phase : TaskPhase} {number : Nat} :
    Server.Streams { s with
      phase := phase, client_socket := fd, client_endpoint := endpoint, accepted := number,
      openSocket := some fd, current := .fresh } where
  current _ := by
    simp only [Server.Current, hidle.pending_tx_valid, Bool.false_eq_true, if_false]
    exact Session.fresh_whole
  closed := hstreams.closed
  order := by
    have horder := hstreams.order
    rw [Server.sessions_of_closed hidle.closed] at horder
    simpa [Server.sessions, Server.queued, Session.fresh] using horder
  serials := hstreams.serials

theorem taskStep_streams {a : TaskAction} (hplaced : s.Placed) (hstreams : s.Streams)
    (hstep : TaskStep s a s') : s'.Streams := by
  cases hstep with
  | dropDrain hphase hqueue => exact hstreams.pop hqueue
  | dropped hphase =>
    simp only [Server.Placed, hphase] at hplaced
    exact (hstreams.closeSocket hplaced.2).closed_frame rfl rfl rfl (List.Sublist.refl _) rfl rfl
  | acceptClient hphase =>
    simp only [Server.Placed, hphase] at hplaced
    exact hstreams.accept hplaced
  | acceptFailed hphase =>
    simp only [Server.Placed, hphase] at hplaced
    exact hstreams.closed_frame hplaced.closed hplaced.closed rfl (List.nil_sublist _) rfl rfl
  | setupLost hphase =>
    simp only [Server.Placed, hphase] at hplaced
    exact hstreams.close_and_move hplaced.opened _
  | setupFailed hphase =>
    simp only [Server.Placed, hphase] at hplaced
    exact (hstreams.closeSocket hplaced.opened).closed_frame rfl rfl rfl (List.nil_sublist _) rfl rfl
  | closedSetup hphase =>
    simp only [Server.Placed, hphase] at hplaced
    exact hstreams.closed_frame hplaced hplaced rfl (List.Sublist.refl _) rfl rfl
  | closedServing hphase =>
    simp only [Server.Placed, hphase] at hplaced
    exact hstreams.closed_frame hplaced hplaced rfl (List.Sublist.refl _) rfl rfl
  | recvNothing hphase =>
    simp only [Server.Placed, hphase] at hplaced
    exact hstreams.servePending hplaced
  | recvFailed hphase =>
    simp only [Server.Placed, hphase] at hplaced
    exact hstreams.close_and_move hplaced.opened _
  | drain hphase hqueue => exact hstreams.pop hqueue
  | write hphase =>
    simp only [Server.Placed, hphase] at hplaced
    exact hstreams.servePending hplaced.1
  | @send retries n hphase =>
    simp only [Server.Placed, hphase] at hplaced
    exact (hstreams.send hplaced.1 hplaced.2.1 n).sendingLoop ⟨hplaced.1.1, hplaced.1.2⟩ hplaced.2.1
  | sendFailed hphase =>
    simp only [Server.Placed, hphase] at hplaced
    exact hstreams.close_and_move hplaced.1.opened _
  | fetchDiscard hphase hsock hqueue => exact hstreams.pop hqueue
  | fetchFrame hphase hpending hsock hqueue =>
    simp only [Server.Placed, hphase] at hplaced
    have hconnected := hplaced.resolve_left fun hidle => hsock hidle.disconnected
    exact (hstreams.take_up hconnected hpending hqueue).sendingLoop ⟨hconnected.1, hconnected.2⟩ rfl
  | _ => exact ⟨hstreams.current, hstreams.closed, hstreams.order, hstreams.serials⟩

/-- The poster moves its chunk towards the queue, or loses it or an older one. -/
theorem Server.Streams.post_move (hstreams : s.Streams) {queue : Option (List PostedFrame)}
    {posting : PostPhase}
    (hmove : (queue.getD [] ++ posting.inHand).Sublist (s.queued ++ s.posting.inHand)) :
    Server.Streams { s with q_tcp_server := queue, posting := posting } where
  current := hstreams.current
  closed := hstreams.closed
  order := ((List.Sublist.refl _).append hmove).trans hstreams.order
  serials := hstreams.serials

theorem Server.Streams.postStep (hstreams : s.Streams) (hstep : s.postStep = some s') :
    s'.Streams := by
  unfold Server.postStep at hstep
  split at hstep
  case h_1 => cases hstep
  case h_2 f hposting =>
    obtain rfl := Option.some.inj hstep
    apply hstreams.post_move
    rw [hposting]
    split
    · exact List.Sublist.refl _
    · exact (List.Sublist.refl _).append (List.nil_sublist _)
  case h_3 f hposting =>
    obtain rfl := Option.some.inj hstep
    apply hstreams.post_move
    rw [hposting]
    split
    · exact (List.Sublist.refl _).append (List.nil_sublist _)
    · exact List.Sublist.refl _
  case h_4 f hposting =>
    split at hstep
    case h_1 => cases hstep
    case h_2 entries hqueue =>
      split at hstep <;> obtain rfl := Option.some.inj hstep <;> apply hstreams.post_move
      · simp [Server.queued, hqueue, hposting, PostPhase.inHand]
      · simp [Server.queued, hqueue, hposting, PostPhase.inHand]
  case h_5 f hposting =>
    split at hstep
    case h_1 => cases hstep
    case h_2 hqueue =>
      obtain rfl := Option.some.inj hstep
      apply hstreams.post_move
      simp [Server.queued, hqueue, hposting, PostPhase.inHand]
    case h_3 f' rest hqueue =>
      obtain rfl := Option.some.inj hstep
      apply hstreams.post_move
      simp [Server.queued, hqueue, hposting, PostPhase.inHand]

theorem Server.Streams.post (hstreams : s.Streams) (hposting : s.posting = .idle)
    (frame : raw_frame_t) :
    Server.Streams { s with
      posting := .checkQueue ⟨s.posted.length, frame⟩
      posted := s.posted ++ [⟨s.posted.length, frame⟩] } where
  current := hstreams.current
  closed := hstreams.closed
  order := by
    have horder := hstreams.order
    simp only [hposting, PostPhase.inHand, List.append_nil] at horder
    simp only [PostPhase.inHand, ← List.append_assoc]
    exact horder.append (List.Sublist.refl _)
  serials := by
    rw [List.map_append, hstreams.serials, List.length_append, List.range_add]
    rfl

end

theorem tcpStep_streams {s s' : Server} {a : TcpAction} (hplaced : s.Placed) (hstreams : s.Streams)
    (hstep : tcpStep s a = some s') : s'.Streams := by
  cases a with
  | task a => exact taskStep_streams hplaced hstreams (Server.taskStep_cases hstep)
  | post frame =>
    simp only [tcpStep] at hstep
    split at hstep
    case h_1 hposting =>
      obtain rfl := Option.some.inj hstep
      exact hstreams.post hposting frame
    case h_2 => cases hstep
  | posting => exact hstreams.postStep hstep
  | disconnectClient =>
    obtain ⟨requests, heq⟩ := s.disconnectClient_frame
    obtain rfl := Option.some.inj hstep
    rw [heq]
    exact ⟨hstreams.current, hstreams.closed, hstreams.order, hstreams.serials⟩
  | request i =>
    obtain ⟨flag, raised, requests, hits, rfl⟩ := Server.requestStep_frame hstep
    exact ⟨hstreams.current, hstreams.closed, hstreams.order, hstreams.serials⟩

theorem server_streams {s : Server} (hreach : Reach tcpStep Anywhere listening s) : s.Streams := by
  refine hreach.invariant_of (fun _ => server_placed) ?_ ?_
  · exact ⟨fun hsome => by simp [listening] at hsome, by simp [listening], List.Sublist.refl _, rfl⟩
  · exact fun _ _ _ hplaced _ hstreams _ hstep => tcpStep_streams hplaced hstreams hstep

/-- In every run of the TCP server's task with its poster and the disconnect
requests: at the loop head with a client, what that client was sent and the
rest of the pending frame are whole chunks; the chunks of one session after the
other are some of those posted, in that order and each once; and each session
was sent nothing but its own chunks, whole up to the last. -/
theorem chunks_whole_in_order_once {s : Server} (hreach : Reach tcpStep Anywhere listening s) :
    (s.phase = .head → s.client_socket ≠ INVALID_SOCK →
      s.sessions = s.closed ++ [s.current] ∧
        s.current.sent ++ s.pendingRest = s.current.taken.flatMap PostedFrame.data) ∧
      (s.sessions.flatMap (·.taken)).Sublist s.posted ∧
      ((s.sessions.flatMap (·.taken)).map (·.serial)).Nodup ∧
      s.posted.map (·.serial) = List.range s.posted.length ∧
      ∀ c ∈ s.sessions, c.Sound PostedFrame.data := by
  have hplaced := server_placed hreach
  have hstreams := server_streams hreach
  have horder : (s.sessions.flatMap (·.taken)).Sublist s.posted :=
    (List.sublist_append_left _ _).trans hstreams.order
  refine ⟨fun hphase hsock => ?_, horder, ?_, hstreams.serials, fun c hc => ?_⟩
  · simp only [Server.Placed, hphase] at hplaced
    have hconnected := hplaced.resolve_left fun h => hsock h.disconnected
    refine ⟨Server.sessions_of_connected hconnected, ?_⟩
    have hcurrent := hstreams.current (by simp [hconnected.opened])
    unfold Server.Current at hcurrent
    unfold Server.pendingRest
    split at hcurrent
    case isTrue hpending =>
      rw [if_pos hpending]
      exact hcurrent.rest
    case isFalse hpending =>
      rw [if_neg hpending, List.append_nil]
      exact hcurrent
  · refine (horder.map (·.serial)).nodup ?_
    rw [hstreams.serials]
    exact List.nodup_range
  · obtain hc | hc := List.mem_append.mp hc
    · exact hstreams.closed c hc
    · split at hc
      case isTrue hopen =>
        obtain rfl := List.mem_singleton.mp hc
        exact (hstreams.current hopen).sound
      case isFalse => cases hc

def firstChunk : raw_frame_t := ⟨[0x24, 0x47, 0x4E], by decide⟩

def secondChunk : raw_frame_t := ⟨[0xD3, 0x00], by decide⟩

/-- The first client's connection fails after two bytes of the first chunk; the
second client takes one byte of the second chunk and then no more. -/
def brokenSessionRun : List TcpAction :=
  List.flatten [acceptClient 5 desktop, [.task (.recv (.error true))], postFrame firstChunk,
    [.task .turn, .task (.send (.sent 2)), .task (.send .error), .task .turn, .task .turn],
    acceptClient 5 desktop, [.task (.recv (.error true))], postFrame secondChunk,
    [.task .turn, .task (.send (.sent 1))], List.replicate 41 (.task (.send .again)),
    [.task .turn]]

theorem chunks_whole_in_order_once_of_broken_session :
    ∃ s, runs tcpStep Anywhere listening brokenSessionRun = some s ∧
      s.sessions.map (·.sent) = [[0x24, 0x47], [0xD3]] ∧ s.pendingRest = [0x00] ∧
      s.current.sent ++ s.pendingRest = s.current.taken.flatMap PostedFrame.data ∧
      ((s.sessions.flatMap (·.taken)).map (·.serial)).Nodup := by
  have hrun : (runs tcpStep Anywhere listening brokenSessionRun).map
      (fun s => (s.phase, s.client_socket, s.sessions.map (·.sent), s.pendingRest)) =
        some (.head, 5, [[0x24, 0x47], [0xD3]], [0x00]) := by
    decide +kernel
  obtain ⟨s, hs, hstate⟩ := Option.map_eq_some_iff.mp hrun
  obtain ⟨hphase, hsock, hsent, hrest⟩ := by simpa using hstate
  obtain ⟨hcurrent, _, hserials, _, _⟩ := chunks_whole_in_order_once (Reach.refl.runs hs)
  obtain ⟨_, hwhole⟩ := hcurrent hphase (by simp [hsock, INVALID_SOCK])
  exact ⟨s, hs, hsent, hrest, hwhole, hserials⟩

end rtkbase.tcp_server
