import RTKBase.TcpServer.Sockets

namespace rtkbase.tcp_server

open lib.lts
open ntrip_caster (SendResult RecvResult)

/-- A call under way that may yet set the flag, or shut down the descriptor. -/
def RequestPhase.threatens (fd : Int) : RequestPhase → Bool
  | .raiseFlag _ _ => true
  | .shutdown sock _ => sock = fd

/-- A new client is accepted only when the flag is clear, and no call is under
way that may yet set it or shut down the descriptor of the new client. -/
def NoStaleRequest (s : Server) : TcpAction → Prop
  | .task (.accept (.client fd _)) =>
    s.disconnect_requested = false ∧ ∀ r ∈ s.requests, r.threatens fd = false
  | _ => True

instance (s : Server) : (a : TcpAction) → Decidable (NoStaleRequest s a)
  | .task (.accept (.client _ _)) => inferInstanceAs (Decidable (_ ∧ _))
  | .task (.accept .retry) | .task (.accept .failed) => .isTrue trivial
  | .task .turn | .task (.setup _) | .task (.recv _) => .isTrue trivial
  | .task (.uart_write_bytes _) | .task (.send _) => .isTrue trivial
  | .post _ | .posting | .disconnectClient | .request _ => .isTrue trivial

/-- A call has read the descriptor of the newest session, unless it is past
setting the flag and its descriptor is not open. -/
def RequestPhase.Targets (s : Server) : RequestPhase → Prop
  | .raiseFlag _ target => target = s.accepted
  | .shutdown sock target => s.openSocket = some sock → target = s.accepted

structure Server.Targeted (s : Server) : Prop where
  requests : ∀ r ∈ s.requests, r.Targets s
  raisedFor : ∀ target ∈ s.raisedFor, target = s.accepted
  cleared : s.disconnect_requested = false → s.raisedFor = []
  hits : ∀ h ∈ s.hits, h.session = h.target

/-- A step that begins no session: it may end the newest one, and be the hit of
those who asked for that. -/
structure Server.Continues (s s' : Server) : Prop where
  accepted : s'.accepted = s.accepted
  requests : s'.requests = s.requests
  openSocket : ∀ sock, s'.openSocket = some sock → s.openSocket = some sock
  raisedFor : s'.raisedFor = s.raisedFor ∧ s'.disconnect_requested = s.disconnect_requested ∨
    s'.raisedFor = [] ∧ s'.disconnect_requested = false
  hits : ∀ h ∈ s'.hits, h ∈ s.hits ∨ h.session = s.accepted ∧ h.target ∈ s.raisedFor

section

variable {s s' : Server}

theorem RequestPhase.Targets.frame {r : RequestPhase} (htargets : r.Targets s)
    (haccepted : s'.accepted = s.accepted)
    (hopen : ∀ sock, s'.openSocket = some sock → s.openSocket = some sock) : r.Targets s' := by
  cases r with
  | raiseFlag sock target => exact htargets.trans haccepted.symm
  | shutdown sock target => exact fun hsome => (htargets (hopen sock hsome)).trans haccepted.symm

theorem Server.Targeted.continues (htargeted : s.Targeted) (hcontinues : s.Continues s') :
    s'.Targeted where
  requests r hr := by
    rw [hcontinues.requests] at hr
    exact (htargeted.requests r hr).frame hcontinues.accepted hcontinues.openSocket
  raisedFor target htarget := by
    obtain ⟨hraised, _⟩ | ⟨hraised, _⟩ := hcontinues.raisedFor
    · rw [hraised] at htarget
      exact (htargeted.raisedFor target htarget).trans hcontinues.accepted.symm
    · simp [hraised] at htarget
  cleared hclear := by
    obtain ⟨hraised, hflag⟩ | ⟨hraised, _⟩ := hcontinues.raisedFor
    · rw [hflag] at hclear
      rw [hraised]
      exact htargeted.cleared hclear
    · exact hraised
  hits h hh := by
    obtain hh | ⟨hsession, htarget⟩ := hcontinues.hits h hh
    · exact htargeted.hits h hh
    · exact hsession.trans (htargeted.raisedFor _ htarget).symm

/-- Where the fields that matter are left alone. -/
theorem Server.Continues.frame (haccepted : s'.accepted = s.accepted)
    (hrequests : s'.requests = s.requests) (hopen : s'.openSocket = s.openSocket ∨ s'.openSocket = none)
    (hraised : s'.raisedFor = s.raisedFor) (hflag : s'.disconnect_requested = s.disconnect_requested)
    (hhits : s'.hits = s.hits) : s.Continues s' where
  accepted := haccepted
  requests := hrequests
  openSocket sock hsome := by
    obtain hsame | hnone := hopen
    · rwa [hsame] at hsome
    · simp [hnone] at hsome
  raisedFor := .inl ⟨hraised, hflag⟩
  hits h hh := .inl (hhits ▸ hh)

theorem Server.sendingLoop_frame (s : Server) :
    ∃ phase valid offset, s.sendingLoop = { s with
      phase := phase, pending_tx_valid := valid, pending_tx_offset := offset } := by
  unfold Server.sendingLoop
  split
  · exact ⟨_, _, _, rfl⟩
  · exact ⟨_, _, _, rfl⟩

theorem Server.servePending_continues (s : Server) : s.Continues s.servePending := by
  unfold Server.servePending
  split
  case isTrue =>
    obtain ⟨_, _, _, heq⟩ := s.sendingLoop_frame
    rw [heq]
    exact .frame rfl rfl (.inl rfl) rfl rfl rfl
  case isFalse => exact .frame rfl rfl (.inl rfl) rfl rfl rfl

/-- Only the accepting of a client begins a session. -/
theorem taskStep_continues {a : TaskAction} (hstep : TaskStep s a s')
    (haccept : ∀ fd source_addr, a ≠ .accept (.client fd source_addr)) : s.Continues s' := by
  cases hstep with
  | dropClient =>
    refine ⟨rfl, rfl, fun _ hopen => hopen, .inl ⟨rfl, rfl⟩, fun h hh => ?_⟩
    obtain hh | hh := List.mem_append.mp hh
    · exact .inl hh
    · obtain ⟨target, htarget, rfl⟩ := List.mem_map.mp hh
      exact .inr ⟨rfl, htarget⟩
  | dropFlag => exact ⟨rfl, rfl, fun _ hopen => hopen, .inr ⟨rfl, rfl⟩, fun _ hh => .inl hh⟩
  | clearAlone => exact ⟨rfl, rfl, fun _ hopen => hopen, .inr ⟨rfl, rfl⟩, fun _ hh => .inl hh⟩
  | clearServing => exact ⟨rfl, rfl, fun _ hopen => hopen, .inr ⟨rfl, rfl⟩, fun _ hh => .inl hh⟩
  | dropped => exact .frame rfl rfl (.inr rfl) rfl rfl rfl
  | @acceptClient fd source_addr => exact absurd rfl (haccept fd source_addr)
  | setupLost => exact .frame rfl rfl (.inr rfl) rfl rfl rfl
  | setupFailed => exact .frame rfl rfl (.inr rfl) rfl rfl rfl
  | recvNothing => exact s.servePending_continues
  | recvFailed => exact .frame rfl rfl (.inr rfl) rfl rfl rfl
  | write => exact s.servePending_continues
  | @send retries n =>
    obtain ⟨_, _, _, heq⟩ := Server.sendingLoop_frame { s with
      pending_tx_offset := s.pending_tx_offset + n
      current := s.current.send ((s.pending_tx_frame.data.drop s.pending_tx_offset).take n) }
    rw [heq]
    exact .frame rfl rfl (.inl rfl) rfl rfl rfl
  | sendFailed => exact .frame rfl rfl (.inr rfl) rfl rfl rfl
  | @fetchFrame f rest =>
    unfold Server.takeFrame
    obtain ⟨_, _, _, heq⟩ := Server.sendingLoop_frame { s with
      q_tcp_server := some rest, pending_tx_frame := f, pending_tx_valid := true,
      pending_tx_offset := 0, current := s.current.take f }
    rw [heq]
    exact .frame rfl rfl (.inl rfl) rfl rfl rfl
  | _ => exact .frame rfl rfl (.inl rfl) rfl rfl rfl

/-- The new session inherits nothing of the requests for older ones. -/
theorem Server.Targeted.accept (htargeted : s.Targeted) {fd : Int} {source_addr : sockaddr_storage}
    (hfresh : NoStaleRequest s (.task (.accept (.client fd source_addr))))
    (hstep : s.taskStep (.accept (.client fd source_addr)) = some s') : s'.Targeted := by
  obtain ⟨hflag, hrequests⟩ := hfresh
  obtain ⟨_, _, rfl⟩ := Server.acceptClient_step hstep
  have hraised := htargeted.cleared hflag
  refine ⟨fun r hr => ?_, by simp [hraised], fun _ => hraised, htargeted.hits⟩
  have hharmless := hrequests r hr
  cases r with
  | raiseFlag sock target => simp [RequestPhase.threatens] at hharmless
  | shutdown sock target =>
    intro hopen
    obtain rfl := Option.some.inj hopen
    simp [RequestPhase.threatens] at hharmless

theorem Server.Targeted.disconnectClient (htargeted : s.Targeted) :
    s.disconnectClient.Targeted := by
  unfold Server.disconnectClient
  split
  case isTrue => exact htargeted
  case isFalse =>
    refine ⟨fun r hr => ?_, htargeted.raisedFor, htargeted.cleared, htargeted.hits⟩
    obtain hr | hr := List.mem_append.mp hr
    · exact (htargeted.requests r hr).frame rfl fun _ hsome => hsome
    · obtain rfl := List.mem_singleton.mp hr
      exact rfl

theorem Server.Targeted.requestStep (htargeted : s.Targeted) {i : Nat}
    (hstep : s.requestStep i = some s') : s'.Targeted := by
  unfold Server.requestStep at hstep
  split at hstep
  case h_1 => cases hstep
  case h_2 sock target hcall =>
    obtain rfl := Option.some.inj hstep
    have htarget : target = s.accepted :=
      htargeted.requests _ (List.mem_of_getElem? hcall)
    refine ⟨fun r hr => ?_, fun t ht => ?_, by simp, htargeted.hits⟩
    · obtain hr | rfl := List.mem_or_eq_of_mem_set hr
      · exact (htargeted.requests r hr).frame rfl fun _ hsome => hsome
      · exact fun _ => htarget
    · obtain ht | ht := List.mem_append.mp ht
      · exact htargeted.raisedFor t ht
      · obtain rfl := List.mem_singleton.mp ht
        exact htarget
  case h_3 sock target hcall =>
    obtain rfl := Option.some.inj hstep
    have htargets : s.openSocket = some sock → target = s.accepted :=
      htargeted.requests _ (List.mem_of_getElem? hcall)
    refine ⟨fun r hr => ?_, htargeted.raisedFor, htargeted.cleared, fun h hh => ?_⟩
    · exact (htargeted.requests r (List.mem_of_mem_eraseIdx hr)).frame rfl fun _ hsome => hsome
    · by_cases hopen : s.openSocket = some sock
      · simp only [if_pos hopen] at hh
        obtain hh | hh := List.mem_append.mp hh
        · exact htargeted.hits h hh
        · obtain rfl := List.mem_singleton.mp hh
          exact (htargets hopen).symm
      · simp only [if_neg hopen] at hh
        exact htargeted.hits h hh

theorem tcpStep_targeted {a : TcpAction} (htargeted : s.Targeted) (hfresh : NoStaleRequest s a)
    (hstep : tcpStep s a = some s') : s'.Targeted := by
  cases a with
  | task a =>
    by_cases haccept : ∃ fd source_addr, a = .accept (.client fd source_addr)
    · obtain ⟨fd, source_addr, rfl⟩ := haccept
      exact htargeted.accept hfresh hstep
    · exact htargeted.continues
        (taskStep_continues (Server.taskStep_cases hstep) (by simpa using haccept))
  | post frame =>
    simp only [tcpStep] at hstep
    split at hstep
    case h_1 =>
      obtain rfl := Option.some.inj hstep
      exact htargeted.continues (.frame rfl rfl (.inl rfl) rfl rfl rfl)
    case h_2 => cases hstep
  | posting =>
    obtain ⟨queue, posting, rfl⟩ := Server.postStep_frame hstep
    exact htargeted.continues (.frame rfl rfl (.inl rfl) rfl rfl rfl)
  | disconnectClient =>
    obtain rfl := Option.some.inj hstep
    exact htargeted.disconnectClient
  | request i => exact htargeted.requestStep hstep

end

theorem server_targeted {s : Server} (hreach : Reach tcpStep NoStaleRequest listening s) :
    s.Targeted := by
  refine hreach.invariant ?_ fun _ _ _ htargeted hfresh hstep =>
    tcpStep_targeted htargeted hfresh hstep
  exact ⟨by simp [listening], by simp [listening], fun _ => rfl, by simp [listening]⟩

/-- The session that a call of `tcp_server_disconnect_client` has read. -/
def RequestPhase.target : RequestPhase → Nat
  | .raiseFlag _ target => target
  | .shutdown _ target => target

/-- No request is for a session still to come, and the flag was set for one. -/
structure Server.Past (s : Server) : Prop where
  requests : ∀ r ∈ s.requests, r.target ≤ s.accepted
  raisedFor : ∀ target ∈ s.raisedFor, target ≤ s.accepted
  raised : s.disconnect_requested = true → s.raisedFor ≠ []

section

variable {s s' : Server}

theorem Server.Past.continues (hpast : s.Past) (hcontinues : s.Continues s') : s'.Past := by
  obtain ⟨haccepted, hrequests, _, hraised, _⟩ := hcontinues
  refine ⟨by rw [hrequests, haccepted]; exact hpast.requests, ?_, ?_⟩
  · obtain ⟨hraised, _⟩ | ⟨hraised, _⟩ := hraised
    · rw [hraised, haccepted]
      exact hpast.raisedFor
    · simp [hraised]
  · obtain ⟨hraised, hflag⟩ | ⟨_, hflag⟩ := hraised
    · rw [hraised, hflag]
      exact hpast.raised
    · simp [hflag]

theorem Server.Past.accept (hpast : s.Past) {fd : Int} {source_addr : sockaddr_storage}
    (hstep : s.taskStep (.accept (.client fd source_addr)) = some s') : s'.Past := by
  obtain ⟨_, _, rfl⟩ := Server.acceptClient_step hstep
  exact ⟨fun r hr => Nat.le_succ_of_le (hpast.requests r hr),
    fun t ht => Nat.le_succ_of_le (hpast.raisedFor t ht), hpast.raised⟩

theorem Server.Past.requestStep (hpast : s.Past) {i : Nat}
    (hstep : s.requestStep i = some s') : s'.Past := by
  unfold Server.requestStep at hstep
  split at hstep
  case h_1 => cases hstep
  case h_2 sock target hcall =>
    obtain rfl := Option.some.inj hstep
    have htarget : target ≤ s.accepted := hpast.requests _ (List.mem_of_getElem? hcall)
    refine ⟨fun r hr => ?_, fun t ht => ?_, by simp⟩
    · obtain hr | rfl := List.mem_or_eq_of_mem_set hr
      · exact hpast.requests r hr
      · exact htarget
    · obtain ht | ht := List.mem_append.mp ht
      · exact hpast.raisedFor t ht
      · obtain rfl := List.mem_singleton.mp ht
        exact htarget
  case h_3 =>
    obtain rfl := Option.some.inj hstep
    exact ⟨fun r hr => hpast.requests r (List.mem_of_mem_eraseIdx hr), hpast.raisedFor,
      hpast.raised⟩

theorem tcpStep_past {a : TcpAction} (hpast : s.Past) (hstep : tcpStep s a = some s') : s'.Past := by
  cases a with
  | task a =>
    by_cases haccept : ∃ fd source_addr, a = .accept (.client fd source_addr)
    · obtain ⟨fd, source_addr, rfl⟩ := haccept
      exact hpast.accept hstep
    · exact hpast.continues
        (taskStep_continues (Server.taskStep_cases hstep) (by simpa using haccept))
  | post frame =>
    simp only [tcpStep] at hstep
    split at hstep
    case h_1 =>
      obtain rfl := Option.some.inj hstep
      exact ⟨hpast.requests, hpast.raisedFor, hpast.raised⟩
    case h_2 => cases hstep
  | posting =>
    obtain ⟨queue, posting, rfl⟩ := Server.postStep_frame hstep
    exact ⟨hpast.requests, hpast.raisedFor, hpast.raised⟩
  | disconnectClient =>
    obtain rfl := Option.some.inj hstep
    unfold Server.disconnectClient
    split
    case isTrue => exact hpast
    case isFalse =>
      refine ⟨fun r hr => ?_, hpast.raisedFor, hpast.raised⟩
      obtain hr | hr := List.mem_append.mp hr
      · exact hpast.requests r hr
      · obtain rfl := List.mem_singleton.mp hr
        exact Nat.le_refl _
  | request i => exact hpast.requestStep hstep

end

theorem server_past {s : Server} (hreach : Reach tcpStep Anywhere listening s) : s.Past := by
  refine hreach.invariant ?_ fun _ _ _ hpast _ hstep => tcpStep_past hpast hstep
  exact ⟨by simp [listening], by simp [listening], by simp [listening]⟩

/-- The task empties the queue and comes to writing the client's bytes. -/
theorem drain_reaches_write {s : Server} {rx_buffer : List UInt8}
    (hphase : s.phase = .drain rx_buffer) :
    ∃ queue, queue.getD [] = [] ∧ Reach tcpStep Anywhere s
      { s with q_tcp_server := queue, phase := .write rx_buffer } := by
  obtain hqueue | ⟨entries, hqueue⟩ : s.q_tcp_server = none ∨ ∃ entries, s.q_tcp_server = some entries := by
    cases s.q_tcp_server with
    | none => exact .inl rfl
    | some entries => exact .inr ⟨entries, rfl⟩
  · refine ⟨none, rfl, .next .refl trivial (a := .task .turn) ?_⟩
    simp [tcpStep, Server.taskStep, hphase, Server.drainStep, hqueue]
  · refine ⟨some [], rfl, ?_⟩
    induction entries generalizing s with
    | nil =>
      refine .next .refl trivial (a := .task .turn) ?_
      simp [tcpStep, Server.taskStep, hphase, Server.drainStep, hqueue]
    | cons f rest ih =>
      have hpop : tcpStep s (.task .turn) = some { s with q_tcp_server := some rest } := by
        simp [tcpStep, Server.taskStep, hphase, Server.drainStep, hqueue]
      exact (Reach.next .refl trivial hpop).trans (ih hphase rfl)

/-- A client that has just been accepted may send a byte and be dropped at the
next loop head. -/
theorem setup_reaches_drop {s : Server} (hphase : s.phase = .setup) (hconnected : s.Connected)
    (hpending : s.pending_tx_valid = false) (hflag : s.disconnect_requested = true) :
    ∃ s', Reach tcpStep Anywhere s s' ∧
      s'.hits = s.hits ++ s.raisedFor.map (⟨s.accepted, ·⟩) := by
  have hready : tcpStep s (.task (.setup .ready)) = some { s with phase := .recv } := by
    simp [tcpStep, Server.taskStep, hphase, Server.setupStep]
  have hrecv : tcpStep { s with phase := .recv } (.task (.recv (.data [0]))) =
      some { s with phase := .drain [0] } := by
    simp [tcpStep, Server.taskStep, Server.recvStep, rxBufferSize]
  obtain ⟨queue, hqueue, hdrain⟩ := drain_reaches_write (s := { s with phase := .drain [0] }) rfl
  have hwrite : tcpStep { s with q_tcp_server := queue, phase := .write [0] }
      (.task (.uart_write_bytes 1)) = some { s with q_tcp_server := queue, phase := .fetch } := by
    simp [tcpStep, Server.taskStep, Server.servePending, hpending]
  have hfetch : tcpStep { s with q_tcp_server := queue, phase := .fetch } (.task .turn) =
      some { s with q_tcp_server := queue, phase := .head } := by
    cases queue with
    | none => simp [tcpStep, Server.taskStep, Server.fetchStep, hpending]
    | some entries =>
      obtain rfl : entries = [] := hqueue
      simp [tcpStep, Server.taskStep, Server.fetchStep, hpending]
  refine ⟨Server.headStep { s with q_tcp_server := queue, phase := .head },
    ((((Reach.next .refl trivial hready).next trivial hrecv).trans hdrain).next trivial hwrite |>.next
      trivial hfetch).next trivial (a := .task .turn) rfl, ?_⟩
  simp [Server.headStep, hflag, hconnected.connected]

/-- A client accepted while a request for an older session is under way may be
hit by that request. -/
theorem stale_request_may_hit {s s₁ : Server} {fd : Int} {source_addr : sockaddr_storage}
    (hreach : Reach tcpStep Anywhere listening s)
    (hstale : ¬ NoStaleRequest s (.task (.accept (.client fd source_addr))))
    (hstep : tcpStep s (.task (.accept (.client fd source_addr))) = some s₁) :
    ∃ s₂, Reach tcpStep Anywhere s₁ s₂ ∧ ∃ h ∈ s₂.hits, h.session ≠ h.target := by
  have hpast := server_past hreach
  obtain ⟨hphase, hfd, hs₁⟩ := Server.acceptClient_step hstep
  have hidle : s.Idle := by simpa only [Server.Placed, hphase] using server_placed hreach
  have hphase₁ : s₁.phase = .setup := by rw [hs₁]
  have hopen : s₁.openSocket = some fd := by rw [hs₁]
  have hconnected : s₁.Connected := by
    rw [hs₁]
    exact ⟨by simp only [INVALID_SOCK]; omega, rfl⟩
  have hpending : s₁.pending_tx_valid = false := by rw [hs₁]; exact hidle.pending_tx_valid
  have haccepted : s₁.accepted = s.accepted + 1 := by rw [hs₁]
  have hrequests : s₁.requests = s.requests := by rw [hs₁]
  have hraised : s₁.raisedFor = s.raisedFor := by rw [hs₁]
  have hflag : s₁.disconnect_requested = s.disconnect_requested := by rw [hs₁]
  by_cases hset : s.disconnect_requested = true
  · obtain ⟨target, htarget⟩ := List.exists_mem_of_ne_nil _ (hpast.raised hset)
    have hle := hpast.raisedFor target htarget
    obtain ⟨s₂, hreach₂, hhits⟩ :=
      setup_reaches_drop hphase₁ hconnected hpending (hflag.trans hset)
    refine ⟨s₂, hreach₂, ⟨s₁.accepted, target⟩, ?_, by simp only; omega⟩
    rw [hhits, hraised]
    exact List.mem_append_right _ (List.mem_map.mpr ⟨target, htarget, rfl⟩)
  · obtain ⟨r, hr, hthreat⟩ : ∃ r ∈ s.requests, r.threatens fd = true := by
      simpa [NoStaleRequest, hset] using hstale
    have hle := hpast.requests r hr
    obtain ⟨i, hcall⟩ := List.mem_iff_getElem?.mp hr
    rw [← hrequests] at hcall
    cases r with
    | raiseFlag sock target =>
      let raised : Server := { s₁ with
        disconnect_requested := true
        raisedFor := s₁.raisedFor ++ [target]
        requests := s₁.requests.set i (.shutdown sock target) }
      have hraise : tcpStep s₁ (.request i) = some raised := by
        simp only [tcpStep, Server.requestStep, hcall, raised]
      obtain ⟨s₂, hreach₂, hhits⟩ := setup_reaches_drop (s := raised) hphase₁
        ⟨hconnected.connected, hconnected.opened⟩ hpending rfl
      refine ⟨s₂, (Reach.next .refl trivial hraise).trans hreach₂, ⟨s₁.accepted, target⟩, ?_, ?_⟩
      · rw [hhits]
        exact List.mem_append_right _ (List.mem_map.mpr ⟨target, by simp [raised], rfl⟩)
      · simp only [RequestPhase.target] at hle ⊢
        omega
    | shutdown sock target =>
      have hsock : sock = fd := by simpa [RequestPhase.threatens] using hthreat
      have hshut : tcpStep s₁ (.request i) = some { s₁ with
          hits := s₁.hits ++ [⟨s₁.accepted, target⟩], requests := s₁.requests.eraseIdx i } := by
        simp only [tcpStep, Server.requestStep, hcall, hopen, hsock, if_true]
      refine ⟨_, .next .refl trivial hshut, ⟨s₁.accepted, target⟩, by simp, ?_⟩
      simp only [RequestPhase.target] at hle ⊢
      omega

/-- As long as no client is accepted while a request for an older session is
under way, each session that is closed or shut down for a request is the one
whose descriptor the request has read. Each acceptance of a client at another
time may be followed by a hit of the new session for a request that was meant
for an older one. -/
theorem requests_hit_their_target (s : Server) :
    (Reach tcpStep NoStaleRequest listening s → ∀ h ∈ s.hits, h.session = h.target) ∧
    ∀ a s₁, Reach tcpStep Anywhere listening s → ¬ NoStaleRequest s a → tcpStep s a = some s₁ →
      ∃ s₂, Reach tcpStep Anywhere s₁ s₂ ∧ ∃ h ∈ s₂.hits, h.session ≠ h.target := by
  refine ⟨fun hreach => (server_targeted hreach).hits, fun a s₁ hreach hstale hstep => ?_⟩
  unfold NoStaleRequest at hstale
  split at hstale
  case h_1 => exact stale_request_may_hit hreach hstale hstep
  case h_2 => exact absurd trivial hstale

/-- The first client has gone, and a second one has come, when the request that
read the first one's descriptor sets the flag and shuts that descriptor down. -/
def staleRequestRun : List TcpAction :=
  List.flatten [acceptClient 5 desktop,
    [.disconnectClient, .task (.recv .closed), .task .turn, .task .turn],
    acceptClient 5 desktop, [.request 0, .request 0]]

theorem stale_request_hits_new_session :
    ¬ ∀ s, Reach tcpStep Anywhere listening s → ∀ h ∈ s.hits, h.session = h.target := by
  intro hright
  have hrun : (runs tcpStep Anywhere listening staleRequestRun).map (·.hits) = some [⟨2, 1⟩] := by
    decide +kernel
  obtain ⟨s, hs, hhits⟩ := Option.map_eq_some_iff.mp hrun
  have hwrong := hright s (Reach.refl.runs hs) ⟨2, 1⟩ (by simp [hhits])
  exact absurd hwrong (by decide)

/-- The first client is shut down and dropped for a request, and a second one
comes. -/
def droppedRun : List TcpAction :=
  List.flatten [acceptClient 5 desktop,
    [.disconnectClient, .request 0, .request 0, .task (.recv (.error true)),
      .task .turn, .task .turn, .task .turn, .task .turn,
      .task (.accept (.client 5 desktop))]]

theorem requests_hit_their_target_of_dropped :
    (∃ s, runs tcpStep NoStaleRequest listening droppedRun = some s ∧ s.accepted = 2 ∧
      s.hits = [⟨1, 1⟩, ⟨1, 1⟩] ∧ ∀ h ∈ s.hits, h.session = h.target) ∧
    ∃ s s₁ s₂, runs tcpStep Anywhere listening (staleRequestRun.take 10) = some s ∧
      tcpStep s (.task (.accept (.client 5 desktop))) = some s₁ ∧
      Reach tcpStep Anywhere s₁ s₂ ∧ ∃ h ∈ s₂.hits, h.session ≠ h.target := by
  constructor
  · have hrun : (runs tcpStep NoStaleRequest listening droppedRun).map
        (fun s => (s.accepted, s.hits)) = some (2, [⟨1, 1⟩, ⟨1, 1⟩]) := by
      decide +kernel
    obtain ⟨s, hs, hstate⟩ := Option.map_eq_some_iff.mp hrun
    obtain ⟨haccepted, hhits⟩ := by simpa only [Prod.mk.injEq] using hstate
    exact ⟨s, hs, haccepted, hhits, (requests_hit_their_target s).1 (Reach.refl.runs hs)⟩
  · have hrun : (runs tcpStep Anywhere listening (staleRequestRun.take 10)).map
        (fun s => (decide (NoStaleRequest s (.task (.accept (.client 5 desktop)))),
          (tcpStep s (.task (.accept (.client 5 desktop)))).isSome)) = some (false, true) := by
      decide +kernel
    obtain ⟨s, hs, hstate⟩ := Option.map_eq_some_iff.mp hrun
    obtain ⟨hstale, hsome⟩ := by simpa only [Prod.mk.injEq] using hstate
    obtain ⟨s₁, hs₁⟩ := Option.isSome_iff_exists.mp hsome
    obtain ⟨s₂, hreach, hwrong⟩ := (requests_hit_their_target s).2 _ s₁ (Reach.refl.runs hs)
      (of_decide_eq_false hstale) hs₁
    exact ⟨s, s₁, s₂, hs, hs₁, hreach, hwrong⟩

end rtkbase.tcp_server
