import RTKBase.NtripCaster.Slots

namespace rtkbase.ntrip_caster

open lib.lts frame_pool

section

variable (s_cfg : caster_config_t) (mbedtls_base64_decode : List UInt8 → Option (List UInt8))

/-- What one step of `task_ntrip_server` can do. -/
inductive ServerStep (s : Server) : Server → Prop where
  | noClient (hphase : s.phase = .accept) : ServerStep s { s with phase := .service 0 }
  | accepted {i : Fin MAX_ROVERS} {new_fd : Int} (hphase : s.phase = .accept) (hfd : 0 ≤ new_fd)
      (hclosed : (s.sockets new_fd).isOpen = false)
      (hempty : (s.s_rovers i).state = .ROVER_EMPTY) :
      ServerStep s { s with
        s_rovers := Function.update s.s_rovers i (acceptRover (s.s_rovers i) new_fd)
        sockets := Function.update s.sockets new_fd acceptedSocket
        phase := .service 0 }
  | busy {new_fd : Int} {sock : Socket} (hphase : s.phase = .accept)
      (hclosed : (s.sockets new_fd).isOpen = false)
      (hfull : ∀ i, (s.s_rovers i).state ≠ .ROVER_EMPTY) :
      ServerStep s { s with
        sockets := Function.update s.sockets new_fd sock
        phase := .service 0 }
  | notReady {i : Fin MAX_ROVERS} (hphase : s.phase = .service i) :
      ServerStep s { s with phase := afterService i }
  | service {i : Fin MAX_ROVERS} {received : RecvResult} {results : List SendResult}
      {c : RoverSlot} (hphase : s.phase = .service i)
      (hservice : serviceRover s_cfg mbedtls_base64_decode (s.slot i) received results = some c) :
      ServerStep s { s.setSlot i c with phase := afterService i }
  | dequeue {frame : RtcmFrame} (hphase : s.phase = .forward) :
      ServerStep s { s with phase := .sending frame 0 }
  | queueEmpty (hphase : s.phase = .forward) : ServerStep s { s with phase := .accept }
  | send {frame : RtcmFrame} {i : Fin MAX_ROVERS} {results : List SendResult} {c : RoverSlot}
      (hphase : s.phase = .sending frame i)
      (hforward : forwardToRover (s.slot i) frame results = some c) :
      ServerStep s ((s.setSlot i c).afterSend frame i)

variable {s_cfg mbedtls_base64_decode}

theorem acceptClient_cases {s s' : Server} {new_fd : Int} {results : List SendResult}
    (hphase : s.phase = .accept) (haccept : s.acceptClient new_fd results = some s') :
    ServerStep s_cfg mbedtls_base64_decode s s' := by
  unfold Server.acceptClient at haccept
  split at haccept
  case isFalse => cases haccept
  case isTrue hfd =>
    split at haccept
    case h_1 i hfirst =>
      cases haccept
      have hempty := List.find?_some hfirst
      exact .accepted hphase hfd.1 hfd.2 (of_decide_eq_true hempty)
    case h_2 hfirst =>
      have hfull : ∀ i, (s.s_rovers i).state ≠ .ROVER_EMPTY := by
        intro i
        have hnot := List.find?_eq_none.mp hfirst i (List.mem_finRange i)
        simpa using hnot
      split at haccept
      case h_1 => cases haccept
      case h_2 =>
        cases haccept
        exact .busy hphase hfd.2 hfull

theorem serverStep_cases {s s' : Server} {a : ServerAction}
    (hstep : serverStep s_cfg mbedtls_base64_decode s a = some s') :
    ServerStep s_cfg mbedtls_base64_decode s s' := by
  unfold serverStep at hstep
  split at hstep
  case h_1 hphase =>
    cases hstep
    exact .noClient hphase
  case h_2 hphase => exact acceptClient_cases hphase hstep
  case h_3 hphase =>
    cases hstep
    exact .notReady hphase
  case h_4 hphase =>
    split at hstep
    case h_1 => cases hstep
    case h_2 hservice =>
      cases hstep
      exact .service hphase hservice
  case h_5 hphase =>
    cases hstep
    exact .dequeue hphase
  case h_6 hphase =>
    cases hstep
    exact .queueEmpty hphase
  case h_7 hphase =>
    split at hstep
    case h_1 => cases hstep
    case h_2 hforward =>
      cases hstep
      exact .send hphase hforward
  case h_8 => cases hstep

/-- A descriptor that is not open is no slot's. -/
theorem Server.OwnSockets.fd_ne {s : Server} (hown : s.OwnSockets) {j : Fin MAX_ROVERS}
    {new_fd : Int} (hused : (s.s_rovers j).state ≠ .ROVER_EMPTY)
    (hclosed : (s.sockets new_fd).isOpen = false) : (s.s_rovers j).fd ≠ new_fd := by
  intro heq
  have hopen := (hown.used j hused).2
  rw [heq, hclosed] at hopen
  cases hopen

/-- A new client's descriptor is no other slot's. -/
theorem Server.OwnSockets.accepted {s : Server} (hown : s.OwnSockets) {i : Fin MAX_ROVERS}
    {new_fd : Int} (hfd : 0 ≤ new_fd) (hclosed : (s.sockets new_fd).isOpen = false) :
    Server.OwnSockets { s with
      s_rovers := Function.update s.s_rovers i (acceptRover (s.s_rovers i) new_fd)
      sockets := Function.update s.sockets new_fd acceptedSocket
      phase := .service 0 } := by
  have hother : ∀ j, (s.s_rovers j).state ≠ .ROVER_EMPTY → (s.s_rovers j).fd ≠ new_fd :=
    fun j hused => hown.fd_ne hused hclosed
  refine ⟨fun j hempty => ?_, fun j hused => ?_, fun j k hjk hj hk => ?_⟩
  · by_cases hj : j = i
    · subst hj
      simp [acceptRover] at hempty
    · simp only [Function.update_of_ne hj] at hempty ⊢
      exact hown.empty j hempty
  · by_cases hj : j = i
    · subst hj
      simp [acceptRover, acceptedSocket, hfd]
    · simp only [Function.update_of_ne hj] at hused ⊢
      rw [Function.update_of_ne (hother j hused)]
      exact hown.used j hused
  · by_cases hji : j = i
    · subst hji
      simp only [Function.update_self, Function.update_of_ne (Ne.symm hjk)] at hk ⊢
      exact (hother k hk).symm
    · by_cases hki : k = i
      · subst hki
        simp only [Function.update_self, Function.update_of_ne hji] at hj ⊢
        exact hother j hj
      · simp only [Function.update_of_ne hji, Function.update_of_ne hki] at hj hk ⊢
        exact hown.distinct j k hjk hj hk

/-- A descriptor that is closed at once is no slot's. -/
theorem Server.OwnSockets.busy {s : Server} (hown : s.OwnSockets) {new_fd : Int} {sock : Socket}
    (hclosed : (s.sockets new_fd).isOpen = false) {phase : ServerPhase} :
    Server.OwnSockets { s with
      sockets := Function.update s.sockets new_fd sock, phase := phase } := by
  refine ⟨hown.empty, fun j hused => ?_, hown.distinct⟩
  have hbefore := hown.used j hused
  simpa [hown.fd_ne hused hclosed] using hbefore

theorem own_socketsStep {s s' : Server} {a : ServerAction} (hown : s.OwnSockets)
    (hstep : serverStep s_cfg mbedtls_base64_decode s a = some s') : s'.OwnSockets := by
  cases serverStep_cases hstep with
  | accepted hphase hfd hclosed hempty => exact hown.accepted hfd hclosed
  | busy hphase hclosed hfull => exact hown.busy hclosed
  | service hphase hservice =>
    exact (hown.setSlot (serviceRover_kept hservice)).of_eq rfl rfl
  | @send frame i results c hphase hforward =>
    apply (hown.setSlot (forwardToRover_sent hforward).kept).of_eq
    · unfold Server.afterSend
      split <;> rfl
    · unfold Server.afterSend
      split <;> rfl
  | _ => exact hown.of_eq rfl rfl

/-- The pass over slot `i` offers it the frame. -/
theorem afterSend_offered {s : Server} {frame : RtcmFrame} {i : Fin MAX_ROVERS}
    (hphase : s.phase = .sending frame i) (c : RoverSlot) (j : Fin MAX_ROVERS) :
    ((s.setSlot i c).afterSend frame i).offered j =
      if j = i then s.offered j ++ [frame.data] else s.offered j := by
  have hj := j.isLt
  simp only [Server.offered, hphase, Server.afterSend, Server.setSlot, ServerPhase.passed]
  split
  case isTrue hmore =>
    simp only [Fin.lt_def, Fin.ext_iff]
    by_cases hlt : j.val < i.val
    · rw [if_pos (by omega), if_pos hlt, if_neg (by omega)]
    · by_cases heq : j.val = i.val
      · simp [heq]
      · rw [if_neg (by omega), if_neg hlt, if_neg heq]
  case isFalse hlast =>
    simp only [Fin.lt_def, Fin.ext_iff]
    by_cases heq : j.val = i.val
    · simp [heq]
    · rw [if_neg heq, if_pos (by omega)]
      simp

/-- What a step during the service loop's pass over slot `i` does. -/
theorem service_step_cases {s s' : Server} {a : ServerAction} {i : Fin MAX_ROVERS}
    (hphase : s.phase = .service i)
    (hstep : serverStep s_cfg mbedtls_base64_decode s a = some s') :
    (a = .notReady ∧ s' = { s with phase := afterService i }) ∨
      ∃ received results c, a = .service received results ∧
        serviceRover s_cfg mbedtls_base64_decode (s.slot i) received results = some c ∧
        s' = { s.setSlot i c with phase := afterService i } := by
  unfold serverStep at hstep
  rw [hphase] at hstep
  cases a with
  | notReady =>
    cases hstep
    exact .inl ⟨rfl, rfl⟩
  | service received results =>
    simp only at hstep
    split at hstep
    case h_1 => cases hstep
    case h_2 c hservice =>
      cases hstep
      exact .inr ⟨received, results, c, rfl, hservice, rfl⟩
  | _ => cases hstep

/-- The service loop's pass over a slot receives and sends as `allowed` says. -/
def Guarded (allowed : RoverSlot → RecvResult → List SendResult → Prop) (s : Server)
    (a : ServerAction) : Prop :=
  match s.phase, a with
  | .service i, .service received results => allowed (s.slot i) received results
  | _, _ => True

section

variable {P : List (List UInt8) → RoverSlot → Prop}
  {allowed : RoverSlot → RecvResult → List SendResult → Prop}

/-- The other slots keep a slot invariant, whatever a pass over slot `i` does. -/
theorem GuardedInvariant.setSlot
    (hP : GuardedInvariant s_cfg mbedtls_base64_decode allowed P) {s : Server}
    (hown : s.OwnSockets) {i j : Fin MAX_ROVERS} {c : RoverSlot} (hkept : Kept (s.slot i) c)
    {offered : List (List UInt8)} (hc : j = i → P offered c)
    (hbefore : j ≠ i → P offered (s.slot j)) : P offered ((s.setSlot i c).slot j) := by
  by_cases hj : j = i
  · subst hj
    have hslot := hc rfl
    cases hkept with
    | same hfd hstate hopen =>
      simp only [Server.slot] at hfd
      simpa [Server.setSlot, Server.slot, hfd] using hslot
    | closed hfd hstate =>
      simp only [Server.setSlot, Server.slot, Function.update_self]
      exact hP.free hstate hslot
  · by_cases hused : (s.s_rovers j).state = .ROVER_EMPTY
    · have hslot := hbefore hj
      simp only [Server.setSlot, Server.slot, Function.update_of_ne hj]
      exact hP.free hused hslot
    · rw [hown.setSlot_of_ne hj hused]
      exact hbefore hj

theorem Server.offered_eq {s s' : Server} {j : Fin MAX_ROVERS}
    (hforwarded : s'.forwarded = s.forwarded) (hbefore : s.phase.passed j = [])
    (hafter : s'.phase.passed j = []) : s'.offered j = s.offered j := by
  simp [Server.offered, hforwarded, hbefore, hafter]

theorem afterService_passed (i j : Fin MAX_ROVERS) : (afterService i).passed j = [] := by
  unfold afterService
  split <;> rfl

/-- Every step of the server keeps a slot invariant in every slot. -/
theorem GuardedInvariant.step (hP : GuardedInvariant s_cfg mbedtls_base64_decode allowed P)
    {s s' : Server} {a : ServerAction} (hown : s.OwnSockets)
    (hslots : ∀ i, P (s.offered i) (s.slot i)) (hallowed : Guarded allowed s a)
    (hstep : serverStep s_cfg mbedtls_base64_decode s a = some s') (j : Fin MAX_ROVERS) :
    P (s'.offered j) (s'.slot j) := by
  have hslot := hslots j
  -- Only the pass of the forwarding loop offers a slot another frame.
  have hquiet : ∀ {s' : Server}, s'.forwarded = s.forwarded → s.phase.passed j = [] →
      s'.phase.passed j = [] → P (s.offered j) (s'.slot j) → P (s'.offered j) (s'.slot j) := by
    intro s' hforwarded hbefore hafter hsame
    rwa [Server.offered_eq hforwarded hbefore hafter]
  cases serverStep_cases hstep with
  | noClient hphase => exact hquiet (by rfl) (by rw [hphase]; rfl) rfl hslot
  | @accepted i new_fd hphase hfd hclosed hempty =>
    apply hquiet (by rfl) (by rw [hphase]; rfl) rfl
    by_cases hj : j = i
    · subst hj
      simpa [Server.slot, acceptRover] using hP.accept new_fd hslot
    · by_cases hused : (s.s_rovers j).state = .ROVER_EMPTY
      · simp only [Server.slot, Function.update_of_ne hj]
        exact hP.free hused hslot
      · have hne : (s.s_rovers j).fd ≠ new_fd := hown.fd_ne hused hclosed
        simpa [Server.slot, hj, hne] using hslot
  | @busy new_fd sock hphase hclosed hfull =>
    apply hquiet (by rfl) (by rw [hphase]; rfl) rfl
    have hne : (s.s_rovers j).fd ≠ new_fd := hown.fd_ne (hfull j) hclosed
    simpa [Server.slot, hne] using hslot
  | @notReady i hphase =>
    exact hquiet (by rfl) (by rw [hphase]; rfl) (afterService_passed i j) hslot
  | @service i _ _ _ hphase _ =>
    obtain ⟨_, hsame⟩ | ⟨received, results, c, rfl, hservice, hset⟩ := service_step_cases hphase hstep
    · rw [hsame]
      exact hquiet (by rfl) (by rw [hphase]; rfl) (afterService_passed i j) hslot
    · unfold Guarded at hallowed
      rw [hphase] at hallowed
      rw [hset]
      apply hquiet (by rfl) (by rw [hphase]; rfl) (afterService_passed i j)
      apply hP.setSlot hown (serviceRover_kept hservice)
      · rintro rfl
        exact hP.service hslot hallowed hservice
      · exact fun _ => hslot
  | dequeue hphase =>
    exact hquiet (by rfl) (by rw [hphase]; rfl) (by simp [ServerPhase.passed]) hslot
  | queueEmpty hphase => exact hquiet (by rfl) (by rw [hphase]; rfl) rfl hslot
  | @send frame i results c hphase hforward =>
    rw [afterSend_offered hphase, Server.afterSend_slot]
    apply hP.setSlot hown (forwardToRover_sent hforward).kept
    · rintro rfl
      rw [if_pos rfl]
      exact hP.forward hslot hforward
    · intro hj
      rw [if_neg hj]
      exact hslot

end

theorem listening_own_sockets {s_rovers : Fin MAX_ROVERS → rover_conn_t} {sockets : Int → Socket}
    (hblank : ∀ i, (s_rovers i).Blank) : (listening s_rovers sockets).OwnSockets where
  empty i _ := (hblank i).fd
  used i hused := absurd (hblank i).state hused
  distinct i _ _ hused := absurd (hblank i).state hused

/-- In every run of `task_ntrip_server` whose passes are allowed a slot invariant
holds of every slot. -/
theorem GuardedInvariant.reach {P : List (List UInt8) → RoverSlot → Prop}
    {allowed : RoverSlot → RecvResult → List SendResult → Prop}
    (hP : GuardedInvariant s_cfg mbedtls_base64_decode allowed P)
    {s_rovers : Fin MAX_ROVERS → rover_conn_t} {sockets : Int → Socket} {s : Server}
    (hblank : ∀ i, (s_rovers i).Blank)
    (hinit : ∀ rover sock, rover.Blank → P [] ⟨rover, sock⟩)
    (hreach : Reach (serverStep s_cfg mbedtls_base64_decode) (Guarded allowed)
      (listening s_rovers sockets) s) : s.OwnSockets ∧ ∀ i, P (s.offered i) (s.slot i) := by
  apply hreach.invariant
  · exact ⟨listening_own_sockets hblank, fun i => hinit _ _ (hblank i)⟩
  · intro s a s' hs hallowed hstep
    exact ⟨own_socketsStep hs.1 hstep, hP.step hs.1 hs.2 hallowed hstep⟩

/-- In every run of `task_ntrip_server` a slot invariant holds of every slot. -/
theorem SlotInvariant.reach {P : List (List UInt8) → RoverSlot → Prop}
    (hP : SlotInvariant s_cfg mbedtls_base64_decode P)
    {s_rovers : Fin MAX_ROVERS → rover_conn_t} {sockets : Int → Socket} {s : Server}
    (hblank : ∀ i, (s_rovers i).Blank)
    (hinit : ∀ rover sock, rover.Blank → P [] ⟨rover, sock⟩)
    (hreach : Reach (serverStep s_cfg mbedtls_base64_decode) Anywhere
      (listening s_rovers sockets) s) (i : Fin MAX_ROVERS) : P (s.offered i) (s.slot i) := by
  refine (hP.guarded.reach hblank hinit (hreach.weaken fun s a _ => ?_)).2 i
  unfold Guarded
  split <;> trivial

end

end rtkbase.ntrip_caster
