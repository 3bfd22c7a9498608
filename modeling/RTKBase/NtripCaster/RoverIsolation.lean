import RTKBase.NtripCaster.Access
import RTKBase.NtripCaster.RoverLog

namespace rtkbase.ntrip_caster

open lib.cstring lib.ledger lib.lts frame_pool

/-- What happens to one slot: a new client, a pass of the service loop with what its own
socket returns, and a pass of the forwarding loop. -/
inductive SlotInput where
  | accept (new_fd : Int)
  | service (received : RecvResult) (results : List SendResult)
  | forward (frame : RtcmFrame) (results : List SendResult)

/-- Two slots are the same for their clients; of a free one there is no socket. -/
structure Alike (c c' : RoverSlot) : Prop where
  rover : c.rover = c'.rover
  sock : c.rover.state ≠ .ROVER_EMPTY → c.sock = c'.sock

section

variable (s_cfg : caster_config_t) (mbedtls_base64_decode : List UInt8 → Option (List UInt8))

/-- A slot by itself. -/
def slotStep (c : RoverSlot) : SlotInput → Option RoverSlot
  | .accept new_fd => some ⟨acceptRover c.rover new_fd, acceptedSocket⟩
  | .service received results => serviceRover s_cfg mbedtls_base64_decode c received results
  | .forward frame results => forwardToRover c frame results

def slotSteps (c : RoverSlot) (inputs : List SlotInput) : Option RoverSlot :=
  inputs.foldlM (slotStep s_cfg mbedtls_base64_decode) c

end

/-- What a step of the task is for the slots. -/
def slotInputs (s : Server) (a : ServerAction) : List (Fin MAX_ROVERS × SlotInput) :=
  match s.phase, a with
  | .accept, .accept new_fd _ =>
    match firstEmpty s.s_rovers with
    | some i => [(i, .accept new_fd)]
    | none => []
  | .service i, .service received results => [(i, .service received results)]
  | .sending frame i, .send results => [(i, .forward frame results)]
  | _, _ => []

section

variable {s_cfg : caster_config_t} {mbedtls_base64_decode : List UInt8 → Option (List UInt8)}

theorem Alike.refl (c : RoverSlot) : Alike c c := ⟨rfl, fun _ => rfl⟩

theorem Alike.symm {c c' : RoverSlot} (halike : Alike c c') : Alike c' c :=
  ⟨halike.rover.symm, fun hused => (halike.sock (halike.rover ▸ hused)).symm⟩

theorem Alike.trans {c c' c'' : RoverSlot} (halike : Alike c c') (halike' : Alike c' c'') :
    Alike c c'' :=
  ⟨halike.rover.trans halike'.rover, fun hused =>
    (halike.sock hused).trans (halike'.sock (halike.rover ▸ hused))⟩

/-- A free slot is like another one with the same rover. -/
theorem Alike.free {c c' : RoverSlot} (hrover : c.rover = c'.rover)
    (hempty : c.rover.state = .ROVER_EMPTY) : Alike c c' :=
  ⟨hrover, fun hused => absurd hempty hused⟩

/-- Slots that are alike stay so, whatever happens to both. -/
theorem Alike.step {c c' d : RoverSlot} (halike : Alike c c') {input : SlotInput}
    (hstep : slotStep s_cfg mbedtls_base64_decode c input = some d) :
    ∃ d', slotStep s_cfg mbedtls_base64_decode c' input = some d' ∧ Alike d d' := by
  by_cases hempty : c.rover.state = .ROVER_EMPTY
  · have hempty' : c'.rover.state = .ROVER_EMPTY := halike.rover ▸ hempty
    cases input with
    | accept new_fd =>
      cases hstep
      exact ⟨_, rfl, by rw [halike.rover]; exact .refl _⟩
    | service received results =>
      simp only [slotStep, serviceRover, hempty, Option.some.injEq] at hstep
      subst hstep
      exact ⟨c', by simp [slotStep, serviceRover, hempty'], halike⟩
    | forward frame results =>
      simp only [slotStep, forwardToRover, hempty, reduceCtorEq, if_false,
        Option.some.injEq] at hstep
      subst hstep
      exact ⟨c', by simp [slotStep, forwardToRover, hempty'], halike⟩
  · obtain ⟨rover, sock⟩ := c
    obtain ⟨rover', sock'⟩ := c'
    obtain rfl : rover = rover' := halike.rover
    obtain rfl : sock = sock' := halike.sock hempty
    exact ⟨d, hstep, .refl d⟩

/-- A pass over slot `i` is for it a step of its own, and nothing for the others. -/
theorem Alike.setSlot {s : Server} (hown : s.OwnSockets) {i j : Fin MAX_ROVERS} {c : RoverSlot}
    (hkept : Kept (s.slot i) c) :
    Alike ((s.setSlot i c).slot j) (if j = i then c else s.slot j) := by
  by_cases hj : j = i
  · subst hj
    rw [if_pos rfl]
    cases hkept with
    | same hfd hstate hopen =>
      simp only [Server.slot] at hfd
      have hself : (s.setSlot j c).slot j = c := by simp [Server.setSlot, Server.slot, hfd]
      rw [hself]
      exact .refl c
    | closed hfd hstate =>
      have hrover : ((s.setSlot j c).slot j).rover = c.rover := by
        simp [Server.setSlot, Server.slot]
      exact .free hrover (hrover ▸ hstate)
  · rw [if_neg hj]
    by_cases hused : (s.s_rovers j).state = .ROVER_EMPTY
    · have hrover : ((s.setSlot i c).slot j).rover = (s.slot j).rover := by
        simp [Server.setSlot, Server.slot, hj]
      exact .free hrover (hrover ▸ hused)
    · rw [hown.setSlot_of_ne hj hused]
      exact .refl _

theorem Alike.steps {c c' d : RoverSlot} (halike : Alike c c') {inputs : List SlotInput}
    (hsteps : slotSteps s_cfg mbedtls_base64_decode c inputs = some d) :
    ∃ d', slotSteps s_cfg mbedtls_base64_decode c' inputs = some d' ∧ Alike d d' := by
  induction inputs generalizing c c' with
  | nil =>
    cases hsteps
    exact ⟨c', rfl, halike⟩
  | cons input rest ih =>
    obtain ⟨e, hstep, hrest⟩ := Option.bind_eq_some_iff.mp hsteps
    obtain ⟨e', hstep', halike'⟩ := halike.step hstep
    obtain ⟨d', hrest', halike''⟩ := ih halike' hrest
    exact ⟨d', Option.bind_eq_some_iff.mpr ⟨e', hstep', hrest'⟩, halike''⟩

/-- A new client goes to one slot, and nothing happens to the others. -/
theorem accept_slotInputs {s s' : Server} {new_fd : Int} {results : List SendResult}
    {j : Fin MAX_ROVERS} (hown : s.OwnSockets) (hphase : s.phase = .accept)
    (haccept : s.acceptClient new_fd results = some s') :
    ∃ d, slotSteps s_cfg mbedtls_base64_decode (s.slot j)
        (roverLog j (slotInputs s (.accept new_fd results))) = some d ∧
      Alike d (s'.slot j) := by
  unfold Server.acceptClient at haccept
  split at haccept
  case isFalse => cases haccept
  case isTrue hfd =>
    split at haccept
    case h_1 i hfirst =>
      cases haccept
      simp only [slotInputs, hphase, hfirst]
      by_cases hj : j = i
      · subst hj
        refine ⟨⟨acceptRover (s.s_rovers j) new_fd, acceptedSocket⟩, ?_, ?_⟩
        · simp [roverLog, slotSteps, slotStep, Server.slot]
        · simp only [Server.slot, Function.update_self, acceptRover]
          exact .refl _
      · refine ⟨s.slot j, by simp [roverLog, slotSteps, Ne.symm hj], ?_⟩
        by_cases hused : (s.s_rovers j).state = .ROVER_EMPTY
        · exact .free (by simp [Server.slot, hj]) hused
        · have hne : (s.s_rovers j).fd ≠ new_fd := hown.fd_ne hused hfd.2
          simp only [Server.slot, Function.update_of_ne hj, Function.update_of_ne hne]
          exact .refl _
    case h_2 hfirst =>
      split at haccept
      case h_1 => cases haccept
      case h_2 =>
        cases haccept
        simp only [slotInputs, hphase, hfirst]
        refine ⟨s.slot j, rfl, ?_⟩
        have hused : (s.s_rovers j).state ≠ .ROVER_EMPTY := by
          have hnot := List.find?_eq_none.mp hfirst j (List.mem_finRange j)
          simpa using hnot
        have hne : (s.s_rovers j).fd ≠ new_fd := hown.fd_ne hused hfd.2
        simp only [Server.slot, Function.update_of_ne hne]
        exact .refl _

/-- Each step of the task does to each slot what its own inputs do. -/
theorem serverStep_slotInputs {s s' : Server} {a : ServerAction} {j : Fin MAX_ROVERS}
    (hown : s.OwnSockets) (hstep : serverStep s_cfg mbedtls_base64_decode s a = some s') :
    ∃ d, slotSteps s_cfg mbedtls_base64_decode (s.slot j) (roverLog j (slotInputs s a)) = some d ∧
      Alike d (s'.slot j) := by
  have hpass : ∀ {i : Fin MAX_ROVERS} {input : SlotInput} {c : RoverSlot},
      slotStep s_cfg mbedtls_base64_decode (s.slot i) input = some c → Kept (s.slot i) c →
      ∃ d, slotSteps s_cfg mbedtls_base64_decode (s.slot j) (roverLog j [(i, input)]) = some d ∧
        Alike d ((s.setSlot i c).slot j) := by
    intro i input c hc hkept
    refine ⟨if j = i then c else s.slot j, ?_, (Alike.setSlot hown hkept).symm⟩
    by_cases hj : j = i
    · subst hj
      simp [roverLog, slotSteps, hc]
    · simp [roverLog, slotSteps, hj, Ne.symm hj]
  unfold serverStep at hstep
  split at hstep
  case h_1 hphase =>
    cases hstep
    simp only [slotInputs, hphase]
    exact ⟨s.slot j, rfl, .refl _⟩
  case h_2 hphase => exact accept_slotInputs hown hphase hstep
  case h_3 i hphase =>
    cases hstep
    simp only [slotInputs, hphase]
    exact ⟨s.slot j, rfl, .refl _⟩
  case h_4 i received results hphase =>
    split at hstep
    case h_1 => cases hstep
    case h_2 c hservice =>
      cases hstep
      simp only [slotInputs, hphase]
      exact hpass hservice (serviceRover_kept hservice)
  case h_5 hphase =>
    cases hstep
    simp only [slotInputs, hphase]
    exact ⟨s.slot j, rfl, .refl _⟩
  case h_6 hphase =>
    cases hstep
    simp only [slotInputs, hphase]
    exact ⟨s.slot j, rfl, .refl _⟩
  case h_7 frame i results hphase =>
    split at hstep
    case h_1 => cases hstep
    case h_2 c hforward =>
      cases hstep
      simp only [slotInputs, hphase]
      rw [Server.afterSend_slot]
      exact hpass hforward (forwardToRover_sent hforward).kept
  case h_8 => cases hstep

/-- In every run of the task each slot is what its own inputs make of it. -/
theorem slot_of_own_inputs {s_rovers : Fin MAX_ROVERS → rover_conn_t} {sockets : Int → Socket}
    {t : Traced Server (Fin MAX_ROVERS × SlotInput)} (hblank : ∀ i, (s_rovers i).Blank)
    (hreach : Reach (traced (serverStep s_cfg mbedtls_base64_decode) slotInputs) Anywhere
      ⟨listening s_rovers sockets, []⟩ t) (i : Fin MAX_ROVERS) :
    ∃ d, slotSteps s_cfg mbedtls_base64_decode ⟨s_rovers i, acceptedSocket⟩
        (roverLog i t.calls) = some d ∧ Alike d (t.state.slot i) := by
  apply traced_invariant (K := Server.OwnSockets) (P := fun s calls => ∃ d,
    slotSteps s_cfg mbedtls_base64_decode ⟨s_rovers i, acceptedSocket⟩ (roverLog i calls) =
      some d ∧ Alike d (s.slot i)) hreach
  · intro s hs
    exact hs.invariant (listening_own_sockets hblank) fun _ _ _ hown _ hstep =>
      own_socketsStep hown hstep
  · exact ⟨⟨s_rovers i, acceptedSocket⟩, rfl, .free rfl (hblank i).state⟩
  · intro s calls a s' hown hbefore hstep
    obtain ⟨d, hsteps, halike⟩ := hbefore
    obtain ⟨e, hinputs, halike'⟩ := serverStep_slotInputs hown hstep
    obtain ⟨e', hinputs', halike''⟩ := halike.symm.steps hinputs
    refine ⟨e', ?_, halike''.symm.trans halike'⟩
    rw [roverLog_append, slotSteps, List.foldlM_append]
    exact Option.bind_eq_some_iff.mpr ⟨d, hsteps, hinputs'⟩

end

/-- Rovers do not interfere. In any two runs of the task, with any other clients, a slot for
which the same happened is the same: the rover has been sent the same bytes, of the same
frames, and has the same buffers, whatever the other rovers, their sockets and new clients
did. -/
theorem rovers_isolated {s_cfg : caster_config_t}
    {mbedtls_base64_decode : List UInt8 → Option (List UInt8)}
    {s_rovers s_rovers' : Fin MAX_ROVERS → rover_conn_t} {sockets sockets' : Int → Socket}
    {t t' : Traced Server (Fin MAX_ROVERS × SlotInput)} {i i' : Fin MAX_ROVERS}
    (hblank : ∀ j, (s_rovers j).Blank) (hblank' : ∀ j, (s_rovers' j).Blank)
    (hsame : s_rovers i = s_rovers' i')
    (hreach : Reach (traced (serverStep s_cfg mbedtls_base64_decode) slotInputs) Anywhere
      ⟨listening s_rovers sockets, []⟩ t)
    (hreach' : Reach (traced (serverStep s_cfg mbedtls_base64_decode) slotInputs) Anywhere
      ⟨listening s_rovers' sockets', []⟩ t')
    (hinputs : roverLog i t.calls = roverLog i' t'.calls) :
    Alike (t.state.slot i) (t'.state.slot i') := by
  obtain ⟨d, hsteps, halike⟩ := slot_of_own_inputs hblank hreach i
  obtain ⟨d', hsteps', halike'⟩ := slot_of_own_inputs hblank' hreach' i'
  rw [← hinputs, ← hsame, hsteps] at hsteps'
  cases hsteps'
  exact halike.symm.trans halike'

/-- A rover begins to ask. -/
def aloneRun : List ServerAction := [.accept 5 [], .service (.data (ascii "GET /")) []]

/-- The same behind another client. -/
def secondRun : List ServerAction :=
  [.accept 6 [], .service (.data (ascii "POST")) [], .notReady, .notReady, .notReady,
    .queueEmpty, .accept 5 [], .service .closed [], .service (.data (ascii "GET /")) []]

/-- A caster to which nobody is connected. -/
def quietCaster : Traced Server (Fin MAX_ROVERS × SlotInput) :=
  ⟨listening (fun _ => blankRover) fun _ => ⟨false, [], [], 0⟩, []⟩

/-- The first slot of the one run is like the second slot of the other one. -/
theorem rovers_isolated_of_asking : ∃ t t',
    runs (traced (serverStep securedCaster sampleDecode) slotInputs) Anywhere quietCaster
        aloneRun = some t ∧
      runs (traced (serverStep securedCaster sampleDecode) slotInputs) Anywhere quietCaster
        secondRun = some t' ∧
      Alike (t.state.slot ⟨0, by decide⟩) (t'.state.slot ⟨1, by decide⟩) := by
  have halone : runs (traced (serverStep securedCaster sampleDecode) slotInputs) Anywhere
      quietCaster aloneRun = some _ := rfl
  have hsecond : runs (traced (serverStep securedCaster sampleDecode) slotInputs) Anywhere
      quietCaster secondRun = some _ := rfl
  exact ⟨_, _, halone, hsecond, rovers_isolated (fun _ => blankRover_blank)
    (fun _ => blankRover_blank) rfl (Reach.refl.runs halone) (Reach.refl.runs hsecond) rfl⟩

end rtkbase.ntrip_caster
