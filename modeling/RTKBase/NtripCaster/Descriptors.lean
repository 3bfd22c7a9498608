import Mathlib.Data.Fintype.Basic
import RTKBase.Lib.Ledger
import RTKBase.NtripCaster.Calls
import RTKBase.NtripCaster.FrameAlignment

namespace rtkbase.ntrip_caster

open lib.lts lib.ledger gnss_uart

/-- A slot in use holds the descriptor. -/
def Server.holds (s : Server) (fd : Int) : Prop :=
  ∃ i, (s.s_rovers i).state ≠ .ROVER_EMPTY ∧ (s.s_rovers i).fd = fd

instance (s : Server) (fd : Int) : Decidable (s.holds fd) :=
  inferInstanceAs (Decidable (∃ i, (s.s_rovers i).state ≠ .ROVER_EMPTY ∧ (s.s_rovers i).fd = fd))

/-- A slot in use other than slot `i` holds the descriptor. -/
def Server.HoldsBeside (s : Server) (i : Fin MAX_ROVERS) (fd : Int) : Prop :=
  ∃ j, j ≠ i ∧ (s.s_rovers j).state ≠ .ROVER_EMPTY ∧ (s.s_rovers j).fd = fd

theorem Server.holds_iff (s : Server) (i : Fin MAX_ROVERS) (fd : Int) :
    s.holds fd ↔
      ((s.s_rovers i).state ≠ .ROVER_EMPTY ∧ (s.s_rovers i).fd = fd) ∨ s.HoldsBeside i fd := by
  constructor
  · rintro ⟨j, hj⟩
    by_cases hji : j = i
    · exact .inl (hji ▸ hj)
    · exact .inr ⟨j, hji, hj⟩
  · rintro (hi | ⟨j, _, hj⟩)
    · exact ⟨i, hi⟩
    · exact ⟨j, hj⟩

theorem Server.holds_of_update {s s' : Server} {i : Fin MAX_ROVERS} {rover : rover_conn_t}
    (hrovers : s'.s_rovers = Function.update s.s_rovers i rover) (fd : Int) :
    s'.holds fd ↔ (rover.state ≠ .ROVER_EMPTY ∧ rover.fd = fd) ∨ s.HoldsBeside i fd := by
  have hbeside : s'.HoldsBeside i fd ↔ s.HoldsBeside i fd := by
    refine exists_congr fun j => and_congr_right fun hj => ?_
    rw [hrovers, Function.update_of_ne hj]
  rw [s'.holds_iff i fd, hbeside, hrovers, Function.update_self]

section

variable {s s' : Server} {calls : List FdCall}

/-- A descriptor that is not open is held by no slot. -/
theorem Server.OwnSockets.not_holds (hown : s.OwnSockets) {new_fd : Int}
    (hclosed : (s.sockets new_fd).isOpen = false) : ¬ s.holds new_fd := by
  rintro ⟨i, hused, hfd⟩
  exact hown.fd_ne hused hclosed hfd

/-- What a slot holds no other slot holds. -/
theorem Server.OwnSockets.not_holdsBeside (hown : s.OwnSockets) {i : Fin MAX_ROVERS}
    (hused : (s.s_rovers i).state ≠ .ROVER_EMPTY) : ¬ s.HoldsBeside i (s.s_rovers i).fd := by
  rintro ⟨j, hji, hj, hfd⟩
  exact hown.distinct j i hji hj hused hfd

/-- The calls of `accept` and `close` about one descriptor. -/
def callsAbout (fd : Int) (calls : List FdCall) : List FdCall :=
  calls.filter fun call => call.fd = fd

/-- Every time a descriptor was accepted it was closed once, but for the last
time if a slot still holds it. -/
def Accounted (s : Server) (calls : List FdCall) : Prop :=
  ∀ fd, Turns (.accept fd) (.close fd) (s.holds fd) (callsAbout fd calls)

theorem Accounted.quiet (haccounted : Accounted s calls)
    (hholds : ∀ fd, s'.holds fd ↔ s.holds fd) : Accounted s' (calls ++ []) := by
  intro fd
  rw [List.append_nil]
  exact (haccounted fd).congr (hholds fd)

theorem Accounted.accepted {new_fd : Int} (haccounted : Accounted s calls)
    (hfree : ¬ s.holds new_fd) (hnew : s'.holds new_fd)
    (hholds : ∀ fd, fd ≠ new_fd → (s'.holds fd ↔ s.holds fd)) :
    Accounted s' (calls ++ [.accept new_fd]) := by
  intro fd
  have hturns := haccounted fd
  by_cases hfd : fd = new_fd
  · subst hfd
    simpa [callsAbout, FdCall.fd] using hturns.acquired hfree hnew
  · simpa [callsAbout, FdCall.fd, Ne.symm hfd] using hturns.congr (hholds fd hfd)

theorem Accounted.closed {old_fd : Int} (haccounted : Accounted s calls)
    (hheld : s.holds old_fd) (hgone : ¬ s'.holds old_fd)
    (hholds : ∀ fd, fd ≠ old_fd → (s'.holds fd ↔ s.holds fd)) :
    Accounted s' (calls ++ [.close old_fd]) := by
  intro fd
  have hturns := haccounted fd
  by_cases hfd : fd = old_fd
  · subst hfd
    simpa [callsAbout, FdCall.fd] using hturns.released hheld hgone
  · simpa [callsAbout, FdCall.fd, Ne.symm hfd] using hturns.congr (hholds fd hfd)

/-- A client that is turned away is closed in the same pass. -/
theorem Accounted.busy {new_fd : Int} (haccounted : Accounted s calls)
    (hfree : ¬ s.holds new_fd) (hholds : ∀ fd, s'.holds fd ↔ s.holds fd) :
    Accounted s' (calls ++ [FdCall.accept new_fd, FdCall.close new_fd]) := by
  intro fd
  have hturns := haccounted fd
  by_cases hfd : fd = new_fd
  · subst hfd
    have hgone : ¬ s'.holds fd := fun hheld => hfree ((hholds fd).mp hheld)
    have hheld : Turns (FdCall.accept fd) (.close fd) True (callsAbout fd calls ++ [FdCall.accept fd]) :=
      hturns.acquired hfree trivial
    simpa [callsAbout, FdCall.fd] using hheld.released trivial hgone
  · simpa [callsAbout, FdCall.fd, Ne.symm hfd] using hturns.congr (hholds fd)

/-- A pass over a slot that gives up the descriptor closes it. -/
theorem Accounted.pass (haccounted : Accounted s calls) (hown : s.OwnSockets)
    {i : Fin MAX_ROVERS} {c : RoverSlot} {made : List FdCall}
    (hcloses : Closes (s.slot i) c made)
    (hrovers : s'.s_rovers = Function.update s.s_rovers i c.rover) :
    Accounted s' (calls ++ made) := by
  have hafter := Server.holds_of_update hrovers
  cases hcloses with
  | same hfd hstate =>
    apply haccounted.quiet
    intro fd
    simp only [Server.slot] at hfd hstate
    rw [hafter, s.holds_iff i, hfd, ne_eq, ne_eq, hstate]
  | closed hfd hstate =>
    have hgone : ∀ fd, s'.holds fd ↔ s.HoldsBeside i fd := by
      intro fd
      rw [hafter]
      simp [hstate]
    by_cases hused : (s.s_rovers i).state = .ROVER_EMPTY
    · have hnone : closeRoverCalls (s.slot i) = [] := by
        simp [closeRoverCalls, Server.slot, hown.empty i hused]
      rw [hnone]
      apply haccounted.quiet
      intro fd
      rw [hgone, s.holds_iff i]
      simp [hused]
    · have hclose : closeRoverCalls (s.slot i) = [.close (s.s_rovers i).fd] :=
        if_pos (hown.used i hused).1
      rw [hclose]
      apply haccounted.closed
      · exact ⟨i, hused, rfl⟩
      · rw [hgone]
        exact hown.not_holdsBeside hused
      · intro fd hne
        rw [hgone, s.holds_iff i]
        simp [Ne.symm hne]

/-- Every step of the server keeps the account. -/
theorem Accounted.step (haccounted : Accounted s calls) (hown : s.OwnSockets)
    {made : List FdCall} (hstep : CallsStep s s' made) : Accounted s' (calls ++ made) := by
  cases hstep with
  | quiet hrovers =>
    apply haccounted.quiet
    intro fd
    rw [Server.holds, Server.holds, hrovers]
  | @accepted i new_fd hclosed hempty hrovers =>
    have hafter := Server.holds_of_update hrovers
    have hfree := hown.not_holds hclosed
    apply haccounted.accepted hfree
    · exact (hafter new_fd).mpr (.inl ⟨by simp [acceptRover], rfl⟩)
    · intro fd hne
      rw [hafter, s.holds_iff i]
      simp [acceptRover, hempty, Ne.symm hne]
  | busy hclosed hrovers =>
    apply haccounted.busy (hown.not_holds hclosed)
    intro fd
    rw [Server.holds, Server.holds, hrovers]
  | pass hcloses hrovers => exact haccounted.pass hown hcloses hrovers

end

/-- During the handshake `recv` has room in `rx_buf` for a byte and for the
terminator. -/
def ReceiveRoom (c : RoverSlot) : Prop :=
  c.rover.state = .ROVER_HANDSHAKE →
    c.rover.rx_buf.length = ROVER_REQ_BUF_SIZE ∧ c.rover.rx_pos ≤ 510

section

variable {s_cfg : caster_config_t} {mbedtls_base64_decode : List UInt8 → Option (List UInt8)}

theorem receive_room_invariant :
    SlotInvariant s_cfg mbedtls_base64_decode fun _ c => ReceiveRoom c where
  free _ hroom := hroom
  accept _ _ _ := ⟨List.length_replicate, Nat.zero_le _⟩
  service := by
    intro offered c c' received results hroom hservice
    cases serviceRover_cases hservice with
    | same => exact hroom
    | @request c' bytes hstate hbytes hrequest =>
      obtain ⟨hbuf, hpos⟩ := hroom hstate
      cases hrequest with
      | more hshort =>
        intro _
        simp only [RoverSlot.storeRequest, ROVER_REQ_BUF_SIZE] at hbuf hbytes hshort ⊢
        refine ⟨?_, by omega⟩
        simp only [List.length_append, List.length_take, List.length_cons, List.length_drop]
        omega
      | closed =>
        intro hhandshake
        simp [close_rover] at hhandshake
      | accepted =>
        intro hhandshake
        simp [RoverSlot.startStreaming] at hhandshake
    | drain => exact hroom
    | closed =>
      intro hhandshake
      simp [close_rover] at hhandshake
  forward := by
    intro offered c c' frame results hroom hforward
    cases forwardToRover_sent hforward with
    | same hrover hsock =>
      obtain ⟨buf, len, pos, hrover⟩ := hrover
      intro hhandshake
      rw [hrover] at hhandshake ⊢
      exact hroom hhandshake
    | closed hfd hstate =>
      intro hhandshake
      rw [hstate] at hhandshake
      cases hhandshake

theorem own_sockets_reach {s_rovers : Fin MAX_ROVERS → rover_conn_t} {sockets : Int → Socket}
    {s : Server} (hblank : ∀ i, (s_rovers i).Blank)
    (hreach : Reach (serverStep s_cfg mbedtls_base64_decode) Anywhere
      (listening s_rovers sockets) s) : s.OwnSockets :=
  hreach.invariant (listening_own_sockets hblank) fun _ _ _ hown _ hstep =>
    own_socketsStep hown hstep

/-- In every state of every run of `task_ntrip_server`, and so at the head of
each of its loops: a slot is empty just if it has no descriptor, and no two
slots have the same; in a handshake `recv` is asked for at least one byte, its
terminator lies in `rx_buf`, and `tx_pending` is empty; what `tx_pending` holds
lies inside it; and every descriptor that was accepted is held by a slot or was
closed, once for each time it was accepted. -/
theorem rover_slots_well_formed {s_rovers : Fin MAX_ROVERS → rover_conn_t}
    {sockets : Int → Socket} {t : Traced Server FdCall} (hblank : ∀ i, (s_rovers i).Blank)
    (hreach : Reach (traced (serverStep s_cfg mbedtls_base64_decode)
        (serverCalls s_cfg mbedtls_base64_decode))
      Anywhere ⟨listening s_rovers sockets, []⟩ t) :
    (∀ i, (t.state.s_rovers i).state = .ROVER_EMPTY ↔ (t.state.s_rovers i).fd = -1) ∧
    (∀ i j, i ≠ j → (t.state.s_rovers i).fd ≠ -1 →
      (t.state.s_rovers i).fd ≠ (t.state.s_rovers j).fd) ∧
    (∀ i, (t.state.s_rovers i).state = .ROVER_HANDSHAKE →
      (t.state.s_rovers i).rx_pos ≤ 510 ∧
        1 ≤ ROVER_REQ_BUF_SIZE - (t.state.s_rovers i).rx_pos - 1 ∧
        (∀ n ≤ ROVER_REQ_BUF_SIZE - (t.state.s_rovers i).rx_pos - 1,
          (t.state.s_rovers i).rx_pos + n < (t.state.s_rovers i).rx_buf.length) ∧
        (t.state.s_rovers i).tx_pending_len = 0 ∧ (t.state.s_rovers i).tx_pending_pos = 0) ∧
    (∀ i, (t.state.s_rovers i).tx_pending_pos ≤ (t.state.s_rovers i).tx_pending_len ∧
      (t.state.s_rovers i).tx_pending_len ≤ MAX_RTCM_FRAME) ∧
    Accounted t.state t.calls := by
  have hserver := reach_of_traced hreach
  have hown := own_sockets_reach hblank hserver
  have haligned : ∀ i, FrameAligned (t.state.offered i) (t.state.slot i) :=
    frame_aligned_reach hblank hserver
  have hroom : ∀ i, ReceiveRoom (t.state.slot i) := by
    apply receive_room_invariant.reach hblank _ hserver
    intro rover sock hrover hhandshake
    simp [hrover.state] at hhandshake
  have hempty : ∀ i, (t.state.s_rovers i).state = .ROVER_EMPTY ↔ (t.state.s_rovers i).fd = -1 := by
    refine fun i => ⟨hown.empty i, fun hfd => ?_⟩
    by_contra hused
    have hnonneg := (hown.used i hused).1
    omega
  refine ⟨hempty, fun i j hij hfd heq => ?_, fun i hstate => ?_, fun i => ?_, ?_⟩
  · have hi : (t.state.s_rovers i).state ≠ .ROVER_EMPTY := fun h => hfd ((hempty i).mp h)
    have hj : (t.state.s_rovers j).state ≠ .ROVER_EMPTY := by
      intro h
      rw [(hempty j).mp h] at heq
      exact hfd heq
    exact hown.distinct i j hij hi hj heq
  · obtain ⟨hbuf, hpos⟩ := hroom i hstate
    have hpending := (haligned i).pos_le
    have hidle := (haligned i).idle (by simp [Server.slot, hstate])
    simp only [Server.slot] at hbuf hpos hpending hidle
    simp only [ROVER_REQ_BUF_SIZE] at hbuf ⊢
    exact ⟨hpos, by omega, fun n hn => by omega, hidle, by omega⟩
  · exact ⟨(haligned i).pos_le, (haligned i).len_le⟩
  · apply traced_invariant hreach (fun s hs => own_sockets_reach hblank hs)
    · intro fd
      apply Turns.nil
      rintro ⟨i, hused, _⟩
      exact hused (hblank i).state
    · intro s calls a s' hown haccounted hstep
      exact haccounted.step hown (serverStep_calls hstep)

end

/-- A rover comes and goes, and the next one gets its descriptor. -/
def reuseRun : List ServerAction :=
  List.flatten [[.accept 5 []], List.replicate 4 .notReady,
    [.queueEmpty, .noClient, .service .closed [], .notReady, .notReady, .notReady,
      .queueEmpty, .accept 5 []]]

theorem rover_slots_well_formed_of_reuse :
    ∃ t, runs (traced (serverStep openCaster fun _ => none)
          (serverCalls openCaster fun _ => none)) Anywhere
        ⟨listening (fun _ => blankRover) fun _ => ⟨false, [], [], 0⟩, []⟩ reuseRun = some t ∧
      t.calls = [.accept 5, .close 5, .accept 5] ∧ Accounted t.state t.calls ∧
      (t.state.s_rovers 0).rx_pos ≤ 510 := by
  have hrun : (runs (traced (serverStep openCaster fun _ => none)
        (serverCalls openCaster fun _ => none)) Anywhere
      ⟨listening (fun _ => blankRover) fun _ => ⟨false, [], [], 0⟩, []⟩ reuseRun).map
      (fun t => ((t.state.s_rovers 0).state, t.calls)) =
        some (.ROVER_HANDSHAKE, [.accept 5, .close 5, .accept 5]) := by
    decide +kernel
  obtain ⟨t, ht, hshape⟩ := Option.map_eq_some_iff.mp hrun
  simp only [Prod.mk.injEq] at hshape
  obtain ⟨hstate, hcalls⟩ := hshape
  obtain ⟨_, _, hhandshake, _, haccounted⟩ :=
    rover_slots_well_formed (fun _ => blankRover_blank) (Reach.refl.runs ht)
  exact ⟨t, ht, hcalls, haccounted, (hhandshake 0 hstate).1⟩

end rtkbase.ntrip_caster
