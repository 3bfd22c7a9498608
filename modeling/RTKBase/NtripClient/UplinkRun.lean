import RTKBase.Lib.Lts
import RTKBase.NtripClient.Uplink

namespace rtkbase.ntrip_client

open lib.lts lib.session frame_pool ntrip_caster

/-- What the connection was sent: while a frame is going out, that frame up to
`ptr` behind the frames before it; otherwise all the frames taken up. -/
def UplinkPhase.Current (phase : UplinkPhase) (c : Session QueuedFrame UInt8) : Prop :=
  match phase with
  | .sending f ptr _ => c.At QueuedFrame.data f ptr ∧ ptr < f.data.length
  | _ => c.Whole QueuedFrame.data

structure Uplink.Valid (s : Uplink) : Prop where
  connecting : s.phase = .connect → s.sock < 0
  connected : s.phase ≠ .connect → (∀ f, s.phase ≠ .release f) → 0 ≤ s.sock
  closed : ∀ c ∈ s.closed, c.Sound QueuedFrame.data
  current : 0 ≤ s.sock → s.phase.Current s.current
  dequeued : s.connections.flatMap (·.taken) = s.dequeued
  released : s.released ++ s.phase.held.map (·.f) = s.dequeued.map (·.f)

theorem UplinkPhase.Current.sound {phase : UplinkPhase} {c : Session QueuedFrame UInt8}
    (hcurrent : phase.Current c) : c.Sound QueuedFrame.data := by
  unfold UplinkPhase.Current at hcurrent
  split at hcurrent
  case h_1 => exact hcurrent.1.sound
  case h_2 => exact hcurrent.sound

theorem sendingLoop_held (f : QueuedFrame) (ptr : Nat) : (sendingLoop f ptr).held = [f] := by
  unfold sendingLoop
  split <;> rfl

theorem sendingLoop_current {f : QueuedFrame} {ptr : Nat} {c : Session QueuedFrame UInt8}
    (hat : c.At QueuedFrame.data f ptr) : (sendingLoop f ptr).Current c := by
  unfold sendingLoop
  split
  case isTrue hmore => exact ⟨hat, hmore⟩
  case isFalse hdone => exact hat.whole (Nat.le_of_not_lt hdone)

theorem sendingLoop_ne_connect (f : QueuedFrame) (ptr : Nat) : sendingLoop f ptr ≠ .connect := by
  unfold sendingLoop
  split <;> simp

section

variable {s : Uplink}

theorem Uplink.connections_of_connected (hsock : 0 ≤ s.sock) :
    s.connections = s.closed ++ [s.current] := by
  rw [Uplink.connections, if_pos hsock]

/-- A step that keeps the socket, the connections and the frame in hand. -/
theorem Uplink.Valid.move (hvalid : s.Valid) (hsock : 0 ≤ s.sock) {phase : UplinkPhase}
    (hphase : phase ≠ .connect) (hheld : phase.held = s.phase.held)
    (hcurrent : phase.Current s.current) : Uplink.Valid { s with phase := phase } where
  connecting heq := absurd heq hphase
  connected _ _ := hsock
  closed := hvalid.closed
  current _ := hcurrent
  dequeued := hvalid.dequeued
  released := by
    change s.released ++ phase.held.map (·.f) = _
    rw [hheld]
    exact hvalid.released

/-- However the socket is closed, the connection keeps what it was sent. -/
theorem Uplink.Valid.close (hvalid : s.Valid) (hsock : 0 ≤ s.sock) {phase : UplinkPhase}
    (hphase : phase = .connect ∨ ∃ f, phase = .release f) (hheld : phase.held = s.phase.held) :
    Uplink.Valid { uplink_close_socket s with phase := phase } := by
  have hclose : uplink_close_socket s = { s with sock := -1, closed := s.closed ++ [s.current] } :=
    if_neg (Int.not_lt.mpr hsock)
  rw [hclose]
  refine ⟨fun _ => by simp, fun hne hrelease => ?_, fun c hc => ?_, fun hopen => ?_, ?_, ?_⟩
  · obtain hconnect | ⟨f, hf⟩ := hphase
    · exact absurd hconnect hne
    · exact absurd hf (hrelease f)
  · obtain hc | hc := List.mem_append.mp hc
    · exact hvalid.closed c hc
    · obtain rfl := List.mem_singleton.mp hc
      exact (hvalid.current hsock).sound
  · simp at hopen
  · rw [← hvalid.dequeued, Uplink.connections_of_connected hsock]
    simp [Uplink.connections]
  · change s.released ++ phase.held.map (·.f) = _
    rw [hheld]
    exact hvalid.released

theorem Uplink.Valid.connect (hvalid : s.Valid) (hphase : s.phase = .connect) {sock : Int}
    (hsock : 0 ≤ sock) (delay : Nat) :
    Uplink.Valid { s with
      sock := sock, reconnect_delay_ms := delay, phase := .receive, current := .fresh } := by
  have hnone : s.connections = s.closed := by
    have hclosed := hvalid.connecting hphase
    rw [Uplink.connections, if_neg (by omega), List.append_nil]
  have hdequeued := hvalid.dequeued
  have hreleased := hvalid.released
  rw [hnone] at hdequeued
  rw [hphase] at hreleased
  refine ⟨by simp, fun _ _ => hsock, hvalid.closed, fun _ => Session.fresh_whole, ?_, hreleased⟩
  simp [Uplink.connections, hsock, Session.fresh, hdequeued]

theorem Uplink.Valid.takeFrame (hvalid : s.Valid) (hphase : s.phase = .receive)
    (f : QueuedFrame) : (s.takeFrame f).Valid := by
  have hsock := hvalid.connected (by simp [hphase]) (by simp [hphase])
  have hwhole : s.current.Whole QueuedFrame.data := by
    have hcurrent := hvalid.current hsock
    rwa [hphase] at hcurrent
  have hdequeued := hvalid.dequeued
  have hreleased := hvalid.released
  rw [Uplink.connections_of_connected hsock] at hdequeued
  rw [hphase] at hreleased
  refine ⟨fun heq => absurd heq (sendingLoop_ne_connect f 0), fun _ _ => hsock, hvalid.closed,
    fun _ => sendingLoop_current (hwhole.take f), ?_, ?_⟩
  · simp only [Uplink.connections, Uplink.takeFrame, if_pos hsock, ← hdequeued]
    simp [Session.take]
  · simp only [Uplink.takeFrame, sendingLoop_held, List.map_append, ← hreleased]
    simp [UplinkPhase.held]

theorem Uplink.Valid.sendStep {s' : Uplink} {f : QueuedFrame} {ptr retries : Nat}
    {result : SendResult} (hvalid : s.Valid) (hphase : s.phase = .sending f ptr retries)
    (hstep : s.sendStep f ptr retries result = some s') : s'.Valid := by
  have hsock := hvalid.connected (by simp [hphase]) (by simp [hphase])
  obtain ⟨hat, hmore⟩ : s.current.At QueuedFrame.data f ptr ∧ ptr < f.data.length := by
    have hcurrent := hvalid.current hsock
    rwa [hphase] at hcurrent
  have hheld : s.phase.held = [f] := by rw [hphase]; rfl
  cases sendStep_cases hstep with
  | @sent n =>
    have hdequeued := hvalid.dequeued
    rw [Uplink.connections_of_connected hsock] at hdequeued
    refine ⟨fun heq => absurd heq (sendingLoop_ne_connect f _), fun _ _ => hsock,
      hvalid.closed, fun _ => sendingLoop_current (hat.send n), ?_, ?_⟩
    · simpa [Uplink.connections, hsock, Session.send] using hdequeued
    · have hreleased := hvalid.released
      rw [hheld] at hreleased
      simpa only [sendingLoop_held] using hreleased
  | again => exact hvalid.move hsock (by simp) hheld.symm ⟨hat, hmore⟩
  | failed => exact hvalid.close hsock (.inr ⟨f, rfl⟩) hheld.symm

theorem Uplink.Valid.release (hvalid : s.Valid) {f : QueuedFrame} (hphase : s.phase = .release f) :
    Uplink.Valid { s with
      phase := if 0 ≤ s.sock then .peek else .connect
      released := s.released ++ [f.f] } := by
  have hreleased := hvalid.released
  rw [hphase] at hreleased
  have hwhole : 0 ≤ s.sock → s.current.Whole QueuedFrame.data := by
    intro hsock
    have hcurrent := hvalid.current hsock
    rwa [hphase] at hcurrent
  refine ⟨fun heq => ?_, fun hne _ => ?_, hvalid.closed, fun hsock => ?_, hvalid.dequeued, ?_⟩
  · by_cases hsock : 0 ≤ s.sock
    · simp [hsock] at heq
    · exact Int.not_le.mp hsock
  · by_cases hsock : 0 ≤ s.sock
    · exact hsock
    · simp [hsock] at hne
  · rw [if_pos hsock]
    exact hwhole hsock
  · have hnone : UplinkPhase.held (if 0 ≤ s.sock then .peek else .connect) = [] := by
      split <;> rfl
    change s.released ++ [f.f] ++
      (UplinkPhase.held (if 0 ≤ s.sock then .peek else .connect)).map (·.f) = _
    rw [hnone]
    simpa [UplinkPhase.held] using hreleased

theorem uplinkStep_valid {s' : Uplink} {a : UplinkAction} (hvalid : s.Valid)
    (hstep : uplinkStep s a = some s') : s'.Valid := by
  have hlooping : ∀ {phase : UplinkPhase}, s.phase = phase → phase ≠ .connect →
      (∀ f, phase ≠ .release f) → 0 ≤ s.sock ∧ phase.Current s.current := by
    rintro phase rfl hne hrelease
    have hsock := hvalid.connected hne hrelease
    exact ⟨hsock, hvalid.current hsock⟩
  cases uplinkStep_cases hstep with
  | notConnected =>
    exact ⟨hvalid.connecting, hvalid.connected, hvalid.closed, hvalid.current, hvalid.dequeued,
      hvalid.released⟩
  | connected hphase hmade => exact hvalid.connect hphase hmade _
  | queueEmpty hphase =>
    obtain ⟨hsock, hcurrent⟩ := hlooping hphase (by simp) (by simp)
    exact hvalid.move hsock (by simp) (by rw [hphase]; rfl) hcurrent
  | @dequeued f hphase => exact hvalid.takeFrame hphase f
  | sending hphase hsend => exact hvalid.sendStep hphase hsend
  | released hphase => exact hvalid.release hphase
  | peeked hphase =>
    obtain ⟨hsock, hcurrent⟩ := hlooping hphase (by simp) (by simp)
    exact hvalid.move hsock (by simp) (by rw [hphase]; rfl) hcurrent
  | lost hphase =>
    obtain ⟨hsock, _⟩ := hlooping hphase (by simp) (by simp)
    exact hvalid.close hsock (.inl rfl) (by rw [hphase]; rfl)

end

theorem uplinkStart_valid : uplinkStart.Valid where
  connecting _ := by simp [uplinkStart]
  connected hne := absurd rfl hne
  closed := by simp [uplinkStart]
  current := by simp [uplinkStart]
  dequeued := rfl
  released := rfl

theorem uplink_valid {s : Uplink} (hreach : Reach uplinkStep Anywhere uplinkStart s) : s.Valid :=
  hreach.invariant uplinkStart_valid fun _ _ _ hvalid _ hstep => uplinkStep_valid hvalid hstep

theorem uplink_close_socket_closed (s : Uplink) : s.closed <+: (uplink_close_socket s).closed := by
  unfold uplink_close_socket
  split
  · exact List.prefix_refl _
  · exact List.prefix_append _ _

theorem uplinkStep_closed {s s' : Uplink} {a : UplinkAction}
    (hstep : uplinkStep s a = some s') : s.closed <+: s'.closed := by
  have hclose := uplink_close_socket_closed s
  cases uplinkStep_cases hstep with
  | sending _ hsend =>
    cases sendStep_cases hsend with
    | failed => exact hclose
    | _ => exact List.prefix_refl _
  | lost => exact hclose
  | _ => exact List.prefix_refl _

/-- In every run of `task_ntrip_uplink`: each connection was sent whole frames,
in order, and then at most the beginning of one more; outside of the sending
loop an open connection was sent whole frames only; what a closed connection
was sent does not change any more; the frames taken off the queue went, each
once and in order, to one connection after the other; and each was released
once, but for the one in hand. -/
theorem uplink_frame_aligned {s : Uplink} (hreach : Reach uplinkStep Anywhere uplinkStart s) :
    (∀ c ∈ s.connections, c.Sound QueuedFrame.data) ∧
      (0 ≤ s.sock → (∀ f ptr retries, s.phase ≠ .sending f ptr retries) →
        s.current.Whole QueuedFrame.data) ∧
      (∀ s', Reach uplinkStep Anywhere s s' → s.closed <+: s'.closed) ∧
      s.connections.flatMap (·.taken) = s.dequeued ∧
      s.released ++ s.phase.held.map (·.f) = s.dequeued.map (·.f) := by
  have hvalid := uplink_valid hreach
  refine ⟨fun c hc => ?_, fun hsock hphase => ?_, fun s' hreach' => ?_, hvalid.dequeued,
    hvalid.released⟩
  · obtain hc | hc := List.mem_append.mp hc
    · exact hvalid.closed c hc
    · split at hc
      case isTrue hsock =>
        obtain rfl := List.mem_singleton.mp hc
        exact (hvalid.current hsock).sound
      case isFalse => cases hc
  · have hcurrent := hvalid.current hsock
    unfold UplinkPhase.Current at hcurrent
    split at hcurrent
    case h_1 f ptr retries heq => exact absurd heq (hphase f ptr retries)
    case h_2 => exact hcurrent
  · apply hreach'.invariant
    · exact List.prefix_refl _
    · intro s₁ a s₂ hbefore _ hstep
      exact hbefore.trans (uplinkStep_closed hstep)

def firstFrame : QueuedFrame := ⟨0, [0xD3, 0x00, 0x01, 0x00, 0x0A, 0x18, 0x8D]⟩

def secondFrame : QueuedFrame := ⟨1, [0xD3, 0x00, 0x02, 0x01, 0x02, 0x03, 0x04, 0x05]⟩

/-- The second frame breaks off after three bytes, and the third goes out on the
next connection. -/
def brokenOffRun : List UplinkAction :=
  [.ntrip_connect (-1), .ntrip_connect 5, .xQueueReceive (some firstFrame), .send .again,
    .send (.sent 4), .send (.sent 3), .pool_release, .recv .again, .xQueueReceive (some secondFrame),
    .send (.sent 3), .send .error, .pool_release, .ntrip_connect 5, .xQueueReceive (some firstFrame),
    .send (.sent 7), .pool_release]

theorem uplink_frame_aligned_of_broken_off :
    ∃ s, runs uplinkStep Anywhere uplinkStart brokenOffRun = some s ∧
      s.connections.map (·.sent) =
        [firstFrame.data ++ secondFrame.data.take 3, firstFrame.data] ∧
      (∀ c ∈ s.connections, c.Sound QueuedFrame.data) ∧
      s.released ++ s.phase.held.map (·.f) = s.dequeued.map (·.f) := by
  have hrun : (runs uplinkStep Anywhere uplinkStart brokenOffRun).map
      (fun s => s.connections.map (·.sent)) =
        some [firstFrame.data ++ secondFrame.data.take 3, firstFrame.data] := by
    decide +kernel
  obtain ⟨s, hs, hsent⟩ := Option.map_eq_some_iff.mp hrun
  obtain ⟨hsound, _, _, _, hreleased⟩ := uplink_frame_aligned (Reach.refl.runs hs)
  exact ⟨s, hs, hsent, hsound, hreleased⟩

end rtkbase.ntrip_client
