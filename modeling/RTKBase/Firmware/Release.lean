import RTKBase.Firmware.Progress
import RTKBase.NtripClient.SendBound

namespace rtkbase.firmware

open lib.lts frame_pool gnss_uart
open ntrip_caster (caster_config_t rover_conn_t Socket SendResult serverStep ServerPhase FrameFits
  frameSendCalls frame_aligned_reach send_frame_to_rover_returns forwardToRover openCaster)
open ntrip_client (uplinkHoldSteps uplink_sending uplinkStep_left)

/-- The steps of the task that works on the frames of `k`. -/
def FirmwareAction.consumes (k : Destination) : FirmwareAction → Bool
  | .task_ntrip_uplink i _ => k = .uplink i
  | .task_ntrip_server _ => k = .caster
  | _ => false

/-- The steps of the caster's task that are left until it has released its frame:
one for each rover still to be served, and the release. -/
def casterLeft : ServerPhase → Nat
  | .sending _ i => ntrip_caster.MAX_ROVERS - i.val + 1
  | .forward => 1
  | _ => 0

/-- The steps that a frame costs the caster's task, at most. -/
def casterHoldSteps : Nat := ntrip_caster.MAX_ROVERS + 1

/-- The steps that a frame costs the consumer, at most. -/
def holdSteps : Destination → Nat
  | .uplink _ => uplinkHoldSteps
  | .caster => casterHoldSteps

section Steps

variable {s_cfg : caster_config_t} {mbedtls_base64_decode : List UInt8 → Option (List UInt8)}
  {s s' : Firmware}

theorem uplinkAlone_frame {i : Fin NTRIP_UPLINK_COUNT} {a : ntrip_client.UplinkAction}
    (hstep : s.uplinkAlone i a = some s') :
    ∃ u, ntrip_client.uplinkStep (s.uplinks i) a = some u ∧ s' = s.setUplink i u := by
  obtain ⟨u, hu, rfl⟩ := Option.map_eq_some_iff.mp hstep
  exact ⟨u, hu, rfl⟩

/-- A step of an uplink's task is a step of its own model, and moves that uplink
alone. -/
theorem uplinkStep_frame {i : Fin NTRIP_UPLINK_COUNT} {call : UplinkCall}
    (hreread : reread s.pipeline.s_pool (s.uplinks i) = s.uplinks i)
    (hstep : s.uplinkStep i call = some s') :
    ∃ a u, ntrip_client.uplinkStep (s.uplinks i) a = some u ∧
      s'.uplinks = Function.update s.uplinks i u ∧ s'.caster = s.caster := by
  cases call with
  | ntrip_connect result =>
    obtain ⟨u, hu, rfl⟩ := uplinkAlone_frame hstep
    exact ⟨_, u, hu, rfl, rfl⟩
  | xQueueReceive =>
    simp only [Firmware.uplinkStep] at hstep
    split at hstep
    case h_1 =>
      obtain ⟨u, hu, rfl⟩ := uplinkAlone_frame hstep
      exact ⟨_, u, hu, rfl, rfl⟩
    case h_2 =>
      split at hstep
      case h_1 => cases hstep
      case h_2 =>
        obtain ⟨u, hu, rfl⟩ := uplinkAlone_frame hstep
        exact ⟨_, u, hu, rfl, rfl⟩
  | send result =>
    obtain ⟨u, hu, rfl⟩ := Option.map_eq_some_iff.mp hstep
    rw [hreread] at hu
    exact ⟨_, u, hu, rfl, rfl⟩
  | pool_release =>
    simp only [Firmware.uplinkStep] at hstep
    split at hstep
    case h_1 => cases hstep
    case h_2 =>
      obtain ⟨u, hu, rfl⟩ := uplinkAlone_frame hstep
      exact ⟨_, u, hu, rfl, rfl⟩
  | recv result =>
    obtain ⟨u, hu, rfl⟩ := uplinkAlone_frame hstep
    exact ⟨_, u, hu, rfl, rfl⟩

theorem casterAlone_uplinks {a : ntrip_caster.ServerAction}
    (hstep : s.casterAlone s_cfg mbedtls_base64_decode a = some s') :
    s'.uplinks = s.uplinks ∧ serverStep s_cfg mbedtls_base64_decode s.caster a = some s'.caster := by
  obtain ⟨c, hc, rfl⟩ := Option.map_eq_some_iff.mp hstep
  exact ⟨rfl, hc⟩

theorem casterStep_uplinks {call : CasterCall}
    (hstep : s.casterStep s_cfg mbedtls_base64_decode call = some s') : s'.uplinks = s.uplinks := by
  cases call with
  | xQueueReceive =>
    simp only [Firmware.casterStep] at hstep
    split at hstep
    case h_1 => cases hstep
    case h_2 => exact (casterAlone_uplinks hstep).1
    case h_3 =>
      split at hstep
      case h_1 => exact (casterAlone_uplinks hstep).1
      case h_2 => cases hstep
  | send results =>
    simp only [Firmware.casterStep] at hstep
    split at hstep
    case h_1 =>
      split at hstep
      case h_1 => cases hstep
      case h_2 => exact (casterAlone_uplinks hstep).1
    case h_2 => cases hstep
  | pool_release =>
    simp only [Firmware.casterStep] at hstep
    split at hstep
    case h_1 =>
      obtain ⟨p, _, rfl⟩ := Option.map_eq_some_iff.mp hstep
      rfl
    case h_2 => cases hstep
  | _ => exact (casterAlone_uplinks hstep).1

/-- The reader's side moves no consumer. -/
theorem readerStep_consumers {a : LoopAction} (hstep : s.readerStep a = some s') :
    s'.uplinks = s.uplinks ∧ s'.caster = s.caster := by
  unfold Firmware.readerStep at hstep
  split at hstep
  case h_1 =>
    split at hstep
    case h_1 => cases hstep
    case h_2 =>
      split at hstep
      case h_1 =>
        cases hstep
        exact ⟨rfl, rfl⟩
      case h_2 =>
        obtain ⟨tcp, _, rfl⟩ := Option.map_eq_some_iff.mp hstep
        exact ⟨rfl, rfl⟩
      case h_3 =>
        split at hstep
        case h_1 => cases hstep
        case h_2 =>
          obtain ⟨pipeline, _, rfl⟩ := Option.map_eq_some_iff.mp hstep
          exact ⟨rfl, rfl⟩
  case h_2 => cases hstep

theorem tcpAlone_consumers {a : tcp_server.TcpAction} (hstep : s.tcpAlone a = some s') :
    s'.uplinks = s.uplinks ∧ s'.caster = s.caster := by
  obtain ⟨tcp, _, rfl⟩ := Option.map_eq_some_iff.mp hstep
  exact ⟨rfl, rfl⟩

/-- Steps of other tasks leave a consumer where it is. -/
theorem consumers_of_other {a : FirmwareAction} {k : Destination}
    (hreread : ∀ j, reread s.pipeline.s_pool (s.uplinks j) = s.uplinks j)
    (ha : a.consumes k = false)
    (hstep : firmwareStep s_cfg mbedtls_base64_decode s a = some s') :
    (∀ i, k = .uplink i → s'.uplinks i = s.uplinks i) ∧
      (k = .caster → s'.caster = s.caster) := by
  have hboth : s'.uplinks = s.uplinks ∧ s'.caster = s.caster →
      (∀ i, k = .uplink i → s'.uplinks i = s.uplinks i) ∧
        (k = .caster → s'.caster = s.caster) := by
    rintro ⟨huplinks, hcaster⟩
    exact ⟨fun i _ => by rw [huplinks], fun _ => hcaster⟩
  cases a with
  | task_gnss_reader a => exact hboth (readerStep_consumers hstep)
  | posting => exact hboth (tcpAlone_consumers hstep)
  | publishStep =>
    obtain ⟨pipeline, _, rfl⟩ := Option.map_eq_some_iff.mp hstep
    exact hboth ⟨rfl, rfl⟩
  | task_tcp_server a => exact hboth (tcpAlone_consumers hstep)
  | tcp_server_disconnect_client => exact hboth (tcpAlone_consumers hstep)
  | request i => exact hboth (tcpAlone_consumers hstep)
  | task_ntrip_uplink j call =>
    simp only [firmwareStep] at hstep
    split at hstep
    case isTrue =>
      obtain ⟨_, u, _, huplinks, hcaster⟩ := uplinkStep_frame (hreread j) hstep
      refine ⟨?_, fun _ => hcaster⟩
      rintro i rfl
      have hi : i ≠ j := by
        rintro rfl
        simp [FirmwareAction.consumes] at ha
      rw [huplinks, Function.update_of_ne hi]
    case isFalse => cases hstep
  | task_ntrip_server call =>
    simp only [firmwareStep] at hstep
    split at hstep
    case isTrue =>
      refine ⟨fun i _ => by rw [casterStep_uplinks hstep], ?_⟩
      rintro rfl
      simp [FirmwareAction.consumes] at ha
    case isFalse => cases hstep

/-- The pass over one rover. -/
theorem send_left {c c' : ntrip_caster.Server} {frame : RtcmFrame}
    {i : Fin ntrip_caster.MAX_ROVERS} {results : List SendResult}
    (hphase : c.phase = .sending frame i)
    (hstep : serverStep s_cfg mbedtls_base64_decode c (.send results) = some c') :
    casterLeft c'.phase + 1 ≤ casterLeft c.phase := by
  simp only [serverStep, hphase] at hstep
  split at hstep
  case h_1 => cases hstep
  case h_2 =>
    cases hstep
    have hi := i.isLt
    unfold ntrip_caster.Server.afterSend
    split
    case isTrue hmore =>
      simp only [hphase, casterLeft]
      omega
    case isFalse hlast =>
      simp only [hphase, casterLeft]
      omega

/-- With a frame in its hands each step of the caster's task leaves fewer to do,
and the last one is the release. -/
theorem casterStep_left {active : Destination → Bool} (hknown : Known active s)
    (hcoupled : Coupled s) (hheld : s.pipeline.held .caster ≠ none) {call : CasterCall}
    (hstep : s.casterStep s_cfg mbedtls_base64_decode call = some s') :
    s'.pipeline.held .caster = none ∨ casterLeft s'.caster.phase + 1 ≤ casterLeft s.caster.phase := by
  have hholds := hcoupled.caster.held
  have hbusy : (∃ frame i, s.caster.phase = .sending frame i) ∨ s.caster.phase = .forward := by
    cases hphase : s.caster.phase with
    | sending frame i => exact .inl ⟨frame, i, rfl⟩
    | forward => exact .inr rfl
    | _ =>
      rw [hphase] at hholds
      exact absurd hholds hheld
  have hrefused : ∀ a, s.casterAlone s_cfg mbedtls_base64_decode a = some s' →
      FramelessCaster a → a ≠ .queueEmpty → False := by
    intro a halone ha hne
    have hc := (casterAlone_uplinks halone).2
    obtain ⟨frame, i, hphase⟩ | hphase := hbusy <;>
      cases a <;> simp_all [serverStep, FramelessCaster]
  cases call with
  | noClient => exact (hrefused _ hstep trivial (by simp)).elim
  | accept => exact (hrefused _ hstep trivial (by simp)).elim
  | notReady => exact (hrefused _ hstep trivial (by simp)).elim
  | service => exact (hrefused _ hstep trivial (by simp)).elim
  | xQueueReceive =>
    obtain ⟨f, hf⟩ := Option.ne_none_iff_exists'.mp hheld
    simp [Firmware.casterStep, hf] at hstep
  | send results =>
    right
    simp only [Firmware.casterStep] at hstep
    split at hstep
    case h_1 old i f hphase hslot =>
      split at hstep
      case h_1 => cases hstep
      case h_2 frame hframe =>
        have hc := (casterAlone_uplinks hstep).2
        rw [hcoupled.caster_reread hknown hphase hslot (frameOf_some hframe)] at hc
        exact send_left hphase hc
    case h_2 => cases hstep
  | pool_release =>
    left
    simp only [Firmware.casterStep] at hstep
    split at hstep
    case h_1 =>
      obtain ⟨p, hrelease, rfl⟩ := Option.map_eq_some_iff.mp hstep
      obtain ⟨f, _, rfl⟩ := consumerRelease_cases hrelease
      exact Function.update_self Destination.caster none s.pipeline.held
    case h_2 => cases hstep

end Steps

/-- The steps that the consumer of `k` has left until it releases its frame. -/
def Firmware.consumerLeft (s : Firmware) : Destination → Nat
  | .uplink i => (s.uplinks i).phase.left
  | .caster => casterLeft s.caster.phase

section Runs

variable {s_cfg : caster_config_t} {mbedtls_base64_decode : List UInt8 → Option (List UInt8)}
  {s₀ : splitter_t UInt8} {s_pool : Pool} {active running : Destination → Bool}
  {s_rovers : Fin ntrip_caster.MAX_ROVERS → rover_conn_t} {sockets : Int → Socket} {s : Firmware}
  (hreach : Reach (firmwareStep s_cfg mbedtls_base64_decode) Anywhere
    (firmwareStart s₀ s_pool active running s_rovers sockets) s)

include hreach

/-- Of the frame pool an uplink holds just what its task works on. -/
theorem uplink_held_iff (i : Fin NTRIP_UPLINK_COUNT) :
    s.pipeline.held (.uplink i) = none ↔ (s.uplinks i).phase.held = [] := by
  have hheld := ((firmware_coupled hreach).uplinks i).held
  rw [← Option.toList_eq_nil_iff, hheld, List.map_eq_nil_iff]

theorem consumer_step_left {a : FirmwareAction} {s' : Firmware} (k : Destination)
    (hheld : s.pipeline.held k ≠ none)
    (hstep : firmwareStep s_cfg mbedtls_base64_decode s a = some s') :
    s'.pipeline.held k = none ∨
      s'.consumerLeft k + (if a.consumes k then 1 else 0) ≤ s.consumerLeft k := by
  have hknown := firmware_known hreach
  have hcoupled := firmware_coupled hreach
  have hreread := fun j => hcoupled.uplink_slot hknown j
  cases ha : a.consumes k with
  | false =>
    obtain ⟨huplinks, hcaster⟩ := consumers_of_other hreread ha hstep
    right
    cases k with
    | uplink i => simp [Firmware.consumerLeft, huplinks i rfl]
    | caster => simp [Firmware.consumerLeft, hcaster rfl]
  | true =>
    cases a with
    | task_ntrip_uplink i call =>
      obtain rfl : k = .uplink i := by simpa [FirmwareAction.consumes] using ha
      have hreach' := hreach.next trivial hstep
      simp only [firmwareStep] at hstep
      split at hstep
      case isTrue =>
        obtain ⟨b, u, hu, huplinks, _⟩ := uplinkStep_frame (hreread i) hstep
        have hbusy := mt (uplink_held_iff hreach i).mpr hheld
        have hmoved : s'.uplinks i = u := by rw [huplinks, Function.update_self]
        obtain hdone | hless := uplinkStep_left (uplink_sending (firmware_uplink hreach i)) hbusy hu
        · left
          rw [uplink_held_iff hreach', hmoved]
          exact hdone
        · right
          simpa [Firmware.consumerLeft, hmoved] using hless
      case isFalse => cases hstep
    | task_ntrip_server call =>
      obtain rfl : k = .caster := by simpa [FirmwareAction.consumes] using ha
      simp only [firmwareStep] at hstep
      split at hstep
      case isTrue =>
        simpa [Firmware.consumerLeft] using casterStep_left hknown hcoupled hheld hstep
      case isFalse => cases hstep
    | _ => simp [FirmwareAction.consumes] at ha

theorem consumerLeft_zero {k : Destination} (hzero : s.consumerLeft k = 0) :
    s.pipeline.held k = none := by
  cases k with
  | uplink i =>
    rw [uplink_held_iff hreach]
    simp only [Firmware.consumerLeft] at hzero
    cases hphase : (s.uplinks i).phase <;>
      simp_all [ntrip_client.UplinkPhase.left, ntrip_client.UplinkPhase.held]
  | caster =>
    have hholds := (firmware_coupled hreach).caster.held
    simp only [Firmware.consumerLeft] at hzero
    cases hphase : s.caster.phase <;> simp_all [casterLeft, Holds]

theorem consumerLeft_le (k : Destination) : s.consumerLeft k ≤ holdSteps k := by
  have hknown := firmware_known hreach
  have hcoupled := firmware_coupled hreach
  cases k with
  | uplink i =>
    apply ntrip_client.UplinkPhase.left_le
    intro f hf
    rw [← (hcoupled.uplinks i).slot_bytes (hknown.delivering.held _) hf, pool_frame_t.bytes,
      List.length_take]
    have hsize := (s.pipeline.s_pool f.f).data.size_toArray
    simp only [Vector.length_toList]
    omega
  | caster =>
    simp only [Firmware.consumerLeft, holdSteps, casterHoldSteps]
    cases s.caster.phase <;> simp only [casterLeft] <;> omega

end Runs

/-- No consumer keeps a frame of the pool for ever. After `holdSteps` steps of its
own task it has released the frame on the way, whatever the other tasks do and
whatever the socket answers: an uplink whose caster takes nothing gives up the
connection, and a rover that takes nothing is passed over. A pass over a rover
needs no more than `frameSendCalls` calls of `send`, so that it always ends. -/
theorem held_frames_released {s_cfg : caster_config_t}
    {mbedtls_base64_decode : List UInt8 → Option (List UInt8)} {s₀ : splitter_t UInt8}
    {s_pool : Pool} {active running : Destination → Bool}
    {s_rovers : Fin ntrip_caster.MAX_ROVERS → rover_conn_t} {sockets : Int → Socket} {s : Firmware}
    (hblank : ∀ i, (s_rovers i).Blank)
    (hreach : Reach (firmwareStep s_cfg mbedtls_base64_decode) Anywhere
      (firmwareStart s₀ s_pool active running s_rovers sockets) s) :
    (∀ k actions s', runs (firmwareStep s_cfg mbedtls_base64_decode) Anywhere s actions = some s' →
      holdSteps k ≤ actions.countP (·.consumes k) →
      Passes (firmwareStep s_cfg mbedtls_base64_decode) (fun s => s.pipeline.held k = none) s
        actions) ∧
      ∀ frame i results, s.caster.phase = .sending frame i → s.pipeline.task .caster = true →
        FrameFits (s.caster.slot i) frame results → frameSendCalls ≤ results.length →
        s.Can s_cfg mbedtls_base64_decode (.task_ntrip_server (.send results)) := by
  refine ⟨fun k actions s' hruns hmany => ?_, fun frame i results hphase htask hfits hmany => ?_⟩
  · refine passes_within (·.consumes k) (Reach (firmwareStep s_cfg mbedtls_base64_decode) Anywhere
      (firmwareStart s₀ s_pool active running s_rovers sockets)) (·.consumerLeft k) ?_ ?_ hreach
      hruns ((consumerLeft_le hreach k).trans hmany)
    · intro s a s' hs hheld hstep
      exact ⟨hs.next trivial hstep, consumer_step_left hs k hheld hstep⟩
    · intro s hs hzero
      exact consumerLeft_zero hs hzero
  · apply casterSend_unhindered hreach htask
    have haligned := frame_aligned_reach hblank (firmware_caster hreach) i
    obtain ⟨ok, c, hframe⟩ := send_frame_to_rover_returns haligned.len_le hfits hmany
    have hforward : (forwardToRover (s.caster.slot i) frame results).isSome := by
      unfold forwardToRover
      split
      · simp [hframe]
      · rfl
    obtain ⟨c', hc'⟩ := Option.isSome_iff_exists.mp hforward
    simp [serverStep, hphase, hc']

/-- The slot that the caster's pass begins with. -/
def firstRover : Fin ntrip_caster.MAX_ROVERS := ⟨0, Nat.zero_lt_succ _⟩

/-- With all its steps left, the caster is at the beginning of a pass. -/
theorem sending_first_of_left {phase : ServerPhase} (hleft : casterLeft phase = casterHoldSteps) :
    ∃ frame, phase = .sending frame firstRover := by
  cases phase with
  | sending frame i =>
    have hi : i = firstRover := by
      apply Fin.ext
      simp only [casterLeft, casterHoldSteps] at hleft
      have hlt := i.isLt
      simp only [firstRover]
      omega
    exact ⟨frame, by rw [hi]⟩
  | accept | service | forward => cases hleft

/-- The caster goes on to the other slots, which are empty, and releases the frame
while the uplink's socket blocks. -/
def releaseRun : List FirmwareAction :=
  [.task_ntrip_server (.send []), .task_ntrip_uplink uplink0 (.send .again),
    .task_ntrip_server (.send []), .task_ntrip_server (.send []),
    .task_ntrip_uplink uplink0 (.send .again), .task_ntrip_server .pool_release,
    .task_ntrip_server .xQueueReceive]

/-- Before the last step of the delivery the caster is about to send the frame to a rover;
its pass over the rover ends also when the socket takes nothing at all. -/
theorem held_frames_released_of_delivery :
    (∃ s s', delivered = some s ∧
      runs (firmwareStep openCaster fun _ => none) Anywhere s releaseRun = some s' ∧
      Passes (firmwareStep openCaster fun _ => none) (fun s => s.pipeline.held .caster = none) s
        releaseRun) ∧
    ∃ (s : Firmware) (frame : RtcmFrame) (i : Fin ntrip_caster.MAX_ROVERS),
      s.caster.phase = .sending frame i ∧ (s.caster.s_rovers i).state = .ROVER_STREAMING ∧
      s.Can openCaster (fun _ => none)
        (.task_ntrip_server (.send (List.replicate frameSendCalls .again))) := by
  constructor
  · have hrun : delivered.map (fun s =>
        (runs (firmwareStep openCaster fun _ => none) Anywhere s releaseRun).isSome) =
          some true := by
      decide +kernel
    obtain ⟨s, hs, hsome⟩ := Option.map_eq_some_iff.mp hrun
    obtain ⟨s', hs'⟩ := Option.isSome_iff_exists.mp hsome
    exact ⟨s, s', hs, hs', (held_frames_released (fun _ => ntrip_caster.blankRover_blank)
      (Reach.refl.runs hs)).1 .caster releaseRun s' hs' (by decide)⟩
  · have hrun : (runs (firmwareStep openCaster fun _ => none) Anywhere
        (firmwareStart (zeroedSplitter 0) zeroedPool (fun _ => true) (fun _ => true)
          (fun _ => ntrip_caster.blankRover) fun _ => ⟨false, [], [], 0⟩)
        deliveryRun.dropLast).map (fun s => (s.pipeline.task .caster, casterLeft s.caster.phase,
          (s.caster.s_rovers firstRover).state,
          (s.caster.slot firstRover).rover.tx_pending_len)) =
          some (true, casterHoldSteps, .ROVER_STREAMING, 0) := by
      decide +kernel
    obtain ⟨s, hs, heq⟩ := Option.map_eq_some_iff.mp hrun
    obtain ⟨htask, heq⟩ := Prod.mk.inj heq
    obtain ⟨hleft, heq⟩ := Prod.mk.inj heq
    obtain ⟨hstate, hnone⟩ := Prod.mk.inj heq
    obtain ⟨frame, hphase⟩ := sending_first_of_left hleft
    have hpass := (held_frames_released (fun _ => ntrip_caster.blankRover_blank)
      (Reach.refl.runs hs)).2
    refine ⟨s, frame, firstRover, hphase, hstate, hpass frame firstRover _ hphase htask
      (ntrip_caster.frame_fits_again (by omega) frame _) ?_⟩
    rw [List.length_replicate]

end rtkbase.firmware
