import RTKBase.NtripCaster.SendBound
import RTKBase.NtripClient.UplinkRun

namespace rtkbase.ntrip_client

open lib.lts frame_pool gnss_uart ntrip_caster

/-- The steps that are left until the frame in hand is released, at most. -/
def UplinkPhase.left : UplinkPhase → Nat
  | .sending f ptr retries => callsLeft NTRIP_SEND_RETRY_LIMIT f.data.length ptr retries + 1
  | .release _ => 1
  | _ => 0

/-- In the sending loop something is left to send, and `retries` is within its
limit. -/
def UplinkPhase.Sending : UplinkPhase → Prop
  | .sending f ptr retries => ptr < f.data.length ∧ retries ≤ NTRIP_SEND_RETRY_LIMIT
  | _ => True

theorem sendingLoop_sending (f : QueuedFrame) (ptr : Nat) : (sendingLoop f ptr).Sending := by
  unfold sendingLoop
  split
  case isTrue hmore => exact ⟨hmore, Nat.zero_le _⟩
  case isFalse => trivial

variable {s s' : Uplink} {a : UplinkAction}

theorem uplinkStep_sending (hsending : s.phase.Sending) (hstep : uplinkStep s a = some s') :
    s'.phase.Sending := by
  cases uplinkStep_cases hstep with
  | notConnected hphase => simp [hphase, UplinkPhase.Sending]
  | dequeued hphase => exact sendingLoop_sending _ _
  | sending hphase hsend =>
    rw [hphase] at hsending
    cases sendStep_cases hsend with
    | sent => exact sendingLoop_sending _ _
    | again hretry => exact ⟨hsending.1, hretry⟩
    | failed => trivial
  | released =>
    simp only
    split <;> trivial
  | _ => trivial

theorem uplink_sending (hreach : Reach uplinkStep Anywhere uplinkStart s) : s.phase.Sending :=
  hreach.invariant (P := fun s => s.phase.Sending) trivial fun _ _ _ hsending _ hstep =>
    uplinkStep_sending hsending hstep

theorem sendingLoop_left {f : QueuedFrame} {ptr retries n : Nat}
    (hsending : (UplinkPhase.sending f ptr retries).Sending) (hsome : n ≠ 0)
    (hroom : n ≤ f.data.length - ptr) :
    (sendingLoop f (ptr + n)).left + 1 ≤ (UplinkPhase.sending f ptr retries).left := by
  have hless := callsLeft_sent hsending.2 hsome hroom
  unfold sendingLoop
  split
  · simp only [UplinkPhase.left]
    omega
  · simp only [UplinkPhase.left]
    omega

/-- With a frame in hand each step leaves fewer to do, whatever the socket
answers. -/
theorem uplinkStep_left (hsending : s.phase.Sending) (hheld : s.phase.held ≠ [])
    (hstep : uplinkStep s a = some s') :
    s'.phase.held = [] ∨ s'.phase.left + 1 ≤ s.phase.left := by
  cases uplinkStep_cases hstep with
  | @sending f ptr retries result s' hphase hsend =>
    rw [hphase] at hsending ⊢
    right
    cases sendStep_cases hsend with
    | sent hsome hroom => exact sendingLoop_left hsending hsome hroom
    | again hretry =>
      have hless := callsLeft_again hsending.1 hretry
      simp only [UplinkPhase.left]
      omega
    | failed =>
      have hless : callsLeft NTRIP_SEND_RETRY_LIMIT f.data.length (ptr + 1) 0 + 1 ≤
          callsLeft NTRIP_SEND_RETRY_LIMIT f.data.length ptr retries :=
        callsLeft_sent hsending.2 Nat.one_ne_zero (Nat.sub_pos_of_lt hsending.1)
      simp only [UplinkPhase.left]
      omega
  | released hphase =>
    left
    simp only
    split <;> rfl
  | notConnected hphase => simp [hphase, UplinkPhase.held] at hheld
  | connected hphase => simp [hphase, UplinkPhase.held] at hheld
  | queueEmpty hphase => simp [hphase, UplinkPhase.held] at hheld
  | dequeued hphase => simp [hphase, UplinkPhase.held] at hheld
  | peeked hphase => simp [hphase, UplinkPhase.held] at hheld
  | lost hphase => simp [hphase, UplinkPhase.held] at hheld

/-- The steps that a frame can cost an uplink, at most: each byte refused twenty
times, and the release. -/
def uplinkHoldSteps : Nat := MAX_RTCM_FRAME * (NTRIP_SEND_RETRY_LIMIT + 1) + 1

theorem UplinkPhase.left_le {phase : UplinkPhase}
    (hshort : ∀ f ∈ phase.held, f.data.length ≤ MAX_RTCM_FRAME) :
    phase.left ≤ uplinkHoldSteps := by
  unfold uplinkHoldSteps
  cases phase with
  | sending f ptr retries =>
    have hlength : f.data.length ≤ MAX_RTCM_FRAME := hshort f (List.mem_singleton_self f)
    have hbytes : (f.data.length - ptr) * (NTRIP_SEND_RETRY_LIMIT + 1) ≤
        MAX_RTCM_FRAME * (NTRIP_SEND_RETRY_LIMIT + 1) := Nat.mul_le_mul_right _ (by omega)
    simp only [left, callsLeft]
    omega
  | release f => exact Nat.le_add_left _ _
  | _ => exact Nat.zero_le _

end rtkbase.ntrip_client
