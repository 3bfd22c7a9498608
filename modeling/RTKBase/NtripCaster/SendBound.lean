import RTKBase.NtripCaster.FrameAlignment

namespace rtkbase.ntrip_caster

open lib.lts frame_pool gnss_uart

/-- As far as the loop gets, `send` never returned more than it was asked to
send. The numbers are the offset and `retries`. -/
def Fits (limit len : Nat) : List SendResult → Nat → Nat → Prop
  | [], _, _ => True
  | .sent n :: rest, offset, _ =>
    offset < len → n ≤ len - offset ∧ (n ≠ 0 → Fits limit len rest (offset + n) 0)
  | .again :: rest, offset, retries =>
    offset < len → retries < limit → Fits limit len rest offset (retries + 1)
  | .error :: _, _, _ => True

/-- The calls of `send` that the loop has left, at most: each byte may be refused
`limit` times before it goes out. -/
def callsLeft (limit len offset retries : Nat) : Nat := (len - offset) * (limit + 1) - retries

theorem callsLeft_again {limit len offset retries : Nat} (hoffset : offset < len)
    (hretries : retries < limit) :
    callsLeft limit len offset (retries + 1) + 1 = callsLeft limit len offset retries := by
  have hbyte : 1 * (limit + 1) ≤ (len - offset) * (limit + 1) :=
    Nat.mul_le_mul_right _ (by omega)
  unfold callsLeft
  omega

theorem callsLeft_sent {limit len offset retries n : Nat} (hretries : retries ≤ limit)
    (hsome : n ≠ 0) (hroom : n ≤ len - offset) :
    callsLeft limit len (offset + n) 0 + 1 ≤ callsLeft limit len offset retries := by
  have hsplit : (len - offset) * (limit + 1) =
      (len - (offset + n)) * (limit + 1) + n * (limit + 1) := by
    rw [← Nat.add_mul]
    congr 1
    omega
  have hbyte : 1 * (limit + 1) ≤ n * (limit + 1) := Nat.mul_le_mul_right _ (by omega)
  unfold callsLeft
  omega

/-- The loop ends with so many outcomes of `send`, whatever they are, and what it
does not use is left over. -/
theorem sendLoop_returns {limit len : Nat} {results : List SendResult} {offset retries : Nat}
    (hfits : Fits limit len results offset retries) (hretries : retries ≤ limit)
    (hmany : callsLeft limit len offset retries ≤ results.length) :
    ∃ result stop rest, sendLoop limit len results offset retries = some (result, stop, rest) ∧
      results.length ≤ rest.length + callsLeft limit len offset retries := by
  induction results generalizing offset retries with
  | nil =>
    unfold sendLoop
    split
    case isTrue hmore =>
      have hbyte : 1 * (limit + 1) ≤ (len - offset) * (limit + 1) :=
        Nat.mul_le_mul_right _ (by omega)
      simp only [callsLeft, List.length_nil] at hmany
      omega
    case isFalse => exact ⟨_, _, _, rfl, Nat.zero_le _⟩
  | cons first rest ih =>
    unfold sendLoop
    split
    case isFalse => exact ⟨_, _, _, rfl, Nat.le_add_right _ _⟩
    case isTrue hmore =>
      have hbyte : 1 * (limit + 1) ≤ (len - offset) * (limit + 1) :=
        Nat.mul_le_mul_right _ (by omega)
      have hone : 1 ≤ callsLeft limit len offset retries := by
        unfold callsLeft
        omega
      rw [List.length_cons] at hmany ⊢
      cases first with
      | sent n =>
        obtain ⟨hroom, hrest⟩ := hfits hmore
        simp only
        split
        case isTrue => exact ⟨_, _, _, rfl, by omega⟩
        case isFalse hsome =>
          have hless := callsLeft_sent hretries hsome hroom
          obtain ⟨result, stop, left, hloop, hused⟩ :=
            ih (hrest hsome) (Nat.zero_le _) (by omega)
          exact ⟨result, stop, left, hloop, by omega⟩
      | again =>
        simp only
        split
        case isTrue hretry =>
          have hless := callsLeft_again hmore hretry
          obtain ⟨result, stop, left, hloop, hused⟩ := ih (hfits hmore hretry) hretry (by omega)
          exact ⟨result, stop, left, hloop, by omega⟩
        case isFalse => exact ⟨_, _, _, rfl, by omega⟩
      | error => exact ⟨_, _, _, rfl, by omega⟩

/-- The same for the two loops of `send_frame_to_rover`, of which the second goes
on with the calls that the first has left over. -/
structure FrameFits (c : RoverSlot) (frame : RtcmFrame) (results : List SendResult) : Prop where
  pending : Fits ROVER_STREAM_SEND_RETRIES c.rover.tx_pending_len results
    c.rover.tx_pending_pos 0
  frame : ∀ c' rest, flush_rover_pending c results = some (true, c', rest) →
    Fits ROVER_STREAM_SEND_RETRIES frame.data.length rest 0 0

/-- A socket that takes nothing never returns too much. -/
theorem fits_again (limit len n offset retries : Nat) :
    Fits limit len (List.replicate n .again) offset retries := by
  induction n generalizing retries with
  | zero => trivial
  | succ n ih => exact fun _ _ => ih (retries + 1)

theorem frame_fits_again {c : RoverSlot} (hnone : c.rover.tx_pending_len ≤ c.rover.tx_pending_pos)
    (frame : RtcmFrame) (n : Nat) : FrameFits c frame (List.replicate n .again) where
  pending := fits_again ..
  frame c' rest hflush := by
    rw [flush_rover_pending, if_pos hnone] at hflush
    cases hflush
    exact fits_again ..

/-- The calls of `send` that one rover can cost the caster for one frame, at most:
a pending tail and the frame itself, each byte refused five times. -/
def frameSendCalls : Nat := 2 * (MAX_RTCM_FRAME * (ROVER_STREAM_SEND_RETRIES + 1))

theorem send_bytes_to_rover_returns (c : RoverSlot) (data : List UInt8) {len offset : Nat}
    {results : List SendResult} (hfits : Fits ROVER_STREAM_SEND_RETRIES len results offset 0)
    (hmany : callsLeft ROVER_STREAM_SEND_RETRIES len offset 0 ≤ results.length) :
    ∃ result c' stop rest, send_bytes_to_rover c data len offset results =
        some (result, c', stop, rest) ∧
      results.length ≤ rest.length + callsLeft ROVER_STREAM_SEND_RETRIES len offset 0 := by
  obtain ⟨result, stop, rest, hloop, hused⟩ := sendLoop_returns hfits (Nat.zero_le _) hmany
  unfold send_bytes_to_rover
  rw [hloop]
  cases result <;> exact ⟨_, _, _, _, rfl, hused⟩

theorem flush_rover_pending_returns {c : RoverSlot} {results : List SendResult}
    (hfits : Fits ROVER_STREAM_SEND_RETRIES c.rover.tx_pending_len results
      c.rover.tx_pending_pos 0)
    (hmany : callsLeft ROVER_STREAM_SEND_RETRIES c.rover.tx_pending_len
      c.rover.tx_pending_pos 0 ≤ results.length) :
    ∃ ok c' rest, flush_rover_pending c results = some (ok, c', rest) ∧
      results.length ≤ rest.length + callsLeft ROVER_STREAM_SEND_RETRIES
        c.rover.tx_pending_len c.rover.tx_pending_pos 0 := by
  unfold flush_rover_pending
  split
  case isTrue => exact ⟨_, _, _, rfl, Nat.le_add_right _ _⟩
  case isFalse =>
    obtain ⟨result, c', stop, rest, hsend, hused⟩ :=
      send_bytes_to_rover_returns c c.rover.tx_pending hfits hmany
    rw [hsend]
    cases result <;> exact ⟨_, _, _, rfl, hused⟩

theorem send_frame_to_rover_returns {c : RoverSlot} {frame : RtcmFrame}
    {results : List SendResult} (hpending : c.rover.tx_pending_len ≤ MAX_RTCM_FRAME)
    (hfits : FrameFits c frame results) (hmany : frameSendCalls ≤ results.length) :
    ∃ ok c', send_frame_to_rover c frame results = some (ok, c') := by
  have htail : callsLeft ROVER_STREAM_SEND_RETRIES c.rover.tx_pending_len
      c.rover.tx_pending_pos 0 ≤ MAX_RTCM_FRAME * (ROVER_STREAM_SEND_RETRIES + 1) := by
    unfold callsLeft
    exact (Nat.sub_le _ _).trans (Nat.mul_le_mul_right _ (by omega))
  have hwhole : callsLeft ROVER_STREAM_SEND_RETRIES frame.data.length 0 0 ≤
      MAX_RTCM_FRAME * (ROVER_STREAM_SEND_RETRIES + 1) := by
    unfold callsLeft
    exact (Nat.sub_le _ _).trans (Nat.mul_le_mul_right _ frame.len_le)
  unfold frameSendCalls at hmany
  obtain ⟨ok, c', rest, hflush, hused⟩ :=
    flush_rover_pending_returns hfits.pending (by omega)
  unfold send_frame_to_rover
  rw [hflush]
  cases ok with
  | false => exact ⟨_, _, rfl⟩
  | true =>
    obtain ⟨result, c'', stop, left, hsend, _⟩ :=
      send_bytes_to_rover_returns c' frame.data (hfits.frame c' rest hflush) (by omega)
    simp only [hsend]
    cases result with
    | finished => exact ⟨_, _, rfl⟩
    | failed => exact ⟨_, _, rfl⟩
    | blocked =>
      simp only
      split
      · exact ⟨_, _, rfl⟩
      · split <;> exact ⟨_, _, rfl⟩

end rtkbase.ntrip_caster
