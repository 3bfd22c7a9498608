import RTKBase.Lib.Replay
import RTKBase.GnssUart.Reference

open lib.scan

namespace rtkbase.gnss_uart

variable {β : Type}

/-- The bytes of the frame being collected. -/
def splitter_t.candidate (s : splitter_t β) : List β := s.buf.toList.take s.buf_pos

@[simp] theorem splitter_init_candidate (s : splitter_t β) : (splitter_init s).candidate = [] := by
  simp [splitter_init, splitter_t.candidate]

theorem splitter_t.candidate_length {s : splitter_t β} (hpos : s.buf_pos ≤ MAX_RTCM_FRAME) :
    s.candidate.length = s.buf_pos := by
  simp [splitter_t.candidate, Nat.min_eq_left hpos]

@[simp] theorem splitter_t.store_buf_pos (s : splitter_t β) (b : β) :
    (s.store b).buf_pos = s.buf_pos + 1 := rfl

/-- Storing the next byte extends the candidate by it. -/
theorem splitter_t.store_candidate (s : splitter_t β) (b : β) (hpos : s.buf_pos < MAX_RTCM_FRAME) :
    (s.store b).candidate = s.candidate ++ [b] := by
  have hlength : s.buf_pos < s.buf.toList.length := by simpa using hpos
  simp only [splitter_t.store, splitter_t.candidate, Vector.toList_setIfInBounds]
  rw [List.take_add_one, List.take_set_of_le (Nat.le_refl _), List.getElem?_set_self hlength]
  rfl

variable [Octet β]

/-- The splitter between two bytes. In the header states the first byte is
0xD3; in the body state the lengths are those of the collected header. -/
def splitter_t.Valid (s : splitter_t β) : Prop :=
  match s.state with
  | .STATE_HUNT => s.buf_pos = 0
  | .STATE_RTCM_HDR => (s.buf_pos = 1 ∨ s.buf_pos = 2) ∧ s.bytes.getD 0 0 = 0xD3
  | .STATE_RTCM_BODY =>
    3 ≤ s.buf_pos ∧ s.buf_pos < s.rtcm_total_len ∧ s.bytes.getD 0 0 = 0xD3 ∧
      s.rtcm_payload_len = rtcmLen (s.bytes.getD 1 0) (s.bytes.getD 2 0) ∧
      1 ≤ s.rtcm_payload_len ∧ s.rtcm_payload_len ≤ 1023 ∧
      s.rtcm_total_len = 3 + s.rtcm_payload_len + 3

theorem splitter_init_valid (s : splitter_t β) : (splitter_init s).Valid := by
  simp [splitter_init, splitter_t.Valid]

theorem splitter_t.Valid.buf_pos_lt {s : splitter_t β} (hvalid : s.Valid) :
    s.buf_pos < MAX_RTCM_FRAME := by
  unfold splitter_t.Valid at hvalid
  unfold MAX_RTCM_FRAME
  split at hvalid <;> omega

/-- The bytes of the candidate are the first ones of `buf`. -/
theorem splitter_t.bytes_take (s : splitter_t β) (n : Nat) (hn : n ≤ s.buf_pos) :
    (s.candidate.map Octet.byte).take n = s.bytes.take n := by
  simp [splitter_t.candidate, splitter_t.bytes, List.map_take, List.take_take, Nat.min_eq_left hn]

theorem splitter_t.bytes_getD (s : splitter_t β) {i : Nat} (hi : i < s.buf_pos) :
    (s.candidate.map Octet.byte).getD i 0 = s.bytes.getD i 0 := by
  simp only [List.getD_eq_getElem?_getD, splitter_t.candidate, splitter_t.bytes, List.getElem?_map,
    List.getElem?_take_of_lt hi]

/-- Earlier bytes stay as they are when the next one is stored. -/
theorem splitter_t.store_getD (s : splitter_t β) (b : β) {i : Nat} (hi : i < s.buf_pos) :
    (s.store b).bytes.getD i 0 = s.bytes.getD i 0 := by
  simp only [splitter_t.store, splitter_t.bytes, Vector.toList_setIfInBounds,
    List.getD_eq_getElem?_getD, List.getElem?_map, List.getElem?_set_ne (Nat.ne_of_gt hi)]

theorem splitter_t.store_getD_self (s : splitter_t β) (b : β) (hpos : s.buf_pos < MAX_RTCM_FRAME) :
    (s.store b).bytes.getD s.buf_pos 0 = Octet.byte b := by
  have hlength : s.buf_pos < s.buf.toList.length := by simpa using hpos
  simp only [splitter_t.store, splitter_t.bytes, Vector.toList_setIfInBounds,
    List.getD_eq_getElem?_getD, List.getElem?_map, List.getElem?_set_self hlength]
  rfl

/-- What a byte does to a valid splitter, told by the recognizer: the frame is
published, the candidate kept, or left in `buf` for the caller to replay. -/
def PushSpec (outcome : Outcome β) (result : Int × splitter_t β × List (Event β)) : Prop :=
  pushed result.2.2 = [] ∧
  match outcome with
  | .keep candidate =>
    result.1 = -1 ∧ result.2.1.Valid ∧ result.2.1.candidate = candidate ∧ published result.2.2 = []
  | .frame candidate =>
    result.1 = -1 ∧ result.2.1.Valid ∧ result.2.1.candidate = [] ∧
      published result.2.2 = [candidate]
  | .rejected candidate =>
    result.1 = 1 ∧ result.2.1.candidate = candidate ∧ result.2.1.buf_pos = candidate.length ∧
      published result.2.2 = []

section Push

variable {s : splitter_t β} {b : β}

theorem splitter_push_byte_hunt (hstate : s.state = .STATE_HUNT) (hvalid : s.Valid) :
    PushSpec (collect (rtcm β) s.candidate b) (splitter_push_byte s b) := by
  have hpos : s.buf_pos = 0 := by simpa [splitter_t.Valid, hstate] using hvalid
  have hcandidate : s.candidate = [] := by simp [splitter_t.candidate, hpos]
  have hstore : { s with buf := s.buf.setIfInBounds 0 b, buf_pos := 1, state := .STATE_RTCM_HDR } =
      { s.store b with state := .STATE_RTCM_HDR } := by simp [splitter_t.store, hpos]
  by_cases hstart : Octet.byte b = 0xD3
  · have hcollect : collect (rtcm β) [] b = .keep [b] := by
      simp [collect, rtcm, hstart, rtcmJudge]
    have hmax : s.buf_pos < MAX_RTCM_FRAME := by simp [hpos, MAX_RTCM_FRAME]
    have hfirst := s.store_getD_self b hmax
    have hextend := s.store_candidate b hmax
    rw [hpos, hstart] at hfirst
    rw [hcandidate] at hextend
    simp only [splitter_push_byte, hstate, splitterHunt, hstart, if_true, hcandidate, hcollect,
      hstore]
    refine ⟨rfl, rfl, ?_, hextend, rfl⟩
    simp only [splitter_t.Valid, splitter_t.store_buf_pos, hpos]
    exact ⟨by simp, hfirst⟩
  · have hbeq : (Octet.byte b == 0xD3) = false := by simpa using hstart
    have hcollect : collect (rtcm β) [] b = .keep [] := by
      simp [collect, rtcm, hbeq]
    simp only [splitter_push_byte, hstate, splitterHunt, hstart, if_false, hcandidate, hcollect]
    exact ⟨rfl, rfl, hvalid, hcandidate, rfl⟩

/-- A candidate with its first byte collected is judged as a whole. -/
theorem collect_of_start {pending : List β} (hstart : pending ≠ []) :
    collect (rtcm β) pending b =
      match rtcmJudge (pending ++ [b]) with
      | .incomplete => .keep (pending ++ [b])
      | .accept _ => .frame (pending ++ [b])
      | .reject _ => .rejected (pending ++ [b]) := by
  cases pending with
  | nil => exact absurd rfl hstart
  | cons d rest => rfl

theorem splitter_push_byte_of_hdr (hstate : s.state = .STATE_RTCM_HDR) :
    splitter_push_byte s b =
      if s.buf_pos + 1 = 3 then
        if rtcmLen ((s.store b).bytes.getD 1 0) ((s.store b).bytes.getD 2 0) = 0 ∨
            rtcmLen ((s.store b).bytes.getD 1 0) ((s.store b).bytes.getD 2 0) > 1023 then
          (1, s.store b,
            [.log_rtcm_bad_len (rtcmLen ((s.store b).bytes.getD 1 0) ((s.store b).bytes.getD 2 0))])
        else
          (-1, { s.store b with
                  rtcm_payload_len := rtcmLen ((s.store b).bytes.getD 1 0) ((s.store b).bytes.getD 2 0)
                  rtcm_total_len :=
                    3 + rtcmLen ((s.store b).bytes.getD 1 0) ((s.store b).bytes.getD 2 0) + 3
                  state := .STATE_RTCM_BODY }, [])
      else (-1, s.store b, []) := by
  unfold splitter_push_byte
  rw [hstate]
  rfl

theorem splitter_push_byte_of_body (hstate : s.state = .STATE_RTCM_BODY)
    (hmax : s.buf_pos < MAX_RTCM_FRAME) :
    splitter_push_byte s b =
      if s.buf_pos + 1 = s.rtcm_total_len then
        if rtcmCrcOk (s.store b).bytes s.rtcm_total_len then
          (-1, splitter_init (s.store b),
            [.publish_rtcm_frame ((s.store b).buf.toList.take s.rtcm_total_len)])
        else (1, s.store b, [.log_rtcm_crc_fail])
      else (-1, s.store b, []) := by
  unfold splitter_push_byte
  rw [hstate]
  exact if_neg (Nat.not_le_of_lt hmax)

theorem splitter_push_byte_hdr (hstate : s.state = .STATE_RTCM_HDR) (hvalid : s.Valid) :
    PushSpec (collect (rtcm β) s.candidate b) (splitter_push_byte s b) := by
  simp only [splitter_t.Valid, hstate] at hvalid
  obtain ⟨hpos, hstart⟩ := hvalid
  have hmax : s.buf_pos < MAX_RTCM_FRAME := by unfold MAX_RTCM_FRAME; omega
  have hlength := s.candidate_length (Nat.le_of_lt hmax)
  have hextend := s.store_candidate b hmax
  have hfirst : (s.store b).bytes.getD 0 0 = 0xD3 := by rw [s.store_getD b (by omega), hstart]
  have hnonempty : s.candidate ≠ [] := by
    intro h
    rw [h] at hlength
    simp at hlength
    omega
  rw [splitter_push_byte_of_hdr hstate, collect_of_start hnonempty, ← hextend]
  rcases hpos with hpos | hpos
  · obtain ⟨d, hd⟩ := List.length_eq_one_iff.mp (hlength.trans hpos)
    rw [if_neg (by omega)]
    have hjudge : rtcmJudge (s.store b).candidate = .incomplete := by
      rw [hextend, hd]
      rfl
    simp only [hjudge]
    refine ⟨rfl, rfl, ?_, rfl, rfl⟩
    simp only [splitter_t.Valid, splitter_t.store, hstate] at hfirst ⊢
    exact ⟨.inr (by omega), hfirst⟩
  · obtain ⟨d, b1, hd⟩ := List.length_eq_two.mp (hlength.trans hpos)
    have hb1 : (s.store b).bytes.getD 1 0 = Octet.byte b1 := by
      rw [s.store_getD b (by omega), ← s.bytes_getD (by omega), hd]
      rfl
    have hb2 : (s.store b).bytes.getD 2 0 = Octet.byte b := by
      have hself := s.store_getD_self b hmax
      rwa [hpos] at hself
    have hlt := rtcmLen_lt (Octet.byte b1) (Octet.byte b)
    rw [if_pos (by omega), hb1, hb2]
    by_cases hzero : rtcmLen (Octet.byte b1) (Octet.byte b) = 0
    · have hjudge : rtcmJudge (s.store b).candidate = .reject 3 := by
        rw [hextend, hd]
        simp [rtcmJudge_cons, hzero]
      rw [if_pos (.inl hzero)]
      simp only [hjudge]
      refine ⟨rfl, rfl, rfl, ?_, rfl⟩
      rw [hextend, hd]
      simp [hpos]
    · have hjudge : rtcmJudge (s.store b).candidate = .incomplete := by
        rw [hextend, hd]
        simp [rtcmJudge_cons, hzero]
      rw [if_neg (by omega)]
      simp only [hjudge]
      have hlen : rtcmLen (Octet.byte b1) (Octet.byte b) =
          rtcmLen ((s.store b).bytes.getD 1 0) ((s.store b).bytes.getD 2 0) := by rw [hb1, hb2]
      have hpos3 : (s.store b).buf_pos = 3 := by simp [hpos]
      refine ⟨rfl, rfl, ⟨?_, ?_, hfirst, hlen, ?_, ?_, rfl⟩, rfl, rfl⟩ <;> simp only [hpos3] <;> omega

theorem splitter_push_byte_body (hstate : s.state = .STATE_RTCM_BODY) (hvalid : s.Valid) :
    PushSpec (collect (rtcm β) s.candidate b) (splitter_push_byte s b) := by
  have hmax := hvalid.buf_pos_lt
  simp only [splitter_t.Valid, hstate] at hvalid
  obtain ⟨hpos, htotal, hstart, hlen, hlow, hhigh, hsum⟩ := hvalid
  have hlength := s.candidate_length (Nat.le_of_lt hmax)
  have hextend := s.store_candidate b hmax
  have hstored : (s.store b).candidate.length = s.buf_pos + 1 := by simp [hextend, hlength]
  have hnonempty : s.candidate ≠ [] := by
    intro h
    rw [h] at hlength
    simp at hlength
    omega
  obtain ⟨d, b1, b2, rest, hd⟩ : ∃ d b1 b2 rest, s.candidate = d :: b1 :: b2 :: rest := by
    match hcandidate : s.candidate with
    | [] => simp [hcandidate] at hlength; omega
    | [_] => simp [hcandidate] at hlength; omega
    | [_, _] => simp [hcandidate] at hlength; omega
    | d :: b1 :: b2 :: rest => exact ⟨d, b1, b2, rest, rfl⟩
  have hb1 : s.bytes.getD 1 0 = Octet.byte b1 := by
    rw [← s.bytes_getD (by omega), hd]
    rfl
  have hb2 : s.bytes.getD 2 0 = Octet.byte b2 := by
    rw [← s.bytes_getD (by omega), hd]
    rfl
  rw [hb1, hb2] at hlen
  have hrest : rest.length + 3 = s.buf_pos := by
    rw [hd] at hlength
    simpa using hlength
  have hjudge := rtcmJudge_cons d b1 b2 (rest ++ [b])
  rw [← hlen, ← hsum, if_neg (by omega), ← List.cons_append, ← List.cons_append, ← List.cons_append,
    ← hd, ← hextend] at hjudge
  rw [splitter_push_byte_of_body hstate hmax, collect_of_start hnonempty, ← hextend]
  by_cases hfull : s.buf_pos + 1 = s.rtcm_total_len
  · have hcrc : rtcmCrcOk ((s.store b).candidate.map Octet.byte) s.rtcm_total_len =
        rtcmCrcOk (s.store b).bytes s.rtcm_total_len := by
      have htake := (s.store b).bytes_take s.rtcm_total_len (by simp [hfull])
      rw [← rtcmCrcOk_take (by omega) (by simp [hstored, hfull]), htake,
        rtcmCrcOk_take (by omega) (by simp [splitter_t.bytes]; omega)]
    rw [if_neg (by simp; omega), hcrc] at hjudge
    rw [if_pos hfull]
    by_cases hok : rtcmCrcOk (s.store b).bytes s.rtcm_total_len = true
    · rw [if_pos hok] at hjudge ⊢
      simp only [hjudge]
      refine ⟨rfl, rfl, splitter_init_valid _, splitter_init_candidate _, ?_⟩
      simp [published, splitter_t.candidate, hfull]
    · rw [if_neg hok] at hjudge ⊢
      simp only [hjudge]
      exact ⟨rfl, rfl, rfl, hstored.symm, rfl⟩
  · rw [if_pos (by simp; omega)] at hjudge
    rw [if_neg hfull]
    simp only [hjudge]
    refine ⟨rfl, rfl, ?_, rfl, rfl⟩
    have hstate' : (s.store b).state = .STATE_RTCM_BODY := hstate
    have hpayload : (s.store b).rtcm_payload_len = s.rtcm_payload_len := rfl
    have htotal' : (s.store b).rtcm_total_len = s.rtcm_total_len := rfl
    simp only [splitter_t.Valid, hstate', hpayload, htotal', splitter_t.store_buf_pos]
    rw [s.store_getD b (by omega), s.store_getD b (by omega), s.store_getD b (by omega), hb1, hb2]
    exact ⟨by omega, by omega, hstart, hlen, hlow, hhigh, hsum⟩

/-- One byte handed to a valid splitter is taken in as the recognizer has it. -/
theorem splitter_push_byte_spec (hvalid : s.Valid) :
    PushSpec (collect (rtcm β) s.candidate b) (splitter_push_byte s b) := by
  cases hstate : s.state with
  | STATE_HUNT => exact splitter_push_byte_hunt hstate hvalid
  | STATE_RTCM_HDR => exact splitter_push_byte_hdr hstate hvalid
  | STATE_RTCM_BODY => exact splitter_push_byte_body hstate hvalid

end Push

end rtkbase.gnss_uart
