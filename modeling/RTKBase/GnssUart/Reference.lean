import RTKBase.Lib.Scan
import RTKBase.GnssUart.Splitter

open lib.scan

namespace rtkbase.gnss_uart

variable {β : Type} [Octet β]

/-- What a stream says about the candidate it begins with: rejected when the
length field is zero or, once all of it is there, when the CRC is wrong. -/
def rtcmJudge (stream : List β) : Verdict :=
  match stream with
  | _ :: b1 :: b2 :: _ =>
    let total := 3 + rtcmLen (Octet.byte b1) (Octet.byte b2) + 3
    if rtcmLen (Octet.byte b1) (Octet.byte b2) = 0 then .reject 3
    else if stream.length < total then .incomplete
    else if rtcmCrcOk (stream.map Octet.byte) total then .accept total
    else .reject total
  | _ => .incomplete

/-- The verdict on a stream that has a whole header. -/
theorem rtcmJudge_cons (d b1 b2 : β) (rest : List β) :
    rtcmJudge (d :: b1 :: b2 :: rest) =
      if rtcmLen (Octet.byte b1) (Octet.byte b2) = 0 then .reject 3
      else if rest.length + 3 < 3 + rtcmLen (Octet.byte b1) (Octet.byte b2) + 3 then .incomplete
      else if rtcmCrcOk ((d :: b1 :: b2 :: rest).map Octet.byte)
          (3 + rtcmLen (Octet.byte b1) (Octet.byte b2) + 3) then
        .accept (3 + rtcmLen (Octet.byte b1) (Octet.byte b2) + 3)
      else .reject (3 + rtcmLen (Octet.byte b1) (Octet.byte b2) + 3) := rfl

theorem rtcmJudge_append (stream more : List β) (h : rtcmJudge stream ≠ .incomplete) :
    rtcmJudge (stream ++ more) = rtcmJudge stream := by
  match stream with
  | [] => exact absurd rfl h
  | [_] => exact absurd rfl h
  | [_, _] => exact absurd rfl h
  | d :: b1 :: b2 :: rest =>
    simp only [List.cons_append, rtcmJudge_cons] at h ⊢
    by_cases hzero : rtcmLen (Octet.byte b1) (Octet.byte b2) = 0
    · simp [hzero]
    · rw [if_neg hzero] at h
      by_cases hshort : rest.length + 3 < 3 + rtcmLen (Octet.byte b1) (Octet.byte b2) + 3
      · rw [if_pos hshort] at h
        exact absurd rfl h
      · have hlong : ¬ (rest ++ more).length + 3 < 3 + rtcmLen (Octet.byte b1) (Octet.byte b2) + 3 := by
          rw [List.length_append]
          omega
        have hcrc : rtcmCrcOk ((d :: b1 :: b2 :: (rest ++ more)).map Octet.byte)
              (3 + rtcmLen (Octet.byte b1) (Octet.byte b2) + 3) =
            rtcmCrcOk ((d :: b1 :: b2 :: rest).map Octet.byte)
              (3 + rtcmLen (Octet.byte b1) (Octet.byte b2) + 3) := by
          simp only [← List.cons_append, List.map_append]
          exact rtcmCrcOk_append _ (by omega) (by simp only [List.length_map, List.length_cons]; omega)
        rw [if_neg hzero, if_neg hshort, if_neg hlong, if_neg hzero, hcrc]

/-- An extent is the header alone or the whole frame, and its bytes decide. -/
theorem rtcmJudge_extent (stream : List β) (extent : Nat)
    (h : rtcmJudge stream = .reject extent ∨ rtcmJudge stream = .accept extent) :
    3 ≤ extent ∧ extent ≤ stream.length ∧ rtcmJudge (stream.take extent) = rtcmJudge stream := by
  match stream with
  | [] => simp [rtcmJudge] at h
  | [_] => simp [rtcmJudge] at h
  | [_, _] => simp [rtcmJudge] at h
  | d :: b1 :: b2 :: rest =>
    rw [rtcmJudge_cons] at h
    by_cases hzero : rtcmLen (Octet.byte b1) (Octet.byte b2) = 0
    · have hextent : extent = 3 := by simpa [hzero, eq_comm] using h
      subst hextent
      simp [rtcmJudge_cons, hzero]
    · rw [if_neg hzero] at h
      by_cases hshort : rest.length + 3 < 3 + rtcmLen (Octet.byte b1) (Octet.byte b2) + 3
      · simp [hshort] at h
      · rw [if_neg hshort] at h
        have hextent : extent = 3 + rtcmLen (Octet.byte b1) (Octet.byte b2) + 3 := by
          split at h <;> simpa [eq_comm] using h
        have hle : extent ≤ (d :: b1 :: b2 :: rest).length := by
          simp only [List.length_cons]
          omega
        refine ⟨by omega, hle, ?_⟩
        obtain ⟨body, rfl⟩ : ∃ n, extent = n + 3 := ⟨extent - 3, by omega⟩
        have htake : (d :: b1 :: b2 :: rest).take (body + 3) = d :: b1 :: b2 :: rest.take body := rfl
        have hcrc : rtcmCrcOk ((d :: b1 :: b2 :: rest.take body).map Octet.byte) (body + 3) =
            rtcmCrcOk ((d :: b1 :: b2 :: rest).map Octet.byte) (body + 3) := by
          rw [← htake, List.map_take]
          exact rtcmCrcOk_take (by omega) (by simpa using hle)
        simp only [List.length_cons] at hle
        have hlong : ¬ rest.length + 3 < body + 3 := by omega
        have hbody : ¬ (rest.take body).length + 3 < body + 3 := by
          rw [List.length_take]
          omega
        rw [htake, rtcmJudge_cons, rtcmJudge_cons, if_neg hzero, if_neg hzero, ← hextent, hcrc,
          if_neg hbody, if_neg hlong]

/-- The frames of RTCM3: they begin with 0xD3 and are judged by `rtcmJudge`. -/
def rtcm (β : Type) [Octet β] : Recognizer β where
  start b := Octet.byte b == 0xD3
  judge := rtcmJudge
  judge_append := rtcmJudge_append
  reject_extent stream extent h := by
    obtain ⟨hpos, hle, htake⟩ := rtcmJudge_extent stream extent (.inl h)
    exact ⟨by omega, hle, htake.trans h⟩
  accept_extent stream extent h := by
    obtain ⟨hpos, hle, htake⟩ := rtcmJudge_extent stream extent (.inr h)
    exact ⟨by omega, hle, htake.trans h⟩

/-- The frames that a scan of the whole stream finds: go to the next 0xD3; with
a zero length field go on right behind it; otherwise wait for the `3 + len + 3`
bytes, emit them and go on behind them when the CRC matches, else go on right
behind the 0xD3. -/
def referenceFrames (stream : List β) : List (List β) := frames (rtcm β) 0 stream

/-- Where the candidates that this scan rejects end in the stream. -/
def referenceRejectEnds (stream : List β) : List Nat := rejectEnds (rtcm β) 0 0 stream

end rtkbase.gnss_uart
