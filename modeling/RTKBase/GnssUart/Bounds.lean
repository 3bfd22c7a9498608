import RTKBase.GnssUart.Framing
import RTKBase.GnssUart.Reader

namespace rtkbase.gnss_uart

open lib.lts

variable {β : Type} [Octet β]

/-- The arrays of `MAX_RTCM_FRAME` bytes that a byte passes through. -/
inductive FrameArray where
  | buf
  | replay_buf
  | slot

/-- The indices that `splitter_push_byte` uses. At the end of a frame it reads all
of it for the CRC, and `publish_rtcm_frame` copies all of it into a slot. -/
def pushIndices (s : splitter_t β) (b : β) : List (FrameArray × Nat) :=
  let hunt := if Octet.byte b = 0xD3 then [(FrameArray.buf, 0)] else []
  match s.state with
  | .STATE_HUNT => hunt
  | .STATE_RTCM_HDR =>
    (.buf, s.buf_pos) :: if s.buf_pos + 1 = 3 then [(.buf, 1), (.buf, 2)] else []
  | .STATE_RTCM_BODY =>
    if s.buf_pos ≥ MAX_RTCM_FRAME then hunt
    else
      (.buf, s.buf_pos) ::
        if s.buf_pos + 1 = s.rtcm_total_len then
          (List.range s.rtcm_total_len).map (.buf, ·) ++
            if rtcmCrcOk (s.store b).bytes s.rtcm_total_len then
              (List.range s.rtcm_total_len).map (.slot, ·)
            else []
        else []

/-- The indices that one turn of the loops of `splitter_process_bytes` uses. -/
def turnIndices (data : List β) (locals : ProcessLocals β) (s : splitter_t β) :
    List (FrameArray × Nat) :=
  match (locals.src data)[locals.i]? with
  | none => []
  | some b =>
    let (replay_start, s', _) := splitter_push_byte s b
    (if locals.replaying then [(.replay_buf, locals.i)] else []) ++ pushIndices s b ++
      if replay_start < 0 then []
      else (List.range (s'.buf_pos - replay_start.toNat)).flatMap fun k =>
        [(.buf, replay_start.toNat + k), (.replay_buf, k)]

/-- A whole RTCM3 frame. -/
structure RtcmFrame (frame : List UInt8) : Prop where
  preamble : frame.getD 0 0 = 0xD3
  length : frame.length = 6 + rtcmLen (frame.getD 1 0) (frame.getD 2 0)
  crc : crc24q frame (frame.length - 3) = rtcmReceived frame frame.length

theorem RtcmFrame.length_bounds {frame : List UInt8} (hframe : RtcmFrame frame) :
    6 ≤ frame.length ∧ frame.length ≤ MAX_RTCM_FRAME := by
  have hlen := rtcmLen_lt (frame.getD 1 0) (frame.getD 2 0)
  have hlength := hframe.length
  rw [MAX_RTCM_FRAME]
  omega

/-- What a byte does to a valid splitter, as far as the arrays and the frames
published are concerned. -/
structure PushBounds (s : splitter_t β) (b : β) (result : Int × splitter_t β × List (Event β)) :
    Prop where
  indices : ∀ access ∈ pushIndices s b, access.2 < MAX_RTCM_FRAME
  rejected : result.1 = -1 ∨ result.1 = 1 ∧ result.2.1.buf_pos ≤ MAX_RTCM_FRAME
  overflow : .logBodyOverflow ∉ result.2.2
  frames : ∀ frame ∈ published result.2.2, RtcmFrame (frame.map Octet.byte)

section

variable {s : splitter_t β} {b : β}

theorem push_bounds_hunt (hstate : s.state = .STATE_HUNT) :
    PushBounds s b (splitter_push_byte s b) := by
  simp only [splitter_push_byte, hstate, splitterHunt]
  split
  case isTrue hstart =>
    refine ⟨?_, .inl rfl, by simp, by simp [published]⟩
    simp [pushIndices, hstate, hstart, MAX_RTCM_FRAME]
  case isFalse hstart =>
    refine ⟨?_, .inl rfl, by simp, by simp [published]⟩
    simp [pushIndices, hstate, hstart]

theorem push_bounds_hdr (hstate : s.state = .STATE_RTCM_HDR) (hvalid : s.Valid) :
    PushBounds s b (splitter_push_byte s b) := by
  simp only [splitter_t.Valid, hstate] at hvalid
  obtain ⟨hpos, _⟩ := hvalid
  have hindices : ∀ access ∈ pushIndices s b, access.2 < MAX_RTCM_FRAME := by
    simp only [pushIndices, hstate, MAX_RTCM_FRAME]
    intro access haccess
    obtain rfl | haccess := List.mem_cons.mp haccess
    · simp only
      omega
    · split at haccess
      · obtain rfl | rfl : access = (.buf, 1) ∨ access = (.buf, 2) := by simpa using haccess
        · decide
        · decide
      · simp at haccess
  rw [splitter_push_byte_of_hdr hstate]
  split
  case isTrue hthree =>
    split
    case isTrue =>
      refine ⟨hindices, .inr ⟨rfl, ?_⟩, by simp, by simp [published]⟩
      simp only [splitter_t.store_buf_pos, hthree]
      decide
    case isFalse => exact ⟨hindices, .inl rfl, by simp, by simp [published]⟩
  case isFalse => exact ⟨hindices, .inl rfl, by simp, by simp [published]⟩

/-- The frame that is complete with this byte. -/
theorem stored_frame (hstate : s.state = .STATE_RTCM_BODY) (hvalid : s.Valid)
    (hfull : s.buf_pos + 1 = s.rtcm_total_len)
    (hcrc : rtcmCrcOk (s.store b).bytes s.rtcm_total_len = true) :
    RtcmFrame (((s.store b).buf.toList.take s.rtcm_total_len).map Octet.byte) := by
  have hmax := hvalid.buf_pos_lt
  simp only [splitter_t.Valid, hstate] at hvalid
  obtain ⟨hpos, _, hstart, hlen, _, _, hsum⟩ := hvalid
  have hframe : ((s.store b).buf.toList.take s.rtcm_total_len).map Octet.byte =
      (s.store b).bytes.take s.rtcm_total_len := by
    simp [splitter_t.bytes, List.map_take]
  have hbytes : (s.store b).bytes.length = MAX_RTCM_FRAME := by simp [splitter_t.bytes]
  have hlength : ((s.store b).bytes.take s.rtcm_total_len).length = s.rtcm_total_len := by
    rw [List.length_take, hbytes]
    omega
  have hget : ∀ i < 3, ((s.store b).bytes.take s.rtcm_total_len).getD i 0 = s.bytes.getD i 0 := by
    intro i hi
    rw [List.getD_eq_getElem?_getD, List.getElem?_take_of_lt (by omega),
      ← List.getD_eq_getElem?_getD, s.store_getD b (by omega)]
  rw [hframe]
  refine ⟨?_, ?_, ?_⟩
  · rw [hget 0 (by omega), hstart]
  · rw [hlength, hget 1 (by omega), hget 2 (by omega), ← hlen]
    omega
  · have htake : rtcmCrcOk ((s.store b).bytes.take s.rtcm_total_len) s.rtcm_total_len = true := by
      rw [rtcmCrcOk_take (by omega) (by omega), hcrc]
    rw [hlength]
    simpa [rtcmCrcOk] using htake

theorem push_bounds_body (hstate : s.state = .STATE_RTCM_BODY) (hvalid : s.Valid) :
    PushBounds s b (splitter_push_byte s b) := by
  have hmax := hvalid.buf_pos_lt
  have hframe := stored_frame (b := b) hstate hvalid
  simp only [splitter_t.Valid, hstate] at hvalid
  obtain ⟨_, htotal, _, _, _, hhigh, hsum⟩ := hvalid
  have hrange : ∀ (array : FrameArray), ∀ access ∈ (List.range s.rtcm_total_len).map (array, ·),
      access.2 < MAX_RTCM_FRAME := by
    intro array access haccess
    obtain ⟨k, hk, rfl⟩ := List.mem_map.mp haccess
    rw [List.mem_range] at hk
    simp only [MAX_RTCM_FRAME]
    omega
  have hindices : ∀ access ∈ pushIndices s b, access.2 < MAX_RTCM_FRAME := by
    simp only [pushIndices, hstate, if_neg (Nat.not_le_of_lt hmax)]
    intro access haccess
    obtain rfl | haccess := List.mem_cons.mp haccess
    · exact hmax
    · split at haccess
      · obtain haccess | haccess := List.mem_append.mp haccess
        · exact hrange .buf access haccess
        · split at haccess
          · exact hrange .slot access haccess
          · simp at haccess
      · simp at haccess
  rw [splitter_push_byte_of_body hstate hmax]
  split
  case isTrue hfull =>
    split
    case isTrue hcrc =>
      refine ⟨hindices, .inl rfl, by simp, ?_⟩
      simpa [published] using hframe hfull hcrc
    case isFalse =>
      refine ⟨hindices, .inr ⟨rfl, ?_⟩, by simp, by simp [published]⟩
      simp only [splitter_t.store_buf_pos, MAX_RTCM_FRAME] at hmax ⊢
      omega
  case isFalse => exact ⟨hindices, .inl rfl, by simp, by simp [published]⟩

theorem splitter_push_byte_bounds (hvalid : s.Valid) : PushBounds s b (splitter_push_byte s b) := by
  cases hstate : s.state with
  | STATE_HUNT => exact push_bounds_hunt hstate
  | STATE_RTCM_HDR => exact push_bounds_hdr hstate hvalid
  | STATE_RTCM_BODY => exact push_bounds_body hstate hvalid

end

/-- A replay is shorter than a frame. -/
def ProcessLocals.Fits (locals : ProcessLocals β) : Prop :=
  locals.replay_buf.length < MAX_RTCM_FRAME

/-- What one turn does, as far as the arrays and the frames are concerned. -/
theorem processStep_bounds {data : List β} {locals locals' : ProcessLocals β}
    {s s' : splitter_t β} {events : List (Event β)} (hvalid : s.Valid) (hfits : locals.Fits)
    (hstep : processStep data locals s = some (locals', s', events)) :
    locals'.Fits ∧ .logBodyOverflow ∉ events ∧
      ∀ frame ∈ published events, RtcmFrame (frame.map Octet.byte) := by
  have hbounds : ∀ {b : β} {ret : Int} {s₁ : splitter_t β} {events₁ : List (Event β)},
      splitter_push_byte s b = (ret, s₁, events₁) → PushBounds s b (ret, s₁, events₁) :=
    fun hpush => hpush ▸ splitter_push_byte_bounds hvalid
  have hcalls : ∀ {b : β} {events₁ : List (Event β)}, .logBodyOverflow ∉ events₁ →
      .logBodyOverflow ∉ Event.splitter_push_byte b :: events₁ := by simp
  cases processStep_cases hstep with
  | kept _ hpush => exact ⟨hfits, hcalls (hbounds hpush).overflow, (hbounds hpush).frames⟩
  | dropped _ hpush => exact ⟨hfits, hcalls (hbounds hpush).overflow, (hbounds hpush).frames⟩
  | replayed _ hpush hret =>
    obtain ⟨_, hrejected, hoverflow, hframes⟩ := hbounds hpush
    refine ⟨(List.length_take_le _ _).trans_lt ?_, hcalls hoverflow, hframes⟩
    obtain rfl | ⟨rfl, hpos⟩ := hrejected
    · cases hret
    · simp only [MAX_RTCM_FRAME, Int.toNat_one] at hpos ⊢
      omega
  | resumed => exact ⟨hfits, by simp, by simp [published]⟩

theorem turnIndices_lt {data : List β} {locals : ProcessLocals β} {s : splitter_t β}
    (hvalid : s.Valid) (hfits : locals.Fits) :
    ∀ access ∈ turnIndices data locals s, access.2 < MAX_RTCM_FRAME := by
  unfold turnIndices
  cases hread : (locals.src data)[locals.i]? with
  | none => simp
  | some b =>
    have hbounds := splitter_push_byte_bounds (b := b) hvalid
    rcases hpush : splitter_push_byte s b with ⟨ret, s₁, events₁⟩
    rw [hpush] at hbounds
    obtain ⟨hindices, hrejected, _, _⟩ := hbounds
    simp only [hpush]
    intro access haccess
    obtain haccess | haccess := List.mem_append.mp haccess
    · obtain haccess | haccess := List.mem_append.mp haccess
      · split at haccess
        case isTrue hreplaying =>
          obtain rfl := List.mem_singleton.mp haccess
          simp only [ProcessLocals.src, hreplaying, if_true] at hread
          obtain ⟨hlt, _⟩ := List.getElem?_eq_some_iff.mp hread
          exact lt_trans hlt hfits
        case isFalse => simp at haccess
      · exact hindices access haccess
    · split at haccess
      case isTrue => simp at haccess
      case isFalse hreplay =>
        simp only at hrejected
        obtain ⟨rfl, hpos⟩ := hrejected.resolve_left fun hret => hreplay (by rw [hret]; decide)
        obtain ⟨k, hk, haccess⟩ := List.mem_flatMap.mp haccess
        rw [List.mem_range] at hk
        simp only [MAX_RTCM_FRAME, Int.toNat_one] at hpos hk ⊢
        obtain rfl | rfl : access = (.buf, 1 + k) ∨ access = (.replay_buf, k) := by
          simpa using haccess
        · simp only
          omega
        · simp only
          omega

structure Reader.Bounded (r : Reader β) : Prop where
  valid : r.splitter.Valid
  fits : ∀ data locals, r.call = some (data, locals) → locals.Fits
  overflow : .logBodyOverflow ∉ r.events
  frames : ∀ frame ∈ published r.events, RtcmFrame (frame.map Octet.byte)

theorem readerStep_bounded {r r' : Reader β} (hbounded : r.Bounded) (hstep : ReaderStep r r') :
    r'.Bounded := by
  have hvalid' := readerStep_valid hbounded.valid hstep
  cases hstep with
  | uartData =>
    refine ⟨hvalid', fun data locals hcall => ?_, hbounded.overflow, hbounded.frames⟩
    cases hcall
    simp [ProcessLocals.Fits, MAX_RTCM_FRAME]
  | returned => exact ⟨hvalid', by simp, hbounded.overflow, hbounded.frames⟩
  | @turn data locals locals' s' events hcall hprocess =>
    obtain ⟨hfits, hoverflow, hframes⟩ :=
      processStep_bounds hbounded.valid (hbounded.fits data locals hcall) hprocess
    refine ⟨hvalid', fun data₁ locals₁ hcall₁ => ?_, ?_, fun frame hframe => ?_⟩
    · cases hcall₁
      exact hfits
    · simp [hbounded.overflow, hoverflow]
    · rw [published, List.filterMap_append] at hframe
      obtain hframe | hframe := List.mem_append.mp hframe
      · exact hbounded.frames frame hframe
      · exact hframes frame hframe
  | overflow hidle =>
    refine ⟨hvalid', fun data locals hcall => ?_, hbounded.overflow, hbounded.frames⟩
    simp [hidle] at hcall

theorem reader_bounded {s : splitter_t β} {r : Reader β}
    (hreach : Reach readerStep Anywhere (readerStart s) r) : r.Bounded := by
  refine hreach.invariant ?_ fun _ _ _ hbounded _ hstep =>
    readerStep_bounded hbounded (readerStep_cases hstep)
  exact ⟨splitter_init_valid s, by simp [readerStart], by simp [readerStart],
    by simp [readerStart, published]⟩

/-- In every state of the reader task, for every stream, chunking and sequence
of resets: the splitter's fields fit together as the header it has collected
says, all indices into the arrays of a frame's size are in range, a body never
overflows, and whatever was published is a whole RTCM3 frame with its CRC. -/
theorem splitter_in_bounds {s : splitter_t β} {r : Reader β}
    (hreach : Reach readerStep Anywhere (readerStart s) r) :
    (r.splitter.state = .STATE_RTCM_HDR →
      (r.splitter.buf_pos = 1 ∨ r.splitter.buf_pos = 2) ∧ r.splitter.bytes.getD 0 0 = 0xD3) ∧
    (r.splitter.state = .STATE_RTCM_BODY →
      3 ≤ r.splitter.buf_pos ∧ r.splitter.buf_pos < r.splitter.rtcm_total_len ∧
        r.splitter.rtcm_total_len = 6 + r.splitter.rtcm_payload_len ∧
        r.splitter.rtcm_total_len ≤ 1029 ∧
        1 ≤ r.splitter.rtcm_payload_len ∧ r.splitter.rtcm_payload_len ≤ 1023 ∧
        r.splitter.rtcm_payload_len =
          rtcmLen (r.splitter.bytes.getD 1 0) (r.splitter.bytes.getD 2 0)) ∧
    (∀ data locals, r.call = some (data, locals) →
      ∀ access ∈ turnIndices data locals r.splitter, access.2 < MAX_RTCM_FRAME) ∧
    .logBodyOverflow ∉ r.events ∧
    ∀ frame ∈ published r.events, RtcmFrame (frame.map Octet.byte) := by
  have hbounded := reader_bounded hreach
  have hvalid := hbounded.valid
  refine ⟨fun hstate => ?_, fun hstate => ?_, fun data locals hcall => ?_, hbounded.overflow,
    hbounded.frames⟩
  · simpa only [splitter_t.Valid, hstate] using hvalid
  · simp only [splitter_t.Valid, hstate] at hvalid
    obtain ⟨hpos, htotal, _, hlen, hlow, hhigh, hsum⟩ := hvalid
    exact ⟨hpos, htotal, by omega, by omega, hlow, hhigh, hlen⟩
  · exact turnIndices_lt hvalid (hbounded.fits data locals hcall)

/-- A frame with one byte of payload. -/
def shortestFrame : List UInt8 := [0xD3, 0x00, 0x01, 0x00, 0x0A, 0x18, 0x8D]

/-- A header of length zero is rejected and replayed, a correct frame follows,
and the next one is cut off by a reset. -/
def resetRun : List (ReaderAction UInt8) :=
  List.flatten [[.uartData (0xD3 :: 0x00 :: 0x00 :: shortestFrame)], List.replicate 14 .turn,
    [.uartData [0xD3, 0x00, 0x01]], List.replicate 4 .turn, [.overflow]]

theorem splitter_in_bounds_of_reset :
    ∃ r, runs readerStep Anywhere (readerStart (zeroedSplitter 0)) resetRun = some r ∧
      published r.events = [shortestFrame] ∧ .logBodyOverflow ∉ r.events ∧
      RtcmFrame (shortestFrame.map Octet.byte) := by
  have hrun : (runs readerStep Anywhere (readerStart (zeroedSplitter 0)) resetRun).map
      (fun r => published r.events) = some [shortestFrame] := by
    decide +kernel
  obtain ⟨r, hr, hpublished⟩ := Option.map_eq_some_iff.mp hrun
  obtain ⟨_, _, _, hoverflow, hframes⟩ := splitter_in_bounds (Reach.refl.runs hr)
  exact ⟨r, hr, hpublished, hoverflow, hframes _ (by simp [hpublished])⟩

end rtkbase.gnss_uart
