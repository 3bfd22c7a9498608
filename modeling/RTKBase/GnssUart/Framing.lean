import RTKBase.Lib.ReplayPositions
import RTKBase.GnssUart.SplitterRun

open lib.scan

namespace rtkbase.gnss_uart

/-- The chunks with every byte marked with its position in the whole stream. -/
def positioned : Nat → List (List UInt8) → List (List (UInt8 × Nat))
  | _, [] => []
  | start, data :: rest => data.zipIdx start :: positioned (start + data.length) rest

theorem positioned_flatten (start : Nat) (chunks : List (List UInt8)) :
    (positioned start chunks).flatten = chunks.flatten.zipIdx start := by
  induction chunks generalizing start with
  | nil => rfl
  | cons data rest ih => simp [positioned, ih, List.zipIdx_append]

/-- Complete and exact framing of a stream cut into `chunks`: a splitter run
over them publishes the frames of the reference scan, each taken from the place
where the scan finds it, and its reading never jumps over a byte. -/
def FramedExactly (s : splitter_t UInt8) (s_positioned : splitter_t (UInt8 × Nat))
    (chunks : List (List UInt8)) : Prop :=
  (∃ s' events, splitterProcessChunks (splitter_init s) chunks = some (s', events) ∧
    published events = referenceFrames chunks.flatten) ∧
  ∃ s' events,
    splitterProcessChunks (splitter_init s_positioned) (positioned 0 chunks) = some (s', events) ∧
      published events = referenceFrames chunks.flatten.zipIdx ∧
      NoSkip chunks.flatten.length 0 ((pushed events).map Prod.snd)

/-- The candidates that the reference scan rejects end in order: one found
inside a rejected candidate is never itself rejected before the last byte of
the outer one. -/
def RejectsInOrder (stream : List UInt8) : Prop :=
  (referenceRejectEnds stream).IsChain (· ≤ ·)

instance (stream : List UInt8) : Decidable (RejectsInOrder stream) :=
  inferInstanceAs (Decidable (List.IsChain _ _))

section Initial

variable {β : Type} [Octet β]

/-- A run over a whole stream begins with nothing collected or rejected. -/
theorem tracks_of_stream (stream : List β) :
    Tracks (rtcm β) stream.length 0 ⟨[], [], stream⟩ :=
  ⟨.inl rfl, le_rfl, Nat.zero_le _, fun h => absurd rfl h⟩

theorem ordered_of_stream (stream : List β) :
    Ordered (rtcm β) stream.length 0 stream ↔ (referenceRejectEnds stream).IsChain (· ≤ ·) := by
  rw [Ordered, Nat.sub_self, List.isChain_cons]
  exact ⟨And.right, fun h => ⟨fun _ _ => Nat.zero_le _, h⟩⟩

/-- The chunks of a stream without an early rejection give its frames. -/
theorem splitter_frames_of_rejects_in_order (s : splitter_t β) (chunks : List (List β))
    (horder : (referenceRejectEnds chunks.flatten).IsChain (· ≤ ·)) :
    ∃ s' events, splitterProcessChunks (splitter_init s) chunks = some (s', events) ∧
      published events = referenceFrames chunks.flatten := by
  obtain ⟨s', events, hprocess, _, hrun⟩ :=
    splitterProcessChunks_run (splitter_init_valid s) chunks
  rw [splitter_init_candidate] at hrun
  exact ⟨s', events, hprocess, hrun.frames_eq (tracks_of_stream _)
    ((ordered_of_stream _).mpr horder) rfl rfl⟩

end Initial

theorem referenceRejectEnds_zipIdx (stream : List UInt8) :
    referenceRejectEnds stream.zipIdx = referenceRejectEnds stream := by
  have hbytes : ∀ input : List (UInt8 × Nat), rtcmJudge input = rtcmJudge (input.map Prod.fst) := by
    intro input
    match input with
    | [] => rfl
    | [_] => rfl
    | [_, _] => rfl
    | d :: b1 :: b2 :: rest =>
      have hmap : ((d :: b1 :: b2 :: rest).map Octet.byte : List UInt8) =
          ((d :: b1 :: b2 :: rest).map Prod.fst).map Octet.byte := by
        simp [Octet.byte]
      simp only [List.map_cons, rtcmJudge_cons, List.length_map] at hmap ⊢
      rw [hmap]
      rfl
  have hmap : rejectEnds (rtcm (UInt8 × Nat)) 0 0 stream.zipIdx =
      rejectEnds (rtcm UInt8) 0 0 (stream.zipIdx.map Prod.fst) := by
    apply rejectEnds_map
    · intro b
      rfl
    · exact hbytes
  rwa [List.zipIdx_map_fst] at hmap

/-- The splitter frames a stream completely and exactly, however it is cut, if
and only if its rejected candidates end in order. -/
theorem splitter_framing_exact_iff (s : splitter_t UInt8) (s_positioned : splitter_t (UInt8 × Nat))
    (chunks : List (List UInt8)) :
    FramedExactly s s_positioned chunks ↔ RejectsInOrder chunks.flatten := by
  have hpositions := referenceRejectEnds_zipIdx chunks.flatten
  obtain ⟨s', events, hprocess, _, hrun⟩ :=
    splitterProcessChunks_run (splitter_init_valid s_positioned) (positioned 0 chunks)
  rw [splitter_init_candidate, positioned_flatten] at hrun
  have hlocated : Located Prod.snd chunks.flatten.length
      (⟨[], [], chunks.flatten.zipIdx⟩ : Config (UInt8 × Nat)).input := by
    simp [Located, Config.input, List.zipIdx_map_snd]
  have htracks : Tracks (rtcm (UInt8 × Nat)) chunks.flatten.length 0 ⟨[], [], chunks.flatten.zipIdx⟩ := by
    simpa using tracks_of_stream chunks.flatten.zipIdx
  have hskip : NoSkip chunks.flatten.length 0 ((pushed events).map Prod.snd) ↔
      RejectsInOrder chunks.flatten := by
    rw [hrun.noSkip_iff htracks hlocated (by simp) rfl rfl, RejectsInOrder, ← hpositions,
      ← ordered_of_stream, List.length_zipIdx]
    rfl
  constructor
  · rintro ⟨_, _, _, hprocess', _, hnoskip⟩
    rw [hprocess] at hprocess'
    cases hprocess'
    exact hskip.mp hnoskip
  · intro horder
    have hframes := splitter_frames_of_rejects_in_order s_positioned (positioned 0 chunks)
      (by rwa [positioned_flatten, hpositions])
    rw [positioned_flatten, hprocess] at hframes
    obtain ⟨_, _, heq, hframes⟩ := hframes
    cases heq
    exact ⟨splitter_frames_of_rejects_in_order s chunks horder,
      s', events, hprocess, hframes, hskip.mpr horder⟩

/-- A stream of sixteen bytes: a candidate with a wrong CRC that carries a
header of length zero and behind it a correct frame. -/
def nestedRejectStream : List UInt8 :=
  [0xD3, 0x00, 0x0A, 0xD3, 0x00, 0x00, 0xD3, 0x00, 0x01, 0x00, 0x0A, 0x18, 0x8D, 0x00, 0x00, 0x00]

/-- A splitter over zeroed memory. -/
def zeroedSplitter {β : Type} (zero : β) : splitter_t β :=
  ⟨.STATE_HUNT, Vector.replicate MAX_RTCM_FRAME zero, 0, 0, 0⟩

/-- The splitter publishes nothing from that stream, whose correct frame the
reference scan finds. -/
theorem splitter_framing_counterexample :
    (splitterProcessChunks (splitter_init (zeroedSplitter 0)) [nestedRejectStream]).map
        (fun result => published result.2) = some [] ∧
      referenceFrames nestedRejectStream = [[0xD3, 0x00, 0x01, 0x00, 0x0A, 0x18, 0x8D]] ∧
      ¬ FramedExactly (zeroedSplitter 0) (zeroedSplitter (0, 0)) [nestedRejectStream] := by
  have hpublished : (splitterProcessChunks (splitter_init (zeroedSplitter 0))
      [nestedRejectStream]).map (fun result => published result.2) = some [] := by
    decide +kernel
  have hreference : referenceFrames nestedRejectStream =
      [[0xD3, 0x00, 0x01, 0x00, 0x0A, 0x18, 0x8D]] := by
    decide +kernel
  refine ⟨hpublished, hreference, ?_⟩
  rintro ⟨⟨s', events, hprocess, hframes⟩, _⟩
  rw [hprocess] at hpublished
  simp [hframes, hreference] at hpublished

end rtkbase.gnss_uart
