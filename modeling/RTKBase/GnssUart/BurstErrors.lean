import RTKBase.GnssUart.Bounds
import RTKBase.GnssUart.CrcRemainder

open lib.bit_polynomial lib.lts lib.remainder lib.scan

namespace rtkbase.gnss_uart

/-- A frame with the bits flipped that are set in an error pattern. -/
def corrupted (frame error : List UInt8) : List UInt8 := List.zipWith (· ^^^ ·) frame error

/-- The bits of a frame as they are sent, the most significant of a byte first. -/
def frameBits (bytes : List UInt8) : List Bool := (bytes.map UInt8.toBitVec).flatMap vecBits

/-- An error in the payload and the CRC of `frame`: some bits are set, all of
them within 24 consecutive ones, and none in the header. -/
structure Burst (frame error : List UInt8) : Prop where
  length : error.length = frame.length
  header : error.take 3 = [0, 0, 0]
  nonzero : true ∈ frameBits error
  within : Within 24 (frameBits error)

theorem corrupted_message {frame error : List UInt8} (hlength : error.length = frame.length) :
    frameMessage (corrupted frame error) = frameMessage frame + frameMessage error := by
  have hmap : (corrupted frame error).map UInt8.toBitVec =
      List.zipWith (· ^^^ ·) (frame.map UInt8.toBitVec) (error.map UInt8.toBitVec) := by
    rw [corrupted, List.map_zipWith, List.zipWith_map]
    rfl
  rw [frameMessage, hmap, message_xor (by rw [List.length_map, List.length_map, hlength])]
  rfl

/-- A short burst added to a multiple of the generator leaves no multiple. -/
theorem corrupted_crc_wrong {frame error : List UInt8} (hlength : 3 ≤ frame.length)
    (hcrc : rtcmCrcOk frame frame.length = true) (hburst : Burst frame error) :
    rtcmCrcOk (corrupted frame error) (corrupted frame error).length = false := by
  have hsame : (corrupted frame error).length = frame.length := by
    rw [corrupted, List.length_zipWith, hburst.length, Nat.min_self]
  have hframe := (rtcmCrcOk_iff_dvd hlength).mp hcrc
  have herror : ¬ crc24qGenerator.divisor ∣ frameMessage error :=
    crc24qGenerator.not_dvd_within hburst.within hburst.nonzero
  refine Bool.eq_false_of_not_eq_true fun hok => herror ?_
  have hcorrupted := (rtcmCrcOk_iff_dvd (by omega)).mp hok
  rw [corrupted_message hburst.length] at hcorrupted
  exact (dvd_add_right hframe).mp hcorrupted

theorem rtcmCrcOk_of_accept {frame : List UInt8}
    (haccept : rtcmJudge frame = .accept frame.length) : rtcmCrcOk frame frame.length = true := by
  match frame with
  | [] => cases haccept
  | [_] => cases haccept
  | [_, _] => cases haccept
  | d :: b1 :: b2 :: rest =>
    have hbytes : (d :: b1 :: b2 :: rest).map Octet.byte = d :: b1 :: b2 :: rest := List.map_id _
    rw [rtcmJudge_cons, hbytes] at haccept
    split at haccept
    case isTrue => cases haccept
    case isFalse =>
      split at haccept
      case isTrue => cases haccept
      case isFalse =>
        split at haccept
        case isTrue hcrc =>
          obtain htotal := Verdict.accept.inj haccept
          rwa [htotal] at hcrc
        case isFalse => cases haccept

/-- Whatever a valid splitter is fed with, each frame it publishes has its CRC. -/
theorem splitterProcessChunks_crc {s : splitter_t UInt8} (hvalid : s.Valid)
    (chunks : List (List UInt8)) :
    ∃ s' events, splitterProcessChunks s chunks = some (s', events) ∧
      ∀ frame ∈ published events, rtcmCrcOk frame frame.length = true := by
  obtain ⟨s', events, hprocess, _, hrun⟩ := splitterProcessChunks_run hvalid chunks
  refine ⟨s', events, hprocess, fun frame hframe => ?_⟩
  exact rtcmCrcOk_of_accept (hrun.emitted hvalid.pending frame hframe)

/-- A frame that the splitter publishes, with an error burst of at most 24 bits
in its payload and CRC, does not pass the CRC check. It is not published,
whatever state the splitter is in when it is fed, `STATE_HUNT` or another, and
whatever chunks it is fed in. -/
theorem burst_always_caught {memory : splitter_t UInt8} {r : Reader UInt8} {b : UInt8}
    {frame error : List UInt8} (hreach : Reach readerStep Anywhere (readerStart memory) r)
    (hpublished : frame ∈ published (splitter_push_byte r.splitter b).2.2)
    (hburst : Burst frame error) :
    crc24q (corrupted frame error) ((corrupted frame error).length - 3) ≠
        rtcmReceived (corrupted frame error) (corrupted frame error).length ∧
      ∀ (memory' : splitter_t UInt8) (fed : Reader UInt8),
        Reach readerStep Anywhere (readerStart memory') fed → ∀ chunks : List (List UInt8),
          ∃ s' events, splitterProcessChunks fed.splitter chunks = some (s', events) ∧
            corrupted frame error ∉ published events := by
  have hframe := (splitter_push_byte_bounds (b := b) (reader_valid hreach)).frames frame hpublished
  rw [show frame.map Octet.byte = frame from List.map_id _] at hframe
  have hcrc : rtcmCrcOk frame frame.length = true := by
    rw [rtcmCrcOk, hframe.crc, beq_self_eq_true]
  have hwrong := corrupted_crc_wrong (by have hlength := hframe.length; omega) hcrc hburst
  constructor
  · intro heq
    rw [rtcmCrcOk, heq, beq_self_eq_true] at hwrong
    cases hwrong
  · intro memory' fed hfed chunks
    obtain ⟨s', events, hprocess, hframes⟩ :=
      splitterProcessChunks_crc (reader_valid hfed) chunks
    refine ⟨s', events, hprocess, fun hmem => ?_⟩
    rw [hframes _ hmem] at hwrong
    cases hwrong

/-- The last byte of the frame is still to come. -/
def frameRun : List (ReaderAction UInt8) :=
  .uartData (shortestFrame.take 6) :: List.replicate 7 .turn

/-- The first and the last of 24 bits are flipped, from the payload to the CRC. -/
def widestBurst : List UInt8 := [0, 0, 0, 0x80, 0, 0x01, 0]

theorem burst_always_caught_of_widest :
    crc24q [0xD3, 0x00, 0x01, 0x80, 0x0A, 0x19, 0x8D] 4 ≠
        rtcmReceived [0xD3, 0x00, 0x01, 0x80, 0x0A, 0x19, 0x8D] 7 ∧
      ∃ s' events, splitterProcessChunks (splitter_init (zeroedSplitter (0 : UInt8)))
          [[0xD3, 0x00, 0x01, 0x80], [0x0A, 0x19, 0x8D]] = some (s', events) ∧
        [0xD3, 0x00, 0x01, 0x80, 0x0A, 0x19, 0x8D] ∉ published events := by
  have hrun : (runs readerStep Anywhere (readerStart (zeroedSplitter 0)) frameRun).map
      (fun r => published (splitter_push_byte r.splitter 0x8D).2.2) = some [shortestFrame] := by
    decide +kernel
  obtain ⟨r, hr, hpublished⟩ := Option.map_eq_some_iff.mp hrun
  have hburst : Burst shortestFrame widestBurst := by
    refine ⟨by decide, by decide, by decide, 24, fun i hi => ?_⟩
    have hlength : i < 56 := (List.getElem?_eq_some_iff.mp hi).1
    revert hi
    revert i
    decide
  have hmem : shortestFrame ∈ published (splitter_push_byte r.splitter 0x8D).2.2 := by
    rw [hpublished]
    exact List.mem_singleton_self _
  obtain ⟨hcrc, hfed⟩ := burst_always_caught (Reach.refl.runs hr) hmem hburst
  exact ⟨hcrc, hfed (zeroedSplitter 0) (readerStart (zeroedSplitter 0)) .refl _⟩

end rtkbase.gnss_uart
