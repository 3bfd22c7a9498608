import RTKBase.GnssUart.BurstErrors
import RTKBase.Lib.FewErrors

open lib.bit_polynomial lib.lts lib.remainder

namespace rtkbase.gnss_uart

/-- The bits that are set in an error pattern: an odd number of them, or two. -/
structure FewFlips (frame error : List UInt8) : Prop where
  length : error.length = frame.length
  flips : (frameBits error).count true % 2 = 1 ∨ (frameBits error).count true = 2

theorem crc24qGenerator_even : (vecBits crc24qGenerator.poly).count true % 2 = 0 := by decide

/-- No power of the variable below 8232 leaves one: the longest frame has 8232 bits. -/
theorem crc24q_avoidsOne : crc24qGenerator.avoidsOne 8231 1 = true := by decide +kernel

theorem frameBits_length (bytes : List UInt8) : (frameBits bytes).length = bytes.length * 8 := by
  simp [frameBits, Function.comp_def]

theorem RtcmFrame.crc_ok {frame : List UInt8} (hframe : RtcmFrame frame) :
    rtcmCrcOk frame frame.length = true := by
  rw [rtcmCrcOk, hframe.crc, beq_self_eq_true]

/-- The generator divides no pattern of so few errors in a frame. -/
theorem not_dvd_few {bytes : List UInt8} (hlength : bytes.length ≤ MAX_RTCM_FRAME)
    (hflips : (frameBits bytes).count true % 2 = 1 ∨ (frameBits bytes).count true = 2) :
    ¬ crc24qGenerator.divisor ∣ frameMessage bytes := by
  obtain hodd | hpair := hflips
  · exact crc24qGenerator.not_dvd_odd crc24qGenerator_even hodd
  · refine crc24qGenerator.not_dvd_pair (by decide) crc24q_avoidsOne ?_ hpair
    rw [MAX_RTCM_FRAME] at hlength
    have hbits := frameBits_length bytes
    rw [frameBits] at hbits
    omega

theorem few_flips_crc_wrong {frame error : List UInt8} (hframe : RtcmFrame frame)
    (hflips : FewFlips frame error) :
    rtcmCrcOk (corrupted frame error) (corrupted frame error).length = false := by
  obtain ⟨hlow, hhigh⟩ := hframe.length_bounds
  have hsame : (corrupted frame error).length = frame.length := by
    rw [corrupted, List.length_zipWith, hflips.length, Nat.min_self]
  have herror := not_dvd_few (by rw [hflips.length]; exact hhigh) hflips.flips
  refine Bool.eq_false_of_not_eq_true fun hok => herror ?_
  have hcorrupted := (rtcmCrcOk_iff_dvd (by omega)).mp hok
  rw [corrupted_message hflips.length] at hcorrupted
  exact (dvd_add_right ((rtcmCrcOk_iff_dvd (by omega)).mp hframe.crc_ok)).mp hcorrupted

/-- A frame of any length with an odd number of its bits flipped, or with two,
wherever they are, does not pass the CRC check and is never published, whatever
state the splitter is in when it is fed and whatever chunks it is fed in. -/
theorem few_flips_always_caught {frame error : List UInt8} (hframe : RtcmFrame frame)
    (hflips : FewFlips frame error) :
    crc24q (corrupted frame error) ((corrupted frame error).length - 3) ≠
        rtcmReceived (corrupted frame error) (corrupted frame error).length ∧
      ∀ (memory : splitter_t UInt8) (fed : Reader UInt8),
        Reach readerStep Anywhere (readerStart memory) fed → ∀ chunks : List (List UInt8),
          ∃ s' events, splitterProcessChunks fed.splitter chunks = some (s', events) ∧
            corrupted frame error ∉ published events := by
  have hwrong := few_flips_crc_wrong hframe hflips
  constructor
  · intro heq
    rw [rtcmCrcOk, heq, beq_self_eq_true] at hwrong
    cases hwrong
  · intro memory fed hfed chunks
    obtain ⟨s', events, hprocess, hframes⟩ :=
      splitterProcessChunks_crc (reader_valid hfed) chunks
    refine ⟨s', events, hprocess, fun hmem => ?_⟩
    rw [hframes _ hmem] at hwrong
    cases hwrong

theorem shortestFrame_rtcm : RtcmFrame shortestFrame := ⟨rfl, rfl, by decide +kernel⟩

/-- The first bit of the header and two of the CRC are flipped. -/
theorem few_flips_always_caught_of_three :
    crc24q [0x53, 0x00, 0x01, 0x00, 0x0A, 0x18, 0x8E] 4 ≠
        rtcmReceived [0x53, 0x00, 0x01, 0x00, 0x0A, 0x18, 0x8E] 7 ∧
      ∃ s' events, splitterProcessChunks (splitter_init (zeroedSplitter (0 : UInt8)))
          [[0x53, 0x00], [0x01, 0x00, 0x0A, 0x18, 0x8E]] = some (s', events) ∧
        [0x53, 0x00, 0x01, 0x00, 0x0A, 0x18, 0x8E] ∉ published events := by
  have hflips : FewFlips shortestFrame [0x80, 0, 0, 0, 0, 0, 0x03] := ⟨rfl, by decide +kernel⟩
  obtain ⟨hcrc, hfed⟩ := few_flips_always_caught shortestFrame_rtcm hflips
  exact ⟨hcrc, hfed (zeroedSplitter 0) (readerStart (zeroedSplitter 0)) .refl _⟩

end rtkbase.gnss_uart
