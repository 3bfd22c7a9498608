import RTKBase.GnssUart.Crc
import RTKBase.Lib.Remainder

open lib.bit_polynomial lib.remainder

namespace rtkbase.gnss_uart

theorem below_of_toNat_lt {w n : Nat} {v : BitVec w} (hlt : v.toNat < 2 ^ n) : Below n v := by
  intro i hi
  exact Nat.testBit_lt_two_pow (hlt.trans_le (Nat.pow_le_pow_right (by omega) hi))

/-- `CRC24Q_POLY` with the register that `crc24q` shifts it through. -/
def crc24qGenerator : Generator 32 24 where
  poly := CRC24Q_POLY
  top := by decide
  above := below_of_toNat_lt (by decide)
  constant := by decide

theorem crc24qBit_eq (crc : BitVec 32) : crc24qBit crc = crc24qGenerator.shift crc := by
  have hmask : (0x1000000 : BitVec 32) = BitVec.twoPow 32 24 := by decide
  have htest : (crc <<< 1) &&& 0x1000000 ≠ 0 ↔ (crc <<< 1).getLsbD 24 = true := by
    rw [hmask, BitVec.and_twoPow]
    split
    case isTrue hbit => exact iff_of_true (by decide) hbit
    case isFalse hbit => exact iff_of_false (not_not.mpr rfl) hbit
  unfold crc24qBit Generator.shift
  exact if_congr htest rfl rfl

theorem crc24qByte_eq (crc : BitVec 32) (b : UInt8) :
    crc24qByte crc b = crc24qGenerator.feed crc b.toBitVec := by
  unfold crc24qByte Generator.feed
  rw [funext crc24qBit_eq]

/-- The bytes of a frame as one polynomial, the first byte in front. -/
noncomputable def frameMessage (bytes : List UInt8) : Poly := message (bytes.map UInt8.toBitVec)

/-- Nothing is left above bit 23, so that the last mask of `crc24q` is idle. -/
theorem below_and_mask {crc : BitVec 32} (hbelow : Below 24 crc) : crc &&& 0xFFFFFF = crc := by
  have hmask : (0xFFFFFF : BitVec 32) = (BitVec.allOnes 24).setWidth 32 := by decide
  refine BitVec.eq_of_getLsbD_eq fun i hi => ?_
  rw [BitVec.getLsbD_and, hmask, BitVec.getLsbD_setWidth, BitVec.getLsbD_allOnes]
  by_cases hlow : i < 24
  · simp [hi, hlow]
  · simp [hbelow i (by omega)]

/-- `crc24q` computes the remainder of the bytes, with three zero bytes behind
them, whatever their number is. -/
theorem crc24q_remainder (buf : List UInt8) (len : Nat) :
    crc24qGenerator.Remainder (Polynomial.X ^ 24 * frameMessage (buf.take len))
      (crc24q buf len) := by
  have hfold : (buf.take len).foldl crc24qByte 0 =
      ((buf.take len).map UInt8.toBitVec).foldl crc24qGenerator.feed 0 := by
    rw [List.foldl_map, funext fun crc => funext (crc24qByte_eq crc)]
  have hrem := crc24qGenerator.remainder_foldl (k := 8) (by omega)
    ((buf.take len).map UInt8.toBitVec)
  rw [← hfold] at hrem
  rw [crc24q, below_and_mask hrem.below]
  exact hrem

/-- The three CRC bytes do not overlap in the received value. -/
theorem received_eq_xor (a b c : BitVec 8) :
    (a.setWidth 32 <<< 16) ||| (b.setWidth 32 <<< 8) ||| c.setWidth 32 =
      (a.setWidth 32 <<< 16) ^^^ (b.setWidth 32 <<< 8) ^^^ c.setWidth 32 := by
  refine BitVec.eq_of_getLsbD_eq fun i hi => ?_
  simp only [BitVec.getLsbD_or, BitVec.getLsbD_xor, BitVec.getLsbD_shiftLeft,
    BitVec.getLsbD_setWidth]
  by_cases hlow : i < 8
  · simp [hlow, show i < 16 by omega]
  · rw [BitVec.getLsbD_of_ge c i (by omega)]
    by_cases hmiddle : i < 16
    · simp [hmiddle]
    · rw [BitVec.getLsbD_of_ge b (i - 8) (by omega)]
      simp

theorem rtcmReceived_message (data : List UInt8) (a b c : UInt8) :
    Below 24 (rtcmReceived (data ++ [a, b, c]) (data.length + 3)) ∧
      ofVec (rtcmReceived (data ++ [a, b, c]) (data.length + 3)) = frameMessage [a, b, c] := by
  have hreceived : rtcmReceived (data ++ [a, b, c]) (data.length + 3) =
      (a.toBitVec.setWidth 32 <<< 16) ^^^ (b.toBitVec.setWidth 32 <<< 8) ^^^
        c.toBitVec.setWidth 32 := by
    have hget : ∀ i < 3, (data ++ [a, b, c]).getD (data.length + i) 0 = [a, b, c].getD i 0 := by
      intro i _
      rw [List.getD_append_right _ _ _ _ (by omega), Nat.add_sub_cancel_left]
    rw [← received_eq_xor, rtcmReceived, show data.length + 3 - 3 = data.length + 0 by omega,
      show data.length + 3 - 2 = data.length + 1 by omega,
      show data.length + 3 - 1 = data.length + 2 by omega, hget 0 (by omega), hget 1 (by omega),
      hget 2 (by omega)]
    rfl
  have hbyte : ∀ v : BitVec 8, Below 8 (v.setWidth 32) := by
    intro v i hi
    rw [BitVec.getLsbD_setWidth, BitVec.getLsbD_of_ge v i hi, Bool.and_false]
  have hplaced : ∀ (v : BitVec 8) (k : Nat), 8 + k ≤ 24 → Below 24 (v.setWidth 32 <<< k) := by
    intro v k hk i hi
    exact (hbyte v).shiftLeft k i (by omega)
  rw [hreceived]
  constructor
  · refine ((hplaced _ 16 (by omega)).xor (hplaced _ 8 (by omega))).xor ?_
    exact fun i hi => hbyte _ i (by omega)
  · have hmessage : frameMessage [a, b, c] = Polynomial.X ^ 16 * ofVec a.toBitVec +
        Polynomial.X ^ 8 * ofVec b.toBitVec + ofVec c.toBitVec := by
      have hcat : [a, b, c].map UInt8.toBitVec =
          [] ++ [a.toBitVec] ++ [b.toBitVec] ++ [c.toBitVec] := rfl
      rw [frameMessage, hcat, message_concat, message_concat, message_concat, message_nil]
      ring
    rw [ofVec_xor, ofVec_xor, ofVec_shiftLeft (hbyte _) (by omega),
      ofVec_shiftLeft (hbyte _) (by omega), ofVec_setWidth _ (by omega),
      ofVec_setWidth _ (by omega), ofVec_setWidth _ (by omega), hmessage]

/-- The check at the end of a frame accepts the multiples of the generator. -/
theorem rtcmCrcOk_iff_dvd {frame : List UInt8} (hlength : 3 ≤ frame.length) :
    rtcmCrcOk frame frame.length = true ↔ crc24qGenerator.divisor ∣ frameMessage frame := by
  obtain ⟨data, a, b, c, rfl⟩ : ∃ data a b c, frame = data ++ [a, b, c] := by
    have hdrop : (frame.drop (frame.length - 3)).length = 3 := by rw [List.length_drop]; omega
    obtain ⟨a, b, c, habc⟩ := List.length_eq_three.mp hdrop
    exact ⟨frame.take (frame.length - 3), a, b, c, by rw [← habc, List.take_append_drop]⟩
  have htotal : (data ++ [a, b, c]).length = data.length + 3 := by simp
  have htake : (data ++ [a, b, c]).take (data.length + 3 - 3) = data := by simp
  obtain ⟨hbelow, hreceived⟩ := rtcmReceived_message data a b c
  have hrem := crc24q_remainder (data ++ [a, b, c]) (data.length + 3 - 3)
  rw [htake] at hrem
  have hmessage : frameMessage (data ++ [a, b, c]) =
      Polynomial.X ^ 24 * frameMessage data + frameMessage [a, b, c] := by
    rw [frameMessage, List.map_append, message_append]
    rfl
  rw [htotal, rtcmCrcOk, beq_iff_eq, hrem.eq_iff_dvd hbelow, hreceived, hmessage]

end rtkbase.gnss_uart
