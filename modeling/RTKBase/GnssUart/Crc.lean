import Mathlib.Logic.Function.Iterate
import Mathlib.Data.List.Basic

namespace rtkbase.gnss_uart

/-- Three header bytes, at most 1023 bytes of payload, three bytes of CRC. -/
def MAX_RTCM_FRAME : Nat := 1029

def CRC24Q_POLY : BitVec 32 := 0x1864CFB

/-- One turn of the inner loop of `crc24q`. -/
def crc24qBit (crc : BitVec 32) : BitVec 32 :=
  let crc := crc <<< 1
  if crc &&& 0x1000000 ≠ 0 then crc ^^^ CRC24Q_POLY else crc

/-- One turn of the outer loop: a byte goes in at bit 16, then eight shifts. -/
def crc24qByte (crc : BitVec 32) (b : UInt8) : BitVec 32 :=
  crc24qBit^[8] (crc ^^^ (b.toBitVec.setWidth 32 <<< 16))

def crc24q (buf : List UInt8) (len : Nat) : BitVec 32 :=
  (buf.take len).foldl crc24qByte 0 &&& 0xFFFFFF

/-- The 10-bit length field of an RTCM3 header, from its second and third byte. -/
def rtcmLen (b1 b2 : UInt8) : Nat := ((b1 &&& 0x03).toNat <<< 8) ||| b2.toNat

/-- The CRC a frame of `total` bytes carries in its last three bytes. -/
def rtcmReceived (buf : List UInt8) (total : Nat) : BitVec 32 :=
  ((buf.getD (total - 3) 0).toBitVec.setWidth 32 <<< 16) |||
    ((buf.getD (total - 2) 0).toBitVec.setWidth 32 <<< 8) |||
    (buf.getD (total - 1) 0).toBitVec.setWidth 32

/-- The comparison `computed == received` at the end of a frame. -/
def rtcmCrcOk (buf : List UInt8) (total : Nat) : Bool :=
  crc24q buf (total - 3) == rtcmReceived buf total

theorem rtcmLen_lt (b1 b2 : UInt8) : rtcmLen b1 b2 < 1024 := by
  have hhigh : (b1 &&& 0x03).toNat ≤ 3 := by
    rw [UInt8.toNat_and]
    exact Nat.and_le_right
  have hlow : b2.toNat < 2 ^ 8 := b2.toNat_lt
  have hshift : (b1 &&& 0x03).toNat <<< 8 < 2 ^ 10 := by
    rw [Nat.shiftLeft_eq]
    omega
  exact Nat.or_lt_two_pow hshift (by omega)

/-- The CRC check of a frame looks at the frame's own bytes only. -/
theorem rtcmCrcOk_append {buf : List UInt8} {total : Nat} (more : List UInt8)
    (hpos : 0 < total) (hle : total ≤ buf.length) :
    rtcmCrcOk (buf ++ more) total = rtcmCrcOk buf total := by
  have hbyte : ∀ i < buf.length, (buf ++ more).getD i 0 = buf.getD i 0 := by
    intro i hi
    rw [List.getD_eq_getElem?_getD, List.getElem?_append_left hi, ← List.getD_eq_getElem?_getD]
  have hdata : (buf ++ more).take (total - 3) = buf.take (total - 3) :=
    List.take_append_of_le_length (by omega)
  unfold rtcmCrcOk crc24q rtcmReceived
  rw [hdata, hbyte _ (by omega), hbyte _ (by omega), hbyte _ (by omega)]

theorem rtcmCrcOk_take {buf : List UInt8} {total : Nat} (hpos : 0 < total)
    (hle : total ≤ buf.length) : rtcmCrcOk (buf.take total) total = rtcmCrcOk buf total := by
  have hsplit := rtcmCrcOk_append (buf.drop total) hpos (show total ≤ (buf.take total).length by simp; omega)
  rwa [List.take_append_drop, eq_comm] at hsplit

end rtkbase.gnss_uart
