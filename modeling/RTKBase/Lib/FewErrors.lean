import RTKBase.Lib.Remainder
import Mathlib.Algebra.Polynomial.Eval.Defs
import Mathlib.Algebra.Polynomial.Eval.Degree

namespace lib.bit_polynomial

open Polynomial

/-- At one a sequence of bits has the parity of the bits that are set. -/
theorem ofBits_eval_one (bits : List Bool) : (ofBits bits).eval 1 = (bits.count true : ZMod 2) := by
  induction bits using List.reverseRecOn with
  | nil => simp
  | append_singleton bits b ih =>
    rw [ofBits_concat, eval_add, eval_mul, eval_X, eval_C, one_mul, ih, List.count_append]
    cases b <;> simp

theorem ofBits_singleton_true : ofBits [true] = 1 := by
  simp [ofBits]

theorem ofVec_one {w : Nat} (hw : 0 < w) : ofVec 1#w = 1 := by
  ext i
  rw [ofVec_coeff, BitVec.getLsbD_one, coeff_one]
  by_cases hi : i = 0
  · simp [hi, hw]
  · simp [hi]

theorem exists_first {bits : List Bool} (hset : true ∈ bits) :
    ∃ before rest, bits = List.replicate before false ++ true :: rest := by
  induction bits with
  | nil => cases hset
  | cons b bits ih =>
    cases b with
    | true => exact ⟨0, bits, rfl⟩
    | false =>
      obtain ⟨before, rest, hrest⟩ := ih (by simpa using hset)
      exact ⟨before + 1, rest, by rw [List.replicate_succ, hrest, List.cons_append]⟩

/-- Two bits that are set, and the places between and around them. -/
theorem pair_split {bits : List Bool} (hpair : bits.count true = 2) :
    ∃ before between after, bits = List.replicate before false ++
      ([true] ++ (List.replicate between false ++ ([true] ++ List.replicate after false))) := by
  have hset : true ∈ bits := List.count_pos_iff.mp (by rw [hpair]; decide)
  obtain ⟨before, rest, rfl⟩ := exists_first hset
  have hone : rest.count true = 1 := by
    simpa [List.count_replicate] using hpair
  have hset' : true ∈ rest := List.count_pos_iff.mp (by rw [hone]; decide)
  obtain ⟨between, last, rfl⟩ := exists_first hset'
  have hnone : last.count true = 0 := by
    simpa [List.count_replicate] using hone
  have hlast : last = List.replicate last.length false := by
    refine List.eq_replicate_iff.mpr ⟨rfl, fun b hb => ?_⟩
    cases b with
    | false => rfl
    | true => exact absurd hb (List.count_eq_zero.mp hnone)
  exact ⟨before, between, last.length, by rw [← hlast]; rfl⟩

end lib.bit_polynomial

namespace lib.remainder

open Polynomial lib.bit_polynomial

namespace Generator

variable {w n : Nat} (G : Generator w n)

/-- With an even number of its bits set, a generator divides no odd number of
errors. -/
theorem not_dvd_odd (heven : (vecBits G.poly).count true % 2 = 0) {bits : List Bool}
    (hodd : bits.count true % 2 = 1) : ¬ G.divisor ∣ ofBits bits := by
  rintro ⟨q, hq⟩
  have hroot : G.divisor.eval 1 = 0 := by
    rw [divisor, ofVec, ofBits_eval_one, ZMod.natCast_eq_zero_iff]
    exact Nat.dvd_of_mod_eq_zero heven
  have hvalue := congrArg (Polynomial.eval 1) hq
  rw [eval_mul, hroot, zero_mul, ofBits_eval_one, ZMod.natCast_eq_zero_iff] at hvalue
  omega

/-- From `c` on the register goes through `k` shifts and is never one. Its number
is taken apart at each shift, so that it is computed before the next. -/
def avoidsOne : Nat → Nat → Bool
  | 0, _ => true
  | k + 1, c =>
    match (G.shift (BitVec.ofNat w c)).toNat with
    | 0 => false
    | c + 1 => c != 0 && avoidsOne k (c + 1)

variable {G}

theorem shift_ne_one_of_avoids {k : Nat} {c : BitVec w} (havoids : G.avoidsOne k c.toNat = true)
    {j : Nat} (hpos : 0 < j) (hj : j ≤ k) : G.shift^[j] c ≠ 1#w := by
  induction k generalizing c j with
  | zero => omega
  | succ k ih =>
    unfold avoidsOne at havoids
    rw [BitVec.ofNat_toNat, BitVec.setWidth_eq] at havoids
    split at havoids
    case h_1 => cases havoids
    case h_2 c' hshift =>
      rw [Bool.and_eq_true, bne_iff_ne, ← Nat.succ_eq_add_one, ← hshift] at havoids
      obtain ⟨hnonzero, hrest⟩ := havoids
      obtain ⟨j, rfl⟩ := Nat.exists_eq_succ_of_ne_zero (Nat.pos_iff_ne_zero.mp hpos)
      rw [Nat.succ_eq_add_one, Function.iterate_succ_apply]
      obtain rfl | hmore := Nat.eq_zero_or_pos j
      · intro hone
        rw [Function.iterate_zero_apply] at hone
        have hword : (1#w).toNat ≤ 1 := by
          simpa using Nat.mod_le 1 (2 ^ w)
        rw [hone] at hshift
        omega
      · exact ih hrest hmore (by omega)

variable (G) in
theorem remainder_one (hn : 0 < n) : G.Remainder 1 1#w := by
  have hw : 0 < w := Nat.zero_lt_of_lt G.fits
  refine ⟨fun i hi => ?_, ?_⟩
  · rw [BitVec.getLsbD_one]
    simp [show i ≠ 0 by omega]
  · rw [ofVec_one hw, CharTwo.add_self_eq_zero]
    exact dvd_zero _

variable (G) in
/-- While the powers of the variable do not come back to one, a generator divides
no two errors at their distance. -/
theorem not_dvd_pair (hn : 0 < n) {k : Nat} (havoids : G.avoidsOne k 1 = true) {bits : List Bool}
    (hlength : bits.length ≤ k + 1) (hpair : bits.count true = 2) : ¬ G.divisor ∣ ofBits bits := by
  have hw : 0 < w := Nat.zero_lt_of_lt G.fits
  obtain ⟨before, between, after, rfl⟩ := pair_split hpair
  have hbits : ofBits (List.replicate before false ++
      ([true] ++ (List.replicate between false ++ ([true] ++ List.replicate after false)))) =
        X ^ after * (X ^ (between + 1) + 1) := by
    simp only [ofBits_append, ofBits_replicate_false, ofBits_singleton_true, List.length_append,
      List.length_replicate, List.length_singleton]
    ring
  rw [hbits]
  intro hdvd
  have hdvd' : G.divisor ∣ X ^ (between + 1) + 1 :=
    G.divisor_coprime_X.pow_right.dvd_of_dvd_mul_left hdvd
  have hrem := (G.remainder_one hn).shifts (between + 1)
  have hone : Below n 1#w := (G.remainder_one hn).below
  have hback : G.shift^[between + 1] 1#w = 1#w := by
    rw [hrem.eq_iff_dvd hone, ofVec_one hw, mul_one]
    exact hdvd'
  have hword : (1#w).toNat = 1 := by
    simpa using Nat.mod_eq_of_lt (Nat.one_lt_two_pow hw.ne')
  refine shift_ne_one_of_avoids (k := k) (by rwa [hword]) (Nat.succ_pos between) ?_ hback
  simp only [List.length_append, List.length_replicate, List.length_singleton] at hlength
  omega

end Generator

end lib.remainder
