import RTKBase.Lib.BitPolynomial
import Mathlib.Algebra.CharP.Two
import Mathlib.Algebra.Polynomial.Div
import Mathlib.RingTheory.Coprime.Lemmas
import Mathlib.Logic.Function.Iterate

namespace lib.remainder

open Polynomial lib.bit_polynomial

/-- A generator polynomial of degree `n` with a constant term, in a register
that has room for its top bit. -/
structure Generator (w n : Nat) where
  poly : BitVec w
  top : poly.getLsbD n = true
  above : Below (n + 1) poly
  constant : poly.getLsbD 0 = true

namespace Generator

variable {w n : Nat} (G : Generator w n)

noncomputable def divisor : Poly := ofVec G.poly

theorem fits (G : Generator w n) : n < w := by
  by_contra hnot
  have hbit := G.top
  rw [BitVec.getLsbD_of_ge _ _ (Nat.le_of_not_lt hnot)] at hbit
  cases hbit

theorem divisor_coeff_top : G.divisor.coeff n = 1 := by
  rw [divisor, ofVec_coeff, G.top, coefficient_true]

theorem divisor_degree : G.divisor.degree = n := by
  refine le_antisymm ?_ (le_degree_of_ne_zero ?_)
  · rw [degree_le_iff_coeff_zero]
    intro i hi
    rw [divisor, ofVec_coeff, G.above i (by exact_mod_cast hi), coefficient_false]
  · rw [G.divisor_coeff_top]
    decide

theorem divisor_monic : G.divisor.Monic :=
  monic_of_degree_le n G.divisor_degree.le G.divisor_coeff_top

/-- A constant term leaves no common factor with the powers of the variable. -/
theorem divisor_coprime_X : IsCoprime G.divisor X := by
  have hsplit := divX_mul_X_add G.divisor
  rw [divisor, ofVec_coeff, G.constant, coefficient_true, C_1] at hsplit
  refine ⟨1, -divX G.divisor, ?_⟩
  rw [one_mul, neg_mul, divisor]
  nth_rewrite 1 [← hsplit]
  ring

/-- One shift of the register, reduced when a bit reaches the generator's top. -/
def shift (c : BitVec w) : BitVec w :=
  if (c <<< 1).getLsbD n then (c <<< 1) ^^^ G.poly else c <<< 1

/-- A word goes in below the top bit, then the register is shifted through it. -/
def feed {k : Nat} (c : BitVec w) (v : BitVec k) : BitVec w :=
  G.shift^[k] (c ^^^ (v.setWidth w <<< (n - k)))

/-- The register `c` holds what is left of `p` after division. -/
structure Remainder (p : Poly) (c : BitVec w) : Prop where
  below : Below n c
  congruent : G.divisor ∣ p + ofVec c

theorem remainder_zero : G.Remainder 0 0 :=
  ⟨below_zero n, by rw [ofVec_zero, add_zero]; exact dvd_zero _⟩

variable {G}

section

variable {p : Poly} {c v : BitVec w}

theorem Remainder.add (hrem : G.Remainder p c) (hv : Below n v) :
    G.Remainder (p + ofVec v) (c ^^^ v) := by
  refine ⟨hrem.below.xor hv, ?_⟩
  have hsum : p + ofVec v + ofVec (c ^^^ v) = p + ofVec c := by
    rw [ofVec_xor, add_comm (ofVec c), ← add_assoc, add_assoc p, CharTwo.add_self_eq_zero,
      add_zero]
  rw [hsum]
  exact hrem.congruent

theorem Remainder.shift (hrem : G.Remainder p c) : G.Remainder (X * p) (G.shift c) := by
  have hbelow : Below (n + 1) (c <<< 1) := hrem.below.shiftLeft 1
  have hproduct : ofVec (c <<< 1) = X * ofVec c := by
    rw [ofVec_shiftLeft hrem.below G.fits, pow_one]
  have hdvd : G.divisor ∣ X * p + ofVec (c <<< 1) := by
    rw [hproduct, ← mul_add]
    exact hrem.congruent.mul_left X
  unfold Generator.shift
  split
  case isTrue hbit =>
    refine ⟨fun i hi => ?_, ?_⟩
    · rw [BitVec.getLsbD_xor]
      obtain rfl | hlt := Nat.eq_or_lt_of_le hi
      · rw [hbit, G.top, Bool.xor_self]
      · rw [hbelow i hlt, G.above i hlt, Bool.xor_self]
    · rw [ofVec_xor, ← add_assoc]
      exact dvd_add hdvd (dvd_refl _)
  case isFalse hbit =>
    refine ⟨fun i hi => ?_, hdvd⟩
    obtain rfl | hlt := Nat.eq_or_lt_of_le hi
    · exact Bool.eq_false_of_not_eq_true hbit
    · exact hbelow i hlt

theorem Remainder.shifts (hrem : G.Remainder p c) (k : Nat) :
    G.Remainder (X ^ k * p) (G.shift^[k] c) := by
  induction k with
  | zero => simpa using hrem
  | succ k ih =>
    rw [Function.iterate_succ_apply', pow_succ', mul_assoc]
    exact ih.shift

end

section

variable {k : Nat} {m : Poly} {c : BitVec w}

/-- Feeding a word takes the remainder of a message on to the message with the
word behind it, both with room for the remainder itself. -/
theorem Remainder.feed (hk : k ≤ n) (hrem : G.Remainder (X ^ n * m) c) (v : BitVec k) :
    G.Remainder (X ^ n * (X ^ k * m + ofVec v)) (G.feed c v) := by
  have hword : Below k (v.setWidth w) := by
    intro i hi
    rw [BitVec.getLsbD_setWidth, BitVec.getLsbD_of_ge v i hi, Bool.and_false]
  have hfits := G.fits
  have hplaced : Below n (v.setWidth w <<< (n - k)) := by
    have hshifted := hword.shiftLeft (n - k)
    rwa [Nat.add_sub_cancel' hk] at hshifted
  have hproduct : ofVec (v.setWidth w <<< (n - k)) = X ^ (n - k) * ofVec v := by
    rw [ofVec_shiftLeft hword (by omega), ofVec_setWidth v (by omega)]
  have hpower : (X : Poly) ^ n = X ^ k * X ^ (n - k) := by rw [← pow_add, Nat.add_sub_cancel' hk]
  have hfed := (hrem.add hplaced).shifts k
  rw [hproduct] at hfed
  have hsum : X ^ n * (X ^ k * m + ofVec v) =
      X ^ k * (X ^ n * m + X ^ (n - k) * ofVec v) := by
    rw [hpower]
    ring
  rw [hsum]
  exact hfed

variable (G) in
/-- Words fed one after another leave the remainder of their message. -/
theorem remainder_foldl (hk : k ≤ n) (words : List (BitVec k)) :
    G.Remainder (X ^ n * message words) (words.foldl G.feed 0) := by
  induction words using List.reverseRecOn with
  | nil => simpa using G.remainder_zero
  | append_singleton words v ih =>
    rw [List.foldl_concat, message_concat]
    exact ih.feed hk v

end

section

variable {p : Poly} {c : BitVec w}

theorem Remainder.eq_modByMonic (hrem : G.Remainder p c) : ofVec c = p %ₘ G.divisor := by
  obtain ⟨q, hq⟩ := hrem.congruent
  have hdivision : ofVec c + G.divisor * q = p := by
    rw [← hq, add_comm p, ← add_assoc, CharTwo.add_self_eq_zero, zero_add]
  have hdegree : (ofVec c).degree < G.divisor.degree := by
    rw [G.divisor_degree]
    exact hrem.below.degree_lt
  exact (div_modByMonic_unique q (ofVec c) G.divisor_monic ⟨hdivision, hdegree⟩).2.symm

/-- Two remainders of one polynomial are the same register. -/
theorem Remainder.unique {c' : BitVec w} (hrem : G.Remainder p c) (hrem' : G.Remainder p c') :
    c = c' :=
  ofVec_injective (hrem.eq_modByMonic.trans hrem'.eq_modByMonic.symm)

/-- A message followed by its remainder is a multiple of the generator, and
followed by anything else it is not. -/
theorem Remainder.eq_iff_dvd {v : BitVec w} (hrem : G.Remainder p c) (hv : Below n v) :
    c = v ↔ G.divisor ∣ p + ofVec v := by
  constructor
  · rintro rfl
    exact hrem.congruent
  · intro hdvd
    exact hrem.unique ⟨hv, hdvd⟩

end

variable (G) in
theorem not_dvd_burst {burst : List Bool} (hlength : burst.length ≤ n) (hset : true ∈ burst)
    (before after : Nat) :
    ¬ G.divisor ∣
      ofBits (List.replicate before false ++ burst ++ List.replicate after false) := by
  have hbits : ofBits (List.replicate before false ++ burst ++ List.replicate after false) =
      X ^ after * ofBits burst := by
    rw [ofBits_append, ofBits_append, ofBits_replicate_false, ofBits_replicate_false,
      List.length_replicate, mul_zero, zero_add, add_zero]
  rw [hbits]
  intro hdvd
  have hdvd' : G.divisor ∣ ofBits burst := 
    G.divisor_coprime_X.pow_right.dvd_of_dvd_mul_left hdvd
  have hdegree : (ofBits burst).degree < G.divisor.degree := by
    rw [G.divisor_degree]
    exact (ofBits_degree_lt burst).trans_le (by exact_mod_cast hlength)
  exact G.divisor_monic.not_dvd_of_degree_lt (ofBits_ne_zero hset) hdegree hdvd'

variable (G) in
/-- A burst no longer than the degree is not a multiple of the generator. -/
theorem not_dvd_within {bits : List Bool} (hwithin : Within n bits) (hset : true ∈ bits) :
    ¬ G.divisor ∣ ofBits bits := by
  obtain ⟨before, burst, after, hlength, hburst, rfl⟩ := hwithin.split hset
  exact G.not_dvd_burst hlength hburst before after

end Generator

end lib.remainder
