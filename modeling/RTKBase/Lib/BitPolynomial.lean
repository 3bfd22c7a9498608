import Mathlib.Algebra.Field.ZMod
import Mathlib.Algebra.Polynomial.Degree.Defs
import Mathlib.Algebra.Polynomial.Inductions
import Mathlib.Data.List.GetD

namespace lib.bit_polynomial

open Polynomial

/-- Polynomials over the field of two elements. -/
abbrev Poly : Type := Polynomial (ZMod 2)

def coefficient (b : Bool) : ZMod 2 := if b then 1 else 0

@[simp] theorem coefficient_false : coefficient false = 0 := rfl

@[simp] theorem coefficient_true : coefficient true = 1 := rfl

theorem coefficient_xor (a b : Bool) : coefficient (a ^^ b) = coefficient a + coefficient b := by
  cases a <;> cases b <;> decide

/-- A sequence of bits as the coefficients of a polynomial, the first bit with
the highest power. -/
noncomputable def ofBits (bits : List Bool) : Poly :=
  bits.foldl (fun p b => X * p + C (coefficient b)) 0

@[simp] theorem ofBits_nil : ofBits [] = 0 := rfl

theorem ofBits_concat (bits : List Bool) (b : Bool) :
    ofBits (bits ++ [b]) = X * ofBits bits + C (coefficient b) := by
  simp [ofBits]

theorem ofBits_coeff (bits : List Bool) (i : Nat) :
    (ofBits bits).coeff i = coefficient (bits.reverse.getD i false) := by
  induction bits using List.reverseRecOn generalizing i with
  | nil => simp
  | append_singleton bits b ih =>
    rw [ofBits_concat, List.reverse_concat]
    cases i with
    | zero => simp
    | succ i => simp [ih]

theorem ofBits_append (bits more : List Bool) :
    ofBits (bits ++ more) = X ^ more.length * ofBits bits + ofBits more := by
  induction more using List.reverseRecOn with
  | nil => simp
  | append_singleton more b ih =>
    rw [← List.append_assoc, ofBits_concat, ofBits_concat, ih, List.length_append,
      List.length_singleton]
    ring

theorem ofBits_replicate_false (n : Nat) : ofBits (List.replicate n false) = 0 := by
  induction n with
  | zero => rfl
  | succ n ih =>
    rw [List.replicate_succ', ofBits_concat, ih, coefficient_false, C_0, mul_zero, add_zero]

theorem ofBits_degree_lt (bits : List Bool) : (ofBits bits).degree < bits.length := by
  rw [degree_lt_iff_coeff_zero]
  intro i hi
  have hnone : bits.reverse.getD i false = false :=
    List.getD_eq_default _ _ (by rwa [List.length_reverse])
  rw [ofBits_coeff, hnone, coefficient_false]

theorem ofBits_ne_zero {bits : List Bool} (hset : true ∈ bits) : ofBits bits ≠ 0 := by
  obtain ⟨i, hi, hbit⟩ := List.getElem_of_mem (List.mem_reverse.mpr hset)
  have hcoeff : (ofBits bits).coeff i = 1 := by
    rw [ofBits_coeff, List.getD_eq_getElem _ _ hi, hbit, coefficient_true]
  intro hzero
  rw [hzero, coeff_zero] at hcoeff
  exact absurd hcoeff (by decide)

/-- The bits that are set lie within `n` consecutive places. -/
def Within (n : Nat) (bits : List Bool) : Prop :=
  ∃ start, ∀ i, bits[i]? = some true → start ≤ i ∧ i < start + n

theorem Within.split {bits : List Bool} (hwithin : Within n bits) (hset : true ∈ bits) :
    ∃ before burst after, burst.length ≤ n ∧ true ∈ burst ∧
      bits = List.replicate before false ++ burst ++ List.replicate after false := by
  obtain ⟨start, hplaces⟩ := hwithin
  have hbefore : bits.take start = List.replicate (bits.take start).length false := by
    refine List.eq_replicate_iff.mpr ⟨rfl, fun b hb => ?_⟩
    obtain ⟨i, hi, rfl⟩ := List.mem_iff_getElem.mp hb
    rw [List.length_take, lt_min_iff] at hi
    rw [List.getElem_take]
    by_contra hbit
    have hplace := hplaces i (by
      rw [List.getElem?_eq_getElem hi.2, Bool.eq_true_of_not_eq_false hbit])
    omega
  have hafter : bits.drop (start + n) = List.replicate (bits.drop (start + n)).length false := by
    refine List.eq_replicate_iff.mpr ⟨rfl, fun b hb => ?_⟩
    obtain ⟨i, hi, rfl⟩ := List.mem_iff_getElem.mp hb
    rw [List.length_drop] at hi
    rw [List.getElem_drop]
    by_contra hbit
    have hplace := hplaces (start + n + i) (by
      rw [List.getElem?_eq_getElem (by omega), Bool.eq_true_of_not_eq_false hbit])
    omega
  have hbits : bits = bits.take start ++ (bits.drop start).take n ++ bits.drop (start + n) := by
    rw [List.append_assoc, ← List.drop_drop, List.take_append_drop, List.take_append_drop]
  refine ⟨(bits.take start).length, (bits.drop start).take n, (bits.drop (start + n)).length,
    List.length_take_le _ _, ?_, ?_⟩
  · rw [hbits, hbefore, hafter] at hset
    simpa using hset
  · rw [← hbefore, ← hafter]
    exact hbits

section vec

variable {w : Nat}

/-- The bits of a word, the most significant one first. -/
def vecBits (v : BitVec w) : List Bool := (List.range w).map v.getMsbD

@[simp] theorem vecBits_length (v : BitVec w) : (vecBits v).length = w := by
  simp [vecBits]

noncomputable def ofVec (v : BitVec w) : Poly := ofBits (vecBits v)

theorem ofVec_coeff (v : BitVec w) (i : Nat) :
    (ofVec v).coeff i = coefficient (v.getLsbD i) := by
  rw [ofVec, ofBits_coeff]
  by_cases hi : i < w
  · have hread : (vecBits v).reverse.getD i false = v.getMsbD (w - 1 - i) := by
      rw [List.getD_eq_getElem _ _ (by simpa using hi), List.getElem_reverse]
      simp [vecBits]
    rw [hread, BitVec.getMsbD_eq_getLsbD, show w - 1 - (w - 1 - i) = i by omega]
    simp [show w - 1 - i < w by omega]
  · rw [List.getD_eq_default _ _ (by simpa using hi), BitVec.getLsbD_of_ge v i (by omega)]

theorem ofVec_injective {v u : BitVec w} (heq : ofVec v = ofVec u) : v = u := by
  refine BitVec.eq_of_getLsbD_eq fun i _ => ?_
  have hcoeff : coefficient (v.getLsbD i) = coefficient (u.getLsbD i) := by
    rw [← ofVec_coeff, ← ofVec_coeff, heq]
  revert hcoeff
  cases v.getLsbD i <;> cases u.getLsbD i <;> decide

@[simp] theorem ofVec_zero : ofVec (0 : BitVec w) = 0 := by
  ext i
  simp [ofVec_coeff]

theorem ofVec_xor (v u : BitVec w) : ofVec (v ^^^ u) = ofVec v + ofVec u := by
  ext i
  rw [ofVec_coeff, coeff_add, ofVec_coeff, ofVec_coeff, BitVec.getLsbD_xor, coefficient_xor]

theorem ofVec_setWidth {k : Nat} (v : BitVec k) (hk : k ≤ w) :
    ofVec (v.setWidth w) = ofVec v := by
  ext i
  rw [ofVec_coeff, ofVec_coeff, BitVec.getLsbD_setWidth]
  by_cases hi : i < w
  · simp [hi]
  · simp [hi, BitVec.getLsbD_of_ge v i (by omega)]

/-- The bits from `n` on are clear. -/
def Below (n : Nat) (v : BitVec w) : Prop := ∀ i, n ≤ i → v.getLsbD i = false

theorem Below.degree_lt {n : Nat} {v : BitVec w} (hbelow : Below n v) : (ofVec v).degree < n := by
  rw [degree_lt_iff_coeff_zero]
  intro i hi
  rw [ofVec_coeff, hbelow i hi, coefficient_false]

theorem Below.xor {n : Nat} {v u : BitVec w} (hv : Below n v) (hu : Below n u) :
    Below n (v ^^^ u) := by
  intro i hi
  rw [BitVec.getLsbD_xor, hv i hi, hu i hi, Bool.xor_false]

theorem below_zero (n : Nat) : Below n (0 : BitVec w) := by
  intro i _
  simp

/-- A shift multiplies by a power of the variable, while no bit falls out. -/
theorem ofVec_shiftLeft {n k : Nat} {v : BitVec w} (hbelow : Below n v) (hroom : n + k ≤ w) :
    ofVec (v <<< k) = X ^ k * ofVec v := by
  ext i
  rw [ofVec_coeff, coeff_X_pow_mul', BitVec.getLsbD_shiftLeft]
  by_cases hk : k ≤ i
  · rw [if_pos hk, ofVec_coeff]
    by_cases hi : i < w
    · simp [hi, Nat.not_lt.mpr hk]
    · simp [hi, hbelow (i - k) (by omega)]
  · simp [hk, Nat.lt_of_not_le hk]

theorem Below.shiftLeft {n : Nat} {v : BitVec w} (hbelow : Below n v) (k : Nat) :
    Below (n + k) (v <<< k) := by
  intro i hi
  rw [BitVec.getLsbD_shiftLeft, hbelow (i - k) (by omega), Bool.and_false]

end vec

/-- A sequence of words as one polynomial, the first word in front. -/
noncomputable def message {k : Nat} (words : List (BitVec k)) : Poly :=
  ofBits (words.flatMap vecBits)

section message

variable {k : Nat}

@[simp] theorem message_nil : message ([] : List (BitVec k)) = 0 := rfl

theorem message_append (words more : List (BitVec k)) :
    message (words ++ more) = X ^ (more.length * k) * message words + message more := by
  have hlength : (more.flatMap vecBits).length = more.length * k := by simp
  rw [message, List.flatMap_append, ofBits_append, hlength]
  rfl

theorem message_singleton (v : BitVec k) : message [v] = ofVec v := by
  simp [message, ofVec]

theorem message_concat (words : List (BitVec k)) (v : BitVec k) :
    message (words ++ [v]) = X ^ k * message words + ofVec v := by
  rw [message_append, message_singleton, List.length_singleton, one_mul]

/-- Words that differ by a pattern are polynomials that differ by its polynomial. -/
theorem message_xor {words pattern : List (BitVec k)} (hlength : pattern.length = words.length) :
    message (List.zipWith (· ^^^ ·) words pattern) = message words + message pattern := by
  induction words generalizing pattern with
  | nil =>
    obtain rfl := List.length_eq_zero_iff.mp hlength
    simp
  | cons v words ih =>
    obtain ⟨u, pattern, rfl⟩ := List.exists_cons_of_length_eq_add_one hlength
    have htail : pattern.length = words.length := by simpa using hlength
    have hzip : (List.zipWith (· ^^^ ·) words pattern).length = words.length := by simp [htail]
    have hcons : ∀ (v : BitVec k) (rest : List (BitVec k)), rest.length = words.length →
        message (v :: rest) = X ^ (words.length * k) * ofVec v + message rest := by
      intro v rest hrest
      rw [← List.singleton_append, message_append, message_singleton, hrest]
    rw [List.zipWith_cons_cons, hcons _ _ hzip, hcons _ _ rfl, hcons _ _ htail, ih htail,
      ofVec_xor]
    ring

end message

end lib.bit_polynomial
