import RTKBase.Lib.CString

namespace lib.base64

open lib.cstring

def pad : UInt8 := 61

/-- The character for six bits. -/
def character (n : Nat) : UInt8 :=
  if n < 26 then UInt8.ofNat (n + 65)
  else if n < 52 then UInt8.ofNat (n + 71)
  else if n < 62 then UInt8.ofNat (n - 4)
  else if n = 62 then 43 else 47

/-- The six bits of a character. -/
def sextet (c : UInt8) : Option Nat :=
  if 65 ≤ c ∧ c ≤ 90 then some (c.toNat - 65)
  else if 97 ≤ c ∧ c ≤ 122 then some (c.toNat - 71)
  else if 48 ≤ c ∧ c ≤ 57 then some (c.toNat + 4)
  else if c = 43 then some 62
  else if c = 47 then some 63
  else none

def encode : List UInt8 → List UInt8
  | [] => []
  | [a] => [character (a.toNat / 4), character (a.toNat % 4 * 16), pad, pad]
  | [a, b] =>
    [character (a.toNat / 4), character (a.toNat % 4 * 16 + b.toNat / 16),
      character (b.toNat % 16 * 4), pad]
  | a :: b :: c :: rest =>
    character (a.toNat / 4) :: character (a.toNat % 4 * 16 + b.toNat / 16) ::
      character (b.toNat % 16 * 4 + c.toNat / 64) :: character (c.toNat % 64) :: encode rest

/-- The bytes of a group of four characters, of which the last ones may be
missing. Bits behind the last byte are ignored. -/
def decodeOne (w x : UInt8) : Option (List UInt8) := do
  let w ← sextet w
  let x ← sextet x
  return [UInt8.ofNat (w * 4 + x / 16)]

def decodeTwo (w x y : UInt8) : Option (List UInt8) := do
  let first ← decodeOne w x
  let x ← sextet x
  let y ← sextet y
  return first ++ [UInt8.ofNat (x % 16 * 16 + y / 4)]

def decodeThree (w x y z : UInt8) : Option (List UInt8) := do
  let first ← decodeTwo w x y
  let y ← sextet y
  let z ← sextet z
  return first ++ [UInt8.ofNat (y % 4 * 64 + z)]

/-- The last group of a text may be padded. -/
def decodeLast (w x y z : UInt8) : Option (List UInt8) :=
  if z = pad then
    if y = pad then decodeOne w x else decodeTwo w x y
  else decodeThree w x y z

def decode : List UInt8 → Option (List UInt8)
  | [] => some []
  | [w, x, y, z] => decodeLast w x y z
  | w :: x :: y :: z :: rest => do
    let first ← decodeThree w x y z
    let others ← decode rest
    return first ++ others
  | _ => none

theorem sextet_character {n : Nat} (hn : n < 64) : sextet (character n) = some n := by
  have hall : ∀ n < 64, sextet (character n) = some n := by decide +kernel
  exact hall n hn

theorem character_ne_pad (n : Nat) : character n ≠ pad := by
  intro heq
  have hn : n < 64 := by
    by_contra hn
    have hslash : character n = 47 := by
      unfold character
      rw [if_neg (by omega), if_neg (by omega), if_neg (by omega), if_neg (by omega)]
    rw [hslash] at heq
    exact absurd heq (by decide)
  have hsome := sextet_character hn
  rw [heq] at hsome
  cases hsome

theorem ofNat_eq {a : UInt8} {n : Nat} (h : n = a.toNat) : UInt8.ofNat n = a := by
  rw [h, UInt8.ofNat_toNat]

theorem decodeOne_character {a : UInt8} {m : Nat} (hm : m < 16) :
    decodeOne (character (a.toNat / 4)) (character (a.toNat % 4 * 16 + m)) = some [a] := by
  have ha := a.toNat_lt
  have hbyte : UInt8.ofNat (a.toNat / 4 * 4 + (a.toNat % 4 * 16 + m) / 16) = a :=
    ofNat_eq (by omega)
  unfold decodeOne
  rw [sextet_character (by omega), sextet_character (by omega)]
  simp only [Option.bind_eq_bind, Option.bind_some, Option.pure_def, hbyte]

theorem decodeTwo_character {a b : UInt8} {m : Nat} (hm : m < 4) :
    decodeTwo (character (a.toNat / 4)) (character (a.toNat % 4 * 16 + b.toNat / 16))
      (character (b.toNat % 16 * 4 + m)) = some [a, b] := by
  have hb := b.toNat_lt
  have hbyte : UInt8.ofNat ((a.toNat % 4 * 16 + b.toNat / 16) % 16 * 16 +
      (b.toNat % 16 * 4 + m) / 4) = b :=
    ofNat_eq (by omega)
  unfold decodeTwo
  rw [decodeOne_character (by omega), sextet_character (by omega), sextet_character (by omega)]
  simp only [Option.bind_eq_bind, Option.bind_some, Option.pure_def, List.cons_append,
    List.nil_append, hbyte]

theorem decodeThree_character (a b c : UInt8) :
    decodeThree (character (a.toNat / 4)) (character (a.toNat % 4 * 16 + b.toNat / 16))
      (character (b.toNat % 16 * 4 + c.toNat / 64)) (character (c.toNat % 64)) =
      some [a, b, c] := by
  have hc := c.toNat_lt
  have hbyte : UInt8.ofNat ((b.toNat % 16 * 4 + c.toNat / 64) % 4 * 64 + c.toNat % 64) = c :=
    ofNat_eq (by omega)
  unfold decodeThree
  rw [decodeTwo_character (by omega), sextet_character (by omega), sextet_character (by omega)]
  simp only [Option.bind_eq_bind, Option.bind_some, Option.pure_def, List.cons_append,
    List.nil_append, hbyte]

/-- Decoding an encoded text gives it back. -/
theorem decode_encode (src : List UInt8) : decode (encode src) = some src := by
  fun_induction encode src with
  | case1 => rfl
  | case2 a =>
    have hone := decodeOne_character (a := a) (m := 0) (by omega)
    simpa [decode, decodeLast] using hone
  | case3 a b =>
    have htwo := decodeTwo_character (a := a) (b := b) (m := 0) (by omega)
    simpa [decode, decodeLast, character_ne_pad] using htwo
  | case4 a b c rest ih =>
    cases hrest : encode rest with
    | nil =>
      rw [hrest] at ih
      cases ih
      simp [decode, decodeLast, character_ne_pad, decodeThree_character]
    | cons d tail =>
      rw [hrest] at ih
      simp [decode, decodeThree_character, ih]

theorem encode_length (src : List UInt8) : (encode src).length = 4 * ((src.length + 2) / 3) := by
  fun_induction encode src with
  | case1 => rfl
  | case2 a => simp
  | case3 a b => simp
  | case4 a b c rest ih =>
    simp only [List.length_cons, ih]
    omega

theorem character_printable (n : Nat) : 43 ≤ character n := by
  by_cases hn : n < 64
  · have hall : ∀ n < 64, 43 ≤ character n := by decide +kernel
    exact hall n hn
  · unfold character
    rw [if_neg (by omega), if_neg (by omega), if_neg (by omega), if_neg (by omega)]
    decide

/-- An encoded text has no control characters. -/
theorem encode_printable {src : List UInt8} {b : UInt8} (hb : b ∈ encode src) : 43 ≤ b := by
  have hpad : 43 ≤ pad := by decide
  fun_induction encode src with
  | case1 => cases hb
  | case2 a =>
    simp only [List.mem_cons, List.not_mem_nil, or_false] at hb
    obtain rfl | rfl | rfl | rfl := hb <;> first | exact character_printable _ | exact hpad
  | case3 a c =>
    simp only [List.mem_cons, List.not_mem_nil, or_false] at hb
    obtain rfl | rfl | rfl | rfl := hb <;> first | exact character_printable _ | exact hpad
  | case4 a c d rest ih =>
    simp only [List.mem_cons] at hb
    obtain rfl | rfl | rfl | rfl | hrest := hb
    · exact character_printable _
    · exact character_printable _
    · exact character_printable _
    · exact character_printable _
    · exact ih hrest

theorem decodeOne_length {w x : UInt8} {bytes : List UInt8} (hdecode : decodeOne w x = some bytes) :
    bytes.length = 1 := by
  simp only [decodeOne, Option.bind_eq_bind, Option.bind_eq_some_iff, Option.pure_def,
    Option.some.injEq] at hdecode
  obtain ⟨_, _, _, _, rfl⟩ := hdecode
  rfl

theorem decodeTwo_length {w x y : UInt8} {bytes : List UInt8}
    (hdecode : decodeTwo w x y = some bytes) : bytes.length = 2 := by
  simp only [decodeTwo, Option.bind_eq_bind, Option.bind_eq_some_iff, Option.pure_def,
    Option.some.injEq] at hdecode
  obtain ⟨first, hfirst, _, _, _, _, rfl⟩ := hdecode
  rw [List.length_append, decodeOne_length hfirst]
  rfl

theorem decodeThree_length {w x y z : UInt8} {bytes : List UInt8}
    (hdecode : decodeThree w x y z = some bytes) : bytes.length = 3 := by
  simp only [decodeThree, Option.bind_eq_bind, Option.bind_eq_some_iff, Option.pure_def,
    Option.some.injEq] at hdecode
  obtain ⟨first, hfirst, _, _, _, _, rfl⟩ := hdecode
  rw [List.length_append, decodeTwo_length hfirst]
  rfl

/-- Every group of four characters gives three bytes at most. -/
theorem decode_length {text bytes : List UInt8} (hdecode : decode text = some bytes) :
    bytes.length ≤ text.length / 4 * 3 := by
  fun_induction decode text generalizing bytes with
  | case1 =>
    cases hdecode
    exact Nat.le_refl 0
  | case2 w x y z =>
    have hgroup : [w, x, y, z].length / 4 * 3 = 3 := by simp
    unfold decodeLast at hdecode
    rw [hgroup]
    split at hdecode
    case isTrue =>
      split at hdecode
      case isTrue => exact decodeOne_length hdecode ▸ (by decide : 1 ≤ 3)
      case isFalse => exact decodeTwo_length hdecode ▸ (by decide : 2 ≤ 3)
    case isFalse => exact Nat.le_of_eq (decodeThree_length hdecode)
  | case3 w x y z rest _ ih =>
    simp only [Option.bind_eq_bind, Option.bind_eq_some_iff, Option.pure_def,
      Option.some.injEq] at hdecode
    obtain ⟨first, hfirst, others, hothers, rfl⟩ := hdecode
    have hrest := ih hothers
    simp only [List.length_append, List.length_cons, decodeThree_length hfirst]
    omega
  | case4 => cases hdecode

theorem sextet_lt {c : UInt8} {n : Nat} (hsextet : sextet c = some n) : n < 64 := by
  have hall : ∀ m < 256, ∀ n ∈ sextet (UInt8.ofNat m), n < 64 := by decide +kernel
  have hc := hall c.toNat c.toNat_lt
  rw [UInt8.ofNat_toNat] at hc
  exact hc n hsextet

/-- Changing the case of a letter changes its six bits by 26. -/
theorem sextet_tolower (c : UInt8) :
    tolower c = c ∨ tolower c = c + 32 ∧ sextet (tolower c) = (sextet c).map (· + 26) := by
  have hall : ∀ m < 256, tolower (UInt8.ofNat m) = UInt8.ofNat m ∨
      tolower (UInt8.ofNat m) = UInt8.ofNat m + 32 ∧
        sextet (tolower (UInt8.ofNat m)) = (sextet (UInt8.ofNat m)).map (· + 26) := by
    decide +kernel
  have hc := hall c.toNat c.toNat_lt
  rwa [UInt8.ofNat_toNat] at hc

theorem eq_pad_of_tolower {c : UInt8} (hcase : tolower c = tolower pad) : c = pad := by
  have hall : ∀ m < 256, tolower (UInt8.ofNat m) = tolower pad → UInt8.ofNat m = pad := by
    decide +kernel
  have hc := hall c.toNat c.toNat_lt
  rw [UInt8.ofNat_toNat] at hc
  exact hc hcase

/-- Two characters that agree up to case are the same, or their six bits differ
by 26. -/
theorem sextet_of_same_letter {c d : UInt8} {m n : Nat} (hcase : tolower c = tolower d)
    (hm : sextet c = some m) (hn : sextet d = some n) :
    c = d ∧ m = n ∨ m = n + 26 ∨ n = m + 26 := by
  cases sextet_tolower c with
  | inl hc =>
    cases sextet_tolower d with
    | inl hd =>
      obtain rfl : c = d := by rw [← hc, hcase, hd]
      rw [hm] at hn
      cases hn
      exact .inl ⟨rfl, rfl⟩
    | inr hd =>
      have hsum := hd.2
      rw [← hcase, hc, hm, hn] at hsum
      exact .inr (.inl (Option.some.inj hsum))
  | inr hc =>
    cases sextet_tolower d with
    | inl hd =>
      have hsum := hc.2
      rw [hcase, hd, hm, hn] at hsum
      exact .inr (.inr (Option.some.inj hsum))
    | inr hd =>
      have hsum : c + 32 = d + 32 := by rw [← hc.1, hcase, hd.1]
      obtain rfl := UInt8.add_left_inj 32 |>.mp hsum
      rw [hm] at hn
      cases hn
      exact .inl ⟨rfl, rfl⟩

theorem ofNat_inj {m n : Nat} (hm : m < 256) (hn : n < 256)
    (heq : UInt8.ofNat m = UInt8.ofNat n) : m = n := by
  have htoNat := congrArg UInt8.toNat heq
  simp only [UInt8.toNat_ofNat'] at htoNat
  omega

theorem decodeOne_some {w x : UInt8} {bytes : List UInt8} (hdecode : decodeOne w x = some bytes) :
    ∃ m n, sextet w = some m ∧ sextet x = some n ∧ bytes = [UInt8.ofNat (m * 4 + n / 16)] := by
  simp only [decodeOne, Option.bind_eq_bind, Option.bind_eq_some_iff, Option.pure_def,
    Option.some.injEq] at hdecode
  obtain ⟨m, hm, n, hn, rfl⟩ := hdecode
  exact ⟨m, n, hm, hn, rfl⟩

theorem decodeTwo_some {w x y : UInt8} {bytes : List UInt8}
    (hdecode : decodeTwo w x y = some bytes) :
    ∃ a m n, decodeOne w x = some [a] ∧ sextet x = some m ∧ sextet y = some n ∧
      bytes = [a, UInt8.ofNat (m % 16 * 16 + n / 4)] := by
  simp only [decodeTwo, Option.bind_eq_bind, Option.bind_eq_some_iff, Option.pure_def,
    Option.some.injEq] at hdecode
  obtain ⟨first, hfirst, m, hm, n, hn, rfl⟩ := hdecode
  obtain ⟨_, _, _, _, rfl⟩ := decodeOne_some hfirst
  exact ⟨_, m, n, hfirst, hm, hn, rfl⟩

theorem decodeThree_some {w x y z : UInt8} {bytes : List UInt8}
    (hdecode : decodeThree w x y z = some bytes) :
    ∃ a b m n, decodeTwo w x y = some [a, b] ∧ sextet y = some m ∧ sextet z = some n ∧
      bytes = [a, b, UInt8.ofNat (m % 4 * 64 + n)] := by
  simp only [decodeThree, Option.bind_eq_bind, Option.bind_eq_some_iff, Option.pure_def,
    Option.some.injEq] at hdecode
  obtain ⟨first, hfirst, m, hm, n, hn, rfl⟩ := hdecode
  obtain ⟨_, _, _, _, _, _, rfl⟩ := decodeTwo_some hfirst
  exact ⟨_, _, m, n, hfirst, hm, hn, rfl⟩

section

variable {w w' x x' y y' z z' : UInt8} {bytes : List UInt8}

theorem decodeOne_inj (hw : tolower w = tolower w') (hx : tolower x = tolower x')
    (hdecode : decodeOne w x = some bytes) (hdecode' : decodeOne w' x' = some bytes) :
    w = w' ∧ x = x' := by
  obtain ⟨m, n, hm, hn, rfl⟩ := decodeOne_some hdecode
  obtain ⟨m', n', hm', hn', hbytes⟩ := decodeOne_some hdecode'
  have hbound := sextet_lt hm
  have hbound' := sextet_lt hm'
  have hboundx := sextet_lt hn
  have hboundx' := sextet_lt hn'
  have hsum : m * 4 + n / 16 = m' * 4 + n' / 16 :=
    ofNat_inj (by omega) (by omega) (List.cons.inj hbytes).1
  have hsame := sextet_of_same_letter hw hm hm'
  have hsame' := sextet_of_same_letter hx hn hn'
  constructor
  · obtain hsame | hsame := hsame
    · exact hsame.1
    · omega
  · obtain hsame' | hsame' := hsame'
    · exact hsame'.1
    · omega

theorem decodeTwo_inj (hw : tolower w = tolower w') (hx : tolower x = tolower x')
    (hy : tolower y = tolower y') (hdecode : decodeTwo w x y = some bytes)
    (hdecode' : decodeTwo w' x' y' = some bytes) : w = w' ∧ x = x' ∧ y = y' := by
  obtain ⟨a, m, n, hone, hm, hn, rfl⟩ := decodeTwo_some hdecode
  obtain ⟨a', m', n', hone', hm', hn', hbytes⟩ := decodeTwo_some hdecode'
  simp only [List.cons.injEq, and_true] at hbytes
  obtain ⟨rfl, hsum⟩ := hbytes
  obtain ⟨rfl, rfl⟩ := decodeOne_inj hw hx hone hone'
  rw [hm] at hm'
  cases hm'
  have hbound := sextet_lt hn
  have hbound' := sextet_lt hn'
  have hsum := ofNat_inj (by omega) (by omega) hsum
  refine ⟨rfl, rfl, ?_⟩
  obtain hsame | hsame := sextet_of_same_letter hy hn hn'
  · exact hsame.1
  · omega

theorem decodeThree_inj (hw : tolower w = tolower w') (hx : tolower x = tolower x')
    (hy : tolower y = tolower y') (hz : tolower z = tolower z')
    (hdecode : decodeThree w x y z = some bytes)
    (hdecode' : decodeThree w' x' y' z' = some bytes) :
    w = w' ∧ x = x' ∧ y = y' ∧ z = z' := by
  obtain ⟨a, b, m, n, htwo, hm, hn, rfl⟩ := decodeThree_some hdecode
  obtain ⟨a', b', m', n', htwo', hm', hn', hbytes⟩ := decodeThree_some hdecode'
  simp only [List.cons.injEq, and_true] at hbytes
  obtain ⟨rfl, rfl, hsum⟩ := hbytes
  obtain ⟨rfl, rfl, rfl⟩ := decodeTwo_inj hw hx hy htwo htwo'
  rw [hm] at hm'
  cases hm'
  have hbound := sextet_lt hn
  have hbound' := sextet_lt hn'
  have hsum := ofNat_inj (by omega) (by omega) hsum
  refine ⟨rfl, rfl, rfl, ?_⟩
  obtain hsame | hsame := sextet_of_same_letter hz hn hn'
  · exact hsame.1
  · omega

theorem decodeLast_inj (hw : tolower w = tolower w') (hx : tolower x = tolower x')
    (hy : tolower y = tolower y') (hz : tolower z = tolower z')
    (hdecode : decodeLast w x y z = some bytes)
    (hdecode' : decodeLast w' x' y' z' = some bytes) :
    w = w' ∧ x = x' ∧ y = y' ∧ z = z' := by
  unfold decodeLast at hdecode
  split at hdecode
  case isTrue hpad =>
    subst hpad
    obtain rfl := eq_pad_of_tolower hz.symm
    split at hdecode
    case isTrue hpad =>
      subst hpad
      obtain rfl := eq_pad_of_tolower hy.symm
      rw [decodeLast, if_pos rfl, if_pos rfl] at hdecode'
      obtain ⟨rfl, rfl⟩ := decodeOne_inj hw hx hdecode hdecode'
      exact ⟨rfl, rfl, rfl, rfl⟩
    case isFalse hpad =>
      have hpad' : y' ≠ pad := fun h => hpad (eq_pad_of_tolower (h ▸ hy))
      rw [decodeLast, if_pos rfl, if_neg hpad'] at hdecode'
      obtain ⟨rfl, rfl, rfl⟩ := decodeTwo_inj hw hx hy hdecode hdecode'
      exact ⟨rfl, rfl, rfl, rfl⟩
  case isFalse hpad =>
    have hpad' : z' ≠ pad := fun h => hpad (eq_pad_of_tolower (h ▸ hz))
    rw [decodeLast, if_neg hpad'] at hdecode'
    exact decodeThree_inj hw hx hy hz hdecode hdecode'

end

/-- Texts that agree up to case and decode to the same bytes are the same, so
changing the case of letters always changes the bytes. -/
theorem decode_inj_of_strcasecmp {a b bytes : List UInt8} (hcase : strcasecmp a b)
    (ha : decode a = some bytes) (hb : decode b = some bytes) : a = b := by
  fun_induction decode a generalizing b bytes with
  | case1 => exact (strcasecmp_nil hcase).symm
  | case2 w x y z =>
    obtain ⟨w', _, rfl, hw, hcase⟩ := strcasecmp_cons hcase
    obtain ⟨x', _, rfl, hx, hcase⟩ := strcasecmp_cons hcase
    obtain ⟨y', _, rfl, hy, hcase⟩ := strcasecmp_cons hcase
    obtain ⟨z', _, rfl, hz, hcase⟩ := strcasecmp_cons hcase
    obtain rfl := strcasecmp_nil hcase
    obtain ⟨rfl, rfl, rfl, rfl⟩ := decodeLast_inj hw hx hy hz ha hb
    rfl
  | case3 w x y z rest hrest ih =>
    obtain ⟨w', _, rfl, hw, hcase⟩ := strcasecmp_cons hcase
    obtain ⟨x', _, rfl, hx, hcase⟩ := strcasecmp_cons hcase
    obtain ⟨y', _, rfl, hy, hcase⟩ := strcasecmp_cons hcase
    obtain ⟨z', rest', rfl, hz, hrests⟩ := strcasecmp_cons hcase
    have hrest' : rest' ≠ [] := fun h => hrest (strcasecmp_nil (h ▸ hrests.symm))
    rw [decode.eq_3 _ _ _ _ _ hrest'] at hb
    simp only [Option.bind_eq_bind, Option.bind_eq_some_iff, Option.pure_def,
      Option.some.injEq] at ha hb
    obtain ⟨first, hfirst, others, hothers, rfl⟩ := ha
    obtain ⟨first', hfirst', others', hothers', heq⟩ := hb
    obtain ⟨_, _, _, _, _, _, _, rfl⟩ := decodeThree_some hfirst
    obtain ⟨_, _, _, _, _, _, _, rfl⟩ := decodeThree_some hfirst'
    obtain ⟨hfirsts, rfl⟩ := List.append_inj heq rfl
    rw [hfirsts] at hfirst'
    obtain ⟨rfl, rfl, rfl, rfl⟩ := decodeThree_inj hw hx hy hz hfirst hfirst'
    rw [ih hrests hothers hothers']
  | case4 => cases ha

end lib.base64
