import RTKBase.Lib.Counter
import RTKBase.Lib.Lts
import Mathlib.Data.List.GetD
import Mathlib.Data.Int.Order.Basic

namespace rtkbase.retry

open lib.counter lib.lts

structure retry_delay_handle_t where
  attempts : UInt16
  first_instant : Bool
  short_count : UInt8
  short_delay : Int
  max_delay : Int
  delays_offset : UInt8

def delays : List Int :=
  [1000, 2000, 5000, 10000, 15000, 30000, 45000, 60000, 90000,
    120000, 300000, 600000, 900000, 1800000, 2700000, 3600000]

def delays_count : Int := delays.length

/-- The loop stops at the first entry of the table that is not below `short_delay`. -/
def retry_init (first_instant : Bool) (short_count : UInt8) (short_delay max_delay : Int) :
    retry_delay_handle_t where
  attempts := 0
  first_instant := first_instant
  short_count := short_count
  short_delay := short_delay
  max_delay := max_delay
  delays_offset := UInt8.ofNat (delays.findIdx (¬ · < short_delay))

/-- The entry of the table at an index, if there is one. -/
def delaysAt (attempts : Int) : Option Int :=
  if 0 ≤ attempts then delays[attempts.toNat]? else none

/-- The delay that the task waits for, and the number of attempts that the call
returns. There is no result when the table is read outside its bounds. -/
def retry_delay (handle : retry_delay_handle_t) : Option (Int × Int × retry_delay_handle_t) := do
  let attempts : Int := handle.attempts.toNat
  let delay ←
    if attempts = 0 ∧ handle.first_instant then
      some 0
    else if attempts < handle.short_count.toNat then
      some handle.short_delay
    else do
      let attempts := attempts - handle.short_count.toNat
      let attempts := attempts + handle.delays_offset.toNat
      let delay ←
        if attempts < delays_count then delaysAt attempts else delaysAt (delays_count - 1)
      some (if 0 < handle.max_delay ∧ handle.max_delay < delay then handle.max_delay else delay)
  let handle := { handle with attempts := handle.attempts + 1 }
  return (delay, handle.attempts.toNat, handle)

def retry_reset (handle : retry_delay_handle_t) : retry_delay_handle_t :=
  { handle with attempts := 0 }

inductive RetryCall where
  | retry_delay
  | retry_reset

def retryStep (handle : retry_delay_handle_t) : RetryCall → Option retry_delay_handle_t
  | .retry_delay => (retry_delay handle).map (·.2.2)
  | .retry_reset => some (retry_reset handle)

/-- The delays of `n` calls in a row. -/
def retryDelays : Nat → retry_delay_handle_t → Option (List Int)
  | 0, _ => some []
  | n + 1, handle => do
    let (delay, _, handle) ← retry_delay handle
    let rest ← retryDelays n handle
    return delay :: rest

/-- The greatest delay of a handle. -/
def longestDelay (max_delay : Int) : Int :=
  if 0 < max_delay ∧ max_delay < 3600000 then max_delay else 3600000

/-- An entry of the table as the handle's bound cuts it. -/
def tableDelay (handle : retry_delay_handle_t) (index : Nat) : Int :=
  let delay := delays.getD index 3600000
  if 0 < handle.max_delay ∧ handle.max_delay < delay then handle.max_delay else delay

/-- The delay of a handle that counts so many attempts. -/
def delayBefore (handle : retry_delay_handle_t) (attempts : Nat) : Int :=
  if attempts = 0 ∧ handle.first_instant then 0
  else if attempts < handle.short_count.toNat then handle.short_delay
  else tableDelay handle (attempts - handle.short_count.toNat + handle.delays_offset.toNat)

/-- No call reads the table outside its bounds. -/
theorem retry_delay_eq (handle : retry_delay_handle_t) :
    retry_delay handle =
      some (delayBefore handle handle.attempts.toNat, ((handle.attempts + 1).toNat : Int),
        { handle with attempts := handle.attempts + 1 }) := by
  unfold retry_delay delayBefore
  by_cases hfirst : handle.attempts.toNat = 0 ∧ handle.first_instant = true
  · simp [hfirst]
  have hfirst' : ¬ ((handle.attempts.toNat : Int) = 0 ∧ handle.first_instant = true) := by
    simpa using hfirst
  rw [if_neg hfirst, if_neg hfirst']
  by_cases hshort : handle.attempts.toNat < handle.short_count.toNat
  · simp [hshort]
  rw [if_neg hshort, if_neg (by omega)]
  have hindex : (handle.attempts.toNat : Int) - handle.short_count.toNat +
      handle.delays_offset.toNat =
      ((handle.attempts.toNat - handle.short_count.toNat + handle.delays_offset.toNat : Nat) : Int) := by
    omega
  simp only [hindex]
  generalize handle.attempts.toNat - handle.short_count.toNat + handle.delays_offset.toNat = index
  by_cases hcount : index < delays.length
  · have hin : (index : Int) < delays_count := Int.ofNat_lt.mpr hcount
    simp [hin, delaysAt, tableDelay, hcount]
  · have hout : ¬ (index : Int) < delays_count := by
      simp only [delays_count]
      omega
    have hlast : delaysAt (delays_count - 1) = some 3600000 := rfl
    simp [hout, hlast, tableDelay, hcount]

/-- The calls go through the attempts, starting over when the counter does. -/
theorem retryDelays_eq (n : Nat) (handle : retry_delay_handle_t) :
    retryDelays n handle = some ((List.range n).map fun k =>
      delayBefore handle ((handle.attempts.toNat + k) % 65536)) := by
  induction n generalizing handle with
  | zero => rfl
  | succ n ih =>
    have hbefore : ∀ attempts, delayBefore { handle with attempts := handle.attempts + 1 } attempts =
        delayBefore handle attempts := fun _ => rfl
    have hcounter : ∀ k, ((handle.attempts + 1).toNat + k) % 65536 =
        (handle.attempts.toNat + (k + 1)) % 65536 := by
      intro k
      rw [UInt16.toNat_add, UInt16.toNat_one]
      omega
    have hfits := handle.attempts.toNat_lt
    rw [retryDelays, retry_delay_eq]
    simp only [Option.bind_eq_bind, Option.bind_some, ih, hbefore, hcounter, Option.pure_def,
      List.range_succ_eq_map, List.map_cons, List.map_map, Nat.add_zero, Function.comp_def,
      Nat.mod_eq_of_lt hfits]

/-- Whatever was called before, after a reset the delays are those of a handle just made. -/
theorem retry_reset_delays {first_instant : Bool} {short_count : UInt8} {short_delay max_delay : Int}
    {handle : retry_delay_handle_t}
    (hreach : Reach retryStep Anywhere
      (retry_init first_instant short_count short_delay max_delay) handle) (n : Nat) :
    retryDelays n (retry_reset handle) =
      retryDelays n (retry_init first_instant short_count short_delay max_delay) := by
  have hsame : retry_reset handle = retry_init first_instant short_count short_delay max_delay := by
    refine hreach.invariant (P := fun handle => retry_reset handle = _) rfl ?_
    intro handle call handle' hbefore _ hstep
    cases call with
    | retry_delay =>
      simp only [retryStep, retry_delay_eq, Option.map_some, Option.some.injEq] at hstep
      rw [← hstep]
      exact hbefore
    | retry_reset =>
      cases hstep
      exact hbefore
  rw [hsame]

theorem retry_init_delays (first_instant : Bool) (short_count : UInt8)
    (short_delay max_delay : Int) (n : Nat) :
    retryDelays n (retry_init first_instant short_count short_delay max_delay) =
      some (wrapped 65536
        (delayBefore (retry_init first_instant short_count short_delay max_delay)) n) := by
  rw [retryDelays_eq]
  simp [wrapped, retry_init]

theorem delays_getD_le (index : Nat) : delays.getD index 3600000 ≤ 3600000 := by
  by_cases hindex : index < delays.length
  · have hall : ∀ delay ∈ delays, delay ≤ 3600000 := by decide
    rw [List.getD_eq_getElem _ _ hindex]
    exact hall _ (List.getElem_mem hindex)
  · rw [List.getD_eq_default _ _ (Nat.le_of_not_lt hindex)]

/-- The table rises, and stays at its last entry. -/
theorem delays_getD_mono {i j : Nat} (hle : i ≤ j) :
    delays.getD i 3600000 ≤ delays.getD j 3600000 := by
  by_cases hj : j < delays.length
  · have hsorted : delays.Pairwise (· ≤ ·) := by decide
    rw [List.getD_eq_getElem _ _ hj, List.getD_eq_getElem _ _ (lt_of_le_of_lt hle hj)]
    obtain heq | hlt := Nat.eq_or_lt_of_le hle
    · subst heq
      exact le_refl _
    · exact List.pairwise_iff_getElem.mp hsorted i j _ hj hlt
  · rw [List.getD_eq_default _ _ (Nat.le_of_not_lt hj)]
    exact delays_getD_le i

section

variable {first_instant : Bool} {short_count : UInt8} {short_delay max_delay : Int}

/-- From the offset on, the entries of the table are not below the short delay. -/
theorem short_delay_le (hshort : short_delay ≤ 3600000) {index : Nat}
    (hindex : (retry_init first_instant short_count short_delay max_delay).delays_offset.toNat ≤
      index) :
    short_delay ≤ delays.getD index 3600000 := by
  have hoffset : delays.findIdx (¬ · < short_delay) ≤ index := by
    have hle : delays.findIdx (¬ · < short_delay) ≤ 16 := List.findIdx_le_length
    simp only [retry_init, UInt8.toNat_ofNat'] at hindex
    omega
  refine le_trans ?_ (delays_getD_mono hoffset)
  by_cases hfound : delays.findIdx (¬ · < short_delay) < delays.length
  · have hnot := List.findIdx_getElem (w := hfound)
    rw [List.getD_eq_getElem _ _ hfound]
    simpa using hnot
  · rw [List.getD_eq_default _ _ (Nat.le_of_not_lt hfound)]
    exact hshort

theorem short_delay_le_table (hshort : short_delay ≤ 3600000)
    (hmax : max_delay ≤ 0 ∨ short_delay ≤ max_delay) {index : Nat}
    (hindex : (retry_init first_instant short_count short_delay max_delay).delays_offset.toNat ≤
      index) :
    short_delay ≤
      tableDelay (retry_init first_instant short_count short_delay max_delay) index := by
  have hle := short_delay_le hshort hindex
  have hbound : (retry_init first_instant short_count short_delay max_delay).max_delay =
      max_delay := rfl
  simp only [tableDelay, hbound]
  split <;> omega

theorem tableDelay_mono (handle : retry_delay_handle_t) {i j : Nat} (hle : i ≤ j) :
    tableDelay handle i ≤ tableDelay handle j := by
  have hmono := delays_getD_mono hle
  simp only [tableDelay]
  split <;> split <;> omega

/-- As long as the counter does not start over, the delays rise. -/
theorem delayBefore_mono (hnonneg : 0 ≤ short_delay) (hshort : short_delay ≤ 3600000)
    (hmax : max_delay ≤ 0 ∨ short_delay ≤ max_delay) {i j : Nat} (hle : i ≤ j) :
    delayBefore (retry_init first_instant short_count short_delay max_delay) i ≤
      delayBefore (retry_init first_instant short_count short_delay max_delay) j := by
  have hdelay : (retry_init first_instant short_count short_delay max_delay).short_delay =
      short_delay := rfl
  have htable : ∀ k, short_delay ≤
      tableDelay (retry_init first_instant short_count short_delay max_delay)
        (k + (retry_init first_instant short_count short_delay max_delay).delays_offset.toNat) :=
    fun k => short_delay_le_table hshort hmax (Nat.le_add_left _ k)
  generalize retry_init first_instant short_count short_delay max_delay = handle at *
  unfold delayBefore
  by_cases hfirst : i = 0 ∧ handle.first_instant = true
  · -- nothing is below the instant first attempt
    rw [if_pos hfirst]
    have hj := htable (j - handle.short_count.toNat)
    split
    · exact le_refl 0
    · split <;> omega
  have hfirst' : ¬ (j = 0 ∧ handle.first_instant = true) :=
    fun hj => hfirst ⟨by omega, hj.2⟩
  rw [if_neg hfirst, if_neg hfirst']
  by_cases hi : i < handle.short_count.toNat
  · rw [if_pos hi]
    have hj := htable (j - handle.short_count.toNat)
    split <;> omega
  · rw [if_neg hi, if_neg (by omega)]
    exact tableDelay_mono handle (by omega)

/-- The delay before the counter starts over is the longest one. -/
theorem last_delay (handle : retry_delay_handle_t) :
    delayBefore handle 65535 = longestDelay handle.max_delay := by
  have hcount := handle.short_count.toNat_lt
  have hindex : delays.length ≤
      65535 - handle.short_count.toNat + handle.delays_offset.toNat := by
    have hlength : delays.length = 16 := rfl
    omega
  rw [delayBefore, if_neg (by omega), if_neg (by omega), tableDelay,
    List.getD_eq_default _ _ hindex, longestDelay]

end

/-- Every delay of the handle is the longest one, the first one included. -/
structure SingleDelay (first_instant : Bool) (short_count : UInt8) (short_delay max_delay : Int) :
    Prop where
  waits : first_instant = false
  short : 0 < short_count → short_delay = longestDelay max_delay
  table : short_count = 0 → ∀ delay ∈ delays, short_delay ≤ delay → longestDelay max_delay ≤ delay

section

variable {first_instant : Bool} {short_count : UInt8} {short_delay max_delay : Int}

theorem short_delay_le_longest (hshort : short_delay ≤ 3600000)
    (hmax : max_delay ≤ 0 ∨ short_delay ≤ max_delay) : short_delay ≤ longestDelay max_delay := by
  unfold longestDelay
  split <;> omega

theorem delays_offset_eq :
    (retry_init first_instant short_count short_delay max_delay).delays_offset.toNat =
      delays.findIdx (¬ · < short_delay) := by
  have hle : delays.findIdx (¬ · < short_delay) ≤ 16 := List.findIdx_le_length
  simp only [retry_init, UInt8.toNat_ofNat']
  omega

/-- The entry at the offset is the least one that is not below the short delay. -/
theorem offset_least (hshort : short_delay ≤ 3600000) :
    delays.getD (retry_init first_instant short_count short_delay max_delay).delays_offset.toNat
      3600000 ∈ delays ∧
    ∀ delay ∈ delays, short_delay ≤ delay →
      delays.getD (retry_init first_instant short_count short_delay max_delay).delays_offset.toNat
        3600000 ≤ delay := by
  rw [delays_offset_eq]
  have hlast : (3600000 : Int) ∈ delays := by decide
  have hfound : delays.findIdx (¬ · < short_delay) < delays.length :=
    List.findIdx_lt_length_of_exists ⟨3600000, hlast, by simpa using hshort⟩
  constructor
  · rw [List.getD_eq_getElem _ _ hfound]
    exact List.getElem_mem hfound
  · intro delay hdelay hle
    obtain ⟨index, hindex, hget⟩ := List.getElem_of_mem hdelay
    have hoffset : delays.findIdx (¬ · < short_delay) ≤ index := by
      by_contra hbefore
      have hbelow := List.not_of_lt_findIdx (Nat.lt_of_not_le hbefore)
      simp [hget] at hbelow
      omega
    have hmono := delays_getD_mono hoffset
    rwa [List.getD_eq_getElem _ _ hindex, hget] at hmono

theorem longestDelay_le_first_iff (hshort : short_delay ≤ 3600000)
    (hmax : max_delay ≤ 0 ∨ short_delay ≤ max_delay) :
    longestDelay max_delay ≤
        delayBefore (retry_init first_instant short_count short_delay max_delay) 0 ↔
      SingleDelay first_instant short_count short_delay max_delay := by
  have hlongest : 0 < longestDelay max_delay ∧ longestDelay max_delay ≤ 3600000 ∧
      (0 < max_delay → longestDelay max_delay ≤ max_delay) := by
    unfold longestDelay
    split <;> omega
  have hle := short_delay_le_longest hshort hmax
  obtain ⟨hmem, hleast⟩ := @offset_least first_instant short_count short_delay max_delay
    hshort
  have habove := @short_delay_le first_instant short_count short_delay max_delay hshort _
    (le_refl _)
  have hzero : delayBefore (retry_init first_instant short_count short_delay max_delay) 0 =
      if first_instant = true then 0
      else if 0 < short_count.toNat then short_delay
      else tableDelay (retry_init first_instant short_count short_delay max_delay)
        (retry_init first_instant short_count short_delay max_delay).delays_offset.toNat := by
    simp [delayBefore, retry_init]
  have hcount : 0 < short_count.toNat ↔ 0 < short_count := by
    rw [UInt8.lt_iff_toNat_lt, UInt8.toNat_zero]
  have hnone : ¬ 0 < short_count.toNat ↔ short_count = 0 := by
    rw [← UInt8.toNat_inj, UInt8.toNat_zero, Nat.pos_iff_ne_zero, not_not]
  rw [hzero, tableDelay]
  constructor
  · intro hfirst
    by_cases hinstant : first_instant = true
    · rw [if_pos hinstant] at hfirst
      omega
    rw [if_neg hinstant] at hfirst
    refine ⟨Bool.eq_false_iff.mpr hinstant, fun hshorts => ?_, fun hnoshorts delay hdelay hbelow => ?_⟩
    · rw [if_pos (hcount.mpr hshorts)] at hfirst
      omega
    · rw [if_neg (hnone.mpr hnoshorts)] at hfirst
      have hentry := hleast delay hdelay hbelow
      split at hfirst <;> omega
  · intro hsingle
    rw [if_neg (Bool.eq_false_iff.mp hsingle.waits)]
    by_cases hshorts : 0 < short_count.toNat
    · rw [if_pos hshorts, hsingle.short (hcount.mp hshorts)]
    · rw [if_neg hshorts]
      have hentry := hsingle.table (hnone.mp hshorts) _ hmem habove
      have hbound : (retry_init first_instant short_count short_delay max_delay).max_delay =
          max_delay := rfl
      rw [hbound]
      split <;> omega

/-- No delay is above the bound, in a run of any length. -/
theorem delayBefore_le_max (hmax : short_delay ≤ max_delay) (hpositive : 0 < max_delay)
    (attempts : Nat) :
    delayBefore (retry_init first_instant short_count short_delay max_delay) attempts ≤
      max_delay := by
  have hbound : (retry_init first_instant short_count short_delay max_delay).max_delay =
      max_delay := rfl
  have hdelay : (retry_init first_instant short_count short_delay max_delay).short_delay =
      short_delay := rfl
  simp only [delayBefore, tableDelay, hbound, hdelay]
  split
  · exact hpositive.le
  · split
    · exact hmax
    · split <;> omega

end

/-- The delays of `n` calls never go backwards and stay within the bound, exactly
when the calls do not use the counter up or all delays are the same. -/
theorem retry_delays_rise_iff (first_instant : Bool) (short_count : UInt8)
    (short_delay max_delay : Int) (n : Nat) (hnonneg : 0 ≤ short_delay)
    (hshort : short_delay ≤ 3600000) (hmax : max_delay ≤ 0 ∨ short_delay ≤ max_delay) :
    (∃ ds, retryDelays n (retry_init first_instant short_count short_delay max_delay) = some ds ∧
      ds.Pairwise (· ≤ ·) ∧ (0 < max_delay → ∀ delay ∈ ds, delay ≤ max_delay)) ↔
    n ≤ 65536 ∨ SingleDelay first_instant short_count short_delay max_delay := by
  have hmono : ∀ i j, i ≤ j → j < 65536 →
      delayBefore (retry_init first_instant short_count short_delay max_delay) i ≤
        delayBefore (retry_init first_instant short_count short_delay max_delay) j :=
    fun i j hle _ => delayBefore_mono hnonneg hshort hmax hle
  have hrises := wrapped_rises_iff (by omega) hmono n
  have hbound : (retry_init first_instant short_count short_delay max_delay).max_delay =
      max_delay := rfl
  rw [last_delay, hbound, longestDelay_le_first_iff hshort hmax] at hrises
  rw [← hrises, retry_init_delays]
  constructor
  · intro hrun
    obtain ⟨ds, hds, hpairwise, _⟩ := hrun
    cases hds
    exact hpairwise
  · intro hpairwise
    refine ⟨_, rfl, hpairwise, fun hpositive delay hdelay => ?_⟩
    obtain ⟨attempts, _, rfl⟩ := List.mem_map.mp hdelay
    exact delayBefore_le_max (by omega) hpositive _

/-- The reconnect task's first 65536 waits. -/
theorem retry_delays_rise_of_wifi :
    ∃ ds, retryDelays 65536 (retry_init true 5 2000 60000) = some ds ∧
      ds.Pairwise (· ≤ ·) ∧ ((0 : Int) < 60000 → ∀ delay ∈ ds, delay ≤ 60000) :=
  (retry_delays_rise_iff true 5 2000 60000 65536 (by decide) (by decide) (.inr (by decide))).mpr
    (.inl (le_refl _))

/-- After a minute's wait the reconnect task starts over without one. -/
theorem retry_delays_fall :
    ¬ ∃ ds, retryDelays 65537 (retry_init true 5 2000 60000) = some ds ∧
      ds.Pairwise (· ≤ ·) ∧ ((0 : Int) < 60000 → ∀ delay ∈ ds, delay ≤ 60000) := by
  rintro ⟨ds, hds, hpairwise, _⟩
  rw [retry_init_delays, Option.some.injEq] at hds
  rw [← hds] at hpairwise
  have hfall := List.pairwise_iff_getElem.mp hpairwise 65535 65536
    (by simp [wrapped]) (by simp [wrapped]) (by omega)
  simp only [wrapped, List.getElem_map, List.getElem_range] at hfall
  rw [Nat.mod_self, Nat.mod_eq_of_lt (by omega), last_delay] at hfall
  exact absurd hfall (by decide)

end rtkbase.retry
