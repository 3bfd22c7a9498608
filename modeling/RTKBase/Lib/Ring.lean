import Mathlib.Data.List.Basic
import Mathlib.Data.List.TakeDrop
import Mathlib.Data.Nat.ModEq

namespace lib.ring

variable {α : Type} {size : Nat}

/-- The last `n` items of a list. -/
def newest (n : Nat) (items : List α) : List α := items.drop (items.length - n)

/-- An array in which every new item takes the place behind the one before it,
from the last place on to the first. -/
structure Ring (α : Type) (size : Nat) where
  buffer : Vector α size
  head : Nat
  used : Nat
  head_lt : head < size
  used_le : used ≤ size

def Ring.empty (buffer : Vector α size) (hsize : 0 < size) : Ring α size where
  buffer := buffer
  head := 0
  used := 0
  head_lt := hsize
  used_le := Nat.zero_le size

def Ring.push (r : Ring α size) (item : α) : Ring α size where
  buffer := r.buffer.set r.head item r.head_lt
  head := (r.head + 1) % size
  used := if r.used < size then r.used + 1 else r.used
  head_lt := Nat.mod_lt _ (Nat.zero_lt_of_lt r.head_lt)
  used_le := by
    have hused := r.used_le
    split <;> omega

/-- Append some items, of which at most `size - 1` are taken, the last ones. -/
def Ring.append (r : Ring α size) (data : List α) : Ring α size :=
  (if size ≤ data.length then data.drop (data.length - size + 1) else data).foldl Ring.push r

/-- The last items of a ring, as the place of the first of them and their number. -/
structure Window (α : Type) (size : Nat) where
  buffer : Vector α size
  start : Nat
  to_copy : Nat

def Window.get (w : Window α size) (hsize : 0 < size) (i : Nat) : α :=
  getElem w.buffer ((w.start + i) % size) (Nat.mod_lt _ hsize)

/-- The window of the newest items, of which there is room for `room`. -/
def Ring.window (r : Ring α size) (room : Nat) : Window α size :=
  let start := (r.head + size - r.used) % size
  let to_copy := if r.used < room then r.used else room
  let skip := r.used - to_copy
  { buffer := r.buffer, start := (start + skip) % size, to_copy := to_copy }

/-- Copy the items `i, …, i + n - 1` of a window to these places of an array. -/
def Window.copy (w : Window α size) (hsize : 0 < size) : Nat → Nat → List α → List α
  | _, 0, dest => dest
  | i, n + 1, dest => w.copy hsize (i + 1) n (dest.set i (w.get hsize i))

/-- Copy the newest items of a ring into an array, as many as there is room for
in front of a terminator; nothing is done when there is no array. -/
def Ring.snapshot (r : Ring α size) (stop : α) (dest : Option (List α)) : Nat × Option (List α) :=
  match dest with
  | none => (0, none)
  | some [] => (0, some [])
  | some (b :: rest) =>
    let w := r.window ((b :: rest).length - 1)
    let dest := w.copy (Nat.zero_lt_of_lt r.head_lt) 0 w.to_copy (b :: rest)
    (w.to_copy, some (dest.set w.to_copy stop))

/-- What a ring holds after the items `items` were put into it, while it was
used for nothing else. -/
structure Holds (r : Ring α size) (items : List α) : Prop where
  head : r.head = items.length % size
  used : r.used = min items.length size
  get : ∀ k, k < items.length → items.length ≤ k + size →
    r.buffer[k % size]? = items[k]?

theorem length_newest (n : Nat) (items : List α) :
    (newest n items).length = min n items.length := by
  unfold newest
  rw [List.length_drop]
  omega

theorem holds_empty (buffer : Vector α size) (hsize : 0 < size) :
    Holds (Ring.empty buffer hsize) [] where
  head := (Nat.zero_mod size).symm
  used := (Nat.zero_min size).symm
  get k hk := by simp at hk

/-- Two items of the newest `size` ones never share a place. -/
theorem place_ne {k n : Nat} (hk : k < n) (hnear : n < k + size) : k % size ≠ n % size := by
  intro heq
  have hzero : (n - k) % size = 0 := Nat.sub_mod_eq_zero_of_mod_eq heq.symm
  rw [Nat.mod_eq_of_lt (by omega)] at hzero
  omega

theorem holds_push {r : Ring α size} {items : List α} (hholds : Holds r items) (item : α) :
    Holds (r.push item) (items ++ [item]) := by
  obtain ⟨hhead, hused, hget⟩ := hholds
  refine ⟨?_, ?_, ?_⟩
  · show (r.head + 1) % size = _
    rw [hhead, Nat.mod_add_mod, List.length_append, List.length_singleton]
  · show (if r.used < size then r.used + 1 else r.used) = _
    rw [List.length_append, List.length_singleton]
    split <;> omega
  · intro k hk hnear
    rw [List.length_append, List.length_singleton] at hk hnear
    show (r.buffer.set r.head item r.head_lt)[k % size]? = _
    rw [Vector.getElem?_set]
    by_cases hlast : k = items.length
    · rw [if_pos (by rw [hhead, hlast]), hlast, List.getElem?_concat_length]
    · have hold : k < items.length := by omega
      have hne : k % size ≠ items.length % size := place_ne hold (by omega)
      rw [if_neg (by rw [hhead]; exact hne.symm), List.getElem?_append_left hold]
      exact hget k hold (by omega)

theorem holds_foldl_push {r : Ring α size} {items : List α} (hholds : Holds r items)
    (data : List α) : Holds (data.foldl Ring.push r) (items ++ data) := by
  induction data generalizing r items with
  | nil => rwa [List.append_nil]
  | cons item data ih =>
    have hnext := ih (holds_push hholds item)
    rwa [List.append_assoc, List.singleton_append] at hnext

/-- An append that is shorter than the ring puts in all its items. -/
theorem holds_append {r : Ring α size} {items data : List α} (hholds : Holds r items)
    (hshort : data.length < size) : Holds (r.append data) (items ++ data) := by
  unfold Ring.append
  rw [if_neg (by omega)]
  exact holds_foldl_push hholds data

theorem holds_foldl_append {r : Ring α size} {items : List α} (hholds : Holds r items)
    {texts : List (List α)} (hshort : ∀ data ∈ texts, data.length < size) :
    Holds (texts.foldl Ring.append r) (items ++ texts.flatten) := by
  induction texts generalizing r items with
  | nil => rwa [List.flatten_nil, List.append_nil]
  | cons data texts ih =>
    have hnext := ih (holds_append hholds (hshort data List.mem_cons_self))
      fun other hother => hshort other (List.mem_cons_of_mem _ hother)
    rwa [List.append_assoc] at hnext

/-- The last items of a ring begin where the items before them end. -/
theorem start_mod {n used skip : Nat} (hused : used ≤ n) (hsize : used ≤ size) :
    ((n % size + size - used) % size + skip) % size = (n - used + skip) % size := by
  have hstart : (n % size + size - used) % size = (n - used) % size := by
    calc (n % size + size - used) % size = (n % size + (size - used)) % size := by
          rw [Nat.add_sub_assoc hsize]
      _ = (n - used + size) % size := by
          rw [Nat.mod_add_mod, show n + (size - used) = n - used + size by omega]
      _ = (n - used) % size := Nat.add_mod_right _ _
  rw [hstart, Nat.mod_add_mod]

/-- A window shows the newest items, as many as the ring holds and there is room for. -/
structure Shows (w : Window α size) (room : Nat) (items : List α) : Prop where
  to_copy : w.to_copy = min (min items.length size) room
  get : ∀ (hsize : 0 < size) (i : Nat), i < w.to_copy →
    some (w.get hsize i) = items[items.length - w.to_copy + i]?

theorem holds_window {r : Ring α size} {items : List α} (hholds : Holds r items) (room : Nat) :
    Shows (r.window room) room items := by
  obtain ⟨hhead, hused, hget⟩ := hholds
  have hcopy : (r.window room).to_copy = min (min items.length size) room := by
    show (if r.used < room then r.used else room) = _
    rw [← hused]
    split <;> omega
  refine ⟨hcopy, ?_⟩
  intro hsize i hi
  have hstart : (r.window room).start =
      (items.length - (r.window room).to_copy) % size := by
    show ((r.head + size - r.used) % size + (r.used - (r.window room).to_copy)) % size = _
    rw [hhead, start_mod (by omega) (by omega)]
    congr 1
    omega
  have hplace : ((r.window room).start + i) % size =
      (items.length - (r.window room).to_copy + i) % size := by
    rw [hstart, Nat.mod_add_mod]
  have hitem := hget (items.length - (r.window room).to_copy + i) (by omega) (by omega)
  rw [← hitem, ← hplace]
  exact (Vector.getElem?_eq_getElem (Nat.mod_lt _ hsize)).symm

/-- After the first `i` items of a window were copied. -/
def Copied (w : Window α size) (items dest : List α) (i : Nat) : Prop :=
  ∀ k, k < i → dest[k]? = items[items.length - w.to_copy + k]?

theorem Copied.set {w : Window α size} {room i : Nat} {items dest : List α}
    (hshows : Shows w room items) (hcopied : Copied w items dest i) (hsize : 0 < size)
    (hi : i < w.to_copy) (hdest : i < dest.length) :
    Copied w items (dest.set i (w.get hsize i)) (i + 1) := by
  intro k hk
  rw [List.getElem?_set]
  by_cases hlast : i = k
  · rw [if_pos hlast, if_pos hdest, ← hlast]
    exact hshows.get hsize i hi
  · rw [if_neg hlast]
    exact hcopied k (by omega)

theorem Copied.copy {w : Window α size} {room i n : Nat} {items dest : List α}
    (hshows : Shows w room items) (hcopied : Copied w items dest i) (hsize : 0 < size)
    (hn : i + n ≤ w.to_copy) (hdest : w.to_copy ≤ dest.length) :
    Copied w items (w.copy hsize i n dest) (i + n) := by
  induction n generalizing i dest with
  | zero => exact hcopied
  | succ n ih =>
    have hset := hcopied.set hshows hsize (by omega) (by omega)
    have hnext := ih hset (by omega) (by rwa [List.length_set])
    rwa [show i + 1 + n = i + (n + 1) by omega] at hnext

/-- A whole copy puts the newest items in front of what the array held behind them. -/
theorem Copied.whole {w : Window α size} {room : Nat} {items before dest : List α}
    (hshows : Shows w room items) (hcopied : Copied w items dest w.to_copy)
    (hrest : ∀ k, w.to_copy ≤ k → dest[k]? = before[k]?) :
    dest = newest w.to_copy items ++ before.drop w.to_copy := by
  have hle : w.to_copy ≤ items.length := by
    have hcopy := hshows.to_copy
    omega
  have hlen : (newest w.to_copy items).length = w.to_copy := by
    rw [length_newest]
    omega
  apply List.ext_getElem?
  intro k
  by_cases hk : k < w.to_copy
  · rw [List.getElem?_append_left (by omega), hcopied k hk]
    unfold newest
    rw [List.getElem?_drop]
  · rw [List.getElem?_append_right (by omega), hlen, List.getElem?_drop, hrest k (by omega)]
    congr 1
    omega

theorem copy_behind (w : Window α size) (hsize : 0 < size) {i n k : Nat} (dest : List α)
    (hk : i + n ≤ k) : (w.copy hsize i n dest)[k]? = dest[k]? := by
  induction n generalizing i dest with
  | zero => rfl
  | succ n ih =>
    unfold Window.copy
    rw [ih _ (by omega), List.getElem?_set, if_neg (by omega)]

/-- The copy loop as a whole. -/
theorem copied_window {w : Window α size} {room : Nat} {items : List α}
    (hshows : Shows w room items) (hsize : 0 < size) {dest : List α}
    (hroom : w.to_copy ≤ dest.length) :
    Copied w items (w.copy hsize 0 w.to_copy dest) w.to_copy := by
  have hstart : Copied w items dest 0 := fun k hk => absurd hk (Nat.not_lt_zero k)
  have hall := hstart.copy hshows hsize (n := w.to_copy) (by omega) hroom
  rwa [Nat.zero_add] at hall

/-- The terminator stands directly behind what was copied. -/
theorem set_terminator {n : Nat} {copied dest : List α} (stop : α) (hlen : copied.length = n)
    (hroom : n < dest.length) :
    (copied ++ dest.drop n).set n stop = copied ++ stop :: dest.drop (n + 1) := by
  rw [List.set_append_right _ _ (by omega), hlen, Nat.sub_self, List.drop_eq_getElem_cons hroom,
    List.set_cons_zero]

/-- The newest of some items, up to `size` and the room in an array in front of
a terminator, with what the array holds after they were copied into it. -/
def copiedOut (size : Nat) (stop : α) (items dest : List α) : Nat × Option (List α) :=
  let n := min (min items.length size) (dest.length - 1)
  (n, some (newest n items ++ stop :: dest.drop (n + 1)))

/-- What a copy loop has copied, and the terminator. -/
theorem copied_whole {w : Window α size} {room : Nat} {items before dest : List α} (stop : α)
    (hshows : Shows w room items) (hcopied : Copied w items dest w.to_copy)
    (hrest : ∀ k, w.to_copy ≤ k → dest[k]? = before[k]?) (hroom : room = before.length - 1)
    (hbefore : before ≠ []) :
    (w.to_copy, some (dest.set w.to_copy stop)) = copiedOut size stop items before := by
  have hlen : 0 < before.length := List.length_pos_iff.mpr hbefore
  have hcopy := hshows.to_copy
  have hnewest : (newest w.to_copy items).length = w.to_copy := by
    rw [length_newest]
    omega
  rw [hcopied.whole hshows hrest, set_terminator stop hnewest (by omega)]
  unfold copiedOut
  dsimp only
  rw [← hroom, ← hcopy]

theorem snapshot_newest {r : Ring α size} {items : List α} (hholds : Holds r items) (stop : α)
    {dest : List α} (hdest : dest ≠ []) :
    r.snapshot stop (some dest) = copiedOut size stop items dest := by
  obtain ⟨b, rest, rfl⟩ := List.exists_cons_of_ne_nil hdest
  have hsize := Nat.zero_lt_of_lt r.head_lt
  have hshows := holds_window hholds ((b :: rest).length - 1)
  have hcopied : Copied (r.window ((b :: rest).length - 1)) items
      ((r.window ((b :: rest).length - 1)).copy hsize 0 _ (b :: rest)) _ :=
    copied_window hshows hsize (by
      have hcopy := hshows.to_copy
      omega)
  exact copied_whole stop hshows hcopied (fun k hk => copy_behind _ hsize _ (by omega)) rfl
    (List.cons_ne_nil b rest)

end lib.ring
