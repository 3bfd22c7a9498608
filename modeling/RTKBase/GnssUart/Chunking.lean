import RTKBase.GnssUart.Framing
import RTKBase.GnssUart.Reader

open lib.lts

namespace rtkbase.gnss_uart

variable {β : Type}

/-- The caller's data is read, or will be resumed, at a place within the first
`n` bytes or right behind them. -/
def ProcessLocals.Within (locals : ProcessLocals β) (n : Nat) : Prop :=
  (if locals.replaying then locals.resume_i else locals.i) ≤ n

/-- The loops over the caller's data from byte `n` on, where `tail` are the same
loops over the bytes from there. -/
structure ProcessLocals.Continues (locals : ProcessLocals β) (n : Nat)
    (tail : ProcessLocals β) : Prop where
  replaying : locals.replaying = tail.replaying
  replay : tail.replaying = true →
    locals.replay_buf = tail.replay_buf ∧ locals.i = tail.i ∧ locals.resume_i = n + tail.resume_i
  fresh : tail.replaying = false → locals.i = n + tail.i

section Source

variable {a b : List β} {locals : ProcessLocals β}

theorem ProcessLocals.src_append {d : β} (hread : (locals.src a)[locals.i]? = some d) :
    (locals.src (a ++ b))[locals.i]? = some d := by
  cases hreplaying : locals.replaying with
  | true => simpa [ProcessLocals.src, hreplaying] using hread
  | false =>
    simp only [ProcessLocals.src, hreplaying, Bool.false_eq_true, if_false] at hread ⊢
    obtain ⟨hlt, _⟩ := List.getElem?_eq_some_iff.mp hread
    rw [List.getElem?_append_left hlt, hread]

theorem ProcessLocals.Within.next {d : β} (hwithin : locals.Within a.length)
    (hread : (locals.src a)[locals.i]? = some d) :
    (if locals.replaying then locals.resume_i else locals.i + 1) ≤ a.length := by
  cases hreplaying : locals.replaying with
  | true => simpa [ProcessLocals.Within, hreplaying] using hwithin
  | false =>
    simp only [ProcessLocals.src, hreplaying, Bool.false_eq_true, if_false] at hread ⊢
    obtain ⟨hlt, _⟩ := List.getElem?_eq_some_iff.mp hread
    exact hlt

/-- The same byte is read on both sides. -/
theorem ProcessLocals.Continues.read {tail : ProcessLocals β}
    (hcontinues : locals.Continues a.length tail) :
    (locals.src (a ++ b))[locals.i]? = (tail.src b)[tail.i]? := by
  cases hreplaying : tail.replaying with
  | true =>
    obtain ⟨hbuf, hi, _⟩ := hcontinues.replay hreplaying
    simp [ProcessLocals.src, hcontinues.replaying, hreplaying, hbuf, hi]
  | false =>
    have hi := hcontinues.fresh hreplaying
    simp only [ProcessLocals.src, hcontinues.replaying, hreplaying, Bool.false_eq_true, if_false,
      hi]
    rw [List.getElem?_append_right (by omega), Nat.add_sub_cancel_left]

end Source

variable [Octet β]

section Steps

variable {a b : List β} {locals locals' : ProcessLocals β} {s s' : splitter_t β}
  {events : List (Event β)}

theorem processStep_within (hwithin : locals.Within a.length)
    (hstep : processStep a locals s = some (locals', s', events)) : locals'.Within a.length := by
  cases processStep_cases hstep with
  | kept hread => exact hwithin.next hread
  | dropped hread => exact hwithin.next hread
  | replayed hread => simpa [ProcessLocals.Within] using hwithin.next hread
  | resumed _ hreplaying => simpa [ProcessLocals.Within, hreplaying] using hwithin

/-- A turn depends on the data by the byte it reads. -/
theorem processStep_congr (hread : (locals.src a)[locals.i]? = (locals.src b)[locals.i]?) :
    processStep a locals s = processStep b locals s := by
  rw [processStep, processStep, hread]

/-- A turn within the first part of the data does not depend on the rest. -/
theorem processStep_append (hwithin : locals.Within a.length)
    (hstep : processStep a locals s = some (locals', s', events)) :
    processStep (a ++ b) locals s = some (locals', s', events) ∧ locals'.Within a.length := by
  refine ⟨?_, processStep_within hwithin hstep⟩
  rw [← hstep]
  apply processStep_congr
  cases processStep_cases hstep with
  | kept hread => rw [hread, ProcessLocals.src_append hread]
  | dropped hread => rw [hread, ProcessLocals.src_append hread]
  | replayed hread => rw [hread, ProcessLocals.src_append hread]
  | resumed _ hreplaying => simp only [ProcessLocals.src, hreplaying, if_true]

theorem processStep_eq_none {data : List β} :
    processStep data locals s = none ↔
      locals.replaying = false ∧ (locals.src data)[locals.i]? = none := by
  cases hread : (locals.src data)[locals.i]? with
  | none => simp [processStep, hread]
  | some d =>
    rcases hpush : splitter_push_byte s d with ⟨ret, s₁, events₁⟩
    rw [processStep_of_read hread hpush]
    generalize (if s₁.buf_pos > ret.toNat then s₁.buf_pos - ret.toNat else 0) = n
    by_cases hret : ret < 0
    · simp [hret]
    · by_cases hlen : n = 0
      · simp [hret, hlen]
      · simp [hret, hlen]

/-- The loops end at the end of the data, with every replay used up. -/
theorem processStep_none (hwithin : locals.Within a.length)
    (hstep : processStep a locals s = none) :
    locals.Continues a.length ⟨false, [], 0, 0⟩ := by
  obtain ⟨hreplaying, hread⟩ := processStep_eq_none.mp hstep
  simp only [ProcessLocals.src, hreplaying, Bool.false_eq_true, if_false] at hread
  simp only [ProcessLocals.Within, hreplaying, Bool.false_eq_true, if_false] at hwithin
  have hend := List.getElem?_eq_none_iff.mp hread
  exact ⟨hreplaying, by simp, fun _ => by simp only; omega⟩

/-- A turn behind the first part is a turn over the rest. -/
theorem processStep_tail {tail tail' : ProcessLocals β}
    (hcontinues : locals.Continues a.length tail)
    (hstep : processStep b tail s = some (tail', s', events)) :
    ∃ locals', processStep (a ++ b) locals s = some (locals', s', events) ∧
      locals'.Continues a.length tail' := by
  have hsame := hcontinues.read (b := b)
  cases hread : (tail.src b)[tail.i]? with
  | none =>
    rw [hread] at hsame
    simp only [processStep, hread] at hstep
    split at hstep
    case isTrue hreplaying =>
      cases hstep
      obtain ⟨_, _, hresume⟩ := hcontinues.replay hreplaying
      refine ⟨{ locals with replaying := false, i := locals.resume_i }, ?_, rfl, by simp,
        fun _ => hresume⟩
      simp [processStep, hsame, hcontinues.replaying, hreplaying]
    case isFalse => cases hstep
  | some d =>
    rw [hread] at hsame
    rcases hpush : splitter_push_byte s d with ⟨ret, s₁, events₁⟩
    have hkept : { locals with i := locals.i + 1 }.Continues a.length
        { tail with i := tail.i + 1 } := by
      refine ⟨hcontinues.replaying, fun hreplaying => ?_, fun hreplaying => ?_⟩
      · obtain ⟨hbuf, hi, hresume⟩ := hcontinues.replay hreplaying
        exact ⟨hbuf, congrArg (· + 1) hi, hresume⟩
      · have hi := hcontinues.fresh hreplaying
        simp only
        omega
    have hresume : (if locals.replaying then locals.resume_i else locals.i + 1) =
        a.length + if tail.replaying then tail.resume_i else tail.i + 1 := by
      rw [hcontinues.replaying]
      split
      case isTrue hreplaying => exact (hcontinues.replay hreplaying).2.2
      case isFalse hreplaying =>
        have hi := hcontinues.fresh (by simpa using hreplaying)
        omega
    rw [processStep_of_read hread hpush] at hstep
    rw [processStep_of_read hsame hpush]
    generalize (if s₁.buf_pos > ret.toNat then s₁.buf_pos - ret.toNat else 0) = n at hstep ⊢
    by_cases hret : ret < 0
    · rw [if_pos hret] at hstep ⊢
      cases hstep
      exact ⟨_, rfl, hkept⟩
    · rw [if_neg hret] at hstep ⊢
      by_cases hlen : n = 0
      · rw [if_pos hlen] at hstep ⊢
        cases hstep
        exact ⟨_, rfl, hkept⟩
      · rw [if_neg hlen] at hstep ⊢
        cases hstep
        exact ⟨_, rfl, rfl, fun _ => ⟨rfl, rfl, hresume⟩, by simp⟩

/-- The loops end behind the first part where they end over the rest. -/
theorem processStep_tail_none {tail : ProcessLocals β}
    (hcontinues : locals.Continues a.length tail) (hstep : processStep b tail s = none) :
    processStep (a ++ b) locals s = none := by
  obtain ⟨hreplaying, hread⟩ := processStep_eq_none.mp hstep
  exact processStep_eq_none.mpr
    ⟨hcontinues.replaying.trans hreplaying, hcontinues.read.trans hread⟩

end Steps

section Loops

variable {a b : List β} {s : splitter_t β}

/-- The loops over the whole data first do what they do over its first part. -/
theorem processLoop_append {fuel : Nat} {locals : ProcessLocals β} {s₁ : splitter_t β}
    {events₁ : List (Event β)} (hwithin : locals.Within a.length)
    (hloop : processLoop a fuel locals s = some (s₁, events₁)) :
    ∃ used locals', locals'.Continues a.length ⟨false, [], 0, 0⟩ ∧
      ∀ left, processLoop (a ++ b) (used + left) locals s =
        (processLoop (a ++ b) left locals' s₁).map fun (s, more) => (s, events₁ ++ more) := by
  induction fuel generalizing locals s s₁ events₁ with
  | zero => cases hloop
  | succ fuel ih =>
    unfold processLoop at hloop
    cases hstep : processStep a locals s with
    | none =>
      rw [hstep] at hloop
      cases hloop
      exact ⟨0, locals, processStep_none hwithin hstep, fun left => by simp⟩
    | some next =>
      obtain ⟨locals₁, s', events⟩ := next
      rw [hstep] at hloop
      obtain ⟨⟨s₂, more⟩, hmore, heq⟩ := Option.map_eq_some_iff.mp hloop
      cases heq
      obtain ⟨hstep', hwithin₁⟩ := processStep_append (b := b) hwithin hstep
      obtain ⟨used, locals', hcontinues, hrest⟩ := ih hwithin₁ hmore
      refine ⟨used + 1, locals', hcontinues, fun left => ?_⟩
      rw [Nat.add_right_comm]
      simp only [processLoop, hstep', hrest left, Option.map_map]
      congr 1
      funext result
      simp

/-- From there on they do what they do over the rest. -/
theorem processLoop_tail {fuel : Nat} {locals tail : ProcessLocals β}
    (hcontinues : locals.Continues a.length tail) :
    processLoop (a ++ b) fuel locals s = processLoop b fuel tail s := by
  induction fuel generalizing locals tail s with
  | zero => rfl
  | succ fuel ih =>
    cases hstep : processStep b tail s with
    | none => simp only [processLoop, hstep, processStep_tail_none hcontinues hstep]
    | some next =>
      obtain ⟨tail', s', events⟩ := next
      obtain ⟨locals', hstep', hcontinues'⟩ := processStep_tail hcontinues hstep
      simp only [processLoop, hstep, hstep', ih hcontinues']

/-- Loops that end do so with one result, whatever turns they were given. -/
theorem processLoop_det {fuel fuel' : Nat} {locals : ProcessLocals β}
    {result result' : splitter_t β × List (Event β)}
    (hloop : processLoop a fuel locals s = some result)
    (hloop' : processLoop a fuel' locals s = some result') : result = result' := by
  induction fuel generalizing fuel' locals s result result' with
  | zero => cases hloop
  | succ fuel ih =>
    cases fuel' with
    | zero => cases hloop'
    | succ fuel' =>
      unfold processLoop at hloop hloop'
      cases hstep : processStep a locals s with
      | none =>
        rw [hstep] at hloop hloop'
        cases hloop
        cases hloop'
        rfl
      | some next =>
        rw [hstep] at hloop hloop'
        obtain ⟨more, hmore, rfl⟩ := Option.map_eq_some_iff.mp hloop
        obtain ⟨more', hmore', rfl⟩ := Option.map_eq_some_iff.mp hloop'
        rw [ih hmore hmore']

end Loops

/-- Two chunks are processed as the one they make together. -/
theorem splitter_process_bytes_append {s : splitter_t β} (hvalid : s.Valid) (a b : List β) :
    ∃ s₁ events₁ s₂ events₂,
      splitter_process_bytes s a = some (s₁, events₁) ∧
      splitter_process_bytes s₁ b = some (s₂, events₂) ∧
      splitter_process_bytes s (a ++ b) = some (s₂, events₁ ++ events₂) ∧ s₂.Valid := by
  obtain ⟨s₁, events₁, hfirst, hvalid₁, _⟩ := splitter_process_bytes_run hvalid a
  obtain ⟨s₂, events₂, hsecond, hvalid₂, _⟩ := splitter_process_bytes_run hvalid₁ b
  obtain ⟨s', events, hwhole, _⟩ := splitter_process_bytes_run hvalid (a ++ b)
  have hwithin : (⟨false, [], 0, 0⟩ : ProcessLocals β).Within a.length := Nat.zero_le _
  obtain ⟨used, locals, hcontinues, hrest⟩ := processLoop_append (b := b) hwithin hfirst
  have hparts : processLoop (a ++ b) (used + processFuel s₁ b) ⟨false, [], 0, 0⟩ s =
      some (s₂, events₁ ++ events₂) := by
    rw [hrest, processLoop_tail hcontinues]
    exact Option.map_eq_some_iff.mpr ⟨_, hsecond, rfl⟩
  rw [processLoop_det hwhole hparts] at hwhole
  exact ⟨s₁, events₁, s₂, events₂, hfirst, hsecond, hwhole, hvalid₂⟩

/-- However a stream is cut, the splitter does with it what it does with the
stream as one chunk. -/
theorem splitterProcessChunks_flatten {s : splitter_t β} (hvalid : s.Valid)
    (chunks : List (List β)) :
    splitterProcessChunks s chunks = splitter_process_bytes s chunks.flatten := by
  induction chunks generalizing s with
  | nil => rfl
  | cons data rest ih =>
    obtain ⟨s₁, events₁, s₂, events₂, hfirst, hsecond, hwhole, _⟩ :=
      splitter_process_bytes_append hvalid data rest.flatten
    have hvalid₁ : s₁.Valid := by
      obtain ⟨_, _, hfirst', hvalid₁, _⟩ := splitter_process_bytes_run hvalid data
      rw [hfirst] at hfirst'
      cases hfirst'
      exact hvalid₁
    rw [List.flatten_cons, hwhole]
    simp [splitterProcessChunks, hfirst, ih hvalid₁, hsecond]

/-- In every state of the reader task, one chunk is processed as its two parts
one after the other: the same calls in the same order, so the same frames
published and the same errors logged, and the same splitter at the end. -/
theorem chunk_processed_as_its_parts {s : splitter_t β} {r : Reader β}
    (hreach : Reach readerStep Anywhere (readerStart s) r) (a b : List β) :
    ∃ s₁ events₁ s₂ events₂,
      splitter_process_bytes r.splitter a = some (s₁, events₁) ∧
      splitter_process_bytes s₁ b = some (s₂, events₂) ∧
      splitter_process_bytes r.splitter (a ++ b) = some (s₂, events₁ ++ events₂) := by
  obtain ⟨s₁, events₁, s₂, events₂, hfirst, hsecond, hwhole, _⟩ :=
    splitter_process_bytes_append (reader_valid hreach) a b
  exact ⟨s₁, events₁, s₂, events₂, hfirst, hsecond, hwhole⟩

/-- The task has read two bytes of a header. -/
def headerRun : List (ReaderAction UInt8) := .uartData [0xD3, 0x00] :: List.replicate 3 .turn

/-- The third byte rejects the header, and the cut falls inside the frame behind it. -/
theorem chunk_processed_as_its_parts_of_cut_frame :
    ∃ r : Reader UInt8,
      runs readerStep Anywhere (readerStart (zeroedSplitter 0)) headerRun = some r ∧
      ∃ s₁ events₁ s₂ events₂,
        splitter_process_bytes r.splitter [0x00, 0xD3, 0x00, 0x01] = some (s₁, events₁) ∧
        splitter_process_bytes s₁ [0x00, 0x0A, 0x18, 0x8D] = some (s₂, events₂) ∧
        published (events₁ ++ events₂) = [[0xD3, 0x00, 0x01, 0x00, 0x0A, 0x18, 0x8D]] := by
  have hrun : (runs readerStep Anywhere (readerStart (zeroedSplitter 0)) headerRun).map
      (fun r => (splitter_process_bytes r.splitter
        ([0x00, 0xD3, 0x00, 0x01] ++ [0x00, 0x0A, 0x18, 0x8D])).map fun result =>
          published result.2) =
      some (some [[0xD3, 0x00, 0x01, 0x00, 0x0A, 0x18, 0x8D]]) := by
    decide +kernel
  obtain ⟨r, hr, hframes⟩ := Option.map_eq_some_iff.mp hrun
  obtain ⟨s₁, events₁, s₂, events₂, hfirst, hsecond, hwhole⟩ :=
    chunk_processed_as_its_parts (Reach.refl.runs hr) [0x00, 0xD3, 0x00, 0x01]
      [0x00, 0x0A, 0x18, 0x8D]
  rw [hwhole] at hframes
  exact ⟨r, hr, s₁, events₁, s₂, events₂, hfirst, hsecond, Option.some.inj hframes⟩

end rtkbase.gnss_uart
