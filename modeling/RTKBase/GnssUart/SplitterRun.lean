import RTKBase.GnssUart.SplitterSpec
import Mathlib.Tactic.Linarith

open lib.scan

namespace rtkbase.gnss_uart

variable {β : Type}

/-- The loop's state as a replaying scanner: what is left of `replay_buf`, and
what of the caller's data is read after it. -/
def ProcessLocals.config (locals : ProcessLocals β) (data : List β) (s : splitter_t β) :
    Config β :=
  { pending := s.candidate
    replay := if locals.replaying then locals.replay_buf.drop locals.i else []
    fresh := if locals.replaying then data.drop locals.resume_i else data.drop locals.i }

/-- A byte read leaves the rest of the buffer it is read from. -/
theorem ProcessLocals.config_of_read {data : List β} {locals : ProcessLocals β} {b : β}
    (hread : (locals.src data)[locals.i]? = some b) (s : splitter_t β) :
    ∃ replay fresh,
      (locals.config data s = ⟨s.candidate, b :: replay, fresh⟩ ∨
        replay = [] ∧ locals.config data s = ⟨s.candidate, [], b :: fresh⟩) ∧
      fresh = data.drop (if locals.replaying then locals.resume_i else locals.i + 1) ∧
      ∀ s' : splitter_t β, { locals with i := locals.i + 1 }.config data s' =
        ⟨s'.candidate, replay, fresh⟩ := by
  obtain ⟨hlt, hb⟩ := List.getElem?_eq_some_iff.mp hread
  have hdrop := List.drop_eq_getElem_cons hlt
  rw [hb] at hdrop
  cases hreplaying : locals.replaying with
  | true =>
    simp only [ProcessLocals.src, hreplaying, if_true] at hdrop
    exact ⟨locals.replay_buf.drop (locals.i + 1), data.drop locals.resume_i,
      .inl (by simp [ProcessLocals.config, hreplaying, hdrop]), rfl,
      fun s' => by simp [ProcessLocals.config]⟩
  | false =>
    simp only [ProcessLocals.src, hreplaying, Bool.false_eq_true, if_false] at hdrop
    exact ⟨[], data.drop (locals.i + 1),
      .inr ⟨rfl, by simp [ProcessLocals.config, hreplaying, hdrop]⟩, rfl,
      fun s' => by simp [ProcessLocals.config]⟩

variable [Octet β]

/-- A valid splitter has collected an undecided candidate, or nothing. -/
theorem splitter_t.Valid.pending {s : splitter_t β} (hvalid : s.Valid) :
    Pending (rtcm β) s.candidate := by
  have hlength := s.candidate_length (Nat.le_of_lt hvalid.buf_pos_lt)
  have hbyte : ∀ i < s.buf_pos, (s.candidate.map Octet.byte).getD i 0 = s.bytes.getD i 0 :=
    fun i hi => s.bytes_getD hi
  unfold splitter_t.Valid at hvalid
  split at hvalid
  · refine .inl ?_
    simpa [hvalid] using hlength
  · obtain ⟨hpos, hstart⟩ := hvalid
    refine .inr ?_
    have hfirst := (hbyte 0 (by omega)).trans hstart
    match hcandidate : s.candidate with
    | [] => simp [hcandidate] at hlength; omega
    | [d] => exact ⟨d, [], rfl, by simpa [rtcm, hcandidate] using hfirst, rfl⟩
    | [d, b1] => exact ⟨d, [b1], rfl, by simpa [rtcm, hcandidate] using hfirst, rfl⟩
    | d :: b1 :: b2 :: rest => simp [hcandidate] at hlength; omega
  · obtain ⟨hpos, htotal, hstart, hlen, hlow, hhigh, hsum⟩ := hvalid
    refine .inr ?_
    have hfirst := (hbyte 0 (by omega)).trans hstart
    rw [← hbyte 1 (by omega), ← hbyte 2 (by omega)] at hlen
    match hcandidate : s.candidate with
    | [] => simp [hcandidate] at hlength; omega
    | [d] => simp [hcandidate] at hlength; omega
    | [d, b1] => simp [hcandidate] at hlength; omega
    | d :: b1 :: b2 :: rest =>
      refine ⟨d, b1 :: b2 :: rest, rfl, by simpa [rtcm, hcandidate] using hfirst, ?_⟩
      have hpayload : s.rtcm_payload_len = rtcmLen (Octet.byte b1) (Octet.byte b2) := by
        simpa [hcandidate] using hlen
      rw [hcandidate] at hlength
      simp only [List.length_cons] at hlength
      change rtcmJudge (d :: b1 :: b2 :: rest) = .incomplete
      rw [rtcmJudge_cons, ← hpayload, if_neg (by omega), if_pos (by omega)]

/-- What one turn of the loops does: it ends with everything read, returns from
a used-up replay, or takes in the next byte as the replaying scanner does. -/
inductive StepSpec (data : List β) (locals : ProcessLocals β) (s : splitter_t β) :
    Option (ProcessLocals β × splitter_t β × List (Event β)) → Prop where
  | done (hconfig : locals.config data s = ⟨s.candidate, [], []⟩) : StepSpec data locals s none
  | resume {locals' : ProcessLocals β} (hreplaying : locals.replaying = true)
      (hreplaying' : locals'.replaying = false)
      (hconfig : locals'.config data s = locals.config data s) :
      StepSpec data locals s (some (locals', s, []))
  | read {locals' : ProcessLocals β} {s' : splitter_t β} {events : List (Event β)} {b : β}
      {replay fresh : List β}
      (hconfig : locals.config data s = ⟨s.candidate, b :: replay, fresh⟩ ∨
        replay = [] ∧ locals.config data s = ⟨s.candidate, [], b :: fresh⟩)
      (hvalid' : s'.Valid)
      (hconfig' : locals'.config data s' = (advance (rtcm β) s.candidate b replay fresh).2)
      (hpublished : published events = (advance (rtcm β) s.candidate b replay fresh).1)
      (hpushed : pushed events = [b]) :
      StepSpec data locals s (some (locals', s', events))

/-- `processStep` after a byte was read, with the results of
`splitter_push_byte` in place. -/
theorem processStep_of_read {data : List β} {locals : ProcessLocals β} {s s' : splitter_t β}
    {b : β} {ret : Int} {events : List (Event β)} (hread : (locals.src data)[locals.i]? = some b)
    (hpush : splitter_push_byte s b = (ret, s', events)) :
    processStep data locals s =
      if ret < 0 then some ({ locals with i := locals.i + 1 }, s', .splitter_push_byte b :: events)
      else if (if s'.buf_pos > ret.toNat then s'.buf_pos - ret.toNat else 0) = 0 then
        some ({ locals with i := locals.i + 1 }, splitter_init s', .splitter_push_byte b :: events)
      else
        some ({ replaying := true
                replay_buf := (s'.buf.toList.drop ret.toNat).take
                  (if s'.buf_pos > ret.toNat then s'.buf_pos - ret.toNat else 0)
                i := 0
                resume_i := if locals.replaying then locals.resume_i else locals.i + 1 },
              splitter_init s', .splitter_push_byte b :: events) := by
  unfold processStep
  rw [hread]
  simp only [hpush]

/-- What one turn of the loops can do, with what `splitter_push_byte` returned. -/
inductive ProcessStep (data : List β) (locals : ProcessLocals β) (s : splitter_t β) :
    ProcessLocals β → splitter_t β → List (Event β) → Prop where
  | kept {b : β} {ret : Int} {s' : splitter_t β} {events : List (Event β)}
      (hread : (locals.src data)[locals.i]? = some b)
      (hpush : splitter_push_byte s b = (ret, s', events)) (hret : ret < 0) :
      ProcessStep data locals s { locals with i := locals.i + 1 } s' (.splitter_push_byte b :: events)
  | dropped {b : β} {ret : Int} {s' : splitter_t β} {events : List (Event β)}
      (hread : (locals.src data)[locals.i]? = some b)
      (hpush : splitter_push_byte s b = (ret, s', events)) (hret : 0 ≤ ret)
      (hempty : s'.buf_pos ≤ ret.toNat) :
      ProcessStep data locals s { locals with i := locals.i + 1 } (splitter_init s')
        (.splitter_push_byte b :: events)
  | replayed {b : β} {ret : Int} {s' : splitter_t β} {events : List (Event β)}
      (hread : (locals.src data)[locals.i]? = some b)
      (hpush : splitter_push_byte s b = (ret, s', events)) (hret : 0 ≤ ret)
      (hlen : ret.toNat < s'.buf_pos) :
      ProcessStep data locals s
        ⟨true, (s'.buf.toList.drop ret.toNat).take (s'.buf_pos - ret.toNat), 0,
          if locals.replaying then locals.resume_i else locals.i + 1⟩
        (splitter_init s') (.splitter_push_byte b :: events)
  | resumed (hused : (locals.src data)[locals.i]? = none) (hreplaying : locals.replaying = true) :
      ProcessStep data locals s { locals with replaying := false, i := locals.resume_i } s []

theorem processStep_cases {data : List β} {locals locals' : ProcessLocals β}
    {s s' : splitter_t β} {events : List (Event β)}
    (hstep : processStep data locals s = some (locals', s', events)) :
    ProcessStep data locals s locals' s' events := by
  cases hread : (locals.src data)[locals.i]? with
  | none =>
    simp only [processStep, hread] at hstep
    split at hstep
    case isTrue hreplaying =>
      cases hstep
      exact .resumed hread hreplaying
    case isFalse => cases hstep
  | some b =>
    rcases hpush : splitter_push_byte s b with ⟨ret, s₁, events₁⟩
    rw [processStep_of_read hread hpush] at hstep
    split at hstep
    case isTrue hret =>
      cases hstep
      exact .kept hread hpush hret
    case isFalse hret =>
      by_cases hlen : ret.toNat < s₁.buf_pos
      · rw [if_pos hlen, if_neg (by omega)] at hstep
        cases hstep
        exact .replayed hread hpush (by omega) hlen
      · rw [if_neg hlen, if_pos rfl] at hstep
        cases hstep
        exact .dropped hread hpush (by omega) (by omega)

theorem processStep_spec {s : splitter_t β} (hvalid : s.Valid) (data : List β)
    (locals : ProcessLocals β) : StepSpec data locals s (processStep data locals s) := by
  cases hread : (locals.src data)[locals.i]? with
  | none =>
    have hempty : (locals.src data).drop locals.i = [] :=
      List.drop_eq_nil_of_le (List.getElem?_eq_none_iff.mp hread)
    cases hreplaying : locals.replaying with
    | true =>
      simp only [ProcessLocals.src, hreplaying, if_true] at hempty
      simp only [processStep, hread, hreplaying, if_true]
      exact .resume hreplaying rfl (by simp [ProcessLocals.config, hreplaying, hempty])
    | false =>
      simp only [ProcessLocals.src, hreplaying, Bool.false_eq_true, if_false] at hempty
      simp only [processStep, hread, hreplaying, Bool.false_eq_true, if_false]
      exact .done (by simp [ProcessLocals.config, hreplaying, hempty])
  | some b =>
    obtain ⟨replay, fresh, hconfig, hfresh, hnext⟩ := ProcessLocals.config_of_read hread s
    have hspec := splitter_push_byte_spec (b := b) hvalid
    rcases hpush : splitter_push_byte s b with ⟨ret, s', events⟩
    rw [hpush] at hspec
    rw [processStep_of_read hread hpush]
    have hpushed : pushed (.splitter_push_byte b :: events) = b :: pushed events := rfl
    have hpublished : published (.splitter_push_byte b :: events) = published events := rfl
    obtain ⟨hnone, hspec⟩ := hspec
    cases hcollect : collect (rtcm β) s.candidate b with
    | keep candidate =>
      rw [hcollect] at hspec
      obtain ⟨rfl, hvalid', hcandidate, hframes⟩ := hspec
      rw [if_pos (by decide)]
      exact .read hconfig hvalid' (by rw [hnext, hcandidate, advance, hcollect])
        (by rw [hpublished, hframes, advance, hcollect]) (by rw [hpushed, hnone])
    | frame candidate =>
      rw [hcollect] at hspec
      obtain ⟨rfl, hvalid', hcandidate, hframes⟩ := hspec
      rw [if_pos (by decide)]
      exact .read hconfig hvalid' (by rw [hnext, hcandidate, advance, hcollect])
        (by rw [hpublished, hframes, advance, hcollect]) (by rw [hpushed, hnone])
    | rejected candidate =>
      rw [hcollect] at hspec
      obtain ⟨rfl, hcandidate, hpos, hframes⟩ : ret = 1 ∧ s'.candidate = candidate ∧
        s'.buf_pos = candidate.length ∧ published events = [] := hspec
      have htwo := collect_rejected hvalid.pending hcollect
      have hlen : (if s'.buf_pos > (1 : Int).toNat then s'.buf_pos - (1 : Int).toNat else 0) =
          s'.buf_pos - 1 := if_pos (by simp; omega)
      have htail : (s'.buf.toList.drop (1 : Int).toNat).take (s'.buf_pos - 1) = candidate.tail := by
        rw [← hcandidate, splitter_t.candidate, ← List.drop_one, List.drop_take]
        rfl
      rw [if_neg (by decide), hlen, if_neg (by omega), htail]
      exact .read hconfig (splitter_init_valid _)
        (by simp [ProcessLocals.config, advance, hcollect, hfresh])
        (by rw [hpublished, hframes, advance, hcollect]) (by rw [hpushed, hnone])

/-- An upper bound on the turns left. Every rejection leaves less collected and
unread than before, and between two of them the unread part only shrinks. -/
def ProcessLocals.turns (locals : ProcessLocals β) (data : List β) (s : splitter_t β)
    (total : Nat) : Nat :=
  (locals.config data s).input.length * (2 * total + 2) +
    2 * ((locals.config data s).replay.length + (locals.config data s).fresh.length) +
    if locals.replaying then 1 else 0

theorem processStep_turns {data : List β} {locals locals' : ProcessLocals β}
    {s s' : splitter_t β} {events : List (Event β)} {total : Nat} (hvalid : s.Valid)
    (htotal : (locals.config data s).input.length ≤ total)
    (hstep : processStep data locals s = some (locals', s', events)) :
    locals'.turns data s' total < locals.turns data s total ∧
      (locals'.config data s').input.length ≤ total := by
  have hspec := processStep_spec hvalid data locals
  rw [hstep] at hspec
  cases hspec with
  | resume hreplaying hreplaying' hconfig =>
    rw [ProcessLocals.turns, ProcessLocals.turns, hconfig, hreplaying, hreplaying']
    exact ⟨by simp, htotal⟩
  | @read _ _ _ b replay fresh hconfig hvalid' hconfig' hpublished hpushed =>
    have hinput : (locals.config data s).input.length =
          s.candidate.length + 1 + (replay.length + fresh.length) ∧
        (locals.config data s).replay.length + (locals.config data s).fresh.length =
          replay.length + fresh.length + 1 := by
      rcases hconfig with hconfig | ⟨rfl, hconfig⟩ <;> rw [hconfig] <;> simp [Config.input] <;> omega
    have hunread : (locals'.config data s').replay.length + (locals'.config data s').fresh.length ≤
        (locals'.config data s').input.length := by
      simp [Config.input]
    rw [ProcessLocals.turns, ProcessLocals.turns]
    have hflag : ∀ replaying : Bool, (if replaying then 1 else 0) ≤ 1 := by decide
    have hflag' := hflag locals'.replaying
    have hlength := advance_length (R := rtcm β) s.candidate b replay fresh
    rw [← hconfig', ← hinput.1] at hlength
    rcases hlength with ⟨hsame, hle⟩ | hlt
    · have hmul := Nat.mul_le_mul_right (2 * total + 2) hle
      constructor <;> omega
    · have hmul := Nat.mul_le_mul_right (2 * total + 2) (Nat.succ_le_of_lt hlt)
      rw [Nat.succ_mul] at hmul
      constructor <;> omega

/-- With turns enough the loops end, having read everything, and the calls they
make are those of a run of the replaying scanner. -/
theorem processLoop_run {data : List β} {fuel total : Nat} {locals : ProcessLocals β}
    {s : splitter_t β} (hvalid : s.Valid) (htotal : (locals.config data s).input.length ≤ total)
    (hfuel : locals.turns data s total < fuel) :
    ∃ s' events, processLoop data fuel locals s = some (s', events) ∧ s'.Valid ∧
      Run (rtcm β) (locals.config data s) (pushed events) (published events)
        ⟨s'.candidate, [], []⟩ := by
  induction fuel generalizing locals s with
  | zero => exact absurd hfuel (Nat.not_lt_zero _)
  | succ fuel ih =>
    have hspec := processStep_spec hvalid data locals
    cases hstep : processStep data locals s with
    | none =>
      rw [hstep] at hspec
      refine ⟨s, [], by simp [processLoop, hstep], hvalid, ?_⟩
      cases hspec with
      | done hconfig =>
        rw [hconfig]
        exact .refl _
    | some next =>
      obtain ⟨locals', s₁, events₁⟩ := next
      obtain ⟨hturns, htotal'⟩ := processStep_turns hvalid htotal hstep
      rw [hstep] at hspec
      have hvalid₁ : s₁.Valid := by
        cases hspec with
        | resume => exact hvalid
        | read _ hvalid₁ => exact hvalid₁
      obtain ⟨s', events, hloop, hvalid', hrun⟩ := ih hvalid₁ htotal' (by omega)
      refine ⟨s', events₁ ++ events, by simp [processLoop, hstep, hloop], hvalid', ?_⟩
      have hpushed : pushed (events₁ ++ events) = pushed events₁ ++ pushed events := by
        simp [pushed]
      have hpublished : published (events₁ ++ events) = published events₁ ++ published events := by
        simp [published]
      rw [hpushed, hpublished]
      cases hspec with
      | resume _ _ hconfig => rwa [hconfig] at hrun
      | @read _ _ _ b replay fresh hconfig _ hconfig' hframes hread =>
        rw [hframes, hread]
        rw [hconfig'] at hrun
        rcases hconfig with hconfig | ⟨rfl, hconfig⟩ <;> rw [hconfig]
        · exact .replay hrun
        · exact .fresh hrun

/-- On a valid splitter `splitter_process_bytes` ends, leaves a valid splitter,
and runs the replaying scanner over the chunk. -/
theorem splitter_process_bytes_run {s : splitter_t β} (hvalid : s.Valid) (data : List β) :
    ∃ s' events, splitter_process_bytes s data = some (s', events) ∧ s'.Valid ∧
      Run (rtcm β) ⟨s.candidate, [], data⟩ (pushed events) (published events)
        ⟨s'.candidate, [], []⟩ := by
  have hlength := s.candidate_length (Nat.le_of_lt hvalid.buf_pos_lt)
  have hinput : ((⟨false, [], 0, 0⟩ : ProcessLocals β).config data s).input.length ≤
      s.buf_pos + data.length := by
    simp [ProcessLocals.config, Config.input, hlength]
  have hfuel : (⟨false, [], 0, 0⟩ : ProcessLocals β).turns data s (s.buf_pos + data.length) <
      processFuel s data := by
    simp only [ProcessLocals.turns, ProcessLocals.config, processFuel, Config.input,
      Bool.false_eq_true, if_false, List.drop_zero, List.nil_append, List.length_append, hlength,
      List.length_nil]
    nlinarith [Nat.zero_le (s.buf_pos + data.length)]
  exact processLoop_run hvalid hinput hfuel

/-- The same for a sequence of chunks, which are read as one stream. -/
theorem splitterProcessChunks_run {s : splitter_t β} (hvalid : s.Valid) (chunks : List (List β)) :
    ∃ s' events, splitterProcessChunks s chunks = some (s', events) ∧ s'.Valid ∧
      Run (rtcm β) ⟨s.candidate, [], chunks.flatten⟩ (pushed events) (published events)
        ⟨s'.candidate, [], []⟩ := by
  induction chunks generalizing s with
  | nil => exact ⟨s, [], rfl, hvalid, .refl _⟩
  | cons data rest ih =>
    obtain ⟨s₁, events₁, hfirst, hvalid₁, hrun₁⟩ := splitter_process_bytes_run hvalid data
    obtain ⟨s', events, hrest, hvalid', hrun⟩ := ih hvalid₁
    refine ⟨s', events₁ ++ events, by simp [splitterProcessChunks, hfirst, hrest], hvalid', ?_⟩
    have hstep := (hrun₁.append_fresh rest.flatten).trans hrun
    simpa [pushed, published] using hstep

end rtkbase.gnss_uart
