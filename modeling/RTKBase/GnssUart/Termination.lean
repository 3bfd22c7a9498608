import RTKBase.GnssUart.Framing
import RTKBase.GnssUart.Reader

open lib.lts lib.scan

namespace rtkbase.gnss_uart

variable {β : Type}

/-- The index in the caller's data that is read next, now or after the replay. -/
def ProcessLocals.resume (locals : ProcessLocals β) : Nat :=
  if locals.replaying then locals.resume_i else locals.i

/-- The index of the byte that the next turn takes from the caller's data. -/
def ProcessLocals.taken (locals : ProcessLocals β) (data : List β) : List Nat :=
  if locals.replaying = false ∧ locals.i < data.length then [locals.i] else []

/-- A call of `splitter_process_bytes` between two turns of its loops, with the
indices of the bytes taken from the caller's data so far. -/
structure ProcessCall (β : Type) where
  locals : ProcessLocals β
  splitter : splitter_t β
  consumed : List Nat

def callStart (s : splitter_t β) : ProcessCall β := ⟨⟨false, [], 0, 0⟩, s, []⟩

variable [Octet β]

/-- One turn, if the loops have not ended. -/
def callTurn (data : List β) (c : ProcessCall β) (_ : Unit) : Option (ProcessCall β) :=
  match processStep data c.locals c.splitter with
  | none => none
  | some (locals, s, _) => some ⟨locals, s, c.consumed ++ c.locals.taken data⟩

/-- What one turn can do. -/
inductive Turn (data : List β) (locals : ProcessLocals β) (s : splitter_t β) :
    ProcessLocals β → splitter_t β → Prop where
  | kept {b : β} {s' : splitter_t β} (hread : (locals.src data)[locals.i]? = some b)
      (hret : (splitter_push_byte s b).1 < 0) (hgrown : s'.buf_pos ≤ s.buf_pos + 1) :
      Turn data locals s { locals with i := locals.i + 1 } s'
  | rejected {b : β} {replay : List β} {s' : splitter_t β}
      (hread : (locals.src data)[locals.i]? = some b) (hempty : s'.buf_pos = 0)
      (hshort : replay.length ≤ s.buf_pos) :
      Turn data locals s
        ⟨true, replay, 0, if locals.replaying then locals.resume_i else locals.i + 1⟩ s'
  | resumed (hused : (locals.src data)[locals.i]? = none) (hreplaying : locals.replaying = true) :
      Turn data locals s { locals with replaying := false, i := locals.resume_i } s

section turn

variable {data : List β} {locals locals' : ProcessLocals β} {s s' : splitter_t β}
  {events : List (Event β)}

/-- A byte adds at most itself to the candidate, and a rejected candidate ends with it. -/
theorem push_collected {b : β} {ret : Int} (hvalid : s.Valid)
    (hpush : splitter_push_byte s b = (ret, s', events)) :
    (ret = -1 ∧ s'.buf_pos ≤ s.buf_pos + 1) ∨
      (ret = 1 ∧ s'.buf_pos = s.buf_pos + 1 ∧ 2 ≤ s'.buf_pos) := by
  have hspec := splitter_push_byte_spec (b := b) hvalid
  have hlength := s.candidate_length (Nat.le_of_lt hvalid.buf_pos_lt)
  rw [hpush] at hspec
  obtain ⟨_, hspec⟩ := hspec
  cases hcollect : collect (rtcm β) s.candidate b with
  | keep candidate =>
    rw [hcollect] at hspec
    obtain ⟨hret, hvalid', hcandidate, _⟩ : ret = -1 ∧ s'.Valid ∧ s'.candidate = candidate ∧ _ :=
      hspec
    have hkept := collect_keep_length hcollect
    have hlength' := splitter_t.candidate_length (Nat.le_of_lt hvalid'.buf_pos_lt)
    rw [hcandidate] at hlength'
    exact .inl ⟨hret, by omega⟩
  | frame candidate =>
    rw [hcollect] at hspec
    obtain ⟨hret, hvalid', hcandidate, _⟩ : ret = -1 ∧ s'.Valid ∧ s'.candidate = [] ∧ _ := hspec
    have hlength' := splitter_t.candidate_length (Nat.le_of_lt hvalid'.buf_pos_lt)
    rw [hcandidate, List.length_nil] at hlength'
    exact .inl ⟨hret, by omega⟩
  | rejected candidate =>
    rw [hcollect] at hspec
    obtain ⟨hret, _, hpos, _⟩ : ret = 1 ∧ _ ∧ s'.buf_pos = candidate.length ∧ _ := hspec
    have htwo := collect_rejected hvalid.pending hcollect
    rw [collect_rejected_eq hcollect, List.length_append, List.length_singleton] at hpos htwo
    exact .inr ⟨hret, by omega, by omega⟩

theorem processStep_turn (hvalid : s.Valid)
    (hstep : processStep data locals s = some (locals', s', events)) :
    Turn data locals s locals' s' := by
  cases processStep_cases hstep with
  | kept hread hpush hret =>
    obtain ⟨_, hgrown⟩ | ⟨rfl, _⟩ := push_collected hvalid hpush
    · exact .kept hread (by rwa [hpush]) hgrown
    · cases hret
  | dropped hread hpush hret hempty =>
    -- A rejected candidate has a byte behind its first one, so there is a replay.
    obtain ⟨rfl, _⟩ | ⟨rfl, _, htwo⟩ := push_collected hvalid hpush
    · cases hret
    · exact absurd (htwo.trans hempty) (by decide)
  | replayed hread hpush hret hlen =>
    obtain ⟨rfl, _⟩ | ⟨rfl, hgrown, _⟩ := push_collected hvalid hpush
    · cases hret
    · refine .rejected hread rfl ((List.length_take_le _ _).trans ?_)
      rw [hgrown, Int.toNat_one, Nat.add_sub_cancel]
  | resumed hused hreplaying => exact .resumed hused hreplaying

/-- A turn takes the next byte of the data, or it belongs to a replay. -/
theorem Turn.taken (hturn : Turn data locals s locals' s') :
    (locals.replaying = true ∧ locals'.resume = locals.resume ∧ locals.taken data = []) ∨
      (locals.resume < data.length ∧ locals'.resume = locals.resume + 1 ∧
        locals.taken data = [locals.resume]) := by
  cases hreplaying : locals.replaying with
  | true =>
    have htaken : locals.taken data = [] := if_neg (by simp [hreplaying])
    have hresume : locals'.resume = locals.resume := by
      cases hturn <;> simp [ProcessLocals.resume, hreplaying]
    exact .inl ⟨rfl, hresume, htaken⟩
  | false =>
    have hresume : locals.resume = locals.i := by simp [ProcessLocals.resume, hreplaying]
    have hdata : ∀ b, (locals.src data)[locals.i]? = some b → locals.i < data.length := by
      intro b hread
      rw [ProcessLocals.src, hreplaying, if_neg Bool.false_ne_true] at hread
      exact (List.getElem?_eq_some_iff.mp hread).1
    rw [hresume]
    refine .inr ?_
    cases hturn with
    | kept hread =>
      refine ⟨hdata _ hread, ?_, if_pos ⟨hreplaying, hdata _ hread⟩⟩
      simp [ProcessLocals.resume, hreplaying]
    | rejected hread =>
      refine ⟨hdata _ hread, ?_, if_pos ⟨hreplaying, hdata _ hread⟩⟩
      simp [ProcessLocals.resume, hreplaying]
    | resumed _ htrue =>
      rw [hreplaying] at htrue
      cases htrue

/-- The bytes collected in a replay are bytes of this replay. -/
def Collected (locals : ProcessLocals β) (s : splitter_t β) : Prop :=
  locals.replaying = true → s.buf_pos ≤ locals.i

theorem Turn.collected (hturn : Turn data locals s locals' s') (hcollected : Collected locals s) :
    Collected locals' s' := by
  intro hreplaying'
  cases hturn with
  | kept _ _ hgrown => exact hgrown.trans (Nat.add_le_add_right (hcollected hreplaying') 1)
  | rejected _ hempty => exact Nat.le_of_eq hempty
  | resumed => cases hreplaying'

/-- A turn within a replay moves on in it, starts a shorter one, or ends it. -/
theorem Turn.replay (hturn : Turn data locals s locals' s') (hcollected : Collected locals s)
    (hreplaying : locals.replaying = true) :
    (locals'.replaying = true ∧ locals'.replay_buf = locals.replay_buf ∧
        locals'.i = locals.i + 1 ∧ locals.i < locals.replay_buf.length) ∨
      (locals'.replaying = true ∧ locals'.replay_buf.length < locals.replay_buf.length) ∨
      locals'.replaying = false := by
  have hreplay : ∀ b, (locals.src data)[locals.i]? = some b →
      locals.i < locals.replay_buf.length := by
    intro b hread
    rw [ProcessLocals.src, if_pos hreplaying] at hread
    exact (List.getElem?_eq_some_iff.mp hread).1
  cases hturn with
  | kept hread => exact .inl ⟨hreplaying, rfl, rfl, hreplay _ hread⟩
  | rejected hread _ hshort =>
    exact .inr (.inl ⟨rfl, (hshort.trans (hcollected hreplaying)).trans_lt (hreplay _ hread)⟩)
  | resumed => exact .inr (.inr rfl)

/-- A candidate rejected within a replay is replayed without its first byte, and
all of it comes from behind the start of the replay being read. -/
theorem Turn.shorter (hturn : Turn data locals s locals' s') (hcollected : Collected locals s)
    (hreplaying : locals.replaying = true) {b : β} (hread : locals.replay_buf[locals.i]? = some b)
    (hret : 0 ≤ (splitter_push_byte s b).1) :
    locals'.replaying = true ∧ locals'.i = 0 ∧
      locals'.replay_buf.length < locals.replay_buf.length := by
  have hsrc : (locals.src data)[locals.i]? = some b := by
    rwa [ProcessLocals.src, if_pos hreplaying]
  have hlt := (List.getElem?_eq_some_iff.mp hread).1
  cases hturn with
  | kept hread' hnegative =>
    rw [hsrc] at hread'
    cases hread'
    omega
  | rejected _ _ hshort => exact ⟨rfl, rfl, (hshort.trans (hcollected hreplaying)).trans_lt hlt⟩
  | resumed hused =>
    rw [hsrc] at hused
    cases hused

theorem Turn.resumes (hturn : Turn data locals s locals' s') (hreplaying : locals.replaying = true)
    (hused : locals.replay_buf.length ≤ locals.i) :
    locals'.replaying = false ∧ locals'.i = locals.resume := by
  have hnone : (locals.src data)[locals.i]? = none := by
    rw [ProcessLocals.src, if_pos hreplaying]
    exact List.getElem?_eq_none hused
  cases hturn with
  | kept hread =>
    rw [hnone] at hread
    cases hread
  | rejected hread =>
    rw [hnone] at hread
    cases hread
  | resumed => exact ⟨rfl, by rw [ProcessLocals.resume, if_pos hreplaying]⟩

end turn

/-- The caller's data has been taken in order, up to where it is resumed. -/
structure ProcessCall.Inv (data : List β) (c : ProcessCall β) : Prop where
  valid : c.splitter.Valid
  collected : Collected c.locals c.splitter
  consumed : c.consumed = List.range c.locals.resume

/-- What is left of the data, then of the replays, then of the one being read. -/
def ProcessCall.measure (data : List β) (c : ProcessCall β) : Nat × Nat × Nat :=
  (data.length - c.locals.resume,
    if c.locals.replaying then c.locals.replay_buf.length + 1 else 0,
    c.locals.replay_buf.length - c.locals.i)

theorem callStart_inv {data : List β} {s : splitter_t β} (hvalid : s.Valid) :
    (callStart s).Inv data :=
  ⟨hvalid, by simp [Collected, callStart], rfl⟩

section call

variable {data : List β} {c c' : ProcessCall β}

theorem callTurn_cases (hinv : c.Inv data) (hturn : callTurn data c () = some c') :
    Turn data c.locals c.splitter c'.locals c'.splitter ∧ c'.splitter.Valid ∧
      c'.consumed = c.consumed ++ c.locals.taken data := by
  unfold callTurn at hturn
  split at hturn
  case h_1 => cases hturn
  case h_2 locals' s' events hstep =>
    cases hturn
    exact ⟨processStep_turn hinv.valid hstep, processStep_valid hinv.valid hstep, rfl⟩

theorem callTurn_inv (hinv : c.Inv data) (hturn : callTurn data c () = some c') :
    c'.Inv data := by
  obtain ⟨hcase, hvalid', hconsumed⟩ := callTurn_cases hinv hturn
  refine ⟨hvalid', hcase.collected hinv.collected, ?_⟩
  obtain ⟨_, hresume, htaken⟩ | ⟨_, hresume, htaken⟩ := hcase.taken
  · rw [hconsumed, htaken, hresume, List.append_nil, hinv.consumed]
  · rw [hconsumed, htaken, hresume, hinv.consumed, List.range_succ]

theorem callTurn_measure (hinv : c.Inv data) (hturn : callTurn data c () = some c') :
    WellFoundedRelation.rel (c'.measure data) (c.measure data) := by
  obtain ⟨hcase, _⟩ := callTurn_cases hinv hturn
  obtain ⟨hreplaying, hresume, _⟩ | ⟨hlt, hresume, _⟩ := hcase.taken
  · rw [ProcessCall.measure, ProcessCall.measure, hresume, hreplaying, if_pos rfl]
    refine .right _ ?_
    obtain ⟨hreplaying', hsame, hi, hread⟩ | ⟨hreplaying', hshorter⟩ | hreplaying' :=
      hcase.replay hinv.collected hreplaying
    · rw [hreplaying', hsame, hi, if_pos rfl]
      exact .right _ (Nat.sub_succ_lt_self _ _ hread)
    · rw [hreplaying', if_pos rfl]
      exact .left _ _ (Nat.succ_lt_succ hshorter)
    · rw [hreplaying', if_neg Bool.false_ne_true]
      exact .left _ _ (Nat.succ_pos _)
  · refine .left _ _ ?_
    rw [hresume]
    exact Nat.sub_succ_lt_self _ _ hlt

theorem call_inv {s : splitter_t β} (hvalid : s.Valid)
    (hreach : Reach (callTurn data) Anywhere (callStart s) c) : c.Inv data :=
  hreach.invariant (P := ProcessCall.Inv data) (callStart_inv hvalid)
    fun _ _ _ hinv _ hturn => callTurn_inv hinv hturn

/-- The loops of `splitter_process_bytes` are the turns of a call, up to the last one. -/
theorem processLoop_turns {fuel : Nat} {s' : splitter_t β} {events : List (Event β)}
    (hloop : processLoop data fuel c.locals c.splitter = some (s', events)) :
    ∃ last, Reach (callTurn data) Anywhere c last ∧ callTurn data last () = none ∧
      last.splitter = s' := by
  induction fuel generalizing c s' events with
  | zero => cases hloop
  | succ fuel ih =>
    unfold processLoop at hloop
    cases hstep : processStep data c.locals c.splitter with
    | none =>
      rw [hstep] at hloop
      cases hloop
      exact ⟨c, .refl, by rw [callTurn, hstep], rfl⟩
    | some next =>
      obtain ⟨locals', s₁, events₁⟩ := next
      rw [hstep] at hloop
      obtain ⟨⟨s₂, more⟩, hmore, heq⟩ := Option.map_eq_some_iff.mp hloop
      cases heq
      have hturn : callTurn data c () =
          some ⟨locals', s₁, c.consumed ++ c.locals.taken data⟩ := by
        rw [callTurn, hstep]
      obtain ⟨last, hreach, hend, hsplitter⟩ :=
        ih (c := ⟨locals', s₁, c.consumed ++ c.locals.taken data⟩) hmore
      exact ⟨last, (Reach.next .refl trivial hturn).trans hreach, hend, hsplitter⟩

end call

/-- What a turn within a replay leads to: another replay, when a candidate is
rejected, or the data, when the replay is used up. -/
structure ReplayTurn (c c' : ProcessCall β) : Prop where
  shorter : ∀ b, c.locals.replay_buf[c.locals.i]? = some b →
    0 ≤ (splitter_push_byte c.splitter b).1 →
      c'.locals.replaying = true ∧ c'.locals.i = 0 ∧
        c'.locals.replay_buf.length < c.locals.replay_buf.length
  resumes : c.locals.replay_buf.length ≤ c.locals.i →
    c'.locals.replaying = false ∧ ∀ k ∈ c.consumed, k < c'.locals.i

/-- From every state of the splitter that the reader task reaches, a call of
`splitter_process_bytes` has no infinite run of turns, and it returns the
splitter of the turn that ends it. Every rejection within a replay makes the
replay shorter, and after a replay the data is read on behind all of its bytes
taken so far. -/
theorem replay_loop_ends {memory : splitter_t β} {r : Reader β}
    (hreach : Reach readerStep Anywhere (readerStart memory) r) (data : List β) :
    Terminates (callTurn data) (callStart r.splitter) ∧
      (∃ s' events last, splitter_process_bytes r.splitter data = some (s', events) ∧
        Reach (callTurn data) Anywhere (callStart r.splitter) last ∧
        callTurn data last () = none ∧ last.splitter = s') ∧
      ∀ c c', Reach (callTurn data) Anywhere (callStart r.splitter) c →
        callTurn data c () = some c' → c.locals.replaying = true → ReplayTurn c c' := by
  have hvalid := reader_valid hreach
  refine ⟨?_, ?_, fun c c' hcall hturn hreplaying => ?_⟩
  · exact Terminates.of_measure (P := ProcessCall.Inv data) (ProcessCall.measure data)
      (callStart_inv hvalid)
      fun _ _ _ hinv hturn => ⟨callTurn_inv hinv hturn, callTurn_measure hinv hturn⟩
  · obtain ⟨s', events, hprocess, _⟩ := splitter_process_bytes_run hvalid data
    obtain ⟨last, hlast, hend, hsplitter⟩ :=
      processLoop_turns (c := callStart r.splitter) hprocess
    exact ⟨s', events, last, hprocess, hlast, hend, hsplitter⟩
  · have hinv := call_inv hvalid hcall
    obtain ⟨hcase, _, _⟩ := callTurn_cases hinv hturn
    constructor
    · intro b hread hret
      exact hcase.shorter hinv.collected hreplaying hread hret
    · intro hused
      obtain ⟨hreplaying', hi⟩ := hcase.resumes hreplaying hused
      refine ⟨hreplaying', fun k hk => ?_⟩
      rw [hinv.consumed, List.mem_range] at hk
      rwa [hi]

/-- A rejected candidate of sixteen bytes is replayed, and within this replay a
header of length zero is rejected, too. -/
theorem replay_loop_ends_of_nested :
    Terminates (callTurn nestedRejectStream) (callStart (splitter_init (zeroedSplitter 0))) ∧
      ∃ c c', runs (callTurn nestedRejectStream) Anywhere
          (callStart (splitter_init (zeroedSplitter 0))) (List.replicate 20 ()) = some c ∧
        callTurn nestedRejectStream c () = some c' ∧
        c.locals.replay_buf.length = 15 ∧ c'.locals.replay_buf.length < 15 := by
  have hstart : Reach readerStep Anywhere (readerStart (zeroedSplitter (0 : UInt8)))
      (readerStart (zeroedSplitter 0)) := .refl
  obtain ⟨hends, _, hreplay⟩ := replay_loop_ends hstart nestedRejectStream
  have hrun : (runs (callTurn nestedRejectStream) Anywhere
      (callStart (splitter_init (zeroedSplitter 0))) (List.replicate 20 ())).map
        (fun c => ((callTurn nestedRejectStream c ()).isSome, c.locals.replaying,
          c.locals.replay_buf.length, c.locals.replay_buf[c.locals.i]?,
          (splitter_push_byte c.splitter 0x00).1)) =
      some (true, true, 15, some 0x00, 1) := by
    decide +kernel
  obtain ⟨c, hc, hfacts⟩ := Option.map_eq_some_iff.mp hrun
  simp only [Prod.mk.injEq] at hfacts
  obtain ⟨hsome, hreplaying, hlength, hread, hret⟩ := hfacts
  obtain ⟨c', hturn⟩ := Option.isSome_iff_exists.mp hsome
  have hshorter := (hreplay c c' (Reach.refl.runs hc) hturn hreplaying).shorter 0x00 hread
    (by omega)
  exact ⟨hends, c, c', hc, hturn, hlength, hlength ▸ hshorter.2.2⟩

end rtkbase.gnss_uart
