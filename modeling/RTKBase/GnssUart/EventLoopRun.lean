import RTKBase.GnssUart.Bounds
import RTKBase.GnssUart.Chunking
import RTKBase.GnssUart.EventLoop
import RTKBase.Lib.ReplayOrder
import RTKBase.Lib.Simulation

namespace rtkbase.gnss_uart

open lib.lts lib.scan
open tcp_server (raw_frame_t UART_READ_CHUNK)

/-- The call of `splitter_process_bytes` under way. -/
def LoopPhase.call : LoopPhase → Option (List UInt8 × ProcessLocals UInt8)
  | .splitter_process_bytes raw_frame _ locals => some (raw_frame.data, locals)
  | _ => none

/-- The task as the splitter sees it. -/
def GnssReader.reader (r : GnssReader) : Reader UInt8 := ⟨r.splitter, r.phase.call, r.events⟩

@[simp]
theorem readLoop_call (remaining : Nat) : (readLoop remaining).call = none := by
  unfold readLoop
  split <;> rfl

/-- Each step of the loop is a step of the splitter's reader or hidden from it. -/
theorem loopStep_reader {r r' : GnssReader} {a : LoopAction} (hstep : LoopStep r a r') :
    Reach readerStep Anywhere r.reader r'.reader := by
  have hsame : r'.splitter = r.splitter → r'.phase.call = r.phase.call → r'.events = r.events →
      Reach readerStep Anywhere r.reader r'.reader := by
    intro hsplitter hcall hevents
    have heq : r'.reader = r.reader := by
      rw [GnssReader.reader, hsplitter, hcall, hevents, GnssReader.reader]
    exact heq ▸ .refl
  cases hstep with
  | data hphase => exact hsame rfl (by rw [hphase, readLoop_call]; rfl) rfl
  | reset hphase =>
    refine .single (a := .overflow) trivial ?_
    simp [readerStep, GnssReader.reader, GnssReader.reset, GnssReader.events, hphase,
      LoopPhase.call]
  | logged => exact .refl
  | nothingRead hphase => exact hsame rfl (by rw [hphase]; rfl) rfl
  | read hphase => exact hsame rfl (by rw [hphase]; rfl) rfl
  | posted hphase => exact hsame rfl (by rw [hphase]; rfl) rfl
  | @console raw_frame remaining hphase =>
    refine .single (a := .uartData raw_frame.data) trivial ?_
    simp [readerStep, GnssReader.reader, GnssReader.events, hphase, LoopPhase.call]
  | @returned raw_frame remaining now locals hphase hprocess =>
    have hcall : r.phase.call = some (raw_frame.data, locals) := by rw [hphase]; rfl
    refine .single (a := .turn) trivial ?_
    simp [readerStep, GnssReader.reader, GnssReader.events, hcall, hprocess]
  | @turn raw_frame remaining now locals locals' s events hphase hprocess =>
    have hcall : r.phase.call = some (raw_frame.data, locals) := by rw [hphase]; rfl
    have hcall' : (LoopPhase.splitter_process_bytes raw_frame remaining locals').call =
        some (raw_frame.data, locals') := rfl
    refine .single (a := .turn) trivial ?_
    simp [readerStep, GnssReader.reader, GnssReader.events, hcall, hcall', hprocess]

/-- A run of the task is a run of the splitter's reader. -/
theorem gnssReader_reader {s : splitter_t UInt8} {r : GnssReader}
    (hreach : Reach loopStep Anywhere (gnssReaderStart s) r) :
    Reach readerStep Anywhere (readerStart s) r.reader :=
  hreach.view GnssReader.reader fun _ _ _ _ hstep => loopStep_reader (loopStep_cases hstep)

/-- What is read and not decided yet, as the replaying scanner keeps it. -/
def GnssReader.config (r : GnssReader) : Config UInt8 :=
  match r.phase with
  | .post_raw_gnss_data_tcp raw_frame _ => ⟨r.splitter.candidate, [], raw_frame.data⟩
  | .console_push_bytes raw_frame _ => ⟨r.splitter.candidate, [], raw_frame.data⟩
  | .splitter_process_bytes raw_frame _ locals => locals.config raw_frame.data r.splitter
  | _ => ⟨r.splitter.candidate, [], []⟩

/-- The calls made over a stretch are those of the replaying scanner on its way
through the bytes. -/
def Stretch.Ran (t : Stretch) (c : Config UInt8) : Prop :=
  Run (rtcm UInt8) ⟨[], [], t.bytes⟩ (pushed t.events) (published t.events) c

/-- The chunk that has not been posted, and the one not shown. -/
def LoopPhase.unposted : LoopPhase → List raw_frame_t
  | .post_raw_gnss_data_tcp raw_frame _ => [raw_frame]
  | _ => []

def LoopPhase.unshown : LoopPhase → List raw_frame_t
  | .post_raw_gnss_data_tcp raw_frame _ => [raw_frame]
  | .console_push_bytes raw_frame _ => [raw_frame]
  | _ => []

def badLengths (events : List (Event UInt8)) : Nat :=
  events.countP fun
    | .log_rtcm_bad_len _ => true
    | _ => false

def crcFailures (events : List (Event UInt8)) : Nat :=
  events.countP fun
    | .log_rtcm_crc_fail => true
    | _ => false

/-- The counters hold what was counted, modulo 2 ^ 32. -/
structure gnss_uart_diag_t.Counts (diag : gnss_uart_diag_t) (events : List (Event UInt8)) : Prop where
  frames : diag.rtcm_frames = UInt32.ofNat (published events).length
  badLengths : diag.rtcm_bad_len_count = UInt32.ofNat (badLengths events)
  crcFailures : diag.rtcm_crc_fail_count = UInt32.ofNat (crcFailures events)

theorem gnss_uart_diag_t.Counts.next {diag : gnss_uart_diag_t} {events : List (Event UInt8)}
    (hcounts : diag.Counts events) (now : Nat) (event : Event UInt8) :
    (diag.count now event).Counts (events ++ [event]) := by
  have hframes : (diag.count now event).rtcm_frames =
      diag.rtcm_frames + UInt32.ofNat (published [event]).length := by
    cases event <;> simp [gnss_uart_diag_t.count, published]
  have hbad : (diag.count now event).rtcm_bad_len_count =
      diag.rtcm_bad_len_count + UInt32.ofNat (gnss_uart.badLengths [event]) := by
    cases event <;> simp [gnss_uart_diag_t.count, gnss_uart.badLengths]
  have hcrc : (diag.count now event).rtcm_crc_fail_count =
      diag.rtcm_crc_fail_count + UInt32.ofNat (gnss_uart.crcFailures [event]) := by
    cases event <;> simp [gnss_uart_diag_t.count, gnss_uart.crcFailures]
  refine ⟨?_, ?_, ?_⟩
  · rw [hframes, hcounts.frames, ← UInt32.ofNat_add, ← List.length_append]
    simp [published]
  · rw [hbad, hcounts.badLengths, ← UInt32.ofNat_add, gnss_uart.badLengths, gnss_uart.badLengths,
      ← List.countP_append, gnss_uart.badLengths]
  · rw [hcrc, hcounts.crcFailures, ← UInt32.ofNat_add, gnss_uart.crcFailures,
      gnss_uart.crcFailures, ← List.countP_append, gnss_uart.crcFailures]

theorem gnss_uart_diag_t.Counts.foldl {diag : gnss_uart_diag_t} {events : List (Event UInt8)}
    (hcounts : diag.Counts events) (now : Nat) (more : List (Event UInt8)) :
    (more.foldl (fun diag event => diag.count now event) diag).Counts (events ++ more) := by
  induction more generalizing diag events with
  | nil => simpa using hcounts
  | cons event more ih => simpa using ih (hcounts.next now event)

/-- What every step of the task keeps. -/
structure GnssReader.Sound (r : GnssReader) : Prop where
  valid : r.splitter.Valid
  past : ∀ t ∈ r.past, ∃ pending, t.Ran ⟨pending, [], []⟩
  current : r.current.Ran r.config
  posted : r.posted ++ r.phase.unposted = r.chunks
  console : r.console ++ r.phase.unshown = r.chunks
  chunks : ∀ f ∈ r.chunks, f.data ≠ []
  counts : r.diag.Counts r.events

/-- Between two chunks the task only waits for the next event or chunk. -/
def LoopPhase.Waiting : LoopPhase → Prop
  | .xQueueReceive => True
  | .uart_read_bytes _ => True
  | _ => False

theorem readLoop_waiting (remaining : Nat) : (readLoop remaining).Waiting := by
  unfold readLoop
  split <;> trivial

theorem GnssReader.config_of_waiting {r : GnssReader} (hwaiting : r.phase.Waiting) :
    r.config = ⟨r.splitter.candidate, [], []⟩ := by
  unfold GnssReader.config
  cases hphase : r.phase <;> simp_all [LoopPhase.Waiting]

theorem LoopPhase.Waiting.none_inHand {phase : LoopPhase} (hwaiting : phase.Waiting) :
    phase.unposted = [] ∧ phase.unshown = [] := by
  cases phase <;> simp_all [LoopPhase.Waiting, LoopPhase.unposted, LoopPhase.unshown]

/-- The task goes back to waiting with all the bytes read. -/
theorem GnssReader.Sound.wait {r : GnssReader} (hsound : r.Sound)
    (hconfig : r.config = ⟨r.splitter.candidate, [], []⟩) (hposted : r.phase.unposted = [])
    (hshown : r.phase.unshown = []) {phase : LoopPhase} (hwaiting : phase.Waiting) :
    GnssReader.Sound { r with phase := phase } := by
  obtain ⟨hunposted, hunshown⟩ := hwaiting.none_inHand
  refine ⟨hsound.valid, hsound.past, ?_, ?_, ?_, hsound.chunks, hsound.counts⟩
  · have hcurrent := hsound.current
    rw [hconfig] at hcurrent
    rwa [GnssReader.config_of_waiting (r := { r with phase := phase }) hwaiting]
  · rw [hunposted, ← hposted]
    exact hsound.posted
  · rw [hunshown, ← hshown]
    exact hsound.console

theorem GnssReader.Sound.reset {r : GnssReader} (hsound : r.Sound)
    (hphase : r.phase = .xQueueReceive) : r.reset.Sound := by
  have hwaiting : r.phase.Waiting := by rw [hphase]; trivial
  have hchunks : r.reset.chunks = r.chunks := by
    simp [GnssReader.chunks, GnssReader.reset]
  have hevents : r.reset.events = r.events := by
    simp [GnssReader.events, GnssReader.reset]
  refine ⟨splitter_init_valid _, fun t ht => ?_, ?_, ?_, ?_, ?_, ?_⟩
  · obtain ht | ht := List.mem_append.mp ht
    · exact hsound.past t ht
    · obtain rfl := List.mem_singleton.mp ht
      have hcurrent := hsound.current
      rw [GnssReader.config_of_waiting hwaiting] at hcurrent
      exact ⟨_, hcurrent⟩
  · rw [GnssReader.config_of_waiting (r := r.reset) hwaiting]
    have hnone : r.reset.splitter.candidate = [] := splitter_init_candidate _
    rw [hnone]
    exact .refl _
  · rw [hchunks]
    exact hsound.posted
  · rw [hchunks]
    exact hsound.console
  · rw [hchunks]
    exact hsound.chunks
  · rw [hevents]
    exact hsound.counts

/-- The next chunk lies behind the bytes read before. -/
theorem GnssReader.Sound.read {r : GnssReader} (hsound : r.Sound) {remaining : Nat}
    (hphase : r.phase = .uart_read_bytes remaining) {raw_frame : raw_frame_t}
    (hsome : raw_frame.data ≠ []) :
    GnssReader.Sound { r with
      phase := .post_raw_gnss_data_tcp raw_frame remaining
      current := { r.current with chunks := r.current.chunks ++ [raw_frame] } } := by
  have hwaiting : r.phase.Waiting := by rw [hphase]; trivial
  have hposted := hsound.posted
  have hconsole := hsound.console
  simp only [hphase, LoopPhase.unposted, LoopPhase.unshown, List.append_nil] at hposted hconsole
  refine ⟨hsound.valid, hsound.past, ?_, ?_, ?_, fun f hf => ?_, hsound.counts⟩
  · have hcurrent := hsound.current
    rw [GnssReader.config_of_waiting hwaiting] at hcurrent
    have hmore := hcurrent.append_fresh raw_frame.data
    simpa [Stretch.Ran, Stretch.bytes, GnssReader.config] using hmore
  · simp [LoopPhase.unposted, GnssReader.chunks, hposted]
  · simp [LoopPhase.unshown, GnssReader.chunks, hconsole]
  · have hmem : f ∈ r.chunks ∨ f = raw_frame := by
      simpa [GnssReader.chunks, or_assoc] using hf
    obtain hmem | rfl := hmem
    · exact hsound.chunks f hmem
    · exact hsome

/-- A turn of the splitter's loops is a step of the replaying scanner. -/
theorem processStep_run {data : List UInt8} {locals locals' : ProcessLocals UInt8}
    {s s' : splitter_t UInt8} {events : List (Event UInt8)} (hvalid : s.Valid)
    (hstep : processStep data locals s = some (locals', s', events)) :
    Run (rtcm UInt8) (locals.config data s) (pushed events) (published events)
      (locals'.config data s') := by
  have hspec := processStep_spec hvalid data locals
  rw [hstep] at hspec
  cases hspec with
  | resume _ _ hconfig =>
    rw [hconfig]
    exact .refl _
  | @read _ _ _ b replay fresh hconfig _ hconfig' hpublished hpushed =>
    rw [hpushed, hpublished, hconfig']
    have hrun : Run (rtcm UInt8) (advance (rtcm UInt8) s.candidate b replay fresh).2 [] []
        (advance (rtcm UInt8) s.candidate b replay fresh).2 := .refl _
    obtain hconfig | ⟨rfl, hconfig⟩ := hconfig
    · rw [hconfig]
      simpa using Run.replay hrun
    · rw [hconfig]
      simpa using Run.fresh hrun

theorem loopStep_sound {r r' : GnssReader} {a : LoopAction} (hsound : r.Sound)
    (hstep : LoopStep r a r') : r'.Sound := by
  cases hstep with
  | data hphase =>
    have hwaiting : r.phase.Waiting := by rw [hphase]; trivial
    obtain ⟨hposted, hshown⟩ := hwaiting.none_inHand
    exact hsound.wait (GnssReader.config_of_waiting hwaiting) hposted hshown (readLoop_waiting _)
  | reset hphase => exact hsound.reset hphase
  | logged => exact hsound
  | nothingRead hphase =>
    have hwaiting : r.phase.Waiting := by rw [hphase]; trivial
    obtain ⟨hposted, hshown⟩ := hwaiting.none_inHand
    exact hsound.wait (GnssReader.config_of_waiting hwaiting) hposted hshown trivial
  | read hphase hsome => exact hsound.read hphase hsome
  | posted hphase =>
    have hcurrent := hsound.current
    have hposted := hsound.posted
    have hconsole := hsound.console
    simp only [GnssReader.config, hphase] at hcurrent
    simp only [hphase, LoopPhase.unposted, LoopPhase.unshown] at hposted hconsole
    refine ⟨hsound.valid, hsound.past, hcurrent, ?_, hconsole, hsound.chunks, hsound.counts⟩
    simpa [LoopPhase.unposted, GnssReader.chunks] using hposted
  | console hphase =>
    have hcurrent := hsound.current
    have hposted := hsound.posted
    have hconsole := hsound.console
    simp only [GnssReader.config, hphase] at hcurrent
    simp only [hphase, LoopPhase.unposted, LoopPhase.unshown] at hposted hconsole
    refine ⟨hsound.valid, hsound.past, ?_, hposted, ?_, hsound.chunks, hsound.counts⟩
    · simpa [GnssReader.config, ProcessLocals.config] using hcurrent
    · simpa [LoopPhase.unshown, GnssReader.chunks] using hconsole
  | @returned raw_frame remaining now locals hphase hprocess =>
    have hspec := processStep_spec hsound.valid raw_frame.data locals
    rw [hprocess] at hspec
    cases hspec with
    | done hconfig =>
      apply hsound.wait _ _ _ (readLoop_waiting _)
      · simpa [GnssReader.config, hphase] using hconfig
      · simp [hphase, LoopPhase.unposted]
      · simp [hphase, LoopPhase.unshown]
  | @turn raw_frame remaining now locals locals' s events hphase hprocess =>
    have hcurrent := hsound.current
    have hposted := hsound.posted
    have hconsole := hsound.console
    simp only [GnssReader.config, hphase] at hcurrent
    simp only [hphase, LoopPhase.unposted, LoopPhase.unshown] at hposted hconsole
    refine ⟨processStep_valid hsound.valid hprocess, hsound.past, ?_, hposted, hconsole,
      hsound.chunks, ?_⟩
    · have hrun := hcurrent.trans (processStep_run hsound.valid hprocess)
      simpa [Stretch.Ran, Stretch.bytes, GnssReader.config, pushed, published] using hrun
    · simpa [GnssReader.events] using hsound.counts.foldl now events

theorem gnssReader_sound {s : splitter_t UInt8} {r : GnssReader}
    (hreach : Reach loopStep Anywhere (gnssReaderStart s) r) : r.Sound := by
  refine hreach.invariant ?_ fun _ _ _ hsound _ hstep => loopStep_sound hsound (loopStep_cases hstep)
  refine ⟨splitter_init_valid s, by simp [gnssReaderStart], ?_, rfl, rfl,
    by simp [gnssReaderStart, GnssReader.chunks], ⟨rfl, rfl, rfl⟩⟩
  have hnone : (splitter_init s).candidate = [] := splitter_init_candidate s
  simp only [gnssReaderStart, GnssReader.config, hnone]
  exact .refl _

/-- The chunks handed to the splitter, one call of `splitter_process_bytes` each,
give the splitter and the calls. -/
def Stretch.Computed (t : Stretch) (chunks : List raw_frame_t) (s : splitter_t UInt8)
    (events : List (Event UInt8)) : Prop :=
  splitterProcessChunks t.start (chunks.map (·.data)) = some (s, events)

/-- What is left of the call under way is left of the same call from its start. -/
def ResumesCall (data : List UInt8) (s₀ : splitter_t UInt8) (made : List (Event UInt8))
    (locals : ProcessLocals UInt8) (s : splitter_t UInt8) : Prop :=
  ∀ fuel s' more, processLoop data fuel locals s = some (s', more) →
    ∃ fuel', processLoop data fuel' ⟨false, [], 0, 0⟩ s₀ = some (s', made ++ more)

/-- The splitter has come to where calls of `splitter_process_bytes` for the
chunks come to. -/
def GnssReader.Computing (r : GnssReader) : Prop :=
  match r.phase with
  | .post_raw_gnss_data_tcp raw_frame _ | .console_push_bytes raw_frame _ =>
    ∃ before, r.current.chunks = before ++ [raw_frame] ∧
      r.current.Computed before r.splitter r.current.events
  | .splitter_process_bytes raw_frame _ locals =>
    ∃ before s₀ events₀ made, r.current.chunks = before ++ [raw_frame] ∧
      r.current.Computed before s₀ events₀ ∧ r.current.events = events₀ ++ made ∧
      ResumesCall raw_frame.data s₀ made locals r.splitter
  | _ => r.current.Computed r.current.chunks r.splitter r.current.events

structure GnssReader.Refines (r : GnssReader) : Prop where
  past : ∀ t ∈ r.past, ∃ s', t.Computed t.chunks s' t.events
  fresh : ∀ t ∈ r.past ++ [r.current], ∃ s₁, t.start = splitter_init s₁
  computing : r.Computing

theorem GnssReader.computing_of_waiting {r : GnssReader} (hwaiting : r.phase.Waiting) :
    r.Computing ↔ r.current.Computed r.current.chunks r.splitter r.current.events := by
  unfold GnssReader.Computing
  cases hphase : r.phase <;> simp_all [LoopPhase.Waiting]

theorem splitterProcessChunks_snoc {s s₁ s₂ : splitter_t UInt8} {chunks : List (List UInt8)}
    {data : List UInt8} {events events' : List (Event UInt8)}
    (hbefore : splitterProcessChunks s chunks = some (s₁, events))
    (hlast : splitter_process_bytes s₁ data = some (s₂, events')) :
    splitterProcessChunks s (chunks ++ [data]) = some (s₂, events ++ events') := by
  induction chunks generalizing s events with
  | nil =>
    cases hbefore
    simp [splitterProcessChunks, hlast]
  | cons first rest ih =>
    simp only [splitterProcessChunks, List.cons_append] at hbefore ⊢
    cases hfirst : splitter_process_bytes s first with
    | none => simp [hfirst] at hbefore
    | some result =>
      simp only [hfirst] at hbefore ⊢
      obtain ⟨⟨s', more⟩, hmore, heq⟩ := Option.map_eq_some_iff.mp hbefore
      cases heq
      simp [ih hmore]

/-- A call that returns has done what `splitter_process_bytes` does. -/
theorem ResumesCall.returned {data : List UInt8} {s₀ s : splitter_t UInt8}
    {made : List (Event UInt8)} {locals : ProcessLocals UInt8}
    (hresumes : ResumesCall data s₀ made locals s) (hvalid : s₀.Valid)
    (hstep : processStep data locals s = none) :
    splitter_process_bytes s₀ data = some (s, made) := by
  obtain ⟨fuel, hloop⟩ := hresumes 1 s [] (by simp [processLoop, hstep])
  obtain ⟨s', events, hprocess, _⟩ := splitter_process_bytes_run hvalid data
  have heq := processLoop_det hprocess hloop
  rw [hprocess, heq, List.append_nil]

theorem ResumesCall.turn {data : List UInt8} {s₀ s s' : splitter_t UInt8}
    {made events : List (Event UInt8)} {locals locals' : ProcessLocals UInt8}
    (hresumes : ResumesCall data s₀ made locals s)
    (hstep : processStep data locals s = some (locals', s', events)) :
    ResumesCall data s₀ (made ++ events) locals' s' := by
  intro fuel s₂ more hloop
  have hnext : processLoop data (fuel + 1) locals s = some (s₂, events ++ more) := by
    simp [processLoop, hstep, hloop]
  obtain ⟨fuel', hwhole⟩ := hresumes (fuel + 1) s₂ (events ++ more) hnext
  exact ⟨fuel', by rw [hwhole, List.append_assoc]⟩

/-- A splitter that chunks lead to is valid. -/
theorem Stretch.Computed.valid {t : Stretch} {chunks : List raw_frame_t} {s : splitter_t UInt8}
    {events : List (Event UInt8)} (hcomputed : t.Computed chunks s events)
    (hfresh : ∃ s₁, t.start = splitter_init s₁) : s.Valid := by
  obtain ⟨s₁, hstart⟩ := hfresh
  have hvalid : t.start.Valid := by
    rw [hstart]
    exact splitter_init_valid s₁
  obtain ⟨s', events', hprocess, hvalid', _⟩ :=
    splitterProcessChunks_run hvalid (chunks.map (·.data))
  rw [Stretch.Computed, hprocess] at hcomputed
  cases hcomputed
  exact hvalid'

theorem loopStep_refines {r r' : GnssReader} {a : LoopAction} (hrefines : r.Refines)
    (hstep : LoopStep r a r') : r'.Refines := by
  obtain ⟨hpast, hfresh, hcomputing⟩ := hrefines
  have hcurrent : ∃ s₁, r.current.start = splitter_init s₁ := hfresh _ (by simp)
  cases hstep with
  | data hphase =>
    have hwaiting : r.phase.Waiting := by rw [hphase]; trivial
    refine ⟨hpast, hfresh, ?_⟩
    rw [GnssReader.computing_of_waiting hwaiting] at hcomputing
    rwa [GnssReader.computing_of_waiting (readLoop_waiting _)]
  | reset hphase =>
    have hwaiting : r.phase.Waiting := by rw [hphase]; trivial
    rw [GnssReader.computing_of_waiting hwaiting] at hcomputing
    refine ⟨fun t ht => ?_, fun t ht => ?_, ?_⟩
    · obtain ht | ht := List.mem_append.mp ht
      · exact hpast t ht
      · obtain rfl := List.mem_singleton.mp ht
        exact ⟨_, hcomputing⟩
    · obtain ht | ht := List.mem_append.mp ht
      · exact hfresh t ht
      · obtain rfl := List.mem_singleton.mp ht
        exact ⟨r.splitter, rfl⟩
    · rw [GnssReader.computing_of_waiting (r := r.reset) hwaiting]
      rfl
  | logged => exact ⟨hpast, hfresh, hcomputing⟩
  | nothingRead hphase =>
    have hwaiting : r.phase.Waiting := by rw [hphase]; trivial
    rw [GnssReader.computing_of_waiting hwaiting] at hcomputing
    exact ⟨hpast, hfresh, hcomputing⟩
  | read hphase =>
    have hwaiting : r.phase.Waiting := by rw [hphase]; trivial
    rw [GnssReader.computing_of_waiting hwaiting] at hcomputing
    refine ⟨hpast, fun t ht => ?_, r.current.chunks, rfl, hcomputing⟩
    obtain ht | ht := List.mem_append.mp ht
    · exact hfresh t (List.mem_append_left _ ht)
    · obtain rfl := List.mem_singleton.mp ht
      exact hcurrent
  | posted hphase =>
    simp only [GnssReader.Computing, hphase] at hcomputing
    exact ⟨hpast, hfresh, hcomputing⟩
  | console hphase =>
    simp only [GnssReader.Computing, hphase] at hcomputing
    obtain ⟨before, hchunks, hcomputed⟩ := hcomputing
    refine ⟨hpast, hfresh, before, r.splitter, r.current.events, [], hchunks, hcomputed,
      by simp, ?_⟩
    intro fuel s' more hloop
    exact ⟨fuel, hloop⟩
  | @returned raw_frame remaining now locals hphase hprocess =>
    simp only [GnssReader.Computing, hphase] at hcomputing
    obtain ⟨before, s₀, events₀, made, hchunks, hcomputed, hevents, hresumes⟩ := hcomputing
    refine ⟨hpast, hfresh, ?_⟩
    rw [GnssReader.computing_of_waiting (readLoop_waiting _)]
    have hcall := hresumes.returned (hcomputed.valid hcurrent) hprocess
    have hwhole := splitterProcessChunks_snoc hcomputed hcall
    simpa [Stretch.Computed, hchunks, hevents] using hwhole
  | @turn raw_frame remaining now locals locals' s events hphase hprocess =>
    simp only [GnssReader.Computing, hphase] at hcomputing
    obtain ⟨before, s₀, events₀, made, hchunks, hcomputed, hevents, hresumes⟩ := hcomputing
    refine ⟨hpast, fun t ht => ?_, before, s₀, events₀, made ++ events, hchunks, hcomputed, ?_,
      hresumes.turn hprocess⟩
    · obtain ht | ht := List.mem_append.mp ht
      · exact hfresh t (List.mem_append_left _ ht)
      · obtain rfl := List.mem_singleton.mp ht
        exact hcurrent
    · simp [hevents]

theorem gnssReader_refines {s : splitter_t UInt8} {r : GnssReader}
    (hreach : Reach loopStep Anywhere (gnssReaderStart s) r) : r.Refines := by
  refine hreach.invariant ?_ fun _ _ _ hrefines _ hstep =>
    loopStep_refines hrefines (loopStep_cases hstep)
  refine ⟨by simp [gnssReaderStart], fun t ht => ?_, rfl⟩
  obtain rfl := List.mem_singleton.mp (by simpa [gnssReaderStart] using ht)
  exact ⟨s, rfl⟩

end rtkbase.gnss_uart
