import RTKBase.GnssUart.EventLoopRun

namespace rtkbase.gnss_uart

open lib.lts lib.scan
open tcp_server (raw_frame_t UART_READ_CHUNK)

/-- The stretches whose bytes the splitter has all taken in. -/
def GnssReader.whole (r : GnssReader) : List Stretch :=
  match r.phase with
  | .xQueueReceive | .uart_read_bytes _ => r.past ++ [r.current]
  | _ => r.past

theorem GnssReader.whole_cases {r : GnssReader} {t : Stretch} (ht : t ∈ r.whole) :
    t ∈ r.past ∨ r.phase.Waiting ∧ t = r.current := by
  unfold GnssReader.whole at ht
  cases hphase : r.phase <;> simp_all [LoopPhase.Waiting]

/-- Over a whole stretch the splitter has done what one call of
`splitter_process_bytes` does with the bytes of all its chunks. -/
theorem GnssReader.Refines.whole {r : GnssReader} (hrefines : r.Refines) {t : Stretch}
    (ht : t ∈ r.whole) :
    ∃ s₁ s', t.start = splitter_init s₁ ∧
      splitter_process_bytes t.start t.bytes = some (s', t.events) := by
  have hcomputed : t ∈ r.past ++ [r.current] ∧ ∃ s', t.Computed t.chunks s' t.events := by
    obtain hpast | ⟨hwaiting, rfl⟩ := GnssReader.whole_cases ht
    · exact ⟨List.mem_append_left _ hpast, hrefines.past t hpast⟩
    · exact ⟨by simp, _, (GnssReader.computing_of_waiting hwaiting).mp hrefines.computing⟩
  obtain ⟨hmem, s', hcomputed⟩ := hcomputed
  obtain ⟨s₁, hstart⟩ := hrefines.fresh t hmem
  have hvalid : t.start.Valid := by
    rw [hstart]
    exact splitter_init_valid s₁
  refine ⟨s₁, s', hstart, ?_⟩
  rw [Stretch.Computed, splitterProcessChunks_flatten hvalid] at hcomputed
  rwa [Stretch.bytes, List.flatMap_def]

/-- Over such a stretch the splitter publishes what the reference scan finds, where
no rejected candidate hides a later one. -/
theorem GnssReader.Refines.frames {r : GnssReader} (hrefines : r.Refines) {t : Stretch}
    (ht : t ∈ r.whole) (horder : RejectsInOrder t.bytes) :
    published t.events = referenceFrames t.bytes := by
  obtain ⟨s₁, s', hstart, hprocess⟩ := hrefines.whole ht
  obtain ⟨s₂, events, hchunks, hframes⟩ :=
    splitter_frames_of_rejects_in_order s₁ [t.bytes] (by simpa [RejectsInOrder] using horder)
  rw [splitterProcessChunks_flatten (splitter_init_valid s₁)] at hchunks
  simp only [List.flatten_cons, List.flatten_nil, List.append_nil] at hchunks hframes
  rw [← hstart, hprocess] at hchunks
  cases hchunks
  exact hframes

/-- The events upon which the splitter is reset. -/
def LoopAction.Resets (a : LoopAction) : Prop :=
  a = .event .UART_FIFO_OVF ∨ a = .event .UART_BUFFER_FULL

/-- A reset ends the stretch and begins an empty one; any other step, a failed read
included, goes on with it. -/
theorem loopStep_stretches {r r' : GnssReader} {a : LoopAction}
    (hstep : loopStep r a = some r') :
    (a.Resets → r'.past = r.past ++ [r.current] ∧
      r'.current = ⟨splitter_init r.splitter, [], []⟩) ∧
    (¬ a.Resets → r'.past = r.past ∧ r'.current.start = r.current.start ∧
      r.current.chunks <+: r'.current.chunks ∧ r.current.events <+: r'.current.events) := by
  have hcases := loopStep_cases hstep
  constructor
  · rintro (rfl | rfl)
    all_goals
      cases hphase : r.phase <;> simp only [loopStep, hphase, reduceCtorEq] at hstep
      cases hstep
      exact ⟨rfl, rfl⟩
  · intro hkeeps
    cases hcases with
    | reset _ hlost =>
      exact absurd (hlost.imp (congrArg LoopAction.event) (congrArg LoopAction.event)) hkeeps
    | read => exact ⟨rfl, rfl, List.prefix_append .., List.prefix_refl _⟩
    | turn => exact ⟨rfl, rfl, List.prefix_refl _, List.prefix_append ..⟩
    | _ => exact ⟨rfl, rfl, List.prefix_refl _, List.prefix_refl _⟩

/-- Whatever the events, the sizes they announce and the lengths that
`uart_read_bytes` returns: from one reset to the next the splitter makes the calls
that one call of `splitter_process_bytes` makes for all the bytes, and publishes the
frames that the reference scan finds where no rejected candidate hides a later one.
Only the two events that say that bytes were lost begin a new stretch. -/
theorem stretches_framed {s : splitter_t UInt8} {r : GnssReader}
    (hreach : Reach loopStep Anywhere (gnssReaderStart s) r) :
    (∀ t ∈ r.whole,
      (∃ s₁ s', splitter_process_bytes (splitter_init s₁) t.bytes = some (s', t.events)) ∧
        (RejectsInOrder t.bytes → published t.events = referenceFrames t.bytes)) ∧
    ∀ a r', loopStep r a = some r' →
      (a.Resets → r'.past = r.past ++ [r.current] ∧
        r'.current = ⟨splitter_init r.splitter, [], []⟩) ∧
      (¬ a.Resets → r'.past = r.past ∧ r'.current.start = r.current.start ∧
        r.current.chunks <+: r'.current.chunks ∧ r.current.events <+: r'.current.events) := by
  refine ⟨fun t ht => ?_, fun _ _ hstep => loopStep_stretches hstep⟩
  have hrefines := gnssReader_refines hreach
  obtain ⟨s₁, s', hstart, hprocess⟩ := hrefines.whole ht
  rw [hstart] at hprocess
  exact ⟨⟨s₁, s', hprocess⟩, hrefines.frames ht⟩

/-- A frame comes in two chunks of one event; a header of length zero follows, and
of the next frame only the beginning before the FIFO overflows. -/
def overflowRun : List LoopAction :=
  List.flatten [
    [.event (.UART_DATA 10), .uart_read_bytes (some [0xD3, 0x00, 0x01, 0x00]),
      .post_raw_gnss_data_tcp, .console_push_bytes],
    List.replicate 5 (.turn 7000),
    [.uart_read_bytes (some [0x0A, 0x18, 0x8D, 0xD3, 0x00, 0x00]), .post_raw_gnss_data_tcp,
      .console_push_bytes],
    List.replicate 10 (.turn 9000),
    [.event (.UART_DATA 2), .uart_read_bytes (some [0xD3, 0x00]), .post_raw_gnss_data_tcp,
      .console_push_bytes],
    List.replicate 3 (.turn 9500), [.event .UART_FIFO_OVF]]

/-- The bytes of its first stretch. -/
def overflowStream : List UInt8 := shortestFrame ++ [0xD3, 0x00, 0x00, 0xD3, 0x00]

theorem overflowRun_whole :
    (runs loopStep Anywhere (gnssReaderStart (zeroedSplitter 0)) overflowRun).map
        (fun r => r.whole.map fun t => (t.bytes, published t.events)) =
      some [(overflowStream, [shortestFrame]), ([], [])] := by
  decide +kernel

theorem stretches_framed_of_overflow :
    ∃ r, runs loopStep Anywhere (gnssReaderStart (zeroedSplitter 0)) overflowRun = some r ∧
      ∃ t ∈ r.whole, t.bytes = overflowStream ∧ published t.events = [shortestFrame] ∧
        referenceFrames overflowStream = [shortestFrame] ∧
        ∃ s₁ s', splitter_process_bytes (splitter_init s₁) overflowStream = some (s', t.events) := by
  obtain ⟨r, hr, hwhole⟩ := Option.map_eq_some_iff.mp overflowRun_whole
  obtain ⟨t, rest, hstretches, hhead, _⟩ := List.map_eq_cons_iff.mp hwhole
  obtain ⟨hbytes, hframes⟩ := Prod.mk.inj hhead
  have ht : t ∈ r.whole := by simp [hstretches]
  obtain ⟨hprocess, hreference⟩ := (stretches_framed (Reach.refl.runs hr)).1 t ht
  rw [hbytes] at hprocess hreference
  exact ⟨r, hr, t, ht, hbytes, hframes, by rw [← hreference (by decide +kernel), hframes], hprocess⟩

theorem Stretch.Ran.sublist {t : Stretch} {c : Config UInt8} (hran : t.Ran c) :
    (published t.events).flatten.Sublist t.bytes := by
  have hsublist := Run.sublist hran
  simp only [Config.input, List.nil_append] at hsublist
  exact (List.sublist_append_left _ _).trans hsublist

theorem published_stretches (r : GnssReader) : published r.events =
    r.past.flatMap (fun t => published t.events) ++ published r.current.events := by
  simp [published, GnssReader.events, List.filterMap_flatMap]

theorem GnssReader.Sound.published_sublist {r : GnssReader} (hsound : r.Sound) :
    (published r.events).flatten.Sublist (r.chunks.flatMap (·.data)) := by
  have hchunks : r.chunks.flatMap (·.data) = r.past.flatMap (·.bytes) ++ r.current.bytes := by
    simp [GnssReader.chunks, List.flatMap_assoc]
    rfl
  rw [published_stretches, hchunks, List.flatten_append]
  refine List.Sublist.append ?_ hsound.current.sublist
  have hpast := hsound.past
  generalize r.past = past at hpast
  induction past with
  | nil => exact List.nil_sublist _
  | cons t rest ih =>
    obtain ⟨pending, hran⟩ := hpast t List.mem_cons_self
    simp only [List.flatMap_cons, List.flatten_append]
    exact hran.sublist.append (ih fun t ht => hpast t (List.mem_cons_of_mem _ ht))

theorem published_rtcmFrame {s : splitter_t UInt8} {r : GnssReader}
    (hreach : Reach loopStep Anywhere (gnssReaderStart s) r) :
    ∀ frame ∈ published r.events, RtcmFrame frame := by
  intro frame hframe
  have hbytes := (reader_bounded (gnssReader_reader hreach)).frames frame hframe
  rwa [show frame.map Octet.byte = frame from List.map_id frame] at hbytes

/-- The frames published so far, one after the other, are bytes the UART gave in
the order in which it gave them, none used twice, and each is a whole RTCM3 frame
with its CRC; no reset and no cut into chunks joins what was not one frame. -/
theorem published_from_stream {s : splitter_t UInt8} {r : GnssReader}
    (hreach : Reach loopStep Anywhere (gnssReaderStart s) r) :
    (published r.events).flatten.Sublist (r.chunks.flatMap (·.data)) ∧
      (∀ frame ∈ published r.events, RtcmFrame frame) ∧
      published r.events =
        r.past.flatMap (fun t => published t.events) ++ published r.current.events ∧
      ∀ t ∈ r.past ++ [r.current], (published t.events).flatten.Sublist t.bytes := by
  have hsound := gnssReader_sound hreach
  refine ⟨hsound.published_sublist, published_rtcmFrame hreach, published_stretches r,
    fun t ht => ?_⟩
  obtain ht | ht := List.mem_append.mp ht
  · obtain ⟨pending, hran⟩ := hsound.past t ht
    exact hran.sublist
  · obtain rfl := List.mem_singleton.mp ht
    exact hsound.current.sublist

theorem published_from_stream_of_overflow :
    ∃ r, runs loopStep Anywhere (gnssReaderStart (zeroedSplitter 0)) overflowRun = some r ∧
      published r.events = [shortestFrame] ∧
      (published r.events).flatten.Sublist (r.chunks.flatMap (·.data)) ∧
      RtcmFrame shortestFrame := by
  have hrun : (runs loopStep Anywhere (gnssReaderStart (zeroedSplitter 0)) overflowRun).map
      (fun r => published r.events) = some [shortestFrame] := by
    decide +kernel
  obtain ⟨r, hr, hframes⟩ := Option.map_eq_some_iff.mp hrun
  obtain ⟨hsublist, hwhole, _⟩ := published_from_stream (Reach.refl.runs hr)
  exact ⟨r, hr, hframes, hsublist, hwhole _ (by simp [hframes])⟩

/-- Every chunk that `uart_read_bytes` returns is one to `UART_READ_CHUNK` bytes
long and goes once, in order, to the TCP bridge, the console and the splitter, which
has taken in all bytes of a stretch when it is reset; the counters of the diagnostics
count what the splitter did with them, modulo 2 ^ 32. -/
theorem chunks_fed {s : splitter_t UInt8} {r : GnssReader}
    (hreach : Reach loopStep Anywhere (gnssReaderStart s) r) :
    (∀ f ∈ r.chunks, 1 ≤ f.data.length ∧ f.data.length ≤ UART_READ_CHUNK) ∧
      r.posted ++ r.phase.unposted = r.chunks ∧ r.console ++ r.phase.unshown = r.chunks ∧
      (∀ t ∈ r.past, ∃ pending, t.Ran ⟨pending, [], []⟩) ∧ r.current.Ran r.config ∧
      r.diag.Counts r.events := by
  have hsound := gnssReader_sound hreach
  refine ⟨fun f hf => ⟨List.length_pos_iff.mpr (hsound.chunks f hf), f.len_le⟩, hsound.posted,
    hsound.console, hsound.past, hsound.current, hsound.counts⟩

theorem chunks_fed_of_overflow :
    ∃ r, runs loopStep Anywhere (gnssReaderStart (zeroedSplitter 0)) overflowRun = some r ∧
      r.posted = r.chunks ∧ r.console = r.chunks ∧
      r.posted.map (·.data.length) = [4, 6, 2] ∧
      r.diag.rtcm_frames = 1 ∧ r.diag.rtcm_bad_len_count = 1 := by
  have hrun : (runs loopStep Anywhere (gnssReaderStart (zeroedSplitter 0)) overflowRun).map
      (fun r => (r.phase.unposted.length, r.phase.unshown.length, r.posted.map (·.data.length),
        (published r.events).length, badLengths r.events)) = some (0, 0, [4, 6, 2], 1, 1) := by
    decide +kernel
  obtain ⟨r, hr, heq⟩ := Option.map_eq_some_iff.mp hrun
  simp only [Prod.mk.injEq, List.length_eq_zero_iff] at heq
  obtain ⟨hunposted, hunshown, hlengths, hframes, hbad⟩ := heq
  obtain ⟨_, hposted, hconsole, _, _, hcounts⟩ := chunks_fed (Reach.refl.runs hr)
  rw [hunposted, List.append_nil] at hposted
  rw [hunshown, List.append_nil] at hconsole
  refine ⟨r, hr, hposted, hconsole, hlengths, ?_, ?_⟩
  · rw [hcounts.frames, hframes]
    rfl
  · rw [hcounts.badLengths, hbad]
    rfl

end rtkbase.gnss_uart
