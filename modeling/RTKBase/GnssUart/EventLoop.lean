import RTKBase.GnssUart.Reader
import RTKBase.TcpServer.Server

namespace rtkbase.gnss_uart

open lib.lts lib.scan
open tcp_server (raw_frame_t UART_READ_CHUNK)

/-- The events of the UART driver's queue. Of a framing or a parity error, a
break or anything else the task only writes a log line. -/
inductive UartEvent where
  | UART_DATA (size : Nat)
  | UART_FIFO_OVF
  | UART_BUFFER_FULL
  | UART_BREAK
  | UART_FRAME_ERR
  | UART_PARITY_ERR
  | other

/-- Where `task_gnss_reader` is in its loop, with the chunk in `raw_frame` and
what remains of the event. -/
inductive LoopPhase where
  | xQueueReceive
  | uart_read_bytes (remaining : Nat)
  | post_raw_gnss_data_tcp (raw_frame : raw_frame_t) (remaining : Nat)
  | console_push_bytes (raw_frame : raw_frame_t) (remaining : Nat)
  | splitter_process_bytes (raw_frame : raw_frame_t) (remaining : Nat)
      (locals : ProcessLocals UInt8)

structure gnss_uart_diag_t where
  rtcm_frames : UInt32
  last_rtcm_ms : UInt64
  rtcm_bad_len_count : UInt32
  rtcm_crc_fail_count : UInt32

/-- From one reset of the splitter to the next: the splitter as the reset left it,
the chunks that `uart_read_bytes` returned, and the calls the splitter made. -/
structure Stretch where
  start : splitter_t UInt8
  chunks : List raw_frame_t
  events : List (Event UInt8)

def Stretch.bytes (t : Stretch) : List UInt8 := t.chunks.flatMap (·.data)

structure GnssReader where
  phase : LoopPhase
  splitter : splitter_t UInt8
  diag : gnss_uart_diag_t
  /-- The stretches before the last reset. -/
  past : List Stretch
  current : Stretch
  /-- The chunks handed to `post_raw_gnss_data_tcp`, and to
  `console_push_bytes`. -/
  posted : List raw_frame_t
  console : List raw_frame_t

inductive LoopAction where
  | event (event : UartEvent)
  /-- `none` for a result of zero or less. -/
  | uart_read_bytes (result : Option (List UInt8))
  | post_raw_gnss_data_tcp
  | console_push_bytes
  /-- One turn of the loops of `splitter_process_bytes`, at the time that
  `esp_timer_get_time` tells. -/
  | turn (esp_timer_get_time : Nat)

/-- The head of `while (remaining > 0)`. -/
def readLoop (remaining : Nat) : LoopPhase :=
  if 0 < remaining then .uart_read_bytes remaining else .xQueueReceive

/-- The counters that a call of the splitter advances. -/
def gnss_uart_diag_t.count (diag : gnss_uart_diag_t) (esp_timer_get_time : Nat) :
    Event UInt8 → gnss_uart_diag_t
  | .publish_rtcm_frame _ =>
    { diag with
      rtcm_frames := diag.rtcm_frames + 1
      last_rtcm_ms := UInt64.ofNat (esp_timer_get_time / 1000) }
  | .log_rtcm_bad_len _ => { diag with rtcm_bad_len_count := diag.rtcm_bad_len_count + 1 }
  | .log_rtcm_crc_fail => { diag with rtcm_crc_fail_count := diag.rtcm_crc_fail_count + 1 }
  | _ => diag

/-- `UART_FIFO_OVF` and `UART_BUFFER_FULL`: the input is flushed, the event queue
and the splitter are reset. -/
def GnssReader.reset (r : GnssReader) : GnssReader :=
  { r with
    splitter := splitter_init r.splitter
    past := r.past ++ [r.current]
    current := ⟨splitter_init r.splitter, [], []⟩ }

def eventStep (r : GnssReader) : UartEvent → GnssReader
  | .UART_DATA size => { r with phase := readLoop size }
  | .UART_FIFO_OVF => r.reset
  | .UART_BUFFER_FULL => r.reset
  | _ => r

/-- `uart_read_bytes` is asked for no more than a chunk. -/
def readStep (r : GnssReader) (remaining : Nat) : Option (List UInt8) → Option GnssReader
  | none => some { r with phase := .xQueueReceive }
  | some bytes =>
    if h : bytes ≠ [] ∧ bytes.length ≤ remaining ∧ bytes.length ≤ UART_READ_CHUNK then
      some { r with
        phase := .post_raw_gnss_data_tcp ⟨bytes, h.2.2⟩ remaining
        current := { r.current with chunks := r.current.chunks ++ [⟨bytes, h.2.2⟩] } }
    else none

/-- The next step of `task_gnss_reader`. -/
def loopStep (r : GnssReader) (a : LoopAction) : Option GnssReader :=
  match r.phase, a with
  | .xQueueReceive, .event event => some (eventStep r event)
  | .uart_read_bytes remaining, .uart_read_bytes result => readStep r remaining result
  | .post_raw_gnss_data_tcp raw_frame remaining, .post_raw_gnss_data_tcp =>
    some { r with
      phase := .console_push_bytes raw_frame remaining
      posted := r.posted ++ [raw_frame] }
  | .console_push_bytes raw_frame remaining, .console_push_bytes =>
    some { r with
      phase := .splitter_process_bytes raw_frame remaining ⟨false, [], 0, 0⟩
      console := r.console ++ [raw_frame] }
  | .splitter_process_bytes raw_frame remaining locals, .turn now =>
    match processStep raw_frame.data locals r.splitter with
    | none => some { r with phase := readLoop (remaining - raw_frame.data.length) }
    | some (locals, s, events) =>
      some { r with
        phase := .splitter_process_bytes raw_frame remaining locals
        splitter := s
        diag := events.foldl (fun diag event => diag.count now event) r.diag
        current := { r.current with events := r.current.events ++ events } }
  | _, _ => none

/-- The task enters its loop, the UART configured and flushed. -/
def gnssReaderStart (s : splitter_t UInt8) : GnssReader where
  phase := .xQueueReceive
  splitter := splitter_init s
  diag := ⟨0, 0, 0, 0⟩
  past := []
  current := ⟨splitter_init s, [], []⟩
  posted := []
  console := []

/-- All calls the splitter has made. -/
def GnssReader.events (r : GnssReader) : List (Event UInt8) :=
  r.past.flatMap (·.events) ++ r.current.events

/-- All chunks read. -/
def GnssReader.chunks (r : GnssReader) : List raw_frame_t :=
  r.past.flatMap (·.chunks) ++ r.current.chunks

/-- What one step of the task can do. -/
inductive LoopStep (r : GnssReader) : LoopAction → GnssReader → Prop where
  | data {size : Nat} (hphase : r.phase = .xQueueReceive) :
      LoopStep r (.event (.UART_DATA size)) { r with phase := readLoop size }
  | reset {event : UartEvent} (hphase : r.phase = .xQueueReceive)
      (hlost : event = .UART_FIFO_OVF ∨ event = .UART_BUFFER_FULL) :
      LoopStep r (.event event) r.reset
  | logged {event : UartEvent} (hphase : r.phase = .xQueueReceive) : LoopStep r (.event event) r
  | nothingRead {remaining : Nat} (hphase : r.phase = .uart_read_bytes remaining) :
      LoopStep r (.uart_read_bytes none) { r with phase := .xQueueReceive }
  | read {remaining : Nat} {raw_frame : raw_frame_t} (hphase : r.phase = .uart_read_bytes remaining)
      (hsome : raw_frame.data ≠ []) (hremaining : raw_frame.data.length ≤ remaining) :
      LoopStep r (.uart_read_bytes (some raw_frame.data)) { r with
        phase := .post_raw_gnss_data_tcp raw_frame remaining
        current := { r.current with chunks := r.current.chunks ++ [raw_frame] } }
  | posted {raw_frame : raw_frame_t} {remaining : Nat}
      (hphase : r.phase = .post_raw_gnss_data_tcp raw_frame remaining) :
      LoopStep r .post_raw_gnss_data_tcp { r with
        phase := .console_push_bytes raw_frame remaining
        posted := r.posted ++ [raw_frame] }
  | console {raw_frame : raw_frame_t} {remaining : Nat}
      (hphase : r.phase = .console_push_bytes raw_frame remaining) :
      LoopStep r .console_push_bytes { r with
        phase := .splitter_process_bytes raw_frame remaining ⟨false, [], 0, 0⟩
        console := r.console ++ [raw_frame] }
  | returned {raw_frame : raw_frame_t} {remaining now : Nat} {locals : ProcessLocals UInt8}
      (hphase : r.phase = .splitter_process_bytes raw_frame remaining locals)
      (hstep : processStep raw_frame.data locals r.splitter = none) :
      LoopStep r (.turn now) { r with phase := readLoop (remaining - raw_frame.data.length) }
  | turn {raw_frame : raw_frame_t} {remaining now : Nat} {locals locals' : ProcessLocals UInt8}
      {s : splitter_t UInt8} {events : List (Event UInt8)}
      (hphase : r.phase = .splitter_process_bytes raw_frame remaining locals)
      (hstep : processStep raw_frame.data locals r.splitter = some (locals', s, events)) :
      LoopStep r (.turn now) { r with
        phase := .splitter_process_bytes raw_frame remaining locals'
        splitter := s
        diag := events.foldl (fun diag event => diag.count now event) r.diag
        current := { r.current with events := r.current.events ++ events } }

theorem eventStep_cases {r : GnssReader} (hphase : r.phase = .xQueueReceive)
    (event : UartEvent) : LoopStep r (.event event) (eventStep r event) := by
  cases event with
  | UART_DATA size => exact .data hphase
  | UART_FIFO_OVF => exact .reset hphase (.inl rfl)
  | UART_BUFFER_FULL => exact .reset hphase (.inr rfl)
  | _ => exact .logged hphase

theorem loopStep_cases {r r' : GnssReader} {a : LoopAction} (hstep : loopStep r a = some r') :
    LoopStep r a r' := by
  unfold loopStep at hstep
  split at hstep
  case h_1 event hphase =>
    obtain rfl := Option.some.inj hstep
    exact eventStep_cases hphase event
  case h_2 remaining result hphase =>
    cases result with
    | none =>
      obtain rfl := Option.some.inj hstep
      exact .nothingRead hphase
    | some bytes =>
      simp only [readStep] at hstep
      split at hstep
      case isTrue hroom =>
        obtain rfl := Option.some.inj hstep
        exact @LoopStep.read r remaining ⟨bytes, hroom.2.2⟩ hphase hroom.1 hroom.2.1
      case isFalse => cases hstep
  case h_3 hphase =>
    obtain rfl := Option.some.inj hstep
    exact .posted hphase
  case h_4 hphase =>
    obtain rfl := Option.some.inj hstep
    exact .console hphase
  case h_5 raw_frame remaining locals now hphase =>
    cases hprocess : processStep raw_frame.data locals r.splitter with
    | none =>
      rw [hprocess] at hstep
      obtain rfl := Option.some.inj hstep
      exact .returned hphase hprocess
    | some next =>
      rw [hprocess] at hstep
      obtain rfl := Option.some.inj hstep
      exact .turn hphase hprocess
  case h_6 => cases hstep

end rtkbase.gnss_uart
