import RTKBase.GnssUart.Crc

namespace rtkbase.gnss_uart

/-- What the splitter is fed with: elements that carry a byte. The firmware
feeds bare bytes; a byte paired with its stream position shows where in the
stream a buffer's contents come from. -/
class Octet (β : Type) where
  byte : β → UInt8

instance : Octet UInt8 := ⟨id⟩

instance : Octet (UInt8 × Nat) := ⟨Prod.fst⟩

variable {β : Type} [Octet β]

inductive splitter_state_t where
  | STATE_HUNT
  | STATE_RTCM_HDR
  | STATE_RTCM_BODY
  deriving DecidableEq, Repr

structure splitter_t (β : Type) where
  state : splitter_state_t
  buf : Vector β MAX_RTCM_FRAME
  buf_pos : Nat
  rtcm_payload_len : Nat
  rtcm_total_len : Nat

/-- The calls the splitter makes, in order: each byte handed to
`splitter_push_byte`, each frame to `publish_rtcm_frame`, each logged error. -/
inductive Event (β : Type) where
  | splitter_push_byte (b : β)
  | publish_rtcm_frame (data : List β)
  | log_rtcm_bad_len (len : Nat)
  | log_rtcm_crc_fail
  | logBodyOverflow

/-- The bytes of `buf`. -/
def splitter_t.bytes (s : splitter_t β) : List UInt8 := s.buf.toList.map Octet.byte

def splitter_init (s : splitter_t β) : splitter_t β :=
  { s with state := .STATE_HUNT, buf_pos := 0 }

/-- `s->buf[s->buf_pos++] = b`. -/
def splitter_t.store (s : splitter_t β) (b : β) : splitter_t β :=
  { s with buf := s.buf.setIfInBounds s.buf_pos b, buf_pos := s.buf_pos + 1 }

/-- The `STATE_HUNT` case of `splitter_push_byte`. -/
def splitterHunt (s : splitter_t β) (b : β) : Int × splitter_t β × List (Event β) :=
  if Octet.byte b = 0xD3 then
    (-1, { s with buf := s.buf.setIfInBounds 0 b, buf_pos := 1, state := .STATE_RTCM_HDR }, [])
  else (-1, s, [])

def splitter_push_byte (s : splitter_t β) (b : β) : Int × splitter_t β × List (Event β) :=
  match s.state with
  | .STATE_HUNT => splitterHunt s b
  | .STATE_RTCM_HDR =>
    let s := s.store b
    if s.buf_pos = 3 then
      let len := rtcmLen (s.bytes.getD 1 0) (s.bytes.getD 2 0)
      if len = 0 ∨ len > 1023 then (1, s, [.log_rtcm_bad_len len])
      else
        (-1, { s with rtcm_payload_len := len, rtcm_total_len := 3 + len + 3,
                      state := .STATE_RTCM_BODY }, [])
    else (-1, s, [])
  | .STATE_RTCM_BODY =>
    if s.buf_pos ≥ MAX_RTCM_FRAME then
      -- `goto restart` with the splitter reset: the byte is hunted on.
      let (ret, s, events) := splitterHunt (splitter_init s) b
      (ret, s, .logBodyOverflow :: events)
    else
      let s := s.store b
      if s.buf_pos = s.rtcm_total_len then
        if rtcmCrcOk s.bytes s.rtcm_total_len then
          (-1, splitter_init s, [.publish_rtcm_frame (s.buf.toList.take s.rtcm_total_len)])
        else (1, s, [.log_rtcm_crc_fail])
      else (-1, s, [])

/-- The local variables of `splitter_process_bytes`: whether `src` points to
`replay_buf` rather than to the caller's data, the bytes copied there, the read
index, and the index in the caller's data to resume from. -/
structure ProcessLocals (β : Type) where
  replaying : Bool
  replay_buf : List β
  i : Nat
  resume_i : Nat

def ProcessLocals.src (locals : ProcessLocals β) (data : List β) : List β :=
  if locals.replaying then locals.replay_buf else data

/-- One turn of the loops of `splitter_process_bytes`; `none` is the `break`. -/
def processStep (data : List β) (locals : ProcessLocals β) (s : splitter_t β) :
    Option (ProcessLocals β × splitter_t β × List (Event β)) :=
  match (locals.src data)[locals.i]? with
  | some b =>
    let (replay_start, s, events) := splitter_push_byte s b
    let events := .splitter_push_byte b :: events
    let i := locals.i + 1
    if replay_start < 0 then some ({ locals with i := i }, s, events)
    else
      let replay_len :=
        if s.buf_pos > replay_start.toNat then s.buf_pos - replay_start.toNat else 0
      if replay_len = 0 then some ({ locals with i := i }, splitter_init s, events)
      else
        some ({ replaying := true
                replay_buf := (s.buf.toList.drop replay_start.toNat).take replay_len
                i := 0
                resume_i := if locals.replaying then locals.resume_i else i },
              splitter_init s, events)
  | none =>
    -- A used-up replay gives way to the caller's data.
    if locals.replaying then some ({ locals with replaying := false, i := locals.resume_i }, s, [])
    else none

/-- The loops of `splitter_process_bytes`, for at most `fuel` turns. -/
def processLoop (data : List β) :
    Nat → ProcessLocals β → splitter_t β → Option (splitter_t β × List (Event β))
  | 0, _, _ => none
  | fuel + 1, locals, s =>
    match processStep data locals s with
    | none => some (s, [])
    | some (locals, s, events) =>
      (processLoop data fuel locals s).map fun (s, more) => (s, events ++ more)

/-- Turns that suffice for a chunk, whatever it contains. -/
def processFuel (s : splitter_t β) (data : List β) : Nat :=
  2 * ((s.buf_pos + data.length + 1) * (s.buf_pos + data.length + 1))

def splitter_process_bytes (s : splitter_t β) (data : List β) :
    Option (splitter_t β × List (Event β)) :=
  processLoop data (processFuel s data) ⟨false, [], 0, 0⟩ s

/-- The calls `task_gnss_reader` makes, one for each chunk it reads. -/
def splitterProcessChunks :
    splitter_t β → List (List β) → Option (splitter_t β × List (Event β))
  | s, [] => some (s, [])
  | s, data :: rest =>
    match splitter_process_bytes s data with
    | none => none
    | some (s, events) =>
      (splitterProcessChunks s rest).map fun (s, more) => (s, events ++ more)

/-- The frames handed to `publish_rtcm_frame`. -/
def published (events : List (Event β)) : List (List β) :=
  events.filterMap fun
    | .publish_rtcm_frame data => some data
    | _ => none

/-- The bytes handed to `splitter_push_byte`. -/
def pushed (events : List (Event β)) : List β :=
  events.filterMap fun
    | .splitter_push_byte b => some b
    | _ => none

end rtkbase.gnss_uart
