import RTKBase.FramePool.Pool
import RTKBase.NtripCaster.Request

namespace rtkbase.ntrip_caster

open lib.cstring gnss_uart frame_pool

abbrev MAX_ROVERS : Nat := 4
def ROVER_REQ_BUF_SIZE : Nat := 512
def HANDSHAKE_SEND_RETRIES : Nat := 20
def ROVER_STREAM_SEND_RETRIES : Nat := 5

inductive rover_state_t where
  | ROVER_EMPTY
  | ROVER_HANDSHAKE
  | ROVER_STREAMING
  deriving DecidableEq

/-- The two buffers are lists, so that a write past the end of one shows in
its length. -/
structure rover_conn_t where
  fd : Int
  state : rover_state_t
  rx_buf : List UInt8
  rx_pos : Nat
  is_ntrip_v2 : Bool
  tx_pending : List UInt8
  tx_pending_len : Nat
  tx_pending_pos : Nat

/-- A descriptor as the network sees it, since `accept` returned it. -/
structure Socket where
  isOpen : Bool
  received : List UInt8
  sent : List UInt8
  /-- How many bytes had been sent when streaming began. -/
  streamStart : Nat

def acceptedSocket : Socket := ⟨true, [], [], 0⟩

/-- A rover slot with the socket of its connection. -/
structure RoverSlot where
  rover : rover_conn_t
  sock : Socket

/-- The outcome of one call of `send`. -/
inductive SendResult where
  | sent (n : Nat)
  | again
  | error

inductive SendEnd where
  | finished
  | blocked
  | failed

/-- The loop of `send_all_nonblocking` and `send_bytes_to_rover`: send from
`offset` on, where `retries` tells how often in a row the socket has refused
and `limit` how often it may. The first argument are the outcomes of the calls
of `send`; those not used are returned with the new offset. -/
def sendLoop (limit len : Nat) :
    List SendResult → Nat → Nat → Option (SendEnd × Nat × List SendResult)
  | [], offset, _ => if offset < len then none else some (.finished, offset, [])
  | result :: rest, offset, retries =>
    if offset < len then
      match result with
      | .sent n =>
        if n = 0 then some (.failed, offset, rest)
        else if n ≤ len - offset then sendLoop limit len rest (offset + n) 0
        else none
      | .again =>
        if retries < limit then sendLoop limit len rest offset (retries + 1)
        else some (.blocked, offset, rest)
      | .error => some (.failed, offset, rest)
    else some (.finished, offset, result :: rest)

/-- The bytes of `data` from one offset up to another go out. -/
def Socket.transmit (sock : Socket) (data : List UInt8) (offset stop : Nat) : Socket :=
  { sock with sent := sock.sent ++ (data.take stop).drop offset }

def send_all_nonblocking (sock : Socket) (data : List UInt8) (results : List SendResult) :
    Option (Bool × Socket × List SendResult) :=
  match sendLoop HANDSHAKE_SEND_RETRIES data.length results 0 0 with
  | none => none
  | some (.finished, offset, rest) => some (true, sock.transmit data 0 offset, rest)
  | some (_, offset, rest) => some (false, sock.transmit data 0 offset, rest)

/-- The texts of a response one after another, up to the first that fails. -/
def sendTexts (sock : Socket) :
    List (List UInt8) → List SendResult → Option (Bool × Socket × List SendResult)
  | [], results => some (true, sock, results)
  | data :: texts, results =>
    match send_all_nonblocking sock data results with
    | none => none
    | some (false, sock, rest) => some (false, sock, rest)
    | some (true, sock, rest) => sendTexts sock texts rest

def close_rover (c : RoverSlot) : RoverSlot where
  rover := { c.rover with
    fd := -1
    state := .ROVER_EMPTY
    rx_pos := 0
    is_ntrip_v2 := false
    tx_pending_len := 0
    tx_pending_pos := 0 }
  sock := { c.sock with isOpen := false }

/-- The result 1, 0 or -1 of the source is `finished`, `blocked` or `failed`. -/
def send_bytes_to_rover (c : RoverSlot) (data : List UInt8) (len offset : Nat)
    (results : List SendResult) : Option (SendEnd × RoverSlot × Nat × List SendResult) :=
  match sendLoop ROVER_STREAM_SEND_RETRIES len results offset 0 with
  | none => none
  | some (.failed, stop, rest) =>
    some (.failed, close_rover { c with sock := c.sock.transmit data offset stop }, stop, rest)
  | some (result, stop, rest) =>
    some (result, { c with sock := c.sock.transmit data offset stop }, stop, rest)

/-- `tx_pending_len` and `tx_pending_pos` are assigned. -/
def RoverSlot.setPending (c : RoverSlot) (len pos : Nat) : RoverSlot :=
  { c with rover := { c.rover with tx_pending_len := len, tx_pending_pos := pos } }

def flush_rover_pending (c : RoverSlot) (results : List SendResult) :
    Option (Bool × RoverSlot × List SendResult) :=
  if c.rover.tx_pending_len ≤ c.rover.tx_pending_pos then some (true, c.setPending 0 0, results)
  else
    match send_bytes_to_rover c c.rover.tx_pending c.rover.tx_pending_len c.rover.tx_pending_pos
        results with
    | none => none
    | some (.failed, c, _, rest) => some (false, c.setPending 0 0, rest)
    | some (.blocked, c, pos, rest) => some (false, c.setPending c.rover.tx_pending_len pos, rest)
    | some (.finished, c, _, rest) => some (true, c.setPending 0 0, rest)

/-- The unsent rest of a frame is kept: `memcpy` to the start of `tx_pending`. -/
def RoverSlot.keepTail (c : RoverSlot) (tail : List UInt8) : RoverSlot :=
  { c with rover := { c.rover with
      tx_pending := tail ++ c.rover.tx_pending.drop tail.length
      tx_pending_len := tail.length
      tx_pending_pos := 0 } }

def send_frame_to_rover (c : RoverSlot) (frame : RtcmFrame) (results : List SendResult) :
    Option (Bool × RoverSlot) :=
  match flush_rover_pending c results with
  | none => none
  | some (false, c, _) => some (false, c)
  | some (true, c, results) =>
    match send_bytes_to_rover c frame.data frame.data.length 0 results with
    | none => none
    | some (.finished, c, _, _) => some (true, c)
    | some (.failed, c, _, _) => some (false, c)
    | some (.blocked, c, offset, _) =>
      if c.rover.state ≠ .ROVER_STREAMING then some (false, c)
      else if offset = 0 then some (false, c)
      else some (true, c.keepTail (frame.data.drop offset))

/-- How `send_frame_to_rover` ends: with a flush that leaves something pending,
with the whole frame sent, with nothing of it kept, or with its unsent rest kept. -/
inductive FrameSend (c : RoverSlot) (frame : RtcmFrame) (results : List SendResult) :
    Bool → RoverSlot → Prop where
  | notFlushed {c' : RoverSlot} {rest : List SendResult}
      (hflush : flush_rover_pending c results = some (false, c', rest)) :
      FrameSend c frame results false c'
  | finished {c₁ c' : RoverSlot} {rest rest' : List SendResult} {stop : Nat}
      (hflush : flush_rover_pending c results = some (true, c₁, rest))
      (hsend : send_bytes_to_rover c₁ frame.data frame.data.length 0 rest =
        some (.finished, c', stop, rest')) : FrameSend c frame results true c'
  | stopped {c₁ c' : RoverSlot} {rest rest' : List SendResult} {result : SendEnd} {stop : Nat}
      (hflush : flush_rover_pending c results = some (true, c₁, rest))
      (hsend : send_bytes_to_rover c₁ frame.data frame.data.length 0 rest =
        some (result, c', stop, rest'))
      (hresult : result = .failed ∨
        result = .blocked ∧ (c'.rover.state ≠ .ROVER_STREAMING ∨ stop = 0)) :
      FrameSend c frame results false c'
  | kept {c₁ c₂ : RoverSlot} {rest rest' : List SendResult} {stop : Nat}
      (hflush : flush_rover_pending c results = some (true, c₁, rest))
      (hsend : send_bytes_to_rover c₁ frame.data frame.data.length 0 rest =
        some (.blocked, c₂, stop, rest'))
      (hstate : c₂.rover.state = .ROVER_STREAMING) (hstop : stop ≠ 0) :
      FrameSend c frame results true (c₂.keepTail (frame.data.drop stop))

theorem send_frame_to_rover_cases {c c' : RoverSlot} {frame : RtcmFrame}
    {results : List SendResult} {ok : Bool}
    (hframe : send_frame_to_rover c frame results = some (ok, c')) :
    FrameSend c frame results ok c' := by
  unfold send_frame_to_rover at hframe
  split at hframe
  case h_1 => cases hframe
  case h_2 hflush =>
    cases hframe
    exact .notFlushed hflush
  case h_3 hflush =>
    split at hframe
    case h_1 => cases hframe
    case h_2 hsend =>
      cases hframe
      exact .finished hflush hsend
    case h_3 hsend =>
      cases hframe
      exact .stopped hflush hsend (.inl rfl)
    case h_4 hsend =>
      split at hframe
      case isTrue hstate =>
        cases hframe
        exact .stopped hflush hsend (.inr ⟨rfl, .inl hstate⟩)
      case isFalse hstate =>
        split at hframe
        case isTrue hzero =>
          cases hframe
          exact .stopped hflush hsend (.inr ⟨rfl, .inr hzero⟩)
        case isFalse hzero =>
          cases hframe
          exact .kept hflush hsend (not_not.mp hstate) hzero

/-- The loop goes from its offset to a later one, to the end if it finishes. -/
theorem sendLoop_spec {limit len : Nat} {results rest : List SendResult}
    {offset retries stop : Nat} {result : SendEnd} (hoffset : offset ≤ len)
    (hloop : sendLoop limit len results offset retries = some (result, stop, rest)) :
    offset ≤ stop ∧ stop ≤ len ∧ (result = .finished → stop = len) := by
  induction results generalizing offset retries with
  | nil =>
    unfold sendLoop at hloop
    split at hloop
    case isTrue => cases hloop
    case isFalse hend =>
      cases hloop
      exact ⟨Nat.le_refl _, hoffset, fun _ => by omega⟩
  | cons first results ih =>
    unfold sendLoop at hloop
    split at hloop
    case isFalse hend =>
      cases hloop
      exact ⟨Nat.le_refl _, hoffset, fun _ => by omega⟩
    case isTrue =>
      cases first with
      | sent n =>
        simp only at hloop
        split at hloop
        · cases hloop
          exact ⟨Nat.le_refl _, hoffset, nofun⟩
        · split at hloop
          · obtain ⟨hfrom, hto, hfinished⟩ := ih (by omega) hloop
            exact ⟨by omega, hto, hfinished⟩
          · cases hloop
      | again =>
        simp only at hloop
        split at hloop
        · exact ih hoffset hloop
        · cases hloop
          exact ⟨Nat.le_refl _, hoffset, nofun⟩
      | error =>
        cases hloop
        exact ⟨Nat.le_refl _, hoffset, nofun⟩

/-- The socket takes the data up to where the loop stops, and a slot whose
socket fails is closed. -/
theorem send_bytes_to_rover_spec {c c' : RoverSlot} {data : List UInt8} {len offset stop : Nat}
    {results rest : List SendResult} {result : SendEnd} (hoffset : offset ≤ len)
    (hsend : send_bytes_to_rover c data len offset results = some (result, c', stop, rest)) :
    offset ≤ stop ∧ stop ≤ len ∧
      match result with
      | .failed => c' = close_rover { c with sock := c.sock.transmit data offset stop }
      | .blocked => c' = { c with sock := c.sock.transmit data offset stop }
      | .finished => c' = { c with sock := c.sock.transmit data offset stop } ∧ stop = len := by
  unfold send_bytes_to_rover at hsend
  cases hloop : sendLoop ROVER_STREAM_SEND_RETRIES len results offset 0 with
  | none => simp [hloop] at hsend
  | some outcome =>
    obtain ⟨result', stop', rest'⟩ := outcome
    obtain ⟨hfrom, hto, hfinished⟩ := sendLoop_spec hoffset hloop
    simp only [hloop] at hsend
    cases result' with
    | failed =>
      cases hsend
      exact ⟨hfrom, hto, rfl⟩
    | blocked =>
      cases hsend
      exact ⟨hfrom, hto, rfl⟩
    | finished =>
      cases hsend
      exact ⟨hfrom, hto, rfl, hfinished rfl⟩

end rtkbase.ntrip_caster
