import Mathlib.Data.List.FinRange
import Mathlib.Logic.Function.Basic
import RTKBase.Lib.Lts
import RTKBase.NtripCaster.Send

namespace rtkbase.ntrip_caster

open lib.cstring frame_pool gnss_uart

/-- The outcome of `recv` on a readable descriptor. -/
inductive RecvResult where
  | data (bytes : List UInt8)
  | closed
  | error (again : Bool)

section

variable (s_cfg : caster_config_t) (mbedtls_base64_decode : List UInt8 → Option (List UInt8))

/-- The response goes out and, unless the request is accepted, the sending
direction is shut down and the input drained, which leaves nothing behind. -/
def handle_request (c : RoverSlot) (results : List SendResult) : Option (Bool × RoverSlot) :=
  let req := cstr c.rover.rx_buf
  let is_ntrip_v2 := (stristr req (ascii "Ntrip-Version: Ntrip/2.0")).isSome
  let made := requestDecision mbedtls_base64_decode s_cfg req
  match sendTexts c.sock (made.texts s_cfg req) results with
  | none => none
  | some (_, sock, _) => some (made.accepted, ⟨{ c.rover with is_ntrip_v2 := is_ntrip_v2 }, sock⟩)

/-- `recv` puts the bytes into `rx_buf` at `rx_pos`, and a terminator behind
them. -/
def RoverSlot.storeRequest (c : RoverSlot) (bytes : List UInt8) : RoverSlot where
  rover := { c.rover with
    rx_buf := c.rover.rx_buf.take c.rover.rx_pos ++
      (bytes ++ 0 :: c.rover.rx_buf.drop (c.rover.rx_pos + bytes.length + 1))
    rx_pos := c.rover.rx_pos + bytes.length }
  sock := { c.sock with received := c.sock.received ++ bytes }

def RoverSlot.startStreaming (c : RoverSlot) : RoverSlot where
  rover := { c.rover with state := .ROVER_STREAMING }
  sock := { c.sock with streamStart := c.sock.sent.length }

/-- The handshake branch of the service loop, for the bytes `recv` returned. -/
def receiveRequest (c : RoverSlot) (bytes : List UInt8) (results : List SendResult) :
    Option RoverSlot :=
  if bytes ≠ [] ∧ bytes.length ≤ ROVER_REQ_BUF_SIZE - c.rover.rx_pos - 1 then
    let c := c.storeRequest bytes
    if (strstr (cstr c.rover.rx_buf) (ascii "\r\n\r\n")).isSome then
      match handle_request s_cfg mbedtls_base64_decode c results with
      | none => none
      | some (true, c) => some c.startStreaming
      | some (false, c) => some (close_rover c)
    else if ROVER_REQ_BUF_SIZE - 1 ≤ c.rover.rx_pos then some (close_rover c)
    else some c
  else none

/-- One pass of the service loop over a slot whose descriptor is readable. -/
def serviceRover (c : RoverSlot) (received : RecvResult) (results : List SendResult) :
    Option RoverSlot :=
  match c.rover.state, received with
  | .ROVER_EMPTY, _ => some c
  | .ROVER_HANDSHAKE, .data bytes => receiveRequest s_cfg mbedtls_base64_decode c bytes results
  | .ROVER_HANDSHAKE, _ => some (close_rover c)
  | .ROVER_STREAMING, .data bytes =>
    if bytes ≠ [] ∧ bytes.length ≤ 64 then
      some { c with sock := { c.sock with received := c.sock.received ++ bytes } }
    else none
  | .ROVER_STREAMING, .error true => some c
  | .ROVER_STREAMING, _ => some (close_rover c)

/-- One pass of the forwarding loop over a slot. -/
def forwardToRover (c : RoverSlot) (frame : RtcmFrame) (results : List SendResult) :
    Option RoverSlot :=
  if c.rover.state = .ROVER_STREAMING then (send_frame_to_rover c frame results).map Prod.snd
  else some c

/-- A free slot takes the accepted descriptor. -/
def acceptRover (rover : rover_conn_t) (new_fd : Int) : rover_conn_t :=
  { rover with
    fd := new_fd
    state := .ROVER_HANDSHAKE
    rx_pos := 0
    tx_pending_len := 0
    tx_pending_pos := 0
    rx_buf := List.replicate ROVER_REQ_BUF_SIZE 0 }

/-- Where `task_ntrip_server` is in its main loop. -/
inductive ServerPhase where
  | accept
  | service (i : Fin MAX_ROVERS)
  | forward
  | sending (frame : RtcmFrame) (i : Fin MAX_ROVERS)

structure Server where
  s_rovers : Fin MAX_ROVERS → rover_conn_t
  sockets : Int → Socket
  phase : ServerPhase
  /-- The frames the forwarding loop is done with, in the order dequeued. -/
  forwarded : List (List UInt8)

inductive ServerAction where
  /-- The listening socket is not readable, or `accept` fails. -/
  | noClient
  | accept (new_fd : Int) (results : List SendResult)
  | notReady
  | service (received : RecvResult) (results : List SendResult)
  | dequeue (frame : RtcmFrame)
  | queueEmpty
  | send (results : List SendResult)

def Server.slot (s : Server) (i : Fin MAX_ROVERS) : RoverSlot :=
  ⟨s.s_rovers i, s.sockets (s.s_rovers i).fd⟩

/-- What a pass over a slot did to the rover and to its socket. -/
def Server.setSlot (s : Server) (i : Fin MAX_ROVERS) (c : RoverSlot) : Server :=
  { s with
    s_rovers := Function.update s.s_rovers i c.rover
    sockets := Function.update s.sockets (s.s_rovers i).fd c.sock }

def firstEmpty (s_rovers : Fin MAX_ROVERS → rover_conn_t) : Option (Fin MAX_ROVERS) :=
  (List.finRange MAX_ROVERS).find? fun i => (s_rovers i).state = .ROVER_EMPTY

def busyResponse : List UInt8 := ascii "HTTP/1.1 503 Service Unavailable\r\n\r\n"

/-- A new connection: `accept` never returns a descriptor that is open. With
all slots taken it is turned away and closed. -/
def Server.acceptClient (s : Server) (new_fd : Int) (results : List SendResult) :
    Option Server :=
  if 0 ≤ new_fd ∧ (s.sockets new_fd).isOpen = false then
    match firstEmpty s.s_rovers with
    | some i =>
      some { s with
        s_rovers := Function.update s.s_rovers i (acceptRover (s.s_rovers i) new_fd)
        sockets := Function.update s.sockets new_fd acceptedSocket
        phase := .service 0 }
    | none =>
      match send_all_nonblocking acceptedSocket busyResponse results with
      | none => none
      | some (_, sock, _) =>
        some { s with
          sockets := Function.update s.sockets new_fd { sock with isOpen := false }
          phase := .service 0 }
  else none

/-- After the service loop's pass over slot `i`. -/
def afterService (i : Fin MAX_ROVERS) : ServerPhase :=
  if h : i.val + 1 < MAX_ROVERS then .service ⟨i.val + 1, h⟩ else .forward

/-- After the pass of the forwarding loop over slot `i`, the last of which
releases the frame. -/
def Server.afterSend (s : Server) (frame : RtcmFrame) (i : Fin MAX_ROVERS) : Server :=
  if h : i.val + 1 < MAX_ROVERS then { s with phase := .sending frame ⟨i.val + 1, h⟩ }
  else { s with phase := .forward, forwarded := s.forwarded ++ [frame.data] }

/-- The next step of `task_ntrip_server`. -/
def serverStep (s : Server) (a : ServerAction) : Option Server :=
  match s.phase, a with
  | .accept, .noClient => some { s with phase := .service 0 }
  | .accept, .accept new_fd results => s.acceptClient new_fd results
  | .service i, .notReady => some { s with phase := afterService i }
  | .service i, .service received results =>
    match serviceRover s_cfg mbedtls_base64_decode (s.slot i) received results with
    | none => none
    | some c => some { s.setSlot i c with phase := afterService i }
  | .forward, .dequeue frame => some { s with phase := .sending frame 0 }
  | .forward, .queueEmpty => some { s with phase := .accept }
  | .sending frame i, .send results =>
    match forwardToRover (s.slot i) frame results with
    | none => none
    | some c => some ((s.setSlot i c).afterSend frame i)
  | _, _ => none

end

/-- A slot as `task_ntrip_server` initialises it. -/
structure rover_conn_t.Blank (rover : rover_conn_t) : Prop where
  fd : rover.fd = -1
  state : rover.state = .ROVER_EMPTY
  rx_buf : rover.rx_buf.length = ROVER_REQ_BUF_SIZE
  rx_pos : rover.rx_pos = 0
  tx_pending : rover.tx_pending.length = MAX_RTCM_FRAME
  pending_len : rover.tx_pending_len = 0
  pending_pos : rover.tx_pending_pos = 0

def blankRover : rover_conn_t :=
  ⟨-1, .ROVER_EMPTY, List.replicate ROVER_REQ_BUF_SIZE 0, 0, false,
    List.replicate MAX_RTCM_FRAME 0, 0, 0⟩

theorem blankRover_blank : blankRover.Blank :=
  ⟨rfl, rfl, List.length_replicate, rfl, List.length_replicate, rfl, rfl⟩

/-- The task enters its main loop. -/
def listening (s_rovers : Fin MAX_ROVERS → rover_conn_t) (sockets : Int → Socket) : Server where
  s_rovers := s_rovers
  sockets := sockets
  phase := .accept
  forwarded := []

end rtkbase.ntrip_caster
