import RTKBase.Lib.Lts
import RTKBase.Lib.Session
import RTKBase.NtripCaster.Server

namespace rtkbase.tcp_server

open lib.cstring lib.session
open ntrip_caster (SendResult RecvResult)

def TCP_QUEUE_DEPTH : Nat := 64
def SOCKET_MAX_RETRIES : Nat := 40
def INVALID_SOCK : Int := -1
def UART_READ_CHUNK : Nat := 128
def rxBufferSize : Nat := 128

/-- The first `len` bytes of `data`. -/
structure raw_frame_t where
  data : List UInt8
  len_le : data.length ≤ UART_READ_CHUNK

/-- A chunk with its place in the order of posting. -/
structure PostedFrame where
  serial : Nat
  frame : raw_frame_t

def PostedFrame.data (f : PostedFrame) : List UInt8 := f.frame.data

inductive sockaddr_storage where
  | inet (sin_addr : UInt8 × UInt8 × UInt8 × UInt8) (sin_port : UInt16)
  | other

/-- What `%u` prints. -/
def decimalText (n : Nat) : List UInt8 := ascii (toString n)

def get_clients_address : sockaddr_storage → List UInt8
  | .inet (a, b, c, d) _ =>
    decimalText a.toNat ++ ascii "." ++ decimalText b.toNat ++ ascii "." ++
      decimalText c.toNat ++ ascii "." ++ decimalText d.toNat
  | .other => []

def get_client_port : sockaddr_storage → Nat
  | .inet _ port => port.toNat
  | .other => 0

/-- `snprintf` into `client_endpoint`, which has room for 63 characters. -/
def endpointText (source_addr : sockaddr_storage) : List UInt8 :=
  (get_clients_address source_addr ++ ascii ":" ++ decimalText (get_client_port source_addr)).take 63

inductive AcceptResult where
  /-- An error after which `accept_should_retry`. -/
  | retry
  | client (fd : Int) (source_addr : sockaddr_storage)
  | failed

/-- The outcome of the three calls that prepare the socket of a new client. -/
inductive SetupResult where
  | setsockoptFailed
  | getflFailed
  | setflFailed
  | ready

/-- The blocks of code that reset the state once the socket is closed. -/
inductive ClosePath where
  | setup
  | serving
  deriving DecidableEq

/-- Where `task_tcp_server` is in its main loop. -/
inductive TaskPhase where
  | head
  /-- At `else if (disconnect_requested)`. -/
  | headElse
  | dropFlag (sock : Int)
  | dropDrain (sock : Int)
  | reject
  | accept
  | setup
  | closed (path : ClosePath)
  | recv
  | drain (rx_buffer : List UInt8)
  | write (rx_buffer : List UInt8)
  | sending (retries : Nat)
  | fetch
  | stopped
  deriving DecidableEq

/-- How far the GNSS reader task is in `post_raw_gnss_data_tcp`. -/
inductive PostPhase where
  | idle
  | checkQueue (f : PostedFrame)
  | checkClient (f : PostedFrame)
  | send (f : PostedFrame)
  | dropOldest (f : PostedFrame)

/-- How far a call of `tcp_server_disconnect_client` is. `target` is the session
whose descriptor it has read. -/
inductive RequestPhase where
  | raiseFlag (sock : Int) (target : Nat)
  | shutdown (sock : Int) (target : Nat)

/-- A session was closed or shut down for a request. -/
structure Hit where
  session : Nat
  target : Nat
  deriving DecidableEq

structure Server where
  phase : TaskPhase
  client_socket : Int
  disconnect_requested : Bool
  client_endpoint : List UInt8
  pending_tx_frame : PostedFrame
  pending_tx_valid : Bool
  pending_tx_offset : Nat
  q_tcp_server : Option (List PostedFrame)
  posting : PostPhase
  /-- The calls of `tcp_server_disconnect_client` under way. -/
  requests : List RequestPhase
  posted : List PostedFrame
  /-- How many sessions there have been; the newest bears this number. -/
  accepted : Nat
  /-- The descriptor of the newest session until it is closed. -/
  openSocket : Option Int
  /-- The sessions closed so far. -/
  closed : List (Session PostedFrame UInt8)
  /-- The newest session. -/
  current : Session PostedFrame UInt8
  /-- The targets of the requests that set `disconnect_requested` since it was
  last cleared. -/
  raisedFor : List Nat
  hits : List Hit

inductive TaskAction where
  /-- A step that waits for nothing from outside. -/
  | turn
  | accept (result : AcceptResult)
  | setup (result : SetupResult)
  | recv (result : RecvResult)
  | uart_write_bytes (n : Nat)
  | send (result : SendResult)

inductive TcpAction where
  | task (a : TaskAction)
  /-- The GNSS reader task calls `post_raw_gnss_data_tcp`. -/
  | post (frame : raw_frame_t)
  | posting
  /-- `tcp_server_disconnect_client` is called and reads `client_socket`. -/
  | disconnectClient
  /-- The next step of the call in place `i`. -/
  | request (i : Nat)

namespace Server

def resetPending (s : Server) : Server :=
  { s with pending_tx_valid := false, pending_tx_offset := 0 }

/-- `close` ends the session. -/
def closeSocket (s : Server) : Server :=
  { s with openSocket := none, closed := s.closed ++ [s.current] }

/-- The head of the loop in `socket_send`, and the code behind that loop when
all is sent. -/
def sendingLoop (s : Server) : Server :=
  if s.pending_tx_offset < s.pending_tx_frame.data.length then { s with phase := .sending 0 }
  else { s.resetPending with phase := .fetch }

/-- The task goes on with the frame that is pending, if one is. -/
def servePending (s : Server) : Server :=
  if s.pending_tx_valid then s.sendingLoop else { s with phase := .fetch }

/-- One turn of the loop in `socket_send`, with the outcome of `send`. -/
def sendStep (s : Server) (retries : Nat) (result : SendResult) : Option Server :=
  match result with
  | .sent n =>
    if n = 0 then some { s.closeSocket with phase := .closed .serving }
    else if n ≤ s.pending_tx_frame.data.length - s.pending_tx_offset then
      some (sendingLoop { s with
        pending_tx_offset := s.pending_tx_offset + n
        current := s.current.send ((s.pending_tx_frame.data.drop s.pending_tx_offset).take n) })
    else none
  | .again =>
    if retries < SOCKET_MAX_RETRIES then some { s with phase := .sending (retries + 1) }
    else some { s with phase := .fetch }
  | .error => some { s.closeSocket with phase := .closed .serving }

/-- The task takes up the frame that it has received from the queue. -/
def takeFrame (s : Server) (f : PostedFrame) (rest : List PostedFrame) : Server :=
  sendingLoop { s with
    q_tcp_server := some rest
    pending_tx_frame := f
    pending_tx_valid := true
    pending_tx_offset := 0
    current := s.current.take f }

/-- The head of the loop that empties the queue towards the client. -/
def fetchStep (s : Server) : Server :=
  if s.pending_tx_valid then { s with phase := .head }
  else
    match s.q_tcp_server with
    | some (f :: rest) =>
      if s.client_socket = INVALID_SOCK then { s with q_tcp_server := some rest }
      else s.takeFrame f rest
    | _ => { s with phase := .head }

/-- One turn of the loop of `tcp_server_drain_queue`; `after` is what follows
that loop. -/
def drainStep (s after : Server) : Server :=
  match s.q_tcp_server with
  | some (_ :: rest) => { s with q_tcp_server := some rest }
  | _ => after

/-- The label `error`, behind the closing of `client_socket`. -/
def stop (s : Server) : Server :=
  { s.resetPending with
    phase := .stopped
    client_socket := INVALID_SOCK
    client_endpoint := []
    q_tcp_server := none }

def acceptStep (s : Server) : AcceptResult → Option Server
  | .retry => some { s with client_socket := INVALID_SOCK, phase := .fetch }
  | .client fd source_addr =>
    if 0 ≤ fd then
      some { s with
        phase := .setup
        client_socket := fd
        client_endpoint := endpointText source_addr
        accepted := s.accepted + 1
        openSocket := some fd
        current := .fresh }
    else none
  | .failed => some s.stop

def setupStep (s : Server) : SetupResult → Server
  | .setsockoptFailed => { s.closeSocket with phase := .closed .setup }
  | .getflFailed => { s.closeSocket with phase := .closed .setup }
  | .setflFailed => s.closeSocket.stop
  | .ready => { s with phase := .recv }

def recvStep (s : Server) : RecvResult → Option Server
  | .data bytes =>
    if bytes ≠ [] ∧ bytes.length ≤ rxBufferSize then some { s with phase := .drain bytes } else none
  | .error true => some s.servePending
  | .error false => some { s.closeSocket with phase := .closed .serving }
  | .closed => some { s.closeSocket with phase := .closed .serving }

/-- The test at the loop head. The session is closed for all the requests that
have set the flag. -/
def headStep (s : Server) : Server :=
  if s.disconnect_requested ∧ s.client_socket ≠ INVALID_SOCK then
    { s with
      phase := .dropFlag s.client_socket
      client_socket := INVALID_SOCK
      hits := s.hits ++ s.raisedFor.map (⟨s.accepted, ·⟩) }
  else { s with phase := .headElse }

def clearRequest (s : Server) : Server :=
  { s with disconnect_requested := false, raisedFor := [] }

/-- The next step of `task_tcp_server`. -/
def taskStep (s : Server) (a : TaskAction) : Option Server :=
  match s.phase, a with
  | .head, .turn => some s.headStep
  | .dropFlag sock, .turn => some { s.clearRequest with phase := .dropDrain sock }
  | .dropDrain _, .turn =>
    some (s.drainStep
      { s.resetPending.closeSocket with client_endpoint := [], phase := .accept })
  | .headElse, .turn =>
    some { s.clearRequest with
      phase := if s.client_socket = INVALID_SOCK then .accept else .reject }
  -- A connection that is waiting is accepted and closed.
  | .reject, .turn => some { s with phase := .recv }
  | .accept, .accept result => s.acceptStep result
  | .setup, .setup result => some (s.setupStep result)
  | .closed .setup, .turn =>
    some { s.resetPending with client_socket := INVALID_SOCK, phase := .head }
  | .closed .serving, .turn =>
    some { s.resetPending with
      client_socket := INVALID_SOCK, client_endpoint := [], phase := .fetch }
  | .recv, .recv result => s.recvStep result
  | .drain rx_buffer, .turn => some (s.drainStep { s with phase := .write rx_buffer })
  | .write _, .uart_write_bytes _ => some s.servePending
  | .sending retries, .send result => s.sendStep retries result
  | .fetch, .turn => some s.fetchStep
  | _, _ => none

/-- The next step of `post_raw_gnss_data_tcp`. On NULL `xQueueSend` has none. -/
def postStep (s : Server) : Option Server :=
  match s.posting with
  | .idle => none
  | .checkQueue f =>
    some { s with posting := if s.q_tcp_server.isSome then .checkClient f else .idle }
  | .checkClient f =>
    some { s with posting := if s.client_socket = INVALID_SOCK then .idle else .send f }
  | .send f =>
    match s.q_tcp_server with
    | none => none
    | some entries =>
      if entries.length < TCP_QUEUE_DEPTH then
        some { s with q_tcp_server := some (entries ++ [f]), posting := .idle }
      else some { s with posting := .dropOldest f }
  | .dropOldest f =>
    match s.q_tcp_server with
    | none => none
    | some [] => some { s with posting := .idle }
    | some (_ :: rest) => some { s with q_tcp_server := some rest, posting := .send f }

def disconnectClient (s : Server) : Server :=
  if s.client_socket = INVALID_SOCK then s
  else { s with requests := s.requests ++ [.raiseFlag s.client_socket s.accepted] }

/-- The next step of a call of `tcp_server_disconnect_client`. -/
def requestStep (s : Server) (i : Nat) : Option Server :=
  match s.requests[i]? with
  | none => none
  | some (.raiseFlag sock target) =>
    some { s with
      disconnect_requested := true
      raisedFor := s.raisedFor ++ [target]
      requests := s.requests.set i (.shutdown sock target) }
  | some (.shutdown sock target) =>
    some { s with
      hits := if s.openSocket = some sock then s.hits ++ [⟨s.accepted, target⟩] else s.hits
      requests := s.requests.eraseIdx i }

end Server

/-- The next step of the tasks that share the state of the TCP server, in any
order. -/
def tcpStep (s : Server) (a : TcpAction) : Option Server :=
  match a with
  | .task a => s.taskStep a
  | .post frame =>
    match s.posting with
    | .idle =>
      some { s with
        posting := .checkQueue ⟨s.posted.length, frame⟩
        posted := s.posted ++ [⟨s.posted.length, frame⟩] }
    | _ => none
  | .posting => s.postStep
  | .disconnectClient => some s.disconnectClient
  | .request i => s.requestStep i

/-- The task enters its main loop. -/
def listening : Server where
  phase := .head
  client_socket := INVALID_SOCK
  disconnect_requested := false
  client_endpoint := []
  pending_tx_frame := ⟨0, [], by simp⟩
  pending_tx_valid := false
  pending_tx_offset := 0
  q_tcp_server := some []
  posting := .idle
  requests := []
  posted := []
  accepted := 0
  openSocket := none
  closed := []
  current := .fresh
  raisedFor := []
  hits := []

def desktop : sockaddr_storage := .inet (192, 168, 0, 7) 50000

/-- From the loop head to the receiving of a new client's bytes. -/
def acceptClient (fd : Int) (source_addr : sockaddr_storage) : List TcpAction :=
  [.task .turn, .task .turn, .task (.accept (.client fd source_addr)), .task (.setup .ready)]

/-- A whole call of `post_raw_gnss_data_tcp` that finds room in the queue. -/
def postFrame (frame : raw_frame_t) : List TcpAction := [.post frame, .posting, .posting, .posting]

/-- All sessions, in the order they were accepted. -/
def Server.sessions (s : Server) : List (Session PostedFrame UInt8) :=
  s.closed ++ if s.openSocket.isSome then [s.current] else []

/-- What is left to send of the frame that is pending. -/
def Server.pendingRest (s : Server) : List UInt8 :=
  if s.pending_tx_valid then s.pending_tx_frame.data.drop s.pending_tx_offset else []

def Server.queued (s : Server) : List PostedFrame := s.q_tcp_server.getD []

/-- The chunk that `post_raw_gnss_data_tcp` has not put into the queue yet. -/
def PostPhase.inHand : PostPhase → List PostedFrame
  | .idle => []
  | .checkQueue f => [f]
  | .checkClient f => [f]
  | .send f => [f]
  | .dropOldest f => [f]

end rtkbase.tcp_server
