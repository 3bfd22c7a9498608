import Mathlib.Data.List.DropRight
import RTKBase.TcpServer.Sockets
import RTKBase.WebServer.ConfigPost

namespace rtkbase.web_server

open lib.lts tcp_server

def GNSS_COMMAND_MAX_LEN : Nat := 256

/-- What `gnss_uart_send_command` returns. -/
inductive CommandErr where
  | ESP_OK
  | ESP_FAIL
  | ESP_ERR_INVALID_ARG
  | ESP_ERR_INVALID_STATE
  | ESP_ERR_TIMEOUT
deriving DecidableEq

/-- How a request to `/gnss/command` is answered. Only what returned `ESP_OK` is
reported as a success. -/
inductive CommandOutcome where
  | conflict
  | invalidSize
  | recvFailed
  | returned (command : List UInt8) (err : CommandErr)
deriving DecidableEq

/-- Where a request is in `gnss_command_post_handler`, behind `check_auth`, and in
`gnss_uart_send_command`. -/
inductive CommandPhase where
  | httpd_req_recv
  | xSemaphoreTake (command : List UInt8)
  | writeCommand (command : List UInt8)
  | writeLineEnd (command : List UInt8)
  | xSemaphoreGive (command : List UInt8) (written : Int)
  | done (outcome : CommandOutcome)
deriving DecidableEq

inductive UartWriter where
  | tcpClient
  | command (i : Nat)
  | lineEnd (i : Nat)
deriving DecidableEq

/-- The bytes that one call of `uart_write_bytes` wrote. -/
structure UartWrite where
  writer : UartWriter
  bytes : List UInt8
deriving DecidableEq

structure CommandSystem where
  tcp : Server
  /-- `s_uart_port` and `s_uart_tx_mutex` are set. -/
  uartReady : Bool
  /-- The request that holds `s_uart_tx_mutex`. -/
  s_uart_tx_mutex : Option Nat
  requests : List CommandPhase
  /-- All that was written to the UART. -/
  uart : List UartWrite

inductive CommandAction where
  | tcp (a : tcp_server.TcpAction)
  | uartReady
  /-- `gnss_command_post_handler` is called. -/
  | gnssCommandPost
  /-- The body of request `i` comes in, or does not. -/
  | httpd_req_recv (i : Nat) (content : Option (List UInt8))
  | xSemaphoreTake (i : Nat) (taken : Bool)
  | uart_write_bytes (i : Nat) (written : Int)
  | xSemaphoreGive (i : Nat)

def lineEnd : List UInt8 := [13, 10]

/-- The line ends at the end of a command go. -/
def trimCommand (command : List UInt8) : List UInt8 :=
  command.rdropWhile fun b => b == 13 || b == 10

/-- `gnss_uart_send_command` up to the taking of the mutex. -/
def gnss_uart_send_command (uartReady : Bool) (command : List UInt8) : CommandPhase :=
  if command = [] then .done (.returned command .ESP_ERR_INVALID_ARG)
  else if uartReady = false then .done (.returned command .ESP_ERR_INVALID_STATE)
  else if trimCommand command = [] ∨ GNSS_COMMAND_MAX_LEN < (trimCommand command).length then
    .done (.returned (trimCommand command) .ESP_ERR_INVALID_ARG)
  else .xSemaphoreTake (trimCommand command)

/-- The handler from the check of `content_len` on. -/
def gnssCommandReceived (uartReady : Bool) : Option (List UInt8) → CommandPhase
  | none => .done .recvFailed
  | some content =>
    if content = [] ∨ BUFFER_SIZE ≤ content.length then .done .invalidSize
    else gnss_uart_send_command uartReady content

/-- A write of nothing leaves no trace. -/
def record (uart : List UartWrite) (writer : UartWriter) (bytes : List UInt8) :
    List UartWrite :=
  if bytes = [] then uart else uart ++ [⟨writer, bytes⟩]

namespace CommandSystem

def setRequest (s : CommandSystem) (i : Nat) (r : CommandPhase) : CommandSystem :=
  { s with requests := s.requests.set i r }

/-- What a step of the TCP server writes. -/
def forward (s : CommandSystem) : tcp_server.TcpAction → List UartWrite
  | .task (.uart_write_bytes n) =>
    match s.tcp.phase with
    | .write rx_buffer => record s.uart .tcpClient (rx_buffer.take n)
    | _ => s.uart
  | _ => s.uart

/-- A call of `uart_write_bytes` returns the number of bytes written, or -1. -/
def writeStep (s : CommandSystem) (i : Nat) (written : Int) : Option CommandSystem :=
  match s.requests[i]? with
  | some (.writeCommand command) =>
    if -1 ≤ written ∧ written ≤ command.length then
      some { s.setRequest i (if written = command.length then .writeLineEnd command
          else .xSemaphoreGive command written) with
        uart := record s.uart (.command i) (command.take written.toNat) }
    else none
  | some (.writeLineEnd command) =>
    if -1 ≤ written ∧ written ≤ 2 then
      some { s.setRequest i (.xSemaphoreGive command (command.length + written)) with
        uart := record s.uart (.lineEnd i) (lineEnd.take written.toNat) }
    else none
  | _ => none

def takeStep (s : CommandSystem) (i : Nat) (taken : Bool) : Option CommandSystem :=
  match s.requests[i]? with
  | some (.xSemaphoreTake command) =>
    if taken = false then some (s.setRequest i (.done (.returned command .ESP_ERR_TIMEOUT)))
    else if s.s_uart_tx_mutex = none then
      some { s.setRequest i (.writeCommand command) with s_uart_tx_mutex := some i }
    else none
  | _ => none

def giveStep (s : CommandSystem) (i : Nat) : Option CommandSystem :=
  match s.requests[i]? with
  | some (.xSemaphoreGive command written) =>
    some { s.setRequest i (.done (.returned command
        (if written = command.length + 2 then .ESP_OK else .ESP_FAIL))) with
      s_uart_tx_mutex := none }
  | _ => none

end CommandSystem

/-- The next step of the TCP server's tasks, or of a request. -/
def commandStep (s : CommandSystem) (a : CommandAction) : Option CommandSystem :=
  match a with
  | .tcp a =>
    match tcpStep s.tcp a with
    | none => none
    | some tcp => some { s with tcp := tcp, uart := s.forward a }
  | .uartReady => some { s with uartReady := true }
  | .gnssCommandPost =>
    some { s with requests := s.requests ++
      [if s.tcp.client_socket = INVALID_SOCK then .httpd_req_recv else .done .conflict] }
  | .httpd_req_recv i content =>
    match s.requests[i]? with
    | some .httpd_req_recv => some (s.setRequest i (gnssCommandReceived s.uartReady content))
    | _ => none
  | .xSemaphoreTake i taken => s.takeStep i taken
  | .uart_write_bytes i written => s.writeStep i written
  | .xSemaphoreGive i => s.giveStep i

def noCommands : CommandSystem where
  tcp := listening
  uartReady := false
  s_uart_tx_mutex := none
  requests := []
  uart := []

/-- The command has been written and its line end has not. -/
def CommandPhase.between : CommandPhase → Bool
  | .writeLineEnd _ => true
  | _ => false

/-- The TCP server writes nothing while a request is between its two writes. -/
def NoWriteBetween (s : CommandSystem) : CommandAction → Prop
  | .tcp (.task (.uart_write_bytes n)) => n = 0 ∨ ∀ r ∈ s.requests, r.between = false
  | _ => True

instance (s : CommandSystem) : (a : CommandAction) → Decidable (NoWriteBetween s a)
  | .tcp (.task (.uart_write_bytes _)) => inferInstanceAs (Decidable (_ ∨ _))
  | .tcp (.task .turn) | .tcp (.task (.accept _)) | .tcp (.task (.setup _)) => .isTrue trivial
  | .tcp (.task (.recv _)) | .tcp (.task (.send _)) => .isTrue trivial
  | .tcp (.post _) | .tcp .posting | .tcp .disconnectClient | .tcp (.request _) => .isTrue trivial
  | .uartReady | .gnssCommandPost | .httpd_req_recv _ _ => .isTrue trivial
  | .xSemaphoreTake _ _ | .uart_write_bytes _ _ | .xSemaphoreGive _ => .isTrue trivial

/-- The command is followed by its line end at once. -/
def Unbroken (uart : List UartWrite) (i : Nat) (command : List UInt8) : Prop :=
  ∃ before after, uart = before ++ ⟨.command i, command⟩ :: ⟨.lineEnd i, lineEnd⟩ :: after

/-- Bytes of a TCP client are between the command and its line end. -/
def Broken (uart : List UartWrite) (i : Nat) (command : List UInt8) : Prop :=
  ∃ before between after, uart = before ++ ⟨.command i, command⟩ :: between ++
      ⟨.lineEnd i, lineEnd⟩ :: after ∧
    ∃ w ∈ between, w.writer = .tcpClient ∧ w.bytes ≠ []

end rtkbase.web_server
