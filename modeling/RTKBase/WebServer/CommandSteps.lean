import RTKBase.WebServer.GnssCommand

namespace rtkbase.web_server

open tcp_server

/-- What one step of the TCP server's tasks or of a request can do. -/
inductive CommandStep (s : CommandSystem) : CommandAction → CommandSystem → Prop where
  | tcp {a : tcp_server.TcpAction} {tcp : Server} (htcp : tcpStep s.tcp a = some tcp) :
      CommandStep s (.tcp a) { s with tcp := tcp, uart := s.forward a }
  | uartReady : CommandStep s .uartReady { s with uartReady := true }
  | gnssCommandPost :
      CommandStep s .gnssCommandPost { s with requests := s.requests ++
        [if s.tcp.client_socket = INVALID_SOCK then .httpd_req_recv else .done .conflict] }
  | received {i : Nat} {content : Option (List UInt8)}
      (hget : s.requests[i]? = some .httpd_req_recv) :
      CommandStep s (.httpd_req_recv i content)
        (s.setRequest i (gnssCommandReceived s.uartReady content))
  | timeout {i : Nat} {command : List UInt8}
      (hget : s.requests[i]? = some (.xSemaphoreTake command)) :
      CommandStep s (.xSemaphoreTake i false)
        (s.setRequest i (.done (.returned command .ESP_ERR_TIMEOUT)))
  | taken {i : Nat} {command : List UInt8} (hget : s.requests[i]? = some (.xSemaphoreTake command))
      (hfree : s.s_uart_tx_mutex = none) :
      CommandStep s (.xSemaphoreTake i true)
        { s.setRequest i (.writeCommand command) with s_uart_tx_mutex := some i }
  | commandWritten {i : Nat} {command : List UInt8}
      (hget : s.requests[i]? = some (.writeCommand command)) :
      CommandStep s (.uart_write_bytes i command.length)
        { s.setRequest i (.writeLineEnd command) with
          uart := record s.uart (.command i) command }
  | commandCut {i : Nat} {command : List UInt8} {written : Int}
      (hget : s.requests[i]? = some (.writeCommand command)) (hleast : -1 ≤ written)
      (hcut : written < command.length) :
      CommandStep s (.uart_write_bytes i written)
        { s.setRequest i (.xSemaphoreGive command written) with
          uart := record s.uart (.command i) (command.take written.toNat) }
  | lineEndWritten {i : Nat} {command : List UInt8} {written : Int}
      (hget : s.requests[i]? = some (.writeLineEnd command)) (hleast : -1 ≤ written)
      (hmost : written ≤ 2) :
      CommandStep s (.uart_write_bytes i written)
        { s.setRequest i (.xSemaphoreGive command (command.length + written)) with
          uart := record s.uart (.lineEnd i) (lineEnd.take written.toNat) }
  | given {i : Nat} {command : List UInt8} {written : Int}
      (hget : s.requests[i]? = some (.xSemaphoreGive command written)) :
      CommandStep s (.xSemaphoreGive i)
        { s.setRequest i (.done (.returned command
            (if written = command.length + 2 then .ESP_OK else .ESP_FAIL))) with
          s_uart_tx_mutex := none }

section

variable {s s' : CommandSystem} {i : Nat}

theorem takeStep_cases {taken : Bool} (hstep : s.takeStep i taken = some s') :
    CommandStep s (.xSemaphoreTake i taken) s' := by
  unfold CommandSystem.takeStep at hstep
  split at hstep
  case h_1 hget =>
    cases taken with
    | false =>
      obtain rfl := Option.some.inj hstep
      exact .timeout hget
    | true =>
      simp only [Bool.true_eq_false, if_false] at hstep
      split at hstep
      case isTrue hfree =>
        obtain rfl := Option.some.inj hstep
        exact .taken hget hfree
      case isFalse => cases hstep
  case h_2 => cases hstep

theorem writeStep_cases {written : Int} (hstep : s.writeStep i written = some s') :
    CommandStep s (.uart_write_bytes i written) s' := by
  unfold CommandSystem.writeStep at hstep
  split at hstep
  case h_1 command hget =>
    split at hstep
    case isTrue hwritten =>
      obtain rfl := Option.some.inj hstep
      by_cases hall : written = command.length
      · subst hall
        simpa using CommandStep.commandWritten hget
      · rw [if_neg hall]
        exact .commandCut hget hwritten.1 (lt_of_le_of_ne hwritten.2 hall)
    case isFalse => cases hstep
  case h_2 hget =>
    split at hstep
    case isTrue hwritten =>
      obtain rfl := Option.some.inj hstep
      exact .lineEndWritten hget hwritten.1 hwritten.2
    case isFalse => cases hstep
  case h_3 => cases hstep

theorem commandStep_cases {a : CommandAction} (hstep : commandStep s a = some s') :
    CommandStep s a s' := by
  cases a with
  | tcp a =>
    simp only [commandStep] at hstep
    split at hstep
    case h_1 => cases hstep
    case h_2 htcp =>
      obtain rfl := Option.some.inj hstep
      exact .tcp htcp
  | uartReady =>
    obtain rfl := Option.some.inj hstep
    exact .uartReady
  | gnssCommandPost =>
    obtain rfl := Option.some.inj hstep
    exact .gnssCommandPost
  | httpd_req_recv i content =>
    simp only [commandStep] at hstep
    split at hstep
    case h_1 hget =>
      obtain rfl := Option.some.inj hstep
      exact .received hget
    case h_2 => cases hstep
  | xSemaphoreTake i taken => exact takeStep_cases hstep
  | uart_write_bytes i written => exact writeStep_cases hstep
  | xSemaphoreGive i =>
    simp only [commandStep, CommandSystem.giveStep] at hstep
    split at hstep
    case h_1 hget =>
      obtain rfl := Option.some.inj hstep
      exact .given hget
    case h_2 => cases hstep

end

end rtkbase.web_server
