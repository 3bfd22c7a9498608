import RTKBase.WebServer.CommandSteps

namespace rtkbase.web_server

open lib.lts tcp_server

/-- What holds of request `i` where it is. The holder of the mutex has written
nothing yet, or its command last of all, or both its writes together. -/
def CommandPhase.Ordered (r : CommandPhase) (i : Nat) (mutex : Option Nat)
    (uart : List UartWrite) : Prop :=
  match r with
  | .httpd_req_recv => True
  | .xSemaphoreTake command => command ≠ []
  | .writeCommand command => mutex = some i ∧ command ≠ []
  | .writeLineEnd command =>
    mutex = some i ∧ ∃ before, uart = before ++ [⟨.command i, command⟩]
  | .xSemaphoreGive command written =>
    mutex = some i ∧ (written = command.length + 2 → Unbroken uart i command)
  | .done (.returned command err) => err = .ESP_OK → Unbroken uart i command
  | .done _ => True

/-- Request `i` has written its command, if it is about to write the line end. -/
def CommandPhase.Begun (r : CommandPhase) (i : Nat) (uart : List UartWrite) : Prop :=
  match r with
  | .xSemaphoreTake command => command ≠ []
  | .writeCommand command => command ≠ []
  | .writeLineEnd command =>
    ∃ before between, uart = before ++ ⟨.command i, command⟩ :: between
  | _ => True

theorem record_eq_append (uart : List UartWrite) (writer : UartWriter) (bytes : List UInt8) :
    ∃ more, record uart writer bytes = uart ++ more := by
  unfold record
  split
  · exact ⟨[], by simp⟩
  · exact ⟨_, rfl⟩

theorem record_of_ne_nil {uart : List UartWrite} {writer : UartWriter} {bytes : List UInt8}
    (hbytes : bytes ≠ []) : record uart writer bytes = uart ++ [⟨writer, bytes⟩] :=
  if_neg hbytes

theorem Unbroken.append {uart : List UartWrite} {i : Nat} {command : List UInt8}
    (hunbroken : Unbroken uart i command) (more : List UartWrite) :
    Unbroken (uart ++ more) i command := by
  obtain ⟨before, after, rfl⟩ := hunbroken
  exact ⟨before, after ++ more, by simp⟩

section

variable {r : CommandPhase} {i : Nat} {mutex mutex' : Option Nat} {uart : List UartWrite}

/-- A request that does not hold the mutex is not affected by what is written. -/
theorem CommandPhase.Ordered.frame (hordered : r.Ordered i mutex uart) (hmutex : mutex ≠ some i)
    (more : List UartWrite) : r.Ordered i mutex' (uart ++ more) := by
  cases r with
  | httpd_req_recv => trivial
  | xSemaphoreTake command => exact hordered
  | writeCommand command => exact absurd hordered.1 hmutex
  | writeLineEnd command => exact absurd hordered.1 hmutex
  | xSemaphoreGive command written => exact absurd hordered.1 hmutex
  | done outcome =>
    cases outcome with
    | returned command err => exact fun herr => (hordered herr).append more
    | _ => trivial

/-- Nor is one that is not between its two writes. -/
theorem CommandPhase.Ordered.append (hordered : r.Ordered i mutex uart)
    (hbetween : r.between = false) (more : List UartWrite) : r.Ordered i mutex (uart ++ more) := by
  cases r with
  | httpd_req_recv => trivial
  | xSemaphoreTake command => exact hordered
  | writeCommand command => exact hordered
  | writeLineEnd command => simp [CommandPhase.between] at hbetween
  | xSemaphoreGive command written =>
    exact ⟨hordered.1, fun hwritten => (hordered.2 hwritten).append more⟩
  | done outcome =>
    cases outcome with
    | returned command err => exact fun herr => (hordered herr).append more
    | _ => trivial

theorem CommandPhase.Begun.append (hbegun : r.Begun i uart) (more : List UartWrite) :
    r.Begun i (uart ++ more) := by
  cases r with
  | writeLineEnd command =>
    obtain ⟨before, between, rfl⟩ := hbegun
    exact ⟨before, between ++ more, by simp⟩
  | _ => exact hbegun

/-- Before the mutex is taken nothing has been written. -/
theorem gnssCommandReceived_cases (ready : Bool) (content : Option (List UInt8)) :
    (∃ outcome, gnssCommandReceived ready content = .done outcome ∧
      ∀ command, outcome ≠ .returned command .ESP_OK) ∨
    ∃ command, gnssCommandReceived ready content = .xSemaphoreTake command ∧ command ≠ [] := by
  cases content with
  | none => exact .inl ⟨_, rfl, by simp⟩
  | some content =>
    unfold gnssCommandReceived gnss_uart_send_command
    simp only
    split
    case isTrue => exact .inl ⟨_, rfl, by simp⟩
    case isFalse =>
      split
      case isTrue => exact .inl ⟨_, rfl, by simp⟩
      case isFalse =>
        split
        case isTrue => exact .inl ⟨_, rfl, by simp⟩
        case isFalse =>
          split
          case isTrue => exact .inl ⟨_, rfl, by simp⟩
          case isFalse hbounds => exact .inr ⟨_, rfl, fun hnil => hbounds (.inl hnil)⟩

end

theorem getElem?_set_cases {l : List CommandPhase} {i j : Nat} {x r : CommandPhase}
    (hget : (l.set i x)[j]? = some r) : j = i ∧ r = x ∨ j ≠ i ∧ l[j]? = some r := by
  rw [List.getElem?_set] at hget
  split at hget
  case isTrue heq =>
    split at hget
    case isTrue => exact .inl ⟨heq.symm, (Option.some.inj hget).symm⟩
    case isFalse => cases hget
  case isFalse hne => exact .inr ⟨fun heq => hne heq.symm, hget⟩

theorem getElem?_concat_cases {l : List CommandPhase} {j : Nat} {x r : CommandPhase}
    (hget : (l ++ [x])[j]? = some r) : l[j]? = some r ∨ r = x := by
  rw [List.getElem?_append] at hget
  split at hget
  case isTrue => exact .inl hget
  case isFalse => exact .inr (List.mem_singleton.mp (List.mem_of_getElem? hget))

namespace CommandSystem

def Ordered (s : CommandSystem) : Prop :=
  ∀ (i : Nat) (r : CommandPhase), s.requests[i]? = some r → r.Ordered i s.s_uart_tx_mutex s.uart

def Begun (s : CommandSystem) : Prop :=
  ∀ (i : Nat) (r : CommandPhase), s.requests[i]? = some r → r.Begun i s.uart

section

variable {s s' : CommandSystem} {i : Nat}

/-- Request `i` takes a step, and no other holds the mutex. -/
theorem Ordered.step (hordered : s.Ordered) {r : CommandPhase} {mutex : Option Nat}
    (more : List UartWrite) (hother : ∀ j ≠ i, s.s_uart_tx_mutex ≠ some j)
    (hr : r.Ordered i mutex (s.uart ++ more)) :
    Ordered { s.setRequest i r with s_uart_tx_mutex := mutex, uart := s.uart ++ more } := by
  intro j r' hget
  obtain ⟨rfl, rfl⟩ | ⟨hne, hget⟩ := getElem?_set_cases hget
  · exact hr
  · exact (hordered j r' hget).frame (hother j hne) more

/-- Request `i` takes a step that writes nothing. -/
theorem Ordered.quiet (hordered : s.Ordered) {r : CommandPhase}
    (hr : r.Ordered i s.s_uart_tx_mutex s.uart) : (s.setRequest i r).Ordered := by
  intro j r' hget
  obtain ⟨rfl, rfl⟩ | ⟨_, hget⟩ := getElem?_set_cases hget
  · exact hr
  · exact hordered j r' hget

theorem holder_unique (hholder : s.s_uart_tx_mutex = some i) :
    ∀ j ≠ i, s.s_uart_tx_mutex ≠ some j := by
  intro j hne hholder'
  rw [hholder] at hholder'
  exact hne (Option.some.inj hholder').symm

theorem forward_eq_append (s : CommandSystem) (a : tcp_server.TcpAction) :
    ∃ more, s.forward a = s.uart ++ more := by
  unfold CommandSystem.forward
  split
  case h_1 =>
    split
    case h_1 => exact record_eq_append _ _ _
    case h_2 => exact ⟨[], by simp⟩
  case h_2 => exact ⟨[], by simp⟩

/-- The TCP server writes when no request is between its writes, or nothing. -/
theorem Ordered.tcpStep (hordered : s.Ordered) {a : tcp_server.TcpAction}
    (hallowed : NoWriteBetween s (.tcp a)) (tcp : Server) :
    Ordered { s with tcp := tcp, uart := s.forward a } := by
  intro i r hget
  by_cases hsilent : s.forward a = s.uart
  · rw [hsilent]
    exact hordered i r hget
  · obtain ⟨more, hmore⟩ := s.forward_eq_append a
    rw [hmore]
    refine (hordered i r hget).append ?_ more
    unfold CommandSystem.forward at hsilent
    split at hsilent
    case h_1 n =>
      obtain hzero | hquiet : n = 0 ∨ ∀ r ∈ s.requests, r.between = false := hallowed
      · subst hzero
        split at hsilent
        case h_1 => exact absurd (by simp [record]) hsilent
        case h_2 => exact absurd rfl hsilent
      · exact hquiet r (List.mem_of_getElem? hget)
    case h_2 => exact absurd rfl hsilent

end

end CommandSystem

section

variable {s s' : CommandSystem}

theorem commandStep_ordered {a : CommandAction} (hordered : s.Ordered)
    (hallowed : NoWriteBetween s a) (hstep : CommandStep s a s') : s'.Ordered := by
  cases hstep with
  | @tcp a tcp => exact hordered.tcpStep hallowed tcp
  | uartReady => exact hordered
  | gnssCommandPost =>
    intro i r hget
    obtain hget | rfl := getElem?_concat_cases hget
    · exact hordered i r hget
    · split
      · trivial
      · trivial
  | @received i content =>
    obtain ⟨outcome, houtcome, hfailed⟩ | ⟨command, hcommand, hne⟩ :=
      gnssCommandReceived_cases s.uartReady content
    · rw [houtcome]
      refine hordered.quiet ?_
      cases outcome with
      | returned command err =>
        intro herr
        exact absurd (by rw [herr]) (hfailed command)
      | _ => trivial
    · rw [hcommand]
      exact hordered.quiet hne
  | timeout => exact hordered.quiet fun herr => by cases herr
  | @taken i command hget hfree =>
    have hcommand : command ≠ [] := hordered i _ hget
    have hmoved : CommandSystem.Ordered { s.setRequest i (.writeCommand command) with
        s_uart_tx_mutex := some i, uart := s.uart ++ [] } :=
      hordered.step [] (by simp [hfree]) ⟨rfl, hcommand⟩
    simpa [CommandSystem.setRequest] using hmoved
  | @commandWritten i command hget =>
    obtain ⟨hholder, hcommand⟩ := hordered i _ hget
    rw [record_of_ne_nil hcommand]
    exact hordered.step _ (CommandSystem.holder_unique hholder) ⟨hholder, s.uart, rfl⟩
  | @commandCut i command written hget hleast hcut =>
    obtain ⟨hholder, _⟩ := hordered i _ hget
    obtain ⟨more, hmore⟩ := record_eq_append s.uart (.command i) (command.take written.toNat)
    rw [hmore]
    exact hordered.step _ (CommandSystem.holder_unique hholder) ⟨hholder, fun heq => by omega⟩
  | @lineEndWritten i command written hget hleast hmost =>
    obtain ⟨hholder, before, huart⟩ := hordered i _ hget
    obtain ⟨more, hmore⟩ := record_eq_append s.uart (.lineEnd i) (lineEnd.take written.toNat)
    rw [hmore]
    refine hordered.step _ (CommandSystem.holder_unique hholder) ⟨hholder, fun heq => ?_⟩
    obtain rfl : written = 2 := by omega
    rw [← hmore, huart]
    exact ⟨before, [], by simp [record, lineEnd]⟩
  | @given i command written hget =>
    obtain ⟨hholder, hunbroken⟩ := hordered i _ hget
    have hmoved : CommandSystem.Ordered { s.setRequest i (.done (.returned command
          (if written = command.length + 2 then .ESP_OK else .ESP_FAIL))) with
        s_uart_tx_mutex := none, uart := s.uart ++ [] } := by
      refine hordered.step [] (CommandSystem.holder_unique hholder) fun herr => ?_
      by_cases hwritten : written = command.length + 2
      · exact (hunbroken hwritten).append []
      · simp [hwritten] at herr
    simpa [CommandSystem.setRequest] using hmoved

/-- What is written later does not matter. -/
theorem CommandSystem.Begun.step (hbegun : s.Begun) {i : Nat} {r : CommandPhase}
    {mutex : Option Nat} {uart : List UartWrite} (hgrown : ∃ more, uart = s.uart ++ more)
    (hr : r.Begun i uart) :
    CommandSystem.Begun { s.setRequest i r with s_uart_tx_mutex := mutex, uart := uart } := by
  obtain ⟨more, rfl⟩ := hgrown
  intro j r' hget
  obtain ⟨rfl, rfl⟩ | ⟨_, hget⟩ := getElem?_set_cases hget
  · exact hr
  · exact (hbegun j r' hget).append more

theorem commandStep_begun {a : CommandAction} (hbegun : s.Begun) (hstep : CommandStep s a s') :
    s'.Begun := by
  have hsame : ∃ more, s.uart = s.uart ++ more := ⟨[], by simp⟩
  cases hstep with
  | @tcp a =>
    obtain ⟨more, hmore⟩ := s.forward_eq_append a
    intro i r hget
    rw [hmore]
    exact (hbegun i r hget).append more
  | uartReady => exact hbegun
  | gnssCommandPost =>
    intro i r hget
    obtain hget | rfl := getElem?_concat_cases hget
    · exact hbegun i r hget
    · split
      · trivial
      · trivial
  | @received i content =>
    obtain ⟨outcome, houtcome, _⟩ | ⟨command, hcommand, hne⟩ :=
      gnssCommandReceived_cases s.uartReady content
    · rw [houtcome]
      exact hbegun.step hsame trivial
    · rw [hcommand]
      exact hbegun.step hsame hne
  | timeout => exact hbegun.step hsame trivial
  | @taken i command hget => exact hbegun.step hsame (show command ≠ [] from hbegun i _ hget)
  | @commandWritten i command hget =>
    have hcommand : command ≠ [] := hbegun i _ hget
    refine hbegun.step (record_eq_append _ _ _) ?_
    rw [record_of_ne_nil hcommand]
    exact ⟨s.uart, [], rfl⟩
  | commandCut => exact hbegun.step (record_eq_append _ _ _) trivial
  | lineEndWritten => exact hbegun.step (record_eq_append _ _ _) trivial
  | given => exact hbegun.step hsame trivial

theorem commandStep_tcp {a : CommandAction} (hstep : CommandStep s a s') :
    s'.tcp = s.tcp ∨ ∃ b, tcpStep s.tcp b = some s'.tcp := by
  cases hstep with
  | tcp htcp => exact .inr ⟨_, htcp⟩
  | _ => exact .inl rfl

end

section

variable {s : CommandSystem}

theorem commands_ordered (hreach : Reach commandStep NoWriteBetween noCommands s) : s.Ordered :=
  hreach.invariant (fun i r hget => by simp [noCommands] at hget)
    fun _ _ _ hordered hallowed hstep =>
      commandStep_ordered hordered hallowed (commandStep_cases hstep)

theorem commands_begun (hreach : Reach commandStep Anywhere noCommands s) : s.Begun :=
  hreach.invariant (fun i r hget => by simp [noCommands] at hget)
    fun _ _ _ hbegun _ hstep => commandStep_begun hbegun (commandStep_cases hstep)

theorem commands_placed (hreach : Reach commandStep Anywhere noCommands s) : s.tcp.Placed := by
  refine hreach.invariant (P := fun s => s.tcp.Placed) listening_placed
    fun s a s' hplaced _ hstep => ?_
  obtain hsame | ⟨b, htcp⟩ := commandStep_tcp (commandStep_cases hstep)
  · rw [hsame]
    exact hplaced
  · exact tcpStep_placed hplaced htcp

theorem taskStep_write {tcp tcp' : Server} {n : Nat}
    (hstep : tcp.taskStep (.uart_write_bytes n) = some tcp') :
    ∃ rx_buffer, tcp.phase = .write rx_buffer := by
  cases Server.taskStep_cases hstep with
  | write hphase => exact ⟨_, hphase⟩

/-- A request whose command has been written may write its line end and report
success. -/
theorem lineEnd_may_follow {i : Nat} {command : List UInt8}
    (hget : s.requests[i]? = some (.writeLineEnd command)) :
    ∃ s', Reach commandStep Anywhere s s' ∧
      s'.requests[i]? = some (.done (.returned command .ESP_OK)) ∧
      s'.uart = s.uart ++ [⟨.lineEnd i, lineEnd⟩] := by
  obtain ⟨hlt, _⟩ := List.getElem?_eq_some_iff.mp hget
  let written : CommandSystem :=
    { s.setRequest i (.xSemaphoreGive command (command.length + 2)) with
      uart := s.uart ++ [⟨.lineEnd i, lineEnd⟩] }
  let given : CommandSystem :=
    { written.setRequest i (.done (.returned command .ESP_OK)) with s_uart_tx_mutex := none }
  have hwrite : commandStep s (.uart_write_bytes i 2) = some written := by
    simp [commandStep, CommandSystem.writeStep, hget, record, lineEnd, written]
  have hgive : commandStep written (.xSemaphoreGive i) = some given := by
    simp [commandStep, CommandSystem.giveStep, CommandSystem.setRequest, hlt, written, given]
  refine ⟨given, (Reach.next .refl trivial hwrite).next trivial hgive, ?_, rfl⟩
  simp [CommandSystem.setRequest, hlt, written, given]

/-- Once the TCP server has written between a command and its line end, the
request may go on to report success. -/
theorem write_between_may_break {s₁ : CommandSystem} {n : Nat}
    (hreach : Reach commandStep Anywhere noCommands s)
    (hbetween : ¬ NoWriteBetween s (.tcp (.task (.uart_write_bytes n))))
    (hstep : commandStep s (.tcp (.task (.uart_write_bytes n))) = some s₁) :
    ∃ s₂, Reach commandStep Anywhere s₁ s₂ ∧ ∃ i command,
      s₂.requests[i]? = some (.done (.returned command .ESP_OK)) ∧ Broken s₂.uart i command := by
  obtain ⟨hn, r, hr, hr_between⟩ : n ≠ 0 ∧ ∃ r ∈ s.requests, r.between = true := by
    simpa [NoWriteBetween] using hbetween
  obtain ⟨i, hget⟩ := List.mem_iff_getElem?.mp hr
  cases r with
  | writeLineEnd command =>
    obtain ⟨before, between, huart⟩ := commands_begun hreach i _ hget
    simp only [commandStep] at hstep
    split at hstep
    case h_1 => cases hstep
    case h_2 tcp htcp =>
      obtain rfl := Option.some.inj hstep
      obtain ⟨rx_buffer, hphase⟩ := taskStep_write htcp
      have hplaced := commands_placed hreach
      simp only [Server.Placed, hphase] at hplaced
      have hbytes : rx_buffer.take n ≠ [] := by simpa [hn] using hplaced.2
      have hforward : s.forward (.task (.uart_write_bytes n)) =
          s.uart ++ [⟨.tcpClient, rx_buffer.take n⟩] := by
        simp only [CommandSystem.forward, hphase]
        exact record_of_ne_nil hbytes
      obtain ⟨s₂, hreach₂, hdone, huart₂⟩ := lineEnd_may_follow (s := { s with
        tcp := tcp, uart := s.forward (.task (.uart_write_bytes n)) }) hget
      refine ⟨s₂, hreach₂, i, command, hdone, before,
        between ++ [⟨.tcpClient, rx_buffer.take n⟩], [], ?_, ⟨.tcpClient, rx_buffer.take n⟩,
        by simp, rfl, hbytes⟩
      rw [huart₂, hforward, huart]
      simp
  | _ => simp [CommandPhase.between] at hr_between

end

/-- As long as the TCP server writes nothing between the two writes of a
request, each command that reports success is followed by its line end at once.
Each write of the TCP server at such a time may be followed by the success of a
command that is broken by the client's bytes. -/
theorem commands_unbroken (s : CommandSystem) :
    (Reach commandStep NoWriteBetween noCommands s → ∀ i command,
      s.requests[i]? = some (.done (.returned command .ESP_OK)) → Unbroken s.uart i command) ∧
    ∀ a s₁, Reach commandStep Anywhere noCommands s → ¬ NoWriteBetween s a →
      commandStep s a = some s₁ → ∃ s₂, Reach commandStep Anywhere s₁ s₂ ∧ ∃ i command,
        s₂.requests[i]? = some (.done (.returned command .ESP_OK)) ∧
          Broken s₂.uart i command := by
  refine ⟨fun hreach i command hget => ?_, fun a s₁ hreach hbetween hstep => ?_⟩
  · exact commands_ordered hreach i _ hget rfl
  · unfold NoWriteBetween at hbetween
    split at hbetween
    case h_1 => exact write_between_may_break hreach hbetween hstep
    case h_2 => exact absurd trivial hbetween

/-- `mode base` -/
def modeCommand : List UInt8 := [109, 111, 100, 101, 32, 98, 97, 115, 101]

/-- The request's check finds no TCP client; then one is accepted, and sends. -/
def overtakenCheck : List CommandAction :=
  List.flatten [[.uartReady, .gnssCommandPost], (acceptClient 5 desktop).map .tcp,
    [.httpd_req_recv 0 (some modeCommand), .xSemaphoreTake 0 true,
      .tcp (.task (.recv (.data [36]))), .tcp (.task .turn), .uart_write_bytes 0 9]]

/-- The client's byte is written before the line end. -/
def brokenCommandRun : List CommandAction :=
  List.flatten [overtakenCheck,
    [.tcp (.task (.uart_write_bytes 1)), .uart_write_bytes 0 2, .xSemaphoreGive 0]]

theorem client_byte_breaks_command :
    ¬ ∀ s, Reach commandStep Anywhere noCommands s → ∀ i command,
      s.requests[i]? = some (.done (.returned command .ESP_OK)) → Unbroken s.uart i command := by
  intro hunbroken
  have hrun : (runs commandStep Anywhere noCommands brokenCommandRun).map
      (fun s => (s.requests, s.uart)) =
        some ([.done (.returned modeCommand .ESP_OK)],
          [⟨.command 0, modeCommand⟩, ⟨.tcpClient, [36]⟩, ⟨.lineEnd 0, lineEnd⟩]) := by
    decide +kernel
  obtain ⟨s, hs, hstate⟩ := Option.map_eq_some_iff.mp hrun
  obtain ⟨hrequests, huart⟩ := by simpa only [Prod.mk.injEq] using hstate
  obtain ⟨before, after, hbroken⟩ :=
    hunbroken s (Reach.refl.runs hs) 0 modeCommand (by simp [hrequests])
  rw [huart] at hbroken
  -- The command is the first write, and the client's is the next.
  obtain _ | ⟨first, _ | ⟨second, _ | ⟨third, before⟩⟩⟩ := before <;> simp at hbroken

/-- The client's byte is written behind the line end. -/
def unbrokenCommandRun : List CommandAction :=
  List.flatten [overtakenCheck,
    [.uart_write_bytes 0 2, .xSemaphoreGive 0, .tcp (.task (.uart_write_bytes 1))]]

theorem commands_unbroken_of_overtaken :
    (∃ s, runs commandStep NoWriteBetween noCommands unbrokenCommandRun = some s ∧
      Unbroken s.uart 0 modeCommand) ∧
    ∃ s s₁ s₂, runs commandStep Anywhere noCommands overtakenCheck = some s ∧
      commandStep s (.tcp (.task (.uart_write_bytes 1))) = some s₁ ∧
      Reach commandStep Anywhere s₁ s₂ ∧ ∃ i command,
        s₂.requests[i]? = some (.done (.returned command .ESP_OK)) ∧
          Broken s₂.uart i command := by
  constructor
  · have hrun : (runs commandStep NoWriteBetween noCommands unbrokenCommandRun).map
        (·.requests) = some [.done (.returned modeCommand .ESP_OK)] := by
      decide +kernel
    obtain ⟨s, hs, hrequests⟩ := Option.map_eq_some_iff.mp hrun
    exact ⟨s, hs, (commands_unbroken s).1 (Reach.refl.runs hs) 0 modeCommand (by simp [hrequests])⟩
  · have hrun : (runs commandStep Anywhere noCommands overtakenCheck).map
        (fun s => (decide (NoWriteBetween s (.tcp (.task (.uart_write_bytes 1)))),
          (commandStep s (.tcp (.task (.uart_write_bytes 1)))).isSome)) =
            some (false, true) := by
      decide +kernel
    obtain ⟨s, hs, hstate⟩ := Option.map_eq_some_iff.mp hrun
    obtain ⟨hbetween, hsome⟩ := by simpa only [Prod.mk.injEq] using hstate
    obtain ⟨s₁, hs₁⟩ := Option.isSome_iff_exists.mp hsome
    obtain ⟨s₂, hreach, hbroken⟩ := (commands_unbroken s).2 _ s₁ (Reach.refl.runs hs)
      (of_decide_eq_false hbetween) hs₁
    exact ⟨s, s₁, s₂, hs, hs₁, hreach, hbroken⟩

end rtkbase.web_server
