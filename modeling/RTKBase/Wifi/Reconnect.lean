import RTKBase.Wifi.Station

namespace rtkbase.wifi

open lib.lts

/-- Nothing comes between a call of `esp_wifi_connect` and the
`vTaskSuspend(NULL)` behind it: neither the handler of an event nor the
`vTaskSuspend` of `wifi_init`. And no call of `esp_wifi_connect` fails once the
driver is started. -/
def Undisturbed (s : Station) : StationAction → Prop
  | .wifi_init => s.phase = .vTaskSuspend → s.sta_reconnect_task.pc ≠ .vTaskSuspend
  | .handle_sta_start succeeds => succeeds = true
  | .wifi_sta_reconnect_task succeeds =>
    s.started = true → s.sta_reconnect_task.pc = .esp_wifi_connect → succeeds = true
  | .handleEvent => s.sta_reconnect_task.pc ≠ .vTaskSuspend
  | .driverConnected | .driverDisconnected => True

instance (s : Station) (a : StationAction) : Decidable (Undisturbed s a) :=
  match a with
  | .wifi_init => inferInstanceAs (Decidable (s.phase = .vTaskSuspend → _ ≠ _))
  | .handle_sta_start succeeds => inferInstanceAs (Decidable (succeeds = true))
  | .wifi_sta_reconnect_task succeeds =>
    inferInstanceAs (Decidable (s.started = true → _ = _ → succeeds = true))
  | .handleEvent => inferInstanceAs (Decidable (_ ≠ _))
  | .driverConnected | .driverDisconnected => .isTrue trivial

/-- What the driver has done and not yet told: with a connection or an attempt
under way, or a disconnection that will be told last. -/
inductive Underway : StaDriver → List StaEvent → Bool → Prop where
  | connecting : Underway .connecting [] false
  | associated : Underway .connected [.WIFI_EVENT_STA_CONNECTED] false
  | connected : Underway .connected [] true
  | failed (sta_connected : Bool) :
    Underway .idle [.WIFI_EVENT_STA_DISCONNECTED] sta_connected
  | dropped :
    Underway .idle [.WIFI_EVENT_STA_CONNECTED, .WIFI_EVENT_STA_DISCONNECTED] false

/-- Who makes the station connect next, in each phase. -/
inductive Station.Watched (s : Station) : Prop where
  | created (hphase : s.phase = .vTaskSuspend) (hactive : s.sta_active = false)
      (hidle : s.driver = .idle) (hevents : s.events = []) (hflag : s.sta_connected = false)
  | starting (hphase : s.phase = .esp_wifi_start ∨ s.phase = .WIFI_EVENT_STA_START)
      (hactive : s.sta_active = false)
      (hpc : s.sta_reconnect_task.pc ≠ .vTaskSuspend)
      (hsuspended : s.sta_reconnect_task.suspended = true)
      (hidle : s.driver = .idle) (hevents : s.events = []) (hflag : s.sta_connected = false)
  | byDriver (hphase : s.phase = .running) (hactive : s.sta_active = true)
      (htask : s.sta_reconnect_task.suspended = true ↔ s.sta_reconnect_task.pc ≠ .vTaskSuspend)
      (hunderway : Underway s.driver s.events s.sta_connected)
  | byTask (hphase : s.phase = .running) (hactive : s.sta_active = true)
      (hpc : s.sta_reconnect_task.pc ≠ .vTaskSuspend)
      (hresumed : s.sta_reconnect_task.suspended = false)
      (hidle : s.driver = .idle) (hevents : s.events = []) (hflag : s.sta_connected = false)

theorem Underway.driverConnected {events : List StaEvent} {sta_connected : Bool}
    (hunderway : Underway .connecting events sta_connected) :
    Underway .connected (events ++ [.WIFI_EVENT_STA_CONNECTED]) sta_connected := by
  cases hunderway with
  | connecting => exact .associated

theorem Underway.driverDisconnected {driver : StaDriver} {events : List StaEvent}
    {sta_connected : Bool} (hdriver : driver ≠ .idle)
    (hunderway : Underway driver events sta_connected) :
    Underway .idle (events ++ [.WIFI_EVENT_STA_DISCONNECTED]) sta_connected := by
  cases hunderway with
  | connecting => exact .failed false
  | associated => exact .dropped
  | connected => exact .failed true
  | failed | dropped => exact absurd rfl hdriver

theorem Station.Watched.not_lost {s : Station} (hwatched : s.Watched) : ¬ s.Lost := by
  intro hlost
  have hactive := hlost.active
  have hsuspended := hlost.suspended
  cases hwatched with
  | created _ hinactive => simp [hinactive] at hactive
  | starting _ hinactive => simp [hinactive] at hactive
  | byDriver _ _ _ hunderway =>
    rw [hlost.idle, hlost.delivered] at hunderway
    cases hunderway
  | byTask _ _ _ hresumed => simp [hresumed] at hsuspended

theorem Station.Watched.sta_connected_iff {s : Station} (hwatched : s.Watched)
    (hevents : s.events = []) : s.sta_connected = true ↔ s.driver = .connected := by
  cases hwatched with
  | created _ _ hidle _ hflag => simp [hidle, hflag]
  | starting _ _ _ _ hidle _ hflag => simp [hidle, hflag]
  | byDriver _ _ _ hunderway =>
    rw [hevents] at hunderway
    generalize s.driver = driver at hunderway ⊢
    generalize s.sta_connected = flag at hunderway ⊢
    cases hunderway <;> simp
  | byTask _ _ _ _ hidle _ hflag => simp [hidle, hflag]

section

variable {s s' : Station}

theorem watched_wifi_init (hwatched : s.Watched) (hok : Undisturbed s .wifi_init)
    (hstep : s.wifi_init = some s') : s'.Watched := by
  unfold Station.wifi_init at hstep
  cases hwatched with
  | created hphase hactive hidle hevents hflag =>
    rw [hphase] at hstep
    cases hstep
    exact .starting (.inl rfl) hactive (hok hphase) rfl hidle hevents hflag
  | starting hphase hactive hpc hsuspended hidle hevents hflag =>
    obtain hphase | hphase := hphase
    · rw [hphase] at hstep
      cases hstep
      exact .starting (.inr rfl) hactive hpc hsuspended hidle hevents hflag
    · rw [hphase] at hstep
      cases hstep
  | byDriver hphase => simp [hphase] at hstep
  | byTask hphase => simp [hphase] at hstep

theorem watched_handle_sta_start {succeeds : Bool} (hwatched : s.Watched)
    (hok : Undisturbed s (.handle_sta_start succeeds))
    (hstep : s.handle_sta_start succeeds = some s') : s'.Watched := by
  unfold Station.handle_sta_start at hstep
  cases hwatched with
  | created hphase => simp [hphase] at hstep
  | starting hphase hactive hpc hsuspended hidle hevents hflag =>
    obtain hphase | hphase := hphase
    · simp [hphase] at hstep
    · have hsucceeds : succeeds = true := hok
      simp only [hphase, Station.esp_wifi_connect, hsucceeds, hidle, and_self, if_true,
        Option.some.injEq] at hstep
      subst hstep
      refine .byDriver rfl rfl ?_ ?_
      · simp [hsuspended, hpc]
      · rw [hevents, hflag]
        exact .connecting
  | byDriver hphase => simp [hphase] at hstep
  | byTask hphase => simp [hphase] at hstep

theorem watched_wifi_sta_reconnect_task {succeeds : Bool} (hwatched : s.Watched)
    (hok : Undisturbed s (.wifi_sta_reconnect_task succeeds))
    (hstep : s.wifi_sta_reconnect_task succeeds = some s') : s'.Watched := by
  unfold Station.wifi_sta_reconnect_task at hstep
  split at hstep
  case isTrue => cases hstep
  case isFalse hresumed =>
    cases hwatched with
    | created hphase hactive hidle hevents hflag =>
      have hstarted : s.started = false := by simp [Station.started, hphase]
      split at hstep
      case h_1 =>
        cases hstep
        exact .created hphase hactive hidle hevents hflag
      case h_2 =>
        split at hstep
        case isTrue => cases hstep
        case isFalse hfails =>
          have hfails : succeeds = false := by simpa [hstarted] using hfails
          simp only [Station.esp_wifi_connect, hfails, Bool.false_eq_true, false_and, if_false,
            Option.some.injEq] at hstep
          subst hstep
          exact .created hphase hactive hidle hevents hflag
      case h_3 =>
        cases hstep
        exact .created hphase hactive hidle hevents hflag
    | starting _ _ _ hsuspended => exact absurd hsuspended hresumed
    | byDriver hphase hactive htask hunderway =>
      have hpc : s.sta_reconnect_task.pc = .vTaskSuspend :=
        not_not.mp fun hpc => hresumed (htask.mpr hpc)
      simp only [hpc, Option.some.injEq] at hstep
      subst hstep
      exact .byDriver hphase hactive (by simp) hunderway
    | byTask hphase hactive hpc hawake hidle hevents hflag =>
      have hstarted : s.started = true := by simp [Station.started, hphase]
      split at hstep
      case h_1 =>
        cases hstep
        exact .byTask hphase hactive (by simp) rfl hidle hevents hflag
      case h_2 hconnect =>
        have hsucceeds : succeeds = true := hok hstarted hconnect
        simp only [hstarted, hsucceeds, Station.esp_wifi_connect, hidle, Bool.true_eq_false,
          and_false, and_self, if_true, if_false, Option.some.injEq] at hstep
        subst hstep
        refine .byDriver hphase hactive (by simp) ?_
        rw [hevents, hflag]
        exact .connecting
      case h_3 hgap => exact absurd hgap hpc

theorem watched_handleEvent (hwatched : s.Watched) (hok : Undisturbed s .handleEvent)
    (hstep : s.handleEvent = some s') : s'.Watched := by
  have hpc : s.sta_reconnect_task.pc ≠ .vTaskSuspend := hok
  unfold Station.handleEvent at hstep
  cases hwatched with
  | created _ _ _ hevents => simp [hevents] at hstep
  | starting _ _ _ _ _ hevents => simp [hevents] at hstep
  | byDriver hphase hactive htask hunderway =>
    obtain ⟨phase, task, driver, events, active, flag⟩ := s
    cases hunderway with
    | connecting => cases hstep
    | connected => cases hstep
    | associated =>
      cases hstep
      exact .byDriver hphase hactive (by simpa [vTaskSuspend, Station.handle_sta_connected] using hpc)
        .connected
    | failed flag =>
      cases hstep
      exact .byTask hphase hactive hpc rfl rfl rfl rfl
    | dropped =>
      cases hstep
      exact .byDriver hphase hactive (by simpa [vTaskSuspend, Station.handle_sta_connected] using hpc)
        (.failed true)
  | byTask _ _ _ _ _ hevents => simp [hevents] at hstep

theorem watched_driverConnected (hwatched : s.Watched)
    (hstep : s.driverConnected = some s') : s'.Watched := by
  unfold Station.driverConnected at hstep
  cases hwatched with
  | created _ _ hidle => simp [hidle] at hstep
  | starting _ _ _ _ hidle => simp [hidle] at hstep
  | byDriver hphase hactive htask hunderway =>
    split at hstep
    case h_1 hdriver =>
      cases hstep
      rw [hdriver] at hunderway
      exact .byDriver hphase hactive htask hunderway.driverConnected
    case h_2 => cases hstep
    case h_3 => cases hstep
  | byTask _ _ _ _ hidle => simp [hidle] at hstep

theorem watched_driverDisconnected (hwatched : s.Watched)
    (hstep : s.driverDisconnected = some s') : s'.Watched := by
  unfold Station.driverDisconnected at hstep
  cases hwatched with
  | created _ _ hidle => simp [hidle] at hstep
  | starting _ _ _ _ hidle => simp [hidle] at hstep
  | byDriver hphase hactive htask hunderway =>
    have hdriver : s.driver ≠ .idle := by
      intro hidle
      simp [hidle] at hstep
    split at hstep
    case h_1 => cases hstep
    all_goals
      cases hstep
      exact .byDriver hphase hactive htask (hunderway.driverDisconnected hdriver)
  | byTask _ _ _ _ hidle => simp [hidle] at hstep

/-- Every undisturbed step leaves someone to make the station connect next. -/
theorem watched_step {a : StationAction} (hwatched : s.Watched) (hok : Undisturbed s a)
    (hstep : stationStep s a = some s') : s'.Watched := by
  cases a with
  | wifi_init => exact watched_wifi_init hwatched hok hstep
  | handle_sta_start succeeds => exact watched_handle_sta_start hwatched hok hstep
  | wifi_sta_reconnect_task succeeds => exact watched_wifi_sta_reconnect_task hwatched hok hstep
  | handleEvent => exact watched_handleEvent hwatched hok hstep
  | driverConnected => exact watched_driverConnected hwatched hstep
  | driverDisconnected => exact watched_driverDisconnected hwatched hstep

theorem watched_of_undisturbed (hreach : Reach stationStep Undisturbed taskCreated s) :
    s.Watched := by
  apply hreach.invariant
  · exact .created rfl rfl rfl rfl rfl
  · intro s a s' hwatched hok hstep
    exact watched_step hwatched hok hstep

end

/-- In every run whose steps are all undisturbed, the reconnection is never
lost. -/
theorem reconnection_not_lost {s : Station}
    (hreach : Reach stationStep Undisturbed taskCreated s) : ¬ s.Lost :=
  (watched_of_undisturbed hreach).not_lost

/-- And when every event is delivered, `sta_connected` tells whether the station
is connected. -/
theorem sta_connected_of_undisturbed {s : Station}
    (hreach : Reach stationStep Undisturbed taskCreated s) (hevents : s.events = []) :
    s.sta_connected = true ↔ s.driver = .connected :=
  (watched_of_undisturbed hreach).sta_connected_iff hevents

/-- Booted, with the first attempt failed and its event delivered: the task
goes to connect. -/
def connectingAgain : List StationAction :=
  [.wifi_init, .wifi_init, .handle_sta_start true, .driverDisconnected, .handleEvent,
    .wifi_sta_reconnect_task false, .wifi_sta_reconnect_task true]

/-- The task sleeps before its attempt ends; the station is connected, dropped,
and tries again. -/
def undisturbedReconnection : List StationAction :=
  List.flatten [connectingAgain, [.wifi_sta_reconnect_task false, .driverConnected,
    .driverDisconnected, .handleEvent, .handleEvent, .wifi_sta_reconnect_task false,
    .wifi_sta_reconnect_task true]]

theorem reconnection_not_lost_of_undisturbed :
    ∃ s, runs stationStep Undisturbed taskCreated undisturbedReconnection = some s ∧
      s.driver = .connecting ∧ ¬ s.Lost := by
  have hrun : (runs stationStep Undisturbed taskCreated undisturbedReconnection).map
      (·.driver) = some .connecting := by
    decide
  obtain ⟨s, hs, hdriver⟩ := Option.map_eq_some_iff.mp hrun
  exact ⟨s, hs, hdriver, reconnection_not_lost (Reach.refl.runs hs)⟩

/-- The attempt fails and its event is delivered before the task sleeps. -/
theorem reconnection_lost_in_gap :
    ∃ s, Reach stationStep Anywhere taskCreated s ∧ s.Lost := by
  have hrun : (runs stationStep Anywhere taskCreated (connectingAgain ++
      [.driverDisconnected, .handleEvent, .wifi_sta_reconnect_task false])).map
      (fun s => (s.sta_active, s.driver, s.events, s.sta_reconnect_task.suspended)) =
        some (true, .idle, [], true) := by
    decide
  obtain ⟨s, hs, hlost⟩ := Option.map_eq_some_iff.mp hrun
  simp only [Prod.mk.injEq] at hlost
  exact ⟨s, Reach.refl.runs hs, ⟨hlost.1, hlost.2.1, hlost.2.2.1, hlost.2.2.2⟩⟩

section

variable {s s' : Station}

/-- A task that is not suspended in the gap goes to sleep. -/
theorem lost_of_gap (hactive : s.sta_active = true)
    (htask : s.sta_reconnect_task = ⟨.vTaskSuspend, false⟩) (hidle : s.driver = .idle)
    (hevents : s.events = []) : ∃ s', Reach stationStep Anywhere s s' ∧ s'.Lost := by
  have hstep : stationStep s (.wifi_sta_reconnect_task false) =
      some { s with sta_reconnect_task := ⟨.retry_delay, true⟩ } := by
    simp [stationStep, Station.wifi_sta_reconnect_task, htask]
  exact ⟨_, .next .refl trivial hstep, ⟨hactive, hidle, hevents, rfl⟩⟩

theorem lost_of_reach (hreach : Reach stationStep Anywhere s s')
    (hlost : ∃ s'', Reach stationStep Anywhere s' s'' ∧ s''.Lost) :
    ∃ s'', Reach stationStep Anywhere s s'' ∧ s''.Lost := by
  obtain ⟨s'', hreach', hlost⟩ := hlost
  exact ⟨s'', hreach.trans hreach', hlost⟩

/-- In the gap the task does not hear of a disconnection. -/
theorem lost_of_gap_event (hactive : s.sta_active = true)
    (hpc : s.sta_reconnect_task.pc = .vTaskSuspend) (hidle : s.driver = .idle)
    (hevents : s.events = [.WIFI_EVENT_STA_DISCONNECTED]) :
    ∃ s', Reach stationStep Anywhere s s' ∧ s'.Lost := by
  have hstep : stationStep s .handleEvent =
      some { s with events := [] }.handle_sta_disconnected := by
    simp [stationStep, Station.handleEvent, hevents]
  refine lost_of_reach (.next .refl trivial hstep) (lost_of_gap hactive ?_ hidle rfl)
  simp [Station.handle_sta_disconnected, vTaskResume, hpc]

theorem lost_of_gap_driver (hactive : s.sta_active = true)
    (hpc : s.sta_reconnect_task.pc = .vTaskSuspend) (hdriver : s.driver ≠ .idle)
    (hevents : s.events = []) : ∃ s', Reach stationStep Anywhere s s' ∧ s'.Lost := by
  have hstep : stationStep s .driverDisconnected =
      some { s with driver := .idle, events := [.WIFI_EVENT_STA_DISCONNECTED] } := by
    cases hdriver' : s.driver with
    | idle => exact absurd hdriver' hdriver
    | connecting | connected =>
      simp [stationStep, Station.driverDisconnected, hdriver', hevents]
  exact lost_of_reach (.next .refl trivial hstep) (lost_of_gap_event hactive hpc rfl rfl)

/-- `wifi_init` finds the task, just created, in the gap. -/
theorem lost_of_disturbed_init (hwatched : s.Watched) (hdisturbed : ¬ Undisturbed s .wifi_init)
    (hstep : s.wifi_init = some s') : ∃ s'', Reach stationStep Anywhere s' s'' ∧ s''.Lost := by
  simp only [Undisturbed, ne_eq, Classical.not_imp, not_not] at hdisturbed
  obtain ⟨hphase, hpc⟩ := hdisturbed
  cases hwatched with
  | created _ _ hidle hevents =>
    simp only [Station.wifi_init, hphase, Option.some.injEq] at hstep
    subst hstep
    refine lost_of_reach (.next (.next .refl (a := .wifi_init) trivial rfl)
      (a := .handle_sta_start true) trivial rfl) (lost_of_gap_driver ?_ ?_ ?_ ?_)
    · simp [Station.esp_wifi_connect, hidle]
    · simp [Station.esp_wifi_connect, hidle, vTaskSuspend, hpc]
    · simp [Station.esp_wifi_connect, hidle]
    · simp [Station.esp_wifi_connect, hidle, hevents]
  | starting hstarting => simp [hphase] at hstarting
  | byDriver hrunning => simp [hphase] at hrunning
  | byTask hrunning => simp [hphase] at hrunning

theorem lost_of_disturbed_start {succeeds : Bool} (hwatched : s.Watched)
    (hdisturbed : ¬ Undisturbed s (.handle_sta_start succeeds))
    (hstep : s.handle_sta_start succeeds = some s') :
    ∃ s'', Reach stationStep Anywhere s' s'' ∧ s''.Lost := by
  have hfails : succeeds = false := eq_false_of_ne_true hdisturbed
  unfold Station.handle_sta_start at hstep
  cases hwatched with
  | created hphase => simp [hphase] at hstep
  | starting hphase _ _ hsuspended hidle hevents =>
    obtain hphase | hphase := hphase
    · simp [hphase] at hstep
    · simp only [hphase, Station.esp_wifi_connect, hfails, Bool.false_eq_true, false_and, if_false,
        Option.some.injEq] at hstep
      subst hstep
      exact ⟨_, .refl, ⟨rfl, hidle, hevents, hsuspended⟩⟩
  | byDriver hphase => simp [hphase] at hstep
  | byTask hphase => simp [hphase] at hstep

theorem lost_of_disturbed_task {succeeds : Bool} (hwatched : s.Watched)
    (hdisturbed : ¬ Undisturbed s (.wifi_sta_reconnect_task succeeds))
    (hstep : s.wifi_sta_reconnect_task succeeds = some s') :
    ∃ s'', Reach stationStep Anywhere s' s'' ∧ s''.Lost := by
  simp only [Undisturbed, Classical.not_imp, Bool.not_eq_true] at hdisturbed
  obtain ⟨hstarted, hpc, hfails⟩ := hdisturbed
  unfold Station.wifi_sta_reconnect_task at hstep
  split at hstep
  case isTrue => cases hstep
  case isFalse hresumed =>
    simp only [hpc, hfails, Bool.false_eq_true, false_and, if_false, Station.esp_wifi_connect,
      Option.some.injEq] at hstep
    subst hstep
    cases hwatched with
    | created hphase => simp [Station.started, hphase] at hstarted
    | starting _ _ _ hsuspended => exact absurd hsuspended hresumed
    | byDriver _ _ htask => simp [htask, hpc] at hresumed
    | byTask _ hactive _ _ hidle hevents => exact lost_of_gap hactive rfl hidle hevents

theorem lost_of_disturbed_event (hwatched : s.Watched) (hdisturbed : ¬ Undisturbed s .handleEvent)
    (hstep : s.handleEvent = some s') :
    ∃ s'', Reach stationStep Anywhere s' s'' ∧ s''.Lost := by
  have hpc : s.sta_reconnect_task.pc = .vTaskSuspend := not_not.mp hdisturbed
  unfold Station.handleEvent at hstep
  cases hwatched with
  | created _ _ _ hevents => simp [hevents] at hstep
  | starting _ _ _ _ _ hevents => simp [hevents] at hstep
  | byDriver _ hactive _ hunderway =>
    obtain ⟨phase, task, driver, events, active, flag⟩ := s
    cases hunderway with
    | connecting => cases hstep
    | connected => cases hstep
    | associated =>
      cases hstep
      exact lost_of_gap_driver hactive hpc (by simp [Station.handle_sta_connected]) rfl
    | failed flag =>
      cases hstep
      refine lost_of_gap hactive ?_ rfl rfl
      simpa [Station.handle_sta_disconnected, vTaskResume] using hpc
    | dropped =>
      cases hstep
      exact lost_of_gap_event hactive hpc rfl rfl
  | byTask _ _ hawake => exact absurd hpc hawake

/-- After any disturbed step the reconnection can get lost. -/
theorem lost_after_disturbed {a : StationAction}
    (hreach : Reach stationStep Undisturbed taskCreated s) (hdisturbed : ¬ Undisturbed s a)
    (hstep : stationStep s a = some s') : ∃ s'', Reach stationStep Anywhere s' s'' ∧ s''.Lost := by
  have hwatched := watched_of_undisturbed hreach
  cases a with
  | wifi_init => exact lost_of_disturbed_init hwatched hdisturbed hstep
  | handle_sta_start succeeds => exact lost_of_disturbed_start hwatched hdisturbed hstep
  | wifi_sta_reconnect_task succeeds => exact lost_of_disturbed_task hwatched hdisturbed hstep
  | handleEvent => exact lost_of_disturbed_event hwatched hdisturbed hstep
  | driverConnected => exact absurd trivial hdisturbed
  | driverDisconnected => exact absurd trivial hdisturbed

end

end rtkbase.wifi
