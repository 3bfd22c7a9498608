import RTKBase.Lib.Lts

namespace rtkbase.wifi

/-- What the reconnect task does next. -/
inductive ReconnectPc where
  | retry_delay
  | esp_wifi_connect
  | vTaskSuspend
deriving DecidableEq

structure ReconnectTask where
  pc : ReconnectPc
  suspended : Bool
deriving DecidableEq

/-- Another task suspends the task where it stands. -/
def vTaskSuspend (task : ReconnectTask) : ReconnectTask := { task with suspended := true }

/-- A task that is not suspended does not notice. -/
def vTaskResume (task : ReconnectTask) : ReconnectTask := { task with suspended := false }

inductive StaDriver where
  | idle
  | connecting
  | connected
deriving DecidableEq

inductive StaEvent where
  | WIFI_EVENT_STA_CONNECTED
  | WIFI_EVENT_STA_DISCONNECTED
deriving DecidableEq

/-- What is still to happen before the station runs: the two last calls of
`wifi_init` for it, and the delivery of the start event. -/
inductive WifiPhase where
  | vTaskSuspend
  | esp_wifi_start
  | WIFI_EVENT_STA_START
  | running
deriving DecidableEq

/-- The station with the events that are posted and not delivered, the oldest
one first. -/
structure Station where
  phase : WifiPhase
  sta_reconnect_task : ReconnectTask
  driver : StaDriver
  events : List StaEvent
  sta_active : Bool
  sta_connected : Bool

/-- The task is created and may run before `wifi_init` suspends it. -/
def taskCreated : Station where
  phase := .vTaskSuspend
  sta_reconnect_task := ⟨.retry_delay, false⟩
  driver := .idle
  events := []
  sta_active := false
  sta_connected := false

/-- A call that fails posts no event. One that finds a connection, or an
attempt, leaves it as it is. -/
def Station.esp_wifi_connect (s : Station) (succeeds : Bool) : Station :=
  if succeeds = true ∧ s.driver = .idle then { s with driver := .connecting } else s

def Station.started (s : Station) : Bool :=
  s.phase = .WIFI_EVENT_STA_START ∨ s.phase = .running

def Station.wifi_init (s : Station) : Option Station :=
  match s.phase with
  | .vTaskSuspend =>
    some { s with
      phase := .esp_wifi_start
      sta_reconnect_task := wifi.vTaskSuspend s.sta_reconnect_task }
  | .esp_wifi_start => some { s with phase := .WIFI_EVENT_STA_START }
  | .WIFI_EVENT_STA_START | .running => none

def Station.handle_sta_start (s : Station) (succeeds : Bool) : Option Station :=
  match s.phase with
  | .WIFI_EVENT_STA_START =>
    some ({ s with phase := .running, sta_active := true }.esp_wifi_connect succeeds)
  | .vTaskSuspend | .esp_wifi_start | .running => none

/-- The next step of the task's loop. `esp_wifi_connect` fails before the
driver is started. -/
def Station.wifi_sta_reconnect_task (s : Station) (succeeds : Bool) : Option Station :=
  if s.sta_reconnect_task.suspended then none
  else
    match s.sta_reconnect_task.pc with
    | .retry_delay => some { s with sta_reconnect_task := ⟨.esp_wifi_connect, false⟩ }
    | .esp_wifi_connect =>
      if succeeds = true ∧ s.started = false then none
      else some ({ s with sta_reconnect_task := ⟨.vTaskSuspend, false⟩ }.esp_wifi_connect succeeds)
    | .vTaskSuspend => some { s with sta_reconnect_task := ⟨.retry_delay, true⟩ }

def Station.handle_sta_connected (s : Station) : Station :=
  { s with
    sta_connected := true
    sta_reconnect_task := vTaskSuspend s.sta_reconnect_task }

def Station.handle_sta_disconnected (s : Station) : Station :=
  { s with
    sta_connected := false
    sta_reconnect_task := vTaskResume s.sta_reconnect_task }

/-- The event loop delivers the oldest event. -/
def Station.handleEvent (s : Station) : Option Station :=
  match s.events with
  | [] => none
  | .WIFI_EVENT_STA_CONNECTED :: rest => some { s with events := rest }.handle_sta_connected
  | .WIFI_EVENT_STA_DISCONNECTED :: rest => some { s with events := rest }.handle_sta_disconnected

/-- The access point takes the station in. -/
def Station.driverConnected (s : Station) : Option Station :=
  match s.driver with
  | .connecting =>
    some { s with driver := .connected, events := s.events ++ [.WIFI_EVENT_STA_CONNECTED] }
  | .idle | .connected => none

/-- An attempt fails or a connection is lost. -/
def Station.driverDisconnected (s : Station) : Option Station :=
  match s.driver with
  | .idle => none
  | .connecting | .connected =>
    some { s with driver := .idle, events := s.events ++ [.WIFI_EVENT_STA_DISCONNECTED] }

inductive StationAction where
  | wifi_init
  | handle_sta_start (succeeds : Bool)
  | wifi_sta_reconnect_task (succeeds : Bool)
  | handleEvent
  | driverConnected
  | driverDisconnected

def stationStep (s : Station) : StationAction → Option Station
  | .wifi_init => s.wifi_init
  | .handle_sta_start succeeds => s.handle_sta_start succeeds
  | .wifi_sta_reconnect_task succeeds => s.wifi_sta_reconnect_task succeeds
  | .handleEvent => s.handleEvent
  | .driverConnected => s.driverConnected
  | .driverDisconnected => s.driverDisconnected

/-- The station is started and not connected, and nothing will happen that makes
it try again. -/
structure Station.Lost (s : Station) : Prop where
  active : s.sta_active = true
  idle : s.driver = .idle
  delivered : s.events = []
  suspended : s.sta_reconnect_task.suspended = true

end rtkbase.wifi
