import RTKBase.FramePool.Delivery
import RTKBase.GnssUart.EventLoop
import RTKBase.NtripCaster.ServerRun
import RTKBase.NtripClient.UplinkRun
import RTKBase.TcpServer.Chunks

namespace rtkbase.firmware

open frame_pool gnss_uart
open ntrip_caster (caster_config_t rover_conn_t Socket SendResult RecvResult serverStep)
open ntrip_client (Uplink QueuedFrame PeekResult uplinkStart)
open tcp_server (raw_frame_t tcpStep)

/-- The tasks between the UART and the sockets, with the frame pool and the
queues through which they pass frames on. -/
structure Firmware where
  reader : GnssReader
  tcp : tcp_server.Server
  pipeline : Pipeline
  uplinks : Fin NTRIP_UPLINK_COUNT → Uplink
  caster : ntrip_caster.Server

/-- The calls of `task_ntrip_uplink`. What `xQueueReceive` returns is decided by
the queue. -/
inductive UplinkCall where
  | ntrip_connect (result : Int)
  | xQueueReceive
  | send (result : SendResult)
  | pool_release
  | recv (result : PeekResult)

/-- The calls of `task_ntrip_server`. -/
inductive CasterCall where
  | noClient
  | accept (new_fd : Int) (results : List SendResult)
  | notReady
  | service (received : RecvResult) (results : List SendResult)
  | xQueueReceive
  | send (results : List SendResult)
  | pool_release

inductive FirmwareAction where
  | task_gnss_reader (a : LoopAction)
  /-- The next step of the reader's call of `post_raw_gnss_data_tcp`. -/
  | posting
  /-- The next step of the reader's call of `publish_rtcm_frame`. -/
  | publishStep
  | task_tcp_server (a : tcp_server.TaskAction)
  | tcp_server_disconnect_client
  | request (i : Nat)
  | task_ntrip_uplink (i : Fin NTRIP_UPLINK_COUNT) (call : UplinkCall)
  | task_ntrip_server (call : CasterCall)

/-- The chunk that the reader's next step hands to `post_raw_gnss_data_tcp`. -/
def posts (r : GnssReader) : Option raw_frame_t :=
  match r.phase with
  | .post_raw_gnss_data_tcp raw_frame _ => some raw_frame
  | _ => none

/-- The frame that the reader's next step hands to `publish_rtcm_frame`. -/
def publishes (r : GnssReader) : Option (List UInt8) :=
  match r.phase with
  | .splitter_process_bytes raw_frame _ locals =>
    match processStep raw_frame.data locals r.splitter with
    | some (_, _, events) => (published events).head?
    | none => none
  | _ => none

/-- The bytes as the arguments of `publish_rtcm_frame` or of
`send_frame_to_rover`, if they are some and fit a slot. -/
def frameOf (bytes : List UInt8) : Option RtcmFrame :=
  if h : 0 < bytes.length ∧ bytes.length ≤ MAX_RTCM_FRAME then some ⟨bytes, h.1, h.2⟩ else none

/-- The sending loop reads the slot at each `send`, its length only once. -/
def reread (s_pool : Pool) (u : Uplink) : Uplink :=
  match u.phase with
  | .sending f ptr retries =>
    { u with
      phase := .sending ⟨f.f, (s_pool f.f).data.toList.take f.data.length⟩ ptr retries }
  | _ => u

namespace Firmware

/-- The reader task goes on when no call of its is under way. -/
def readerStep (s : Firmware) (a : LoopAction) : Option Firmware :=
  match s.tcp.posting, s.pipeline.publishing with
  | .idle, .idle =>
    match loopStep s.reader a with
    | none => none
    | some reader =>
      match posts s.reader, publishes s.reader with
      | none, none => some { s with reader := reader }
      | some raw_frame, _ =>
        (tcpStep s.tcp (.post raw_frame)).map fun tcp => { s with reader := reader, tcp := tcp }
      | none, some data =>
        match frameOf data with
        | none => none
        | some frame =>
          (frame_pool.step s.pipeline (.publish_rtcm_frame frame)).map fun pipeline =>
            { s with reader := reader, pipeline := pipeline }
  | _, _ => none

def setUplink (s : Firmware) (i : Fin NTRIP_UPLINK_COUNT) (u : Uplink) : Firmware :=
  { s with uplinks := Function.update s.uplinks i u }

/-- A step of the uplink's task alone. -/
def uplinkAlone (s : Firmware) (i : Fin NTRIP_UPLINK_COUNT) (a : ntrip_client.UplinkAction) :
    Option Firmware :=
  (ntrip_client.uplinkStep (s.uplinks i) a).map (s.setUplink i)

def uplinkStep (s : Firmware) (i : Fin NTRIP_UPLINK_COUNT) : UplinkCall → Option Firmware
  | .ntrip_connect result => s.uplinkAlone i (.ntrip_connect result)
  | .xQueueReceive =>
    match (s.pipeline.handle (.uplink i)).entries with
    | [] => s.uplinkAlone i (.xQueueReceive none)
    | f :: _ =>
      match s.pipeline.xQueueReceive (.uplink i) with
      | none => none
      | some pipeline =>
        uplinkAlone { s with pipeline := pipeline } i
          (.xQueueReceive (some ⟨f, (s.pipeline.s_pool f).bytes⟩))
  | .send result =>
    (ntrip_client.uplinkStep (reread s.pipeline.s_pool (s.uplinks i)) (.send result)).map
      (s.setUplink i)
  | .pool_release =>
    match s.pipeline.consumerRelease (.uplink i) with
    | none => none
    | some pipeline => uplinkAlone { s with pipeline := pipeline } i .pool_release
  | .recv result => s.uplinkAlone i (.recv result)

section

variable (s_cfg : caster_config_t) (mbedtls_base64_decode : List UInt8 → Option (List UInt8))

/-- A step of the caster's task alone. -/
def casterAlone (s : Firmware) (a : ntrip_caster.ServerAction) : Option Firmware :=
  (serverStep s_cfg mbedtls_base64_decode s.caster a).map fun caster => { s with caster := caster }

def casterStep (s : Firmware) : CasterCall → Option Firmware
  | .noClient => s.casterAlone s_cfg mbedtls_base64_decode .noClient
  | .accept new_fd results => s.casterAlone s_cfg mbedtls_base64_decode (.accept new_fd results)
  | .notReady => s.casterAlone s_cfg mbedtls_base64_decode .notReady
  | .service received results =>
    s.casterAlone s_cfg mbedtls_base64_decode (.service received results)
  | .xQueueReceive =>
    match s.pipeline.held .caster, (s.pipeline.handle .caster).entries with
    | some _, _ => none
    | none, [] => s.casterAlone s_cfg mbedtls_base64_decode .queueEmpty
    | none, f :: _ =>
      match frameOf (s.pipeline.s_pool f).bytes, s.pipeline.xQueueReceive .caster with
      | some frame, some pipeline =>
        casterAlone s_cfg mbedtls_base64_decode { s with pipeline := pipeline } (.dequeue frame)
      | _, _ => none
  -- `f->data` and `f->len` are read anew for each rover.
  | .send results =>
    match s.caster.phase, s.pipeline.held .caster with
    | .sending _ i, some f =>
      match frameOf (s.pipeline.s_pool f).bytes with
      | none => none
      | some frame =>
        casterAlone s_cfg mbedtls_base64_decode
          { s with caster := { s.caster with phase := .sending frame i } } (.send results)
    | _, _ => none
  | .pool_release =>
    match s.caster.phase with
    | .forward =>
      (s.pipeline.consumerRelease .caster).map fun pipeline => { s with pipeline := pipeline }
    | _ => none

end

/-- A step of the TCP server's tasks, apart from the reader's calls. -/
def tcpAlone (s : Firmware) (a : tcp_server.TcpAction) : Option Firmware :=
  (tcpStep s.tcp a).map fun tcp => { s with tcp := tcp }

end Firmware

section

variable (s_cfg : caster_config_t) (mbedtls_base64_decode : List UInt8 → Option (List UInt8))

/-- The next step of any of the tasks; those that could not be created take
none. -/
def firmwareStep (s : Firmware) : FirmwareAction → Option Firmware
  | .task_gnss_reader a => s.readerStep a
  | .posting => s.tcpAlone .posting
  | .publishStep => s.pipeline.publishStep.map fun pipeline => { s with pipeline := pipeline }
  | .task_tcp_server a => s.tcpAlone (.task a)
  | .tcp_server_disconnect_client => s.tcpAlone .disconnectClient
  | .request i => s.tcpAlone (.request i)
  | .task_ntrip_uplink i call =>
    if s.pipeline.task (.uplink i) then s.uplinkStep i call else none
  | .task_ntrip_server call =>
    if s.pipeline.task .caster then s.casterStep s_cfg mbedtls_base64_decode call else none

end

/-- The init functions have finished: the queues of `active` and the tasks of
`running` exist. -/
def firmwareStart (s : splitter_t UInt8) (s_pool : Pool) (active running : Destination → Bool)
    (s_rovers : Fin ntrip_caster.MAX_ROVERS → rover_conn_t) (sockets : Int → Socket) : Firmware where
  reader := gnssReaderStart s
  tcp := tcp_server.listening
  pipeline := started s_pool active running
  uplinks := fun _ => uplinkStart
  caster := ntrip_caster.listening s_rovers sockets

end rtkbase.firmware
