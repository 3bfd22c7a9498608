import RTKBase.Firmware.System

namespace rtkbase.firmware

open frame_pool gnss_uart
open ntrip_caster (caster_config_t rover_conn_t Socket SendResult serverStep ServerAction)
open ntrip_client (Uplink QueuedFrame UplinkAction)
open tcp_server (raw_frame_t tcpStep)

/-- Neither takes a frame off the queue nor works on one. -/
def FramelessUplink : UplinkAction → Prop
  | .ntrip_connect _ | .xQueueReceive none | .recv _ => True
  | _ => False

def FramelessCaster : ServerAction → Prop
  | .dequeue _ | .send _ => False
  | _ => True

variable (s_cfg : caster_config_t) (mbedtls_base64_decode : List UInt8 → Option (List UInt8))

/-- What one step of the firmware can do. -/
inductive FirmwareStep (s : Firmware) : Firmware → Prop where
  | reader {a : LoopAction} {reader : GnssReader} (hstep : loopStep s.reader a = some reader)
      (hposts : posts s.reader = none) (hpublishes : publishes s.reader = none) :
      FirmwareStep s { s with reader := reader }
  | post {a : LoopAction} {reader : GnssReader} {raw_frame : raw_frame_t}
      {tcp : tcp_server.Server} (hstep : loopStep s.reader a = some reader)
      (hposts : posts s.reader = some raw_frame)
      (hpost : tcpStep s.tcp (.post raw_frame) = some tcp) :
      FirmwareStep s { s with reader := reader, tcp := tcp }
  | publish {a : LoopAction} {reader : GnssReader} {frame : RtcmFrame} {pipeline : Pipeline}
      (hstep : loopStep s.reader a = some reader) (hposts : posts s.reader = none)
      (hpublishes : publishes s.reader = some frame.data)
      (hpublish : frame_pool.step s.pipeline (.publish_rtcm_frame frame) = some pipeline) :
      FirmwareStep s { s with reader := reader, pipeline := pipeline }
  | tcp {a : tcp_server.TcpAction} {tcp : tcp_server.Server} (hother : ∀ frame, a ≠ .post frame)
      (hstep : tcpStep s.tcp a = some tcp) : FirmwareStep s { s with tcp := tcp }
  | publishStep {pipeline : Pipeline} (hstep : s.pipeline.publishStep = some pipeline) :
      FirmwareStep s { s with pipeline := pipeline }
  | uplink {i : Fin NTRIP_UPLINK_COUNT} {a : UplinkAction} {u : Uplink} (ha : FramelessUplink a)
      (hstep : ntrip_client.uplinkStep (s.uplinks i) a = some u) :
      FirmwareStep s (s.setUplink i u)
  | uplinkReceive {i : Fin NTRIP_UPLINK_COUNT} {f : FramePtr} {rest : List FramePtr}
      {pipeline : Pipeline} {u : Uplink}
      (hentries : (s.pipeline.handle (.uplink i)).entries = f :: rest)
      (hreceive : s.pipeline.xQueueReceive (.uplink i) = some pipeline)
      (hstep : ntrip_client.uplinkStep (s.uplinks i)
        (.xQueueReceive (some ⟨f, (s.pipeline.s_pool f).bytes⟩)) = some u) :
      FirmwareStep s (Firmware.setUplink { s with pipeline := pipeline } i u)
  | uplinkSend {i : Fin NTRIP_UPLINK_COUNT} {result : SendResult} {u : Uplink}
      (hstep : ntrip_client.uplinkStep (reread s.pipeline.s_pool (s.uplinks i)) (.send result) =
        some u) :
      FirmwareStep s (s.setUplink i u)
  | uplinkRelease {i : Fin NTRIP_UPLINK_COUNT} {pipeline : Pipeline} {u : Uplink}
      (hrelease : s.pipeline.consumerRelease (.uplink i) = some pipeline)
      (hstep : ntrip_client.uplinkStep (s.uplinks i) .pool_release = some u) :
      FirmwareStep s (Firmware.setUplink { s with pipeline := pipeline } i u)
  | caster {a : ServerAction} {caster : ntrip_caster.Server} (ha : FramelessCaster a)
      (hheld : a = .queueEmpty → s.pipeline.held .caster = none)
      (hstep : serverStep s_cfg mbedtls_base64_decode s.caster a = some caster) :
      FirmwareStep s { s with caster := caster }
  | casterReceive {f : FramePtr} {rest : List FramePtr} {frame : RtcmFrame}
      {pipeline : Pipeline} {caster : ntrip_caster.Server}
      (hentries : (s.pipeline.handle .caster).entries = f :: rest)
      (hframe : frame.data = (s.pipeline.s_pool f).bytes)
      (hreceive : s.pipeline.xQueueReceive .caster = some pipeline)
      (hstep : serverStep s_cfg mbedtls_base64_decode s.caster (.dequeue frame) = some caster) :
      FirmwareStep s { s with pipeline := pipeline, caster := caster }
  | casterSend {f : FramePtr} {old frame : RtcmFrame} {i : Fin ntrip_caster.MAX_ROVERS}
      {results : List SendResult} {caster : ntrip_caster.Server}
      (hphase : s.caster.phase = .sending old i) (hheld : s.pipeline.held .caster = some f)
      (hframe : frame.data = (s.pipeline.s_pool f).bytes)
      (hstep : serverStep s_cfg mbedtls_base64_decode
        { s.caster with phase := .sending frame i } (.send results) = some caster) :
      FirmwareStep s { s with caster := caster }
  | casterRelease {pipeline : Pipeline} (hphase : s.caster.phase = .forward)
      (hrelease : s.pipeline.consumerRelease .caster = some pipeline) :
      FirmwareStep s { s with pipeline := pipeline }

variable {s_cfg mbedtls_base64_decode}

theorem frameOf_some {bytes : List UInt8} {frame : RtcmFrame} (hframe : frameOf bytes = some frame) :
    frame.data = bytes := by
  unfold frameOf at hframe
  split at hframe
  case isTrue =>
    cases hframe
    rfl
  case isFalse => cases hframe

section

variable {s s' : Firmware}

theorem readerStep_cases {a : LoopAction} (hstep : s.readerStep a = some s') :
    FirmwareStep s_cfg mbedtls_base64_decode s s' := by
  unfold Firmware.readerStep at hstep
  split at hstep
  case h_1 =>
    split at hstep
    case h_1 => cases hstep
    case h_2 reader hreader =>
      split at hstep
      case h_1 hposts hpublishes =>
        cases hstep
        exact .reader hreader hposts hpublishes
      case h_2 raw_frame hposts =>
        obtain ⟨tcp, hpost, rfl⟩ := Option.map_eq_some_iff.mp hstep
        exact .post hreader hposts hpost
      case h_3 data hposts hpublishes =>
        split at hstep
        case h_1 => cases hstep
        case h_2 frame hframe =>
          obtain ⟨pipeline, hpublish, rfl⟩ := Option.map_eq_some_iff.mp hstep
          exact .publish hreader hposts (by rw [hpublishes, frameOf_some hframe]) hpublish
  case h_2 => cases hstep

theorem tcpAlone_cases {a : tcp_server.TcpAction} (hother : ∀ frame, a ≠ .post frame)
    (hstep : s.tcpAlone a = some s') : FirmwareStep s_cfg mbedtls_base64_decode s s' := by
  obtain ⟨tcp, htcp, rfl⟩ := Option.map_eq_some_iff.mp hstep
  exact .tcp hother htcp

theorem uplinkAlone_cases {i : Fin NTRIP_UPLINK_COUNT} {a : UplinkAction}
    (ha : FramelessUplink a) (hstep : s.uplinkAlone i a = some s') :
    FirmwareStep s_cfg mbedtls_base64_decode s s' := by
  obtain ⟨u, hu, rfl⟩ := Option.map_eq_some_iff.mp hstep
  exact .uplink ha hu

theorem uplinkStep_cases {i : Fin NTRIP_UPLINK_COUNT} {call : UplinkCall}
    (hstep : s.uplinkStep i call = some s') : FirmwareStep s_cfg mbedtls_base64_decode s s' := by
  cases call with
  | ntrip_connect result => exact uplinkAlone_cases (by trivial) hstep
  | xQueueReceive =>
    simp only [Firmware.uplinkStep] at hstep
    split at hstep
    case h_1 => exact uplinkAlone_cases (by trivial) hstep
    case h_2 f rest hentries =>
      split at hstep
      case h_1 => cases hstep
      case h_2 pipeline hreceive =>
        obtain ⟨u, hu, rfl⟩ := Option.map_eq_some_iff.mp hstep
        exact .uplinkReceive hentries hreceive hu
  | send result =>
    obtain ⟨u, hu, rfl⟩ := Option.map_eq_some_iff.mp hstep
    exact .uplinkSend hu
  | pool_release =>
    simp only [Firmware.uplinkStep] at hstep
    split at hstep
    case h_1 => cases hstep
    case h_2 pipeline hrelease =>
      obtain ⟨u, hu, rfl⟩ := Option.map_eq_some_iff.mp hstep
      exact .uplinkRelease hrelease hu
  | recv result => exact uplinkAlone_cases (by trivial) hstep

theorem casterAlone_cases {a : ServerAction} (ha : FramelessCaster a)
    (hheld : a = .queueEmpty → s.pipeline.held .caster = none)
    (hstep : s.casterAlone s_cfg mbedtls_base64_decode a = some s') :
    FirmwareStep s_cfg mbedtls_base64_decode s s' := by
  obtain ⟨caster, hcaster, rfl⟩ := Option.map_eq_some_iff.mp hstep
  exact .caster ha hheld hcaster

theorem casterStep_cases {call : CasterCall}
    (hstep : s.casterStep s_cfg mbedtls_base64_decode call = some s') :
    FirmwareStep s_cfg mbedtls_base64_decode s s' := by
  cases call with
  | noClient => exact casterAlone_cases (by trivial) (by simp) hstep
  | accept new_fd results => exact casterAlone_cases (by trivial) (by simp) hstep
  | notReady => exact casterAlone_cases (by trivial) (by simp) hstep
  | service received results => exact casterAlone_cases (by trivial) (by simp) hstep
  | xQueueReceive =>
    simp only [Firmware.casterStep] at hstep
    split at hstep
    case h_1 => cases hstep
    case h_2 hheld hentries => exact casterAlone_cases (by trivial) (fun _ => hheld) hstep
    case h_3 f rest hheld hentries =>
      split at hstep
      case h_1 frame pipeline hframe hreceive =>
        obtain ⟨caster, hcaster, rfl⟩ := Option.map_eq_some_iff.mp hstep
        exact .casterReceive hentries (frameOf_some hframe) hreceive hcaster
      case h_2 => cases hstep
  | send results =>
    simp only [Firmware.casterStep] at hstep
    split at hstep
    case h_1 old i f hphase hheld =>
      split at hstep
      case h_1 => cases hstep
      case h_2 frame hframe =>
        obtain ⟨caster, hcaster, rfl⟩ := Option.map_eq_some_iff.mp hstep
        exact .casterSend hphase hheld (frameOf_some hframe) hcaster
    case h_2 => cases hstep
  | pool_release =>
    simp only [Firmware.casterStep] at hstep
    split at hstep
    case h_1 hphase =>
      obtain ⟨pipeline, hrelease, rfl⟩ := Option.map_eq_some_iff.mp hstep
      exact .casterRelease hphase hrelease
    case h_2 => cases hstep

theorem firmwareStep_cases {a : FirmwareAction}
    (hstep : firmwareStep s_cfg mbedtls_base64_decode s a = some s') :
    FirmwareStep s_cfg mbedtls_base64_decode s s' := by
  cases a with
  | task_gnss_reader a => exact readerStep_cases hstep
  | posting => exact tcpAlone_cases (by simp) hstep
  | publishStep =>
    obtain ⟨pipeline, hpipeline, rfl⟩ := Option.map_eq_some_iff.mp hstep
    exact .publishStep hpipeline
  | task_tcp_server a => exact tcpAlone_cases (by simp) hstep
  | tcp_server_disconnect_client => exact tcpAlone_cases (by simp) hstep
  | request i => exact tcpAlone_cases (by simp) hstep
  | task_ntrip_uplink i call =>
    simp only [firmwareStep] at hstep
    split at hstep
    case isTrue => exact uplinkStep_cases hstep
    case isFalse => cases hstep
  | task_ntrip_server call =>
    simp only [firmwareStep] at hstep
    split at hstep
    case isTrue => exact casterStep_cases hstep
    case isFalse => cases hstep

end

end rtkbase.firmware
