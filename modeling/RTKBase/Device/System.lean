import RTKBase.GnssUart.Console
import RTKBase.WebServer.GnssCommand
import RTKBase.WebServer.HotspotAuth
import RTKBase.WebServer.OtaSlots
import RTKBase.WebServer.StaticFile

namespace rtkbase.device

open lib.lts nvs_config web_server gnss_uart
open web_server.ota (OtaCall OtaDevice OtaSlot otaStep otaStart UploadRequest EspOta
  esp_partition_t)

/-- The web partition under the file system and under the functions for partitions: the
files that are in it, what it is after the files were changed, and after calls on its raw
bytes. -/
structure EspSpiffs (Partition : Type) where
  files : Partition → Spiffs
  store : Partition → Spiffs → Partition
  write : Partition → List OtaCall → Partition

/-- What the web server is built on. -/
structure Libraries (httpd_req_t Flash Partition : Type) where
  parser : JsonLibrary
  httpd : HttpdHeaders httpd_req_t
  mbedtls_base64_encode : List UInt8 → List UInt8
  ota : EspOta Flash
  www : EspSpiffs Partition
  crc32 : Crc32
  CONFIG_SPIFFS_OBJ_NAME_LEN : Nat

/-- What the web server works on, with what of it is left when the power is lost: the
settings, the firmware and the web partition. -/
structure WebDevice (Flash Partition : Type) where
  store : Nvs
  /-- `nvs_flash_erase` puts NVS out of use until the next start. -/
  nvsReady : Bool
  ota : OtaDevice Flash
  www : Partition
  auth : ServerAuth
  console : Console
  /-- The commands that `gnss_uart_send_command` took on. -/
  commands : List (List UInt8)
  /-- The calls of `tcp_server_disconnect_client`. -/
  disconnects : Nat
  restart_scheduled : Bool

/-- The handlers that `web_server_start` registers, each with what comes in behind the
header of the request and what the calls of the handler return. The one for the console
gets the memory from the address on that `malloc` returns. -/
inductive UriHandler where
  | config_get_handler
  | config_post_handler (body : List UInt8) (delivery : web_server.RecvResult)
    (results : PostResults)
  | tcp_server_disconnect_post_handler
  | ota_firmware_post_handler (upload : UploadRequest)
  | ota_www_post_handler (upload : UploadRequest) (www_partition : Option esp_partition_t)
  | ota_restart_post_handler (xTaskCreate : Bool)
  | admin_restart_post_handler (json_response xTaskCreate : Bool)
  | admin_factory_reset_post_handler (nvs_flash_erase json_response xTaskCreate : Bool)
  | gnss_command_post_handler (tcp_server_client_connected uartReady : Bool)
    (content : Option (List UInt8))
  | gnss_log_get_handler (log_buffer : Option (List UInt8))
  | gnss_log_clear_post_handler (now : Nat)
  | status_get_handler
  | log_get_handler
  | core_dump_get_handler
  | heap_info_get_handler
  | wifi_scan_get_handler
  | file_get_handler (req : FileRequest)

section

variable {httpd_req_t Flash Partition : Type} (libs : Libraries httpd_req_t Flash Partition)

/-- The device does nothing more until it is started again. -/
def WebDevice.stop (s : WebDevice Flash Partition) : WebDevice Flash Partition :=
  { s with ota := { s.ota with stopped := true } }

def WebDevice.schedule_restart (s : WebDevice Flash Partition) (xTaskCreate : Bool) :
    WebDevice Flash Partition :=
  { s with restart_scheduled := (web_server.schedule_restart s.restart_scheduled xTaskCreate).2 }

/-- What `config_post_handler` hands to `cfg_json_to_nvs`. -/
def postedForm (body : List UInt8) (delivery : web_server.RecvResult) : Option (Option cJSON) :=
  match delivery with
  | .received count =>
    if body.take (min count (BUFFER_SIZE - 1)) = [] then none
    else some (libs.parser.cJSON_Parse (receivedText body count))
  | _ => none

/-- `nvs_open` fails when NVS is out of use, and `ESP_ERROR_CHECK` stops the device. -/
def WebDevice.configPost (s : WebDevice Flash Partition) (req : httpd_req_t)
    (block : Option (List UInt8)) (body : List UInt8) (delivery : web_server.RecvResult)
    (results : PostResults) : WebDevice Flash Partition :=
  if s.nvsReady = false ∧ (postedForm libs body delivery).isSome then s.stop
  else
    match config_post_handler libs.parser results libs.httpd s.auth req block s.store
      s.restart_scheduled body delivery with
    | none => s.stop
    | some o => { s with store := o.store, restart_scheduled := o.restart_scheduled }

/-- The command of a request, unless `gnss_uart_send_command` refuses it at once. -/
def sentCommands (uartReady : Bool) (content : Option (List UInt8)) : List (List UInt8) :=
  match gnssCommandReceived uartReady content with
  | .xSemaphoreTake command => [command]
  | _ => []

/-- A handler behind `check_auth`. -/
def WebDevice.handle (s : WebDevice Flash Partition) (req : httpd_req_t)
    (block : Option (List UInt8)) (auth : esp_err_t × Option HttpdResp) :
    UriHandler → WebDevice Flash Partition
  | .config_post_handler body delivery results => s.configPost libs req block body delivery results
  | .tcp_server_disconnect_post_handler => { s with disconnects := s.disconnects + 1 }
  | .ota_firmware_post_handler upload =>
    match otaStep libs.ota s.ota (.ota_firmware_post_handler { upload with auth := auth }) with
    | none => s
    | some ota => { s with ota := ota }
  | .ota_www_post_handler upload www_partition =>
    let o := web_server.ota.ota_www_post_handler upload.results auth upload.content_len
      upload.recvResults www_partition
    match otaStep libs.ota s.ota
      (.ota_www_post_handler { upload with auth := auth } www_partition) with
    | none => s
    | some ota => { s with ota := ota, www := libs.www.write s.www (upload.made o) }
  | .ota_restart_post_handler xTaskCreate => s.schedule_restart xTaskCreate
  | .admin_restart_post_handler json_response xTaskCreate =>
    if json_response then s.schedule_restart xTaskCreate else s
  | .admin_factory_reset_post_handler nvs_flash_erase json_response xTaskCreate =>
    if nvs_flash_erase = false then s
    else
      let s := { s with store := erased, nvsReady := false }
      if json_response then s.schedule_restart xTaskCreate else s
  | .gnss_command_post_handler tcp_server_client_connected uartReady content =>
    if tcp_server_client_connected then s
    else { s with commands := s.commands ++ sentCommands uartReady content }
  | .gnss_log_get_handler log_buffer =>
    match log_buffer with
    | none => s
    | some log_buffer => { s with console := (consoleSwap s.console log_buffer).2 }
  | .gnss_log_clear_post_handler now =>
    { s with console := gnss_uart_console_clear s.console now }
  | .file_get_handler req =>
    { s with www := libs.www.store s.www (file_get_handler libs.crc32
        libs.CONFIG_SPIFFS_OBJ_NAME_LEN (libs.www.files s.www) { req with auth := auth }).1 }
  -- The other pages only read.
  | .config_get_handler | .status_get_handler | .log_get_handler | .core_dump_get_handler => s
  | .heap_info_get_handler | .wifi_scan_get_handler => s

/-- A new device, which has not been started. -/
def newDevice (flash : Flash) (slot : OtaSlot) (www : Partition) : WebDevice Flash Partition where
  store := erased
  nvsReady := false
  ota := { otaStart libs.ota flash slot with stopped := true }
  www := www
  auth := ⟨AUTH_METHOD_OPEN, []⟩
  console := consoleStart
  commands := []
  disconnects := 0
  restart_scheduled := false

end

end rtkbase.device
