import RTKBase.WebServer.BasicAuth

namespace rtkbase.web_server.ota

open lib.cstring nvs_config nvs_config.EspErr

def OTA_UPLOAD_BUF_SIZE : Int := 2048

def ESP_IMAGE_HEADER_MAGIC : UInt8 := 0xe9

/-- A partition lies in a flash chip, which is smaller than the addresses of a
processor. -/
structure esp_partition_t where
  size : Nat
  in_flash : size < 2147483648

/-- What `httpd_req_recv` returns: bytes, a timeout, or that there are no more. -/
inductive RecvResult where
  | received (data : List UInt8)
  | HTTPD_SOCK_ERR_TIMEOUT
  | failed
deriving DecidableEq

/-- The calls that an upload makes, with what they return. -/
inductive OtaCall where
  | httpd_req_recv (data : List UInt8)
  | esp_ota_begin (err : EspErr)
  | esp_ota_write (data : List UInt8) (err : EspErr)
  | esp_ota_end (err : EspErr)
  | esp_ota_abort
  | esp_ota_set_boot_partition (err : EspErr)
  | esp_partition_erase_range (start size : Nat) (err : EspErr)
  | esp_partition_write (offset : Nat) (data : List UInt8) (err : EspErr)
deriving DecidableEq

inductive UploadMessage where
  | text (text : String)
  | esp_err_to_name (err : EspErr)
deriving DecidableEq

inductive UploadReply where
  | unauthorized (resp : Option HttpdResp)
  | httpd_resp_send_err (error : String) (message : String)
  | json_response (success : Bool) (message : UploadMessage)
deriving DecidableEq

/-- The calls of a handler, and its reply unless it still waits for bytes. -/
structure UploadOutcome where
  calls : List OtaCall
  reply : Option UploadReply

/-- What the calls into ESP-IDF return. A write is told by the number of bytes that were
written before it. -/
structure OtaResults where
  malloc : Bool
  esp_ota_begin : EspErr
  esp_ota_write : Nat → EspErr
  esp_ota_end : EspErr
  esp_ota_set_boot_partition : EspErr
  esp_partition_erase_range : EspErr
  esp_partition_write : Nat → EspErr

/-- The conversion of a `size_t` to an `int`. -/
def toInt (n : Nat) : Int := if n % 4294967296 < 2147483648 then n % 4294967296
  else n % 4294967296 - 4294967296

/-- The bytes received and the results that are still to come; no bytes stand for an
error. There is nothing as long as there are timeouts only. -/
def recv_upload_chunk (len : Nat) : List RecvResult → Option (List UInt8 × List RecvResult)
  | [] => none
  | .HTTPD_SOCK_ERR_TIMEOUT :: results => recv_upload_chunk len results
  | .failed :: results => some ([], results)
  | .received data :: results => some (data.take len, results)

theorem recv_upload_chunk_shorter {len : Nat} {results rest : List RecvResult}
    {data : List UInt8} (hrecv : recv_upload_chunk len results = some (data, rest)) :
    rest.length < results.length := by
  induction results with
  | nil => cases hrecv
  | cons result results ih =>
    cases result with
    | HTTPD_SOCK_ERR_TIMEOUT => exact Nat.lt_succ_of_lt (ih hrecv)
    | failed =>
      cases hrecv
      exact Nat.lt_succ_self _
    | received data =>
      cases hrecv
      exact Nat.lt_succ_self _

/-- An upload in progress. -/
structure Upload where
  err : EspErr
  offset : Nat
  remaining : Int
  results : List RecvResult
  calls : List OtaCall
  waiting : Bool

section

variable (write : Nat → List UInt8 → EspErr → OtaCall) (written : Nat → EspErr)

/-- The loop behind the first chunk. -/
def uploadLoop (s : Upload) : Upload :=
  if s.err = ESP_OK ∧ 0 < s.remaining then
    match _hrecv : recv_upload_chunk (min s.remaining OTA_UPLOAD_BUF_SIZE).toNat s.results with
    | none => { s with waiting := true }
    | some ([], results) => { s with err := ESP_FAIL, results := results }
    | some (b :: data, results) =>
      let err := written s.offset
      let s := { s with
        err := err
        results := results
        calls := s.calls ++ [.httpd_req_recv (b :: data), write s.offset (b :: data) err] }
      if err ≠ ESP_OK then s
      else uploadLoop { s with
        offset := s.offset + (b :: data).length
        remaining := s.remaining - (b :: data).length }
  else s
termination_by s.results.length
decreasing_by exact recv_upload_chunk_shorter _hrecv

end

section

variable (results : OtaResults) (auth : esp_err_t × Option HttpdResp) (content_len : Nat)
  (recvResults : List RecvResult)

def refuse (calls : List OtaCall) (error message : String) : UploadOutcome :=
  ⟨calls, some (.httpd_resp_send_err error message)⟩

/-- The end of an update, and the reply. -/
def otaFirmwareFinish (s : Upload) : UploadOutcome :=
  if s.waiting then ⟨s.calls, none⟩
  else
    let (err, calls) :=
      if s.err = ESP_OK then
        (results.esp_ota_end, s.calls ++ [.esp_ota_end results.esp_ota_end])
      else (s.err, s.calls ++ [.esp_ota_abort])
    let (err, calls) :=
      if err = ESP_OK then
        (results.esp_ota_set_boot_partition,
          calls ++ [.esp_ota_set_boot_partition results.esp_ota_set_boot_partition])
      else (err, calls)
    ⟨calls, some (.json_response (err = ESP_OK)
      (if err = ESP_OK then .text "Firmware uploaded. Restart to boot it."
        else .esp_err_to_name err))⟩

def ota_firmware_post_handler (update_partition : Option esp_partition_t) : UploadOutcome :=
  if auth.1 = .ESP_FAIL then ⟨[], some (.unauthorized auth.2)⟩
  else if results.malloc = false then
    refuse [] "HTTPD_500_INTERNAL_SERVER_ERROR" "No upload buffer"
  else
    match update_partition with
    | none => refuse [] "HTTPD_500_INTERNAL_SERVER_ERROR" "No OTA partition"
    | some update_partition =>
      if content_len = 0 ∨ content_len > update_partition.size then
        refuse [] "HTTPD_400_BAD_REQUEST" "Invalid firmware image size"
      else
        let remaining := toInt content_len
        match recv_upload_chunk (min remaining OTA_UPLOAD_BUF_SIZE).toNat recvResults with
        | none => ⟨[], none⟩
        | some ([], _) => refuse [] "HTTPD_400_BAD_REQUEST" "Failed to read firmware image"
        | some (b :: data, recvResults) =>
          let calls := [.httpd_req_recv (b :: data)]
          if b ≠ ESP_IMAGE_HEADER_MAGIC then
            refuse calls "HTTPD_400_BAD_REQUEST"
              "Selected file does not look like an ESP32 firmware image. Use Upload web GUI .bin for the web image."
          else
            let calls := calls ++ [.esp_ota_begin results.esp_ota_begin]
            if results.esp_ota_begin ≠ ESP_OK then
              refuse calls "HTTPD_500_INTERNAL_SERVER_ERROR" "OTA begin failed"
            else
              let err := results.esp_ota_write 0
              otaFirmwareFinish results
                (uploadLoop (fun _ => .esp_ota_write) results.esp_ota_write
                  { err := err
                    offset := (b :: data).length
                    remaining := remaining - (b :: data).length
                    results := recvResults
                    calls := calls ++ [.esp_ota_write (b :: data) err]
                    waiting := false })

def otaWwwFinish (s : Upload) : UploadOutcome :=
  if s.waiting then ⟨s.calls, none⟩
  else ⟨s.calls, some (.json_response (s.err = ESP_OK)
    (if s.err = ESP_OK then .text "Web image uploaded. Restart to remount it."
      else .esp_err_to_name s.err))⟩

def ota_www_post_handler (www_partition : Option esp_partition_t) : UploadOutcome :=
  if auth.1 = .ESP_FAIL then ⟨[], some (.unauthorized auth.2)⟩
  else
    match www_partition with
    | none => refuse [] "HTTPD_500_INTERNAL_SERVER_ERROR" "No www partition"
    | some www_partition =>
      if content_len ≠ www_partition.size then
        refuse [] "HTTPD_400_BAD_REQUEST" "Invalid www image size"
      else if results.malloc = false then
        refuse [] "HTTPD_500_INTERNAL_SERVER_ERROR" "No upload buffer"
      else
        let remaining := toInt content_len
        match recv_upload_chunk (min remaining OTA_UPLOAD_BUF_SIZE).toNat recvResults with
        | none => ⟨[], none⟩
        | some ([], _) => refuse [] "HTTPD_400_BAD_REQUEST" "Failed to read web image"
        | some (b :: data, recvResults) =>
          let calls := [.httpd_req_recv (b :: data)]
          if b = ESP_IMAGE_HEADER_MAGIC then
            refuse calls "HTTPD_400_BAD_REQUEST"
              "Selected file looks like an ESP32 firmware image. Use Upload firmware .bin for app updates."
          else
            let erased := results.esp_partition_erase_range
            let calls := calls ++ [.esp_partition_erase_range 0 www_partition.size erased]
            let s : Upload :=
              { err := erased
                offset := 0
                remaining := remaining
                results := recvResults
                calls := calls
                waiting := false }
            let s :=
              if erased ≠ ESP_OK then s
              else
                let err := results.esp_partition_write 0
                let s := { s with
                  err := err
                  calls := calls ++ [.esp_partition_write 0 (b :: data) err] }
                if err ≠ ESP_OK then s
                else { s with
                  offset := (b :: data).length
                  remaining := remaining - (b :: data).length }
            otaWwwFinish (uploadLoop .esp_partition_write results.esp_partition_write s)

end

end rtkbase.web_server.ota
