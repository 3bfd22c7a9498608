import RTKBase.NtripCaster.Config

namespace rtkbase.ntrip_caster

open lib.cstring

/-- What `handle_request` decides. -/
inductive Decision where
  | badRequest
  | sourcetable
  | notFound
  | unauthorized
  | acceptV1
  | acceptV2
  deriving DecidableEq

section

variable (mbedtls_base64_decode : List UInt8 → Option (List UInt8))

def auth_valid (s_cfg : caster_config_t) (b64 : List UInt8) : Bool :=
  if !s_cfg.loaded then false
  else if !s_cfg.auth_required then true
  else
    match mbedtls_base64_decode b64 with
    | none => false
    | some decoded =>
      -- The buffer keeps one of its 128 bytes for the terminator.
      if decoded.length ≤ 127 then
        cstr decoded == (s_cfg.username.bytes ++ ascii ":" ++ s_cfg.password.bytes).take 127
      else false

/-- The token behind `Authorization: Basic `: up to the end of the line, cut to
the buffer, and empty when the line does not end. -/
def authToken (auth_hdr : List UInt8) : List UInt8 :=
  match strstr auth_hdr [13] with
  | none => []
  | some stop => (auth_hdr.take (auth_hdr.length - stop.length)).take 127

def authHeader : List UInt8 := ascii "Authorization: Basic "

/-- `method` and `path` as `sscanf(req, "%7s %63s", method, path)` leaves them. -/
def requestLine (req : List UInt8) : List UInt8 × List UInt8 :=
  match scanS 7 req with
  | none => ([], [])
  | some (method, rest) =>
    match scanS 63 rest with
    | none => (method, [])
    | some (path, _) => (method, path)

/-- The decision of `handle_request` about the request `req`. -/
def requestDecision (s_cfg : caster_config_t) (req : List UInt8) : Decision :=
  let is_ntrip_v2 := (stristr req (ascii "Ntrip-Version: Ntrip/2.0")).isSome
  let (method, path) := requestLine req
  let accepted := if is_ntrip_v2 then Decision.acceptV2 else Decision.acceptV1
  if ¬ strcasecmp method (ascii "GET") then .badRequest
  else if path = ascii "/" then .sourcetable
  else if ¬ strcasecmp path ((ascii "/" ++ s_cfg.mountpoint.bytes).take 71) then .notFound
  else if s_cfg.auth_required then
    match stristr req authHeader with
    | none => .unauthorized
    | some rest =>
      if auth_valid mbedtls_base64_decode s_cfg (authToken (rest.drop authHeader.length)) then
        accepted
      else .unauthorized
  else accepted

end

def Decision.accepted : Decision → Bool
  | .acceptV1 | .acceptV2 => true
  | _ => false

/-- The record of `send_sourcetable`. -/
def sourcetableRecord (s_cfg : caster_config_t) : List UInt8 :=
  ascii "STR;" ++ s_cfg.mountpoint.bytes ++ ascii ";" ++ s_cfg.identifier.bytes ++
    ascii ";RTCM 3.2;" ++ ascii "1005(1),1074(1),1084(1),1094(1),1124(1);" ++
    ascii "2;GPS+GLO+GAL+BDS;ESP32;DE;48.10;11.60;1;1;sNTRIP;none;N;N;0;\r\n" ++
    ascii "ENDSOURCETABLE\r\n"

/-- The record is never cut by its buffer. -/
theorem sourcetableRecord_length_lt (s_cfg : caster_config_t) :
    (sourcetableRecord s_cfg).length < 256 := by
  have hmountpoint := s_cfg.mountpoint.fits
  have hidentifier := s_cfg.identifier.fits
  simp only [sourcetableRecord, ascii, List.length_append, List.length_map]
  simp
  omega

def sourcetableHeader (str_len : Nat) (v2 : Bool) : List UInt8 :=
  (if v2 then
    ascii "HTTP/1.1 200 OK\r\n" ++ ascii "Ntrip-Version: Ntrip/2.0\r\n" ++
      ascii "Content-Type: text/plain\r\n"
  else
    ascii "SOURCETABLE 200 OK\r\n" ++ ascii "Content-Type: text/plain\r\n") ++
    ascii "Content-Length: " ++ ascii (toString str_len) ++ ascii "\r\n\r\n"

/-- The texts sent for a decision, one after another. -/
def Decision.texts (s_cfg : caster_config_t) (req : List UInt8) : Decision → List (List UInt8)
  | .badRequest => [ascii "HTTP/1.1 400 Bad Request\r\n\r\n"]
  | .sourcetable =>
    let v2 := (stristr req (ascii "Ntrip-Version: Ntrip/2.0")).isSome
    [sourcetableHeader (sourcetableRecord s_cfg).length v2, sourcetableRecord s_cfg]
  | .notFound => [ascii "HTTP/1.1 404 Not Found\r\n\r\n"]
  | .unauthorized =>
    [ascii "HTTP/1.1 401 Unauthorized\r\n" ++ ascii "WWW-Authenticate: Basic realm=\"NTRIP\"\r\n\r\n"]
  | .acceptV1 => [ascii "ICY 200 OK\r\n\r\n"]
  | .acceptV2 =>
    [ascii "HTTP/1.1 200 OK\r\n" ++ ascii "Ntrip-Version: Ntrip/2.0\r\n" ++
      ascii "Content-Type: gnss/data\r\n\r\n"]

end rtkbase.ntrip_caster
