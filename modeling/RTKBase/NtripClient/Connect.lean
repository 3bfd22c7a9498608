import RTKBase.Lib.CString

namespace rtkbase.ntrip_client

open lib.cstring

def NTRIP_REQ_BUF_SIZE : Nat := 512
def NTRIP_RESP_BUF_SIZE : Nat := 256

/-- The fields of an uplink that its requests are made of; `none` is `NULL`. The
host and the mountpoint are always stored. -/
structure ntrip_uplink_t where
  host : List UInt8
  port : UInt16
  mountpoint : List UInt8
  username : Option (List UInt8)
  password : Option (List UInt8)

/-- What the calls of one attempt to connect return. -/
structure AttemptResults where
  /-- `getaddrinfo` returns `0` and an address. -/
  getaddrinfo : Bool
  socket : Int
  connect : Int
  send : List Int
  /-- The result of `recv` and, where it is positive, the bytes received. -/
  recv : Int × List UInt8
  /-- The results of `fcntl` with `F_GETFL` and `F_SETFL`. -/
  getfl : Int
  setfl : Int

/-- What an attempt does with its descriptor. -/
inductive SocketCall where
  | socket (sock : Int)
  | send (sock : Int) (bytes : List UInt8)
  | recv (sock : Int) (resp : List UInt8)
  | setNonblocking (sock : Int)
  | close (sock : Int)
  deriving DecidableEq

section

variable (mbedtls_base64_encode : Nat → List UInt8 → Option (List UInt8))

/-- The text in `output`, which has room for `out_size` bytes. -/
def base64_encode_str (input : List UInt8) (out_size : Nat) : List UInt8 :=
  match mbedtls_base64_encode out_size input with
  | none => []
  | some output => if out_size ≤ output.length then [] else cstr output

/-- The credentials of the version 2 request, encoded. -/
def encodedCredentials (uplink : ntrip_uplink_t) : List UInt8 :=
  if uplink.username ≠ none ∨ uplink.password ≠ none then
    base64_encode_str mbedtls_base64_encode
      ((uplink.username.getD [] ++ ascii ":" ++ uplink.password.getD []).take 127) 192
  else []

/-- The whole text of the version 2 request. -/
def requestV2 (uplink : ntrip_uplink_t) : List UInt8 :=
  let b64 := encodedCredentials mbedtls_base64_encode uplink
  let port := ascii (toString uplink.port.toNat)
  ascii "POST /" ++ uplink.mountpoint ++ ascii " HTTP/1.1\r\n" ++
    ascii "Host: " ++ uplink.host ++ ascii ":" ++ port ++ ascii "\r\n" ++
    ascii "Ntrip-Version: Ntrip/2.0\r\n" ++ ascii "User-Agent: NTRIP RTKBase/1.0\r\n" ++
    (if b64 ≠ [] then ascii "Authorization: Basic " ++ b64 ++ ascii "\r\n" else []) ++
    ascii "Content-Type: gnss/data\r\n" ++ ascii "\r\n"

def requestV1 (uplink : ntrip_uplink_t) : List UInt8 :=
  ascii "SOURCE " ++ uplink.password.getD [] ++ ascii " /" ++ uplink.mountpoint ++ ascii "\r\n" ++
    ascii "Source-Agent: NTRIP RTKBase/1.0\r\n" ++ ascii "\r\n"

end

/-- The descriptor of a connected socket, or `-1`, and what was done about it. -/
def open_connected_socket (r : AttemptResults) : Int × List SocketCall :=
  if r.getaddrinfo = false then (-1, [])
  else if r.socket < 0 then (-1, [])
  else if r.connect ≠ 0 then (-1, [.socket r.socket, .close r.socket])
  else (r.socket, [.socket r.socket])

def socket_set_nonblocking (r : AttemptResults) : Bool :=
  if r.getfl < 0 then false
  else if r.setfl ≠ 0 then false
  else true

/-- Whether `len` bytes are sent from `offset` on, and up to where they are;
`none` where the results are not such as `send` returns. -/
def send_all (len : Nat) : List Int → Nat → Option (Bool × Nat)
  | [], offset => if offset < len then none else some (true, offset)
  | sent :: results, offset =>
    if offset < len then
      if sent ≤ 0 then some (false, offset)
      else if sent.toNat ≤ len - offset then send_all len results (offset + sent.toNat)
      else none
    else some (true, offset)

/-- The text of the response, or `none` where nothing came; the outer `none`
where the result is not such as `recv` returns. -/
def recv_response (r : AttemptResults) : Option (Option (List UInt8)) :=
  if r.recv.1 ≤ 0 then some none
  else if r.recv.1 = r.recv.2.length ∧ r.recv.2.length ≤ NTRIP_RESP_BUF_SIZE - 1 then
    some (some (cstr r.recv.2))
  else none

def response_is_success (resp : List UInt8) : Bool :=
  (strstr resp (ascii " 200 ")).isSome || (strstr resp (ascii " 200\r\n")).isSome ||
    (strstr resp (ascii "ICY 200")).isSome

/-- What follows `open_connected_socket` in both ways to connect. -/
def exchange (sock : Int) (request : List UInt8) (r : AttemptResults) :
    Option (Int × List SocketCall) :=
  if request.length = 0 ∨ NTRIP_REQ_BUF_SIZE ≤ request.length then some (-1, [.close sock])
  else
    match send_all request.length r.send 0 with
    | none => none
    | some (false, offset) => some (-1, [.send sock (request.take offset), .close sock])
    | some (true, offset) =>
      match recv_response r with
      | none => none
      | some none => some (-1, [.send sock (request.take offset), .close sock])
      | some (some resp) =>
        if response_is_success resp = false then
          some (-1, [.send sock (request.take offset), .recv sock resp, .close sock])
        else if socket_set_nonblocking r = false then
          some (-1, [.send sock (request.take offset), .recv sock resp, .close sock])
        else
          some (sock, [.send sock (request.take offset), .recv sock resp, .setNonblocking sock])

/-- Open a socket and use it for a request. -/
def connectWith (request : List UInt8) (r : AttemptResults) : Option (Int × List SocketCall) :=
  match open_connected_socket r with
  | (sock, calls) =>
    if sock < 0 then some (-1, calls)
    else
      match exchange sock request r with
      | none => none
      | some (sock, calls') => some (sock, calls ++ calls')

section

variable (mbedtls_base64_encode : Nat → List UInt8 → Option (List UInt8))

def ntrip_connect_v2 (uplink : ntrip_uplink_t) (r : AttemptResults) :
    Option (Int × List SocketCall) :=
  connectWith (requestV2 mbedtls_base64_encode uplink) r

def ntrip_connect_v1_source (uplink : ntrip_uplink_t) (r : AttemptResults) :
    Option (Int × List SocketCall) :=
  match uplink.password with
  | none => some (-1, [])
  | some [] => some (-1, [])
  | some _ => connectWith (requestV1 uplink) r

/-- The second attempt is made with results of its own. -/
def ntrip_connect (uplink : ntrip_uplink_t) (v2 v1 : AttemptResults) :
    Option (Int × List SocketCall) :=
  match ntrip_connect_v2 mbedtls_base64_encode uplink v2 with
  | none => none
  | some (sock, calls) =>
    if 0 ≤ sock then some (sock, calls)
    else
      match ntrip_connect_v1_source uplink v1 with
      | none => none
      | some (sock, calls') =>
        if 0 ≤ sock then some (sock, calls ++ calls') else some (-1, calls ++ calls')

end

theorem send_all_whole {len : Nat} {results : List Int} {offset stop : Nat}
    (hsend : send_all len results offset = some (true, stop)) (hoffset : offset ≤ len) :
    stop = len := by
  induction results generalizing offset with
  | nil =>
    unfold send_all at hsend
    split at hsend
    case isTrue => cases hsend
    case isFalse =>
      cases hsend
      omega
  | cons sent results ih =>
    unfold send_all at hsend
    split at hsend
    case isTrue hmore =>
      split at hsend
      case isTrue => cases hsend
      case isFalse =>
        split at hsend
        case isTrue => exact ih hsend (by omega)
        case isFalse => cases hsend
    case isFalse =>
      cases hsend
      omega

/-- The calls that open and close descriptors. -/
def descriptorCalls (calls : List SocketCall) : List SocketCall :=
  calls.filter fun
    | .socket _ => true
    | .close _ => true
    | _ => false

/-- What an attempt that succeeds does: the whole request is sent, the response
is a success, and the socket does not block any more. -/
def attemptCalls (sock : Int) (request resp : List UInt8) : List SocketCall :=
  [.socket sock, .send sock request, .recv sock resp, .setNonblocking sock]

theorem exchange_cases {sock sock' : Int} {request : List UInt8} {r : AttemptResults}
    {calls : List SocketCall} (hexchange : exchange sock request r = some (sock', calls)) :
    (sock' = -1 ∧ descriptorCalls calls = [.close sock]) ∨
    (sock' = sock ∧ ∃ resp, recv_response r = some (some resp) ∧ response_is_success resp = true ∧
      socket_set_nonblocking r = true ∧ .socket sock :: calls = attemptCalls sock request resp) := by
  unfold exchange at hexchange
  split at hexchange
  case isTrue =>
    cases hexchange
    exact .inl ⟨rfl, rfl⟩
  case isFalse =>
    split at hexchange
    case h_1 => cases hexchange
    case h_2 =>
      cases hexchange
      exact .inl ⟨rfl, rfl⟩
    case h_3 offset hsend =>
      obtain rfl := send_all_whole hsend (Nat.zero_le _)
      rw [List.take_length] at hexchange
      split at hexchange
      case h_1 => cases hexchange
      case h_2 =>
        cases hexchange
        exact .inl ⟨rfl, rfl⟩
      case h_3 resp hrecv =>
        split at hexchange
        case isTrue =>
          cases hexchange
          exact .inl ⟨rfl, rfl⟩
        case isFalse hsuccess =>
          split at hexchange
          case isTrue =>
            cases hexchange
            exact .inl ⟨rfl, rfl⟩
          case isFalse hblocking =>
            cases hexchange
            rw [Bool.not_eq_false] at hsuccess hblocking
            exact .inr ⟨rfl, resp, hrecv, hsuccess, hblocking, rfl⟩

/-- An attempt opens no descriptor, or closes the one it opened, or ends with a
success and keeps it. -/
theorem connectWith_cases {sock : Int} {request : List UInt8} {r : AttemptResults}
    {calls : List SocketCall} (hconnect : connectWith request r = some (sock, calls)) :
    (sock = -1 ∧ (descriptorCalls calls = [] ∨
      ∃ fd, descriptorCalls calls = [.socket fd, .close fd])) ∨
    (0 ≤ sock ∧ ∃ resp, recv_response r = some (some resp) ∧ response_is_success resp = true ∧
      socket_set_nonblocking r = true ∧ calls = attemptCalls sock request resp) := by
  unfold connectWith open_connected_socket at hconnect
  split at hconnect
  case h_1 fd opened hopened =>
    split at hopened
    case isTrue =>
      cases hopened
      cases hconnect
      exact .inl ⟨rfl, .inl rfl⟩
    case isFalse =>
      split at hopened
      case isTrue =>
        cases hopened
        cases hconnect
        exact .inl ⟨rfl, .inl rfl⟩
      case isFalse hsocket =>
        split at hopened
        case isTrue =>
          cases hopened
          cases hconnect
          exact .inl ⟨rfl, .inr ⟨r.socket, rfl⟩⟩
        case isFalse =>
          cases hopened
          rw [if_neg hsocket] at hconnect
          split at hconnect
          case h_1 => cases hconnect
          case h_2 sock' calls' hexchange =>
            cases hconnect
            obtain ⟨rfl, hclosed⟩ | ⟨rfl, resp, hrecv, hsuccess, hblocking, hcalls⟩ :=
              exchange_cases hexchange
            · refine .inl ⟨rfl, .inr ⟨r.socket, ?_⟩⟩
              show .socket r.socket :: descriptorCalls calls' = _
              rw [hclosed]
            · exact .inr ⟨Int.not_lt.mp hsocket, resp, hrecv, hsuccess, hblocking, hcalls⟩

end rtkbase.ntrip_client
