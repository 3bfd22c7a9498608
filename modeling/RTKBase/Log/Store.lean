import RTKBase.Lib.CString
import RTKBase.Lib.Ring

open lib.cstring lib.ring

namespace rtkbase.log

def WEB_LOG_BUFFER_SIZE : Nat := 16384

def WEB_LOG_LINE_SIZE : Nat := 512

def WEB_LOG_INITIAL_LINE : List UInt8 := ascii "R (00:00:00.000) ESP32: Device Restarted\n"

/-- `\033`, the first character of an escape sequence. -/
def ESC : UInt8 := 27

/-- The characters `@` to `~`, one of which ends an escape sequence. -/
def isFinal (c : UInt8) : Bool := 64 ≤ c && c ≤ 126

/-- Behind `\033[`: go on to the end of the escape sequence, or of the text. -/
def escapeEnd : List UInt8 → List UInt8
  | [] => []
  | c :: text => if isFinal c then text else escapeEnd text

theorem escapeEnd_length (text : List UInt8) : (escapeEnd text).length ≤ text.length := by
  induction text with
  | nil => exact Nat.le_refl 0
  | cons c text ih =>
    unfold escapeEnd
    split
    case isTrue => exact Nat.le_succ _
    case isFalse => exact Nat.le_succ_of_le ih

/-- `text[0] == '\033' && text[1] == '['`, with what stands behind the two. -/
def escapeStart : List UInt8 → Option (List UInt8)
  | c :: d :: text => if c = ESC ∧ d = 91 then some text else none
  | _ => none

theorem escapeStart_length {text rest : List UInt8} (hstart : escapeStart text = some rest) :
    rest.length + 2 = text.length := by
  unfold escapeStart at hstart
  split at hstart
  case h_1 =>
    split at hstart
    case isTrue =>
      cases hstart
      rfl
    case isFalse => cases hstart
  case h_2 => cases hstart

def skip_ansi_escape (text : List UInt8) : List UInt8 :=
  match _hstart : escapeStart text with
  | some rest => skip_ansi_escape (escapeEnd rest)
  | none => text
termination_by text.length
decreasing_by
  have hshort := escapeStart_length _hstart
  have hend := escapeEnd_length rest
  omega

def contains (line : List UInt8) (text : String) : Bool := (strstr line (ascii text)).isSome

def should_store_line (line : List UInt8) : Bool :=
  let text := skip_ansi_escape line
  if (text[0]? = some 87 ∨ text[0]? = some 69) ∧ text[1]? = some 32 then true
  else if text[0]? ≠ some 73 ∨ text[1]? ≠ some 32 then false
  else if contains text " MAIN: Reset reason:" || contains text " MAIN: OTA image marked valid" then
    true
  else if contains text " TIME: Time synchronized:" then true
  else if contains text " WIFI: IP_EVENT_STA_GOT_IP:" ||
      contains text " WIFI: IP_EVENT_STA_LOST_IP" ||
      contains text " WIFI: WIFI_EVENT_STA_DISCONNECTED:" ||
      contains text " WIFI: WIFI_EVENT_AP_STACONNECTED:" ||
      contains text " WIFI: WIFI_EVENT_AP_STADISCONNECTED:" ||
      contains text " WIFI: IP_EVENT_AP_STAIPASSIGNED:" then true
  else if contains text " TCP_SERVER: [sock=" &&
      (contains text "Connection accepted" || contains text "Connection closed by peer" ||
        contains text "Client disconnected by web request") then true
  else if contains text " NTRIP_CASTER: NTRIP server listening" ||
      (contains text " NTRIP_CASTER: Rover " &&
        (contains text " connecting from " || contains text " accepted on " ||
          contains text " disconnected: ")) then true
  else if contains text " NTRIP_CLIENT: [" && contains text " Connected to " then true
  else false

/-- The next character of a text that is not at its end, `0` when an escape
sequence stood there, and the text behind it. -/
def strip_ansi_escape (cursor : List UInt8) : UInt8 × List UInt8 :=
  match escapeStart cursor with
  | some rest => (0, escapeEnd rest)
  | none => (cursor.headD 0, cursor.tail)

theorem strip_ansi_escape_length (c : UInt8) (text : List UInt8) :
    (strip_ansi_escape (c :: text)).2.length < (c :: text).length := by
  unfold strip_ansi_escape
  cases hstart : escapeStart (c :: text) with
  | none => exact Nat.lt_succ_self _
  | some rest =>
    have hshort := escapeStart_length hstart
    have hend := escapeEnd_length rest
    show (escapeEnd rest).length < _
    omega

/-- The loop of `sanitize_line`, with the characters in `clean` so far. -/
def sanitizeLoop (cursor clean : List UInt8) : List UInt8 :=
  match cursor with
  | [] => clean
  | b :: text =>
    if clean.length + 1 < WEB_LOG_LINE_SIZE then
      let c := (strip_ansi_escape (b :: text)).1
      if c = 0 then sanitizeLoop (strip_ansi_escape (b :: text)).2 clean
      else if c = 13 then sanitizeLoop (strip_ansi_escape (b :: text)).2 clean
      else sanitizeLoop (strip_ansi_escape (b :: text)).2 (clean ++ [c])
    else clean
termination_by cursor.length
decreasing_by all_goals exact strip_ansi_escape_length b text

/-- The text that `sanitize_line` writes back over a line. -/
def sanitize_line (line : List UInt8) : List UInt8 :=
  let clean := sanitizeLoop line []
  if clean.getLast? ≠ some 10 then
    if clean.length + 1 < WEB_LOG_LINE_SIZE then clean ++ [10] else clean
  else clean

/-- The state of the log: the ring `s_log_buffer`, and of `s_pending_line` the
`s_pending_len` characters that were collected. Beside the state it keeps the
indices written in `s_pending_line` and the lines stored in the ring. -/
structure LogState where
  ring : Ring UInt8 WEB_LOG_BUFFER_SIZE
  pending_line : List UInt8
  written : List Nat
  stored : List (List UInt8)

/-- `s_pending_line[s_pending_len++] = c` -/
def LogState.put (s : LogState) (c : UInt8) : LogState :=
  { s with pending_line := s.pending_line ++ [c], written := s.written ++ [s.pending_line.length] }

def append_to_log_buffer_locked (s : LogState) (data : List UInt8) : LogState :=
  { s with ring := s.ring.append data }

/-- The terminator is written behind the line, and `sanitize_line` writes its
text and a terminator over the line. -/
def store_pending_line_locked (s : LogState) : LogState :=
  if s.pending_line.length = 0 then s
  else
    let line := sanitize_line s.pending_line
    let s := { s with
      written := s.written ++ (s.pending_line.length :: List.range (line.length + 1)) }
    let s := if should_store_line line then
        { append_to_log_buffer_locked s line with stored := s.stored ++ [line] }
      else s
    { s with pending_line := [] }

/-- One character of `append_formatted_text`. -/
def appendCharacter (s : LogState) (c : UInt8) : LogState :=
  let s := if s.pending_line.length + 1 ≥ WEB_LOG_LINE_SIZE then
      store_pending_line_locked (s.put 10)
    else s
  let s := s.put c
  if c = 10 then store_pending_line_locked s else s

def append_formatted_text (s : LogState) (text : List UInt8) : LogState :=
  match text with
  | [] => s
  | b :: rest =>
    let c := (strip_ansi_escape (b :: rest)).1
    if c = 0 ∨ c = 13 then append_formatted_text s (strip_ansi_escape (b :: rest)).2
    else append_formatted_text (appendCharacter s c) (strip_ansi_escape (b :: rest)).2
termination_by text.length
decreasing_by all_goals exact strip_ansi_escape_length b rest

/-- The text that `vsnprintf` formats is cut to the size of the array `text`;
`none` stands for its failure. -/
def log_vprintf (s : LogState) (formatted : Option (List UInt8)) : LogState :=
  match formatted with
  | none => s
  | some formatted =>
    if formatted.length > 0 then
      append_formatted_text s (strlcpy (WEB_LOG_LINE_SIZE - 1) formatted).bytes
    else s

/-- The log before anything was written to it. -/
def logStart : LogState where
  ring := Ring.empty (Vector.replicate WEB_LOG_BUFFER_SIZE 0) (by decide)
  pending_line := []
  written := []
  stored := []

def log_init (s : LogState) : LogState := append_to_log_buffer_locked s WEB_LOG_INITIAL_LINE

def log_snapshot (s : LogState) (dest : Option (List UInt8)) : Nat × Option (List UInt8) :=
  s.ring.snapshot 0 dest

end rtkbase.log
