import RTKBase.Lib.CString
import RTKBase.Lib.Ring

open lib.cstring lib.ring

namespace rtkbase.gnss_uart

def GNSS_CONSOLE_BUFFER_SIZE : Nat := 8192

def GNSS_CONSOLE_LINE_SIZE : Nat := 256

def isprint (b : UInt8) : Bool := 0x20 ≤ b && b ≤ 0x7E

def isxdigit (b : UInt8) : Bool := (48 ≤ b && b ≤ 57) || (65 ≤ b && b ≤ 70) || (97 ≤ b && b ≤ 102)

/-- What stands behind the last `*` of a line. -/
def afterStar (line : List UInt8) : List UInt8 := (line.reverse.takeWhile (· ≠ 42)).reverse

def console_has_checksum_suffix (line : List UInt8) : Bool :=
  if 42 ∉ line ∨ (afterStar line).length + 1 = line.length then false
  else if (afterStar line).length ≠ 2 ∧ (afterStar line).length ≠ 8 then false
  else (afterStar line).all isxdigit

def console_line_interesting (line : List UInt8) : Bool :=
  let line := line.dropWhile fun b => b = 32 || b = 9
  if line = [] then false
  else if line.any fun b => !isprint b && b ≠ 9 then false
  else if line.head? = some 36 ∨ line.head? = some 35 then console_has_checksum_suffix line
  else if strcasecmp line (ascii "OK") ∨ strcasecmp (line.take 3) (ascii "ERR") ∨
      strcasecmp (line.take 5) (ascii "ERROR") ∨ strcasecmp (line.take 7) (ascii "WARNING") then true
  else false

def console_is_likely_line_start (b : UInt8) : Bool :=
  b = 36 || b = 35 || b = 79 || b = 111 || b = 69 || b = 101 || b = 87 || b = 119

/-- The console: two buffers, of which one is in use, and the text line that is
being collected. -/
structure Console where
  buffers : Vector (Vector UInt8 GNSS_CONSOLE_BUFFER_SIZE) 2
  active_buffer : Nat
  head : Nat
  used : Nat
  line : List UInt8
  line_binary : Bool
  suppress_until_us : Nat
  active_lt : active_buffer < 2
  head_lt : head < GNSS_CONSOLE_BUFFER_SIZE
  used_le : used ≤ GNSS_CONSOLE_BUFFER_SIZE

def consoleStart : Console where
  buffers := Vector.replicate 2 (Vector.replicate GNSS_CONSOLE_BUFFER_SIZE 0)
  active_buffer := 0
  head := 0
  used := 0
  line := []
  line_binary := false
  suppress_until_us := 0
  active_lt := by decide
  head_lt := by decide
  used_le := Nat.zero_le _

/-- The buffer in use as a ring. -/
def Console.ring (c : Console) : Ring UInt8 GNSS_CONSOLE_BUFFER_SIZE where
  buffer := getElem c.buffers c.active_buffer c.active_lt
  head := c.head
  used := c.used
  head_lt := c.head_lt
  used_le := c.used_le

def console_append_locked (c : Console) (data : List UInt8) : Console :=
  let r := c.ring.append data
  { c with
    buffers := c.buffers.set c.active_buffer r.buffer c.active_lt
    head := r.head
    used := r.used
    head_lt := r.head_lt
    used_le := r.used_le }

def console_store_line_locked (c : Console) : Console :=
  if c.line.length = 0 then c
  else
    let c := if !c.line_binary && console_line_interesting c.line then
        console_append_locked (console_append_locked c c.line) [10]
      else c
    { c with line := [], line_binary := false }

/-- One byte of the loop of `console_push_bytes`. -/
def consolePushByte (c : Console) (b : UInt8) : Console :=
  if b = 13 ∨ b = 10 then console_store_line_locked c
  else if b = 9 ∨ 0x20 ≤ b ∧ b ≤ 0x7E then
    if c.line_binary && !console_is_likely_line_start b then c
    else
      let c := if c.line_binary then { c with line_binary := false, line := [] } else c
      let c := if c.line.length + 1 ≥ GNSS_CONSOLE_LINE_SIZE then console_store_line_locked c else c
      { c with line := c.line ++ [b] }
  else { c with line_binary := true, line := [] }

def console_push_bytes (c : Console) (now : Nat) (data : List UInt8) : Console :=
  if c.suppress_until_us ≠ 0 ∧ now < c.suppress_until_us then
    { c with line := [], line_binary := false }
  else data.foldl consolePushByte c

def gnss_uart_console_snapshot (c : Console) (dest : Option (List UInt8)) :
    Nat × Option (List UInt8) :=
  c.ring.snapshot 0 dest

/-- The variables of `gnss_uart_console_consume` once it is out of its critical
section. -/
structure ConsumeFrame where
  buffer : Nat
  start : Nat
  to_copy : Nat
  i : Nat
  dest : List UInt8
  buffer_lt : buffer < 2

theorem xor_one_lt {n : Nat} (hn : n < 2) : n ^^^ 1 < 2 := by
  obtain rfl | rfl : n = 0 ∨ n = 1 := by omega
  · decide
  · decide

/-- The critical section of `gnss_uart_console_consume`: the other buffer is used
from now on, and empty. -/
def consoleSwap (c : Console) (dest : List UInt8) : ConsumeFrame × Console :=
  let w := c.ring.window (dest.length - 1)
  ({ buffer := c.active_buffer, start := w.start, to_copy := w.to_copy, i := 0, dest := dest,
     buffer_lt := c.active_lt },
   { c with
     active_buffer := c.active_buffer ^^^ 1
     head := 0
     used := 0
     active_lt := xor_one_lt c.active_lt
     head_lt := by decide
     used_le := Nat.zero_le _ })

/-- The buffer that a call of `gnss_uart_console_consume` copies from. -/
def Console.window (c : Console) (f : ConsumeFrame) : Window UInt8 GNSS_CONSOLE_BUFFER_SIZE where
  buffer := getElem c.buffers f.buffer f.buffer_lt
  start := f.start
  to_copy := f.to_copy

/-- `dest[i] = buffer[(start + i) % GNSS_CONSOLE_BUFFER_SIZE]` -/
def consumeCopy (c : Console) (f : ConsumeFrame) : ConsumeFrame :=
  { f with dest := f.dest.set f.i ((c.window f).get (by decide) f.i), i := f.i + 1 }

/-- The terminator, and what is returned. -/
def consumeReturn (f : ConsumeFrame) : Nat × Option (List UInt8) :=
  (f.to_copy, some (f.dest.set f.to_copy 0))

def gnss_uart_console_clear (c : Console) (now : Nat) : Console :=
  { c with
    head := 0
    used := 0
    line := []
    line_binary := false
    suppress_until_us := now + 500000
    head_lt := by decide
    used_le := Nat.zero_le _ }

end rtkbase.gnss_uart
