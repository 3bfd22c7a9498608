import RTKBase.Lib.Search
import RTKBase.NtripCaster.Slots

namespace rtkbase.ntrip_caster

open lib.cstring

/-- How the handshake branch of `task_ntrip_server` ends. -/
inductive Verdict where
  | decided (made : Decision)
  | tooLarge
  deriving DecidableEq

section

variable (s_cfg : caster_config_t) (mbedtls_base64_decode : List UInt8 → Option (List UInt8))

/-- What the branch makes of the bytes in `rx_buf`; `none` when it waits for more. -/
def RoverSlot.verdict (c : RoverSlot) : Option Verdict :=
  if (strstr (cstr c.rover.rx_buf) (ascii "\r\n\r\n")).isSome then
    some (.decided (requestDecision mbedtls_base64_decode s_cfg (cstr c.rover.rx_buf)))
  else if ROVER_REQ_BUF_SIZE - 1 ≤ c.rover.rx_pos then some .tooLarge
  else none

/-- The end of the handshake of a slot that receives some chunks one after
another, each not empty and no longer than `recv` was asked for. -/
def handshake (c : RoverSlot) : List (List UInt8) → Option Verdict
  | [] => none
  | bytes :: chunks =>
    if bytes ≠ [] ∧ bytes.length ≤ ROVER_REQ_BUF_SIZE - c.rover.rx_pos - 1 then
      match (c.storeRequest bytes).verdict s_cfg mbedtls_base64_decode with
      | some v => some v
      | none => handshake (c.storeRequest bytes) chunks
    else none

variable {s_cfg mbedtls_base64_decode}

/-- The handshake branch does what its verdict says. -/
theorem receiveRequest_verdict {c c' : RoverSlot} {bytes : List UInt8}
    {results : List SendResult}
    (hreceive : receiveRequest s_cfg mbedtls_base64_decode c bytes results = some c') :
    match (c.storeRequest bytes).verdict s_cfg mbedtls_base64_decode with
    | none => c' = c.storeRequest bytes
    | some .tooLarge => c' = close_rover (c.storeRequest bytes)
    | some (.decided made) =>
      ∃ d, handle_request s_cfg mbedtls_base64_decode (c.storeRequest bytes) results =
          some (made.accepted, d) ∧
        c' = if made.accepted then d.startStreaming else close_rover d := by
  unfold RoverSlot.verdict
  cases (receiveRequest_branches hreceive).2 with
  | @letIn d hblank hhandle =>
    rw [if_pos hblank]
    dsimp only
    rw [← (handle_request_spec hhandle).1]
    exact ⟨d, hhandle, rfl⟩
  | @refused d hblank hhandle =>
    rw [if_pos hblank]
    dsimp only
    rw [← (handle_request_spec hhandle).1]
    exact ⟨d, hhandle, rfl⟩
  | tooLarge hpart hfull => rw [if_neg hpart, if_pos hfull]
  | more hpart hroom => rw [if_neg hpart, if_neg hroom]

variable (s_cfg mbedtls_base64_decode)

/-- The verdict in terms of the bytes received. -/
def judge (received : List UInt8) : Option Verdict :=
  if (strstr (cstr received) (ascii "\r\n\r\n")).isSome then
    some (.decided (requestDecision mbedtls_base64_decode s_cfg (cstr received)))
  else if ROVER_REQ_BUF_SIZE - 1 ≤ received.length then some .tooLarge
  else none

variable {s_cfg mbedtls_base64_decode}

/-- The slot's buffer begins with the bytes received. -/
def Buffered (c : RoverSlot) (received : List UInt8) : Prop :=
  c.rover.rx_pos = received.length ∧ received <+: c.rover.rx_buf

variable (s_cfg mbedtls_base64_decode) in
theorem Buffered.store {c : RoverSlot} {received : List UInt8} (hc : Buffered c received)
    (bytes : List UInt8) :
    Buffered (c.storeRequest bytes) (received ++ bytes) ∧
      (c.storeRequest bytes).verdict s_cfg mbedtls_base64_decode =
        judge s_cfg mbedtls_base64_decode (received ++ bytes) := by
  obtain ⟨hpos, rest, hbuf⟩ := hc
  have hstored : (c.storeRequest bytes).rover.rx_buf = received ++ bytes ++
      0 :: c.rover.rx_buf.drop (c.rover.rx_pos + bytes.length + 1) := by
    unfold RoverSlot.storeRequest
    dsimp only
    rw [hpos, ← hbuf, List.take_left, List.append_assoc]
  have hnext : (c.storeRequest bytes).rover.rx_pos = (received ++ bytes).length := by
    unfold RoverSlot.storeRequest
    rw [List.length_append, hpos]
  refine ⟨⟨hnext, ?_⟩, ?_⟩
  · rw [hstored]
    exact List.prefix_append _ _
  · unfold RoverSlot.verdict judge
    rw [hstored, cstr_terminated, hnext]

/-- A handshake ends with a verdict about a part of what the client sends, as
large as the buffer at most. -/
theorem handshake_judge {c : RoverSlot} {received : List UInt8} (hc : Buffered c received)
    {chunks : List (List UInt8)} {v : Verdict}
    (hend : handshake s_cfg mbedtls_base64_decode c chunks = some v) :
    ∃ n ≤ ROVER_REQ_BUF_SIZE - 1,
      judge s_cfg mbedtls_base64_decode ((received ++ chunks.flatten).take n) = some v := by
  induction chunks generalizing c received with
  | nil => cases hend
  | cons bytes chunks ih =>
    unfold handshake at hend
    split at hend
    case isFalse => cases hend
    case isTrue hroom =>
      obtain ⟨hbuffered, hverdict⟩ := hc.store s_cfg mbedtls_base64_decode bytes
      rw [hverdict] at hend
      cases hjudge : judge s_cfg mbedtls_base64_decode (received ++ bytes) with
      | some w =>
        rw [hjudge] at hend
        refine ⟨(received ++ bytes).length, ?_, ?_⟩
        · have hpos := hc.1
          have hne := List.length_pos_iff.mpr hroom.1
          rw [List.length_append]
          omega
        · rw [List.flatten_cons, ← List.append_assoc, List.take_left, hjudge]
          exact hend
      | none =>
        rw [hjudge] at hend
        obtain ⟨n, hn, hjudge'⟩ := ih hbuffered hend
        rw [List.append_assoc] at hjudge'
        exact ⟨n, hn, hjudge'⟩

/-- A stream that arrives in two pieces is judged by the first one, if that is
enough. -/
theorem handshake_first {c : RoverSlot} (hc : Buffered c []) {stream : List UInt8} {n : Nat}
    {v : Verdict} (hpos : 0 < n) (hlimit : n ≤ ROVER_REQ_BUF_SIZE - 1) (hn : n ≤ stream.length)
    (hjudge : judge s_cfg mbedtls_base64_decode (stream.take n) = some v) :
    ∃ chunks, chunks.flatten = stream ∧ (∀ bytes ∈ chunks, bytes ≠ []) ∧
      handshake s_cfg mbedtls_base64_decode c chunks = some v := by
  have hlen : (stream.take n).length = n := by
    rw [List.length_take]
    omega
  have hfirst : stream.take n ≠ [] := List.length_pos_iff.mp (by omega)
  have hend : ∀ chunks, handshake s_cfg mbedtls_base64_decode c (stream.take n :: chunks) = some v := by
    intro chunks
    obtain ⟨_, hverdict⟩ := hc.store s_cfg mbedtls_base64_decode (stream.take n)
    have hstart : c.rover.rx_pos = 0 := hc.1
    unfold handshake
    rw [if_pos ⟨hfirst, by omega⟩, hverdict, List.nil_append, hjudge]
  by_cases hall : stream.drop n = []
  · refine ⟨[stream.take n], ?_, List.forall_mem_singleton.mpr hfirst, hend []⟩
    have hsplit := List.take_append_drop n stream
    rwa [hall] at hsplit
  · refine ⟨[stream.take n, stream.drop n], ?_,
      List.forall_mem_cons.mpr ⟨hfirst, List.forall_mem_singleton.mpr hall⟩, hend _⟩
    rw [List.flatten_cons, List.flatten_singleton, List.take_append_drop]

end

end rtkbase.ntrip_caster
