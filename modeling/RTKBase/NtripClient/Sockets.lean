import RTKBase.Lib.Ledger
import RTKBase.NtripClient.Response
import RTKBase.NtripClient.UplinkRun

namespace rtkbase.ntrip_client

open lib.lts lib.ledger lib.cstring frame_pool ntrip_caster

def NTRIP_UPLINK_COUNT : Nat := 2

/-- The bit of an uplink in `connected_mask`. -/
def uplink_set_connected (connected_mask : BitVec 32) (index : Fin NTRIP_UPLINK_COUNT)
    (connected : Bool) : BitVec 32 :=
  if connected then connected_mask ||| (1#32 <<< index.val)
  else connected_mask &&& ~~~(1#32 <<< index.val)

/-- The task of an uplink, `connected_mask`, and what was done about descriptors. -/
structure UplinkSockets where
  task : Uplink
  connected_mask : BitVec 32
  calls : List SocketCall

inductive SocketsAction where
  | ntrip_connect (v2 v1 : AttemptResults)
  | loop (a : UplinkAction)

/-- The steps of the loop that call `uplink_close_socket`. -/
def closesSocket (s : Uplink) (a : UplinkAction) : Bool :=
  match s.phase, a with
  | .sending _ _ _, .send (.sent n) => n = 0
  | .sending _ _ retries, .send .again => NTRIP_SEND_RETRY_LIMIT ≤ retries
  | .sending _ _ _, .send .error => true
  | .peek, .recv .closed => true
  | .peek, .recv .error => true
  | _, _ => false

section

variable (mbedtls_base64_encode : Nat → List UInt8 → Option (List UInt8)) (uplink : ntrip_uplink_t)
  (index : Fin NTRIP_UPLINK_COUNT)

/-- What `uplink_close_socket` does about the descriptor and the bit. -/
def UplinkSockets.closeSocket (s : UplinkSockets) : BitVec 32 × List SocketCall :=
  if s.task.sock < 0 then (s.connected_mask, s.calls)
  else (uplink_set_connected s.connected_mask index false, s.calls ++ [.close s.task.sock])

/-- The next step of `task_ntrip_uplink`, where `ntrip_connect` makes its calls. -/
def socketsStep (s : UplinkSockets) (a : SocketsAction) : Option UplinkSockets :=
  match a with
  | .ntrip_connect v2 v1 =>
    match ntrip_connect mbedtls_base64_encode uplink v2 v1 with
    | none => none
    | some (sock, calls) =>
      match uplinkStep s.task (.ntrip_connect sock) with
      | none => none
      | some task =>
        some {
          task := task
          connected_mask :=
            if sock < 0 then s.connected_mask
            else uplink_set_connected s.connected_mask index true
          calls := s.calls ++ calls }
  | .loop (.ntrip_connect _) => none
  | .loop a =>
    match uplinkStep s.task a with
    | none => none
    | some task =>
      if closesSocket s.task a then
        some ⟨task, (s.closeSocket index).1, (s.closeSocket index).2⟩
      else some { s with task := task }

end

/-- The task as it begins, with the bits of the other uplinks as they are. -/
def socketsStart (connected_mask : BitVec 32) : UplinkSockets := ⟨uplinkStart, connected_mask, []⟩

theorem uplink_set_connected_bit (connected_mask : BitVec 32) (index : Fin NTRIP_UPLINK_COUNT)
    (connected : Bool) :
    (uplink_set_connected connected_mask index connected).getLsbD index = connected := by
  have hindex : index.val < 32 := Nat.lt_trans index.isLt (by decide)
  cases connected with
  | true => simp [uplink_set_connected, hindex]
  | false => simp [uplink_set_connected, hindex]

/-- The bits of the other uplinks are kept. -/
theorem uplink_set_connected_of_ne (connected_mask : BitVec 32) {index other : Fin NTRIP_UPLINK_COUNT}
    (hother : other ≠ index) (connected : Bool) :
    (uplink_set_connected connected_mask index connected).getLsbD other =
      connected_mask.getLsbD other := by
  have hne : other.val ≠ index.val := fun h => hother (Fin.ext h)
  have hbit : (1#32 <<< index.val).getLsbD other = false := by
    rw [BitVec.getLsbD_shiftLeft, BitVec.getLsbD_one]
    have hshift : ¬ (other.val < index.val) → other.val - index.val ≠ 0 := by omega
    by_cases hlt : other.val < index.val
    · simp [hlt]
    · simp [hshift hlt]
  have hindex : other.val < 32 := Nat.lt_trans other.isLt (by decide)
  cases connected with
  | true => simp [uplink_set_connected, hbit]
  | false =>
    unfold uplink_set_connected
    rw [if_neg Bool.false_ne_true, BitVec.getLsbD_and, BitVec.getLsbD_not, hbit]
    simp [hindex]

/-- The descriptor that the task holds. -/
def heldSocket (sock : Int) : Option Int := if 0 ≤ sock then some sock else none

theorem descriptorCalls_append (calls calls' : List SocketCall) :
    descriptorCalls (calls ++ calls') = descriptorCalls calls ++ descriptorCalls calls' :=
  List.filter_append ..

/-- What is left open is `sock` alone, and it was answered with success and made
non-blocking. -/
structure Connected (sock : Int) (calls : List SocketCall) : Prop where
  serial : Serial SocketCall.socket SocketCall.close (heldSocket sock) (descriptorCalls calls)
  answered : 0 ≤ sock → ∃ before request resp,
    calls = before ++ attemptCalls sock request resp ∧ response_is_success resp = true

theorem connectWith_connected {sock : Int} {request : List UInt8} {r : AttemptResults}
    {calls : List SocketCall} (hconnect : connectWith request r = some (sock, calls)) :
    (0 ≤ sock ∨ sock = -1) ∧ Connected sock calls := by
  obtain ⟨rfl, hclosed⟩ | ⟨hsock, resp, _, hsuccess, _, rfl⟩ := connectWith_cases hconnect
  · refine ⟨.inr rfl, ?_, fun h => absurd h (by decide)⟩
    obtain hnone | ⟨fd, hboth⟩ := hclosed
    · rw [hnone]
      exact Serial.nil
    · rw [hboth]
      exact Serial.both fd
  · refine ⟨.inl hsock, ?_, fun _ => ⟨[], request, resp, rfl, hsuccess⟩⟩
    rw [heldSocket, if_pos hsock]
    exact Serial.acquired sock

theorem Connected.append {sock : Int} {calls calls' : List SocketCall}
    (hcalls : Serial SocketCall.socket SocketCall.close none (descriptorCalls calls))
    (hconnected : Connected sock calls') : Connected sock (calls ++ calls') where
  serial := by
    rw [descriptorCalls_append]
    exact hcalls.append hconnected.serial
  answered hsock := by
    obtain ⟨before, request, resp, rfl, hsuccess⟩ := hconnected.answered hsock
    exact ⟨calls ++ before, request, resp, (List.append_assoc ..).symm, hsuccess⟩

theorem uplink_close_socket_sock {s : Uplink} (hsock : 0 ≤ s.sock) :
    (uplink_close_socket s).sock = -1 := by
  rw [uplink_close_socket, if_neg (Int.not_lt.mpr hsock)]

/-- A turn of the sending loop keeps the descriptor, or closes it. -/
theorem sendStep_sock {s s' : Uplink} {f : QueuedFrame} {ptr retries : Nat} {result : SendResult}
    (hphase : s.phase = .sending f ptr retries) (hsock : 0 ≤ s.sock)
    (hstep : s.sendStep f ptr retries result = some s') :
    s'.sock = if closesSocket s (.send result) then -1 else s.sock := by
  have hclosed := uplink_close_socket_sock hsock
  unfold closesSocket
  rw [hphase]
  cases sendStep_cases hstep with
  | sent hsome => simp [hsome]
  | again hretry => simp [Nat.not_le.mpr hretry]
  | failed hfailed => obtain rfl | ⟨rfl, hlimit⟩ | rfl := hfailed <;> simp_all

/-- There is a descriptor wherever the loop may close it. -/
theorem closesSocket_open {s : Uplink} {a : UplinkAction} (hvalid : s.Valid)
    (hcloses : closesSocket s a = true) : 0 ≤ s.sock := by
  unfold closesSocket at hcloses
  split at hcloses
  case h_6 => cases hcloses
  all_goals
    rename_i hphase
    exact hvalid.connected (by simp [hphase]) (by simp [hphase])

/-- A step of the loop keeps the descriptor, or closes it. -/
theorem uplinkStep_sock {s s' : Uplink} {a : UplinkAction} (hvalid : s.Valid)
    (hloop : ∀ result, a ≠ .ntrip_connect result) (hstep : uplinkStep s a = some s') :
    s'.sock = if closesSocket s a then -1 else s.sock := by
  have hclosed : s.phase = .peek → (uplink_close_socket s).sock = -1 := fun hphase =>
    uplink_close_socket_sock (hvalid.connected (by simp [hphase]) (by simp [hphase]))
  unfold closesSocket
  cases uplinkStep_cases hstep with
  | @notConnected result => exact absurd rfl (hloop result)
  | @connected result => exact absurd rfl (hloop result)
  | queueEmpty hphase =>
    rw [hphase]
    rfl
  | dequeued hphase =>
    rw [hphase]
    rfl
  | sending hphase hsend =>
    exact sendStep_sock hphase (hvalid.connected (by simp [hphase]) (by simp [hphase])) hsend
  | released hphase =>
    rw [hphase]
    rfl
  | peeked hphase hopen =>
    rw [hphase]
    obtain rfl | rfl := hopen <;> rfl
  | lost hphase hlost =>
    rw [hphase]
    obtain rfl | rfl := hlost <;> exact hclosed hphase

section

variable {mbedtls_base64_encode : Nat → List UInt8 → Option (List UInt8)} {uplink : ntrip_uplink_t}

theorem ntrip_connect_v1_source_connected {r : AttemptResults} {sock : Int}
    {calls : List SocketCall} (hconnect : ntrip_connect_v1_source uplink r = some (sock, calls)) :
    (0 ≤ sock ∨ sock = -1) ∧ Connected sock calls := by
  have hnone : (0 ≤ (-1 : Int) ∨ (-1 : Int) = -1) ∧ Connected (-1) [] :=
    ⟨.inr rfl, Serial.nil, fun h => absurd h (by decide)⟩
  unfold ntrip_connect_v1_source at hconnect
  split at hconnect
  case h_1 =>
    cases hconnect
    exact hnone
  case h_2 =>
    cases hconnect
    exact hnone
  case h_3 => exact connectWith_connected hconnect

/-- `ntrip_connect` leaves open what it returns, and nothing else. -/
theorem ntrip_connect_connected {v2 v1 : AttemptResults} {sock : Int} {calls : List SocketCall}
    (hconnect : ntrip_connect mbedtls_base64_encode uplink v2 v1 = some (sock, calls)) :
    (0 ≤ sock ∨ sock = -1) ∧ Connected sock calls := by
  unfold ntrip_connect at hconnect
  split at hconnect
  case h_1 => cases hconnect
  case h_2 sock₂ calls₂ hv2 =>
    obtain ⟨hsock₂, hconnected⟩ := connectWith_connected hv2
    split at hconnect
    case isTrue =>
      cases hconnect
      exact ⟨hsock₂, hconnected⟩
    case isFalse hfailed =>
      obtain rfl := hsock₂.resolve_left hfailed
      split at hconnect
      case h_1 => cases hconnect
      case h_2 sock₁ calls₁ hv1 =>
        obtain ⟨hsock₁, hconnected₁⟩ := ntrip_connect_v1_source_connected hv1
        have hboth := Connected.append hconnected.serial hconnected₁
        split at hconnect
        case isTrue =>
          cases hconnect
          exact ⟨hsock₁, hboth⟩
        case isFalse hfailed₁ =>
          cases hconnect
          obtain rfl := hsock₁.resolve_left hfailed₁
          exact ⟨hsock₁, hboth⟩

theorem connect_step_sock {s s' : ntrip_client.Uplink} {sock : Int}
    (hstep : uplinkStep s (.ntrip_connect sock) = some s') :
    s.phase = .connect ∧ s'.sock = if sock < 0 then s.sock else sock := by
  cases uplinkStep_cases hstep with
  | notConnected hphase hfailed => exact ⟨hphase, (if_pos hfailed).symm⟩
  | connected hphase hmade => exact ⟨hphase, (if_neg (Int.not_lt.mpr hmade)).symm⟩

theorem Connected.of_neg {sock sock' : Int} {calls : List SocketCall}
    (hconnected : Connected sock calls) (hsock : sock < 0) (hsock' : sock' < 0) :
    Connected sock' calls := by
  refine ⟨?_, fun h => absurd h (Int.not_le.mpr hsock')⟩
  have hserial := hconnected.serial
  rw [heldSocket, if_neg (Int.not_le.mpr hsock)] at hserial
  rwa [heldSocket, if_neg (Int.not_le.mpr hsock')]

theorem Connected.closed {sock : Int} {calls : List SocketCall} (hconnected : Connected sock calls)
    (hsock : 0 ≤ sock) : Connected (-1) (calls ++ [.close sock]) := by
  refine ⟨?_, fun h => absurd h (by decide)⟩
  have hserial := hconnected.serial
  rw [heldSocket, if_pos hsock] at hserial
  rw [descriptorCalls_append]
  exact hserial.released

/-- The task holds the one socket that is open, and its bit says whether there is
one; the other bits are as they were. -/
structure UplinkSockets.Owned (index : Fin NTRIP_UPLINK_COUNT) (connected_mask : BitVec 32)
    (s : UplinkSockets) : Prop where
  valid : s.task.Valid
  connected : Connected s.task.sock s.calls
  bit : s.connected_mask.getLsbD index = true ↔ 0 ≤ s.task.sock
  others : ∀ other, other ≠ index →
    s.connected_mask.getLsbD other.val = connected_mask.getLsbD other.val

variable {index : Fin NTRIP_UPLINK_COUNT} {connected_mask : BitVec 32} {s s' : UplinkSockets}

theorem UplinkSockets.Owned.connect (howned : s.Owned index connected_mask)
    {v2 v1 : AttemptResults} {sock : Int} {calls : List SocketCall}
    (hconnect : ntrip_connect mbedtls_base64_encode uplink v2 v1 = some (sock, calls))
    {task : ntrip_client.Uplink} (hstep : uplinkStep s.task (.ntrip_connect sock) = some task) :
    UplinkSockets.Owned index connected_mask {
      task := task
      connected_mask :=
        if sock < 0 then s.connected_mask else uplink_set_connected s.connected_mask index true
      calls := s.calls ++ calls } := by
  obtain ⟨hphase, hsock⟩ := connect_step_sock hstep
  have hnone := howned.valid.connecting hphase
  have hserial := howned.connected.serial
  rw [heldSocket, if_neg (Int.not_le.mpr hnone)] at hserial
  obtain ⟨_, hconnected⟩ := ntrip_connect_connected hconnect
  have hboth := Connected.append hserial hconnected
  by_cases hfailed : sock < 0
  · rw [if_pos hfailed] at hsock
    refine ⟨uplinkStep_valid howned.valid hstep, ?_, ?_, ?_⟩
    · show Connected task.sock _
      rw [hsock]
      exact hboth.of_neg hfailed hnone
    · show _ ↔ 0 ≤ task.sock
      rw [if_pos hfailed, hsock]
      exact howned.bit
    · show ∀ other, _
      rw [if_pos hfailed]
      exact howned.others
  · rw [if_neg hfailed] at hsock
    refine ⟨uplinkStep_valid howned.valid hstep, ?_, ?_, fun other hother => ?_⟩
    · show Connected task.sock _
      rwa [hsock]
    · show _ ↔ 0 ≤ task.sock
      rw [if_neg hfailed, hsock, uplink_set_connected_bit]
      exact iff_of_true rfl (Int.not_lt.mp hfailed)
    · rw [if_neg hfailed]
      exact (uplink_set_connected_of_ne _ hother true).trans (howned.others other hother)

theorem UplinkSockets.Owned.loop (howned : s.Owned index connected_mask) {a : UplinkAction}
    (hloop : ∀ result, a ≠ .ntrip_connect result) {task : ntrip_client.Uplink}
    (hstep : uplinkStep s.task a = some task) :
    UplinkSockets.Owned index connected_mask
      (if closesSocket s.task a then ⟨task, (s.closeSocket index).1, (s.closeSocket index).2⟩
      else { s with task := task }) := by
  have hvalid := uplinkStep_valid howned.valid hstep
  have hsock := uplinkStep_sock howned.valid hloop hstep
  by_cases hcloses : closesSocket s.task a = true
  · rw [if_pos hcloses] at hsock ⊢
    have hopen := closesSocket_open howned.valid hcloses
    have hclose : s.closeSocket index =
        (uplink_set_connected s.connected_mask index false, s.calls ++ [.close s.task.sock]) :=
      if_neg (Int.not_lt.mpr hopen)
    rw [hclose]
    refine ⟨hvalid, ?_, ?_, fun other hother => ?_⟩
    · show Connected task.sock _
      rw [hsock]
      exact howned.connected.closed hopen
    · show _ ↔ 0 ≤ task.sock
      rw [uplink_set_connected_bit, hsock]
      exact iff_of_false Bool.false_ne_true (by decide)
    · exact (uplink_set_connected_of_ne _ hother false).trans (howned.others other hother)
  · rw [if_neg hcloses] at hsock ⊢
    refine ⟨hvalid, ?_, ?_, howned.others⟩
    · show Connected task.sock _
      rw [hsock]
      exact howned.connected
    · show _ ↔ 0 ≤ task.sock
      rw [hsock]
      exact howned.bit

theorem socketsStep_owned {a : SocketsAction} (howned : s.Owned index connected_mask)
    (hstep : socketsStep mbedtls_base64_encode uplink index s a = some s') :
    s'.Owned index connected_mask := by
  unfold socketsStep at hstep
  split at hstep
  case h_1 =>
    split at hstep
    case h_1 => cases hstep
    case h_2 hconnect =>
      split at hstep
      case h_1 => cases hstep
      case h_2 htask =>
        cases hstep
        exact howned.connect hconnect htask
  case h_2 => cases hstep
  case h_3 a hloop =>
    split at hstep
    case h_1 => cases hstep
    case h_2 task htask =>
      have howned' := howned.loop hloop htask
      split at hstep
      case isTrue hcloses =>
        cases hstep
        rwa [if_pos hcloses] at howned'
      case isFalse hkeeps =>
        cases hstep
        rwa [if_neg hkeeps] at howned'

theorem socketsStart_owned (hclear : connected_mask.getLsbD index = false) :
    (socketsStart connected_mask).Owned index connected_mask where
  valid := uplinkStart_valid
  connected := ⟨Serial.nil, fun h => absurd h (show ¬ (0 : Int) ≤ -1 by decide)⟩
  bit := by
    rw [socketsStart, hclear]
    exact iff_of_false Bool.false_ne_true (show ¬ (0 : Int) ≤ -1 by decide)
  others _ _ := rfl

theorem sockets_owned (hclear : connected_mask.getLsbD index = false)
    (hreach : Reach (socketsStep mbedtls_base64_encode uplink index) Anywhere
      (socketsStart connected_mask) s) : s.Owned index connected_mask :=
  hreach.invariant (socketsStart_owned hclear)
    fun _ _ _ howned _ hstep => socketsStep_owned howned hstep

/-- The calls do not interfere with the task. -/
theorem reach_of_sockets
    (hreach : Reach (socketsStep mbedtls_base64_encode uplink index) Anywhere
      (socketsStart connected_mask) s) : Reach uplinkStep Anywhere uplinkStart s.task := by
  induction hreach with
  | refl => exact .refl
  | next _ _ taken ih =>
    unfold socketsStep at taken
    split at taken
    case h_1 =>
      split at taken
      case h_1 => cases taken
      case h_2 =>
        split at taken
        case h_1 => cases taken
        case h_2 htask =>
          cases taken
          exact .next ih trivial htask
    case h_2 => cases taken
    case h_3 =>
      split at taken
      case h_1 => cases taken
      case h_2 htask =>
        have hnext := Reach.next ih trivial htask
        split at taken <;> cases taken <;> exact hnext

/-- In every run of `task_ntrip_uplink`: each socket it opened was closed once
before the next one was opened, but for the one it holds; that one was answered
with success and made non-blocking; its bit is set exactly while it holds one,
and the bits of other uplinks are left alone. Each call of `ntrip_connect` returns
the one descriptor it left open, or `-1` with all it opened closed. -/
theorem uplink_owns_one_socket (hclear : connected_mask.getLsbD index = false)
    (hreach : Reach (socketsStep mbedtls_base64_encode uplink index) Anywhere
      (socketsStart connected_mask) s) :
    Serial SocketCall.socket SocketCall.close (heldSocket s.task.sock)
        (descriptorCalls s.calls) ∧
      (0 ≤ s.task.sock → ∃ before request resp,
        s.calls = before ++ attemptCalls s.task.sock request resp ∧
          response_is_success resp = true) ∧
      (s.connected_mask.getLsbD index = true ↔ 0 ≤ s.task.sock) ∧
      (∀ other, other ≠ index →
        s.connected_mask.getLsbD other.val = connected_mask.getLsbD other.val) ∧
      ∀ v2 v1 sock calls, ntrip_connect mbedtls_base64_encode uplink v2 v1 = some (sock, calls) →
        (sock = -1 ∧ Serial SocketCall.socket SocketCall.close none (descriptorCalls calls)) ∨
        (0 ≤ sock ∧
          Serial SocketCall.socket SocketCall.close (some sock) (descriptorCalls calls) ∧
          ∃ before request resp, calls = before ++ attemptCalls sock request resp ∧
            response_is_success resp = true) := by
  have howned := sockets_owned hclear hreach
  refine ⟨howned.connected.serial, howned.connected.answered, howned.bit, howned.others, ?_⟩
  intro v2 v1 sock calls hconnect
  obtain ⟨hsock, hconnected⟩ := ntrip_connect_connected hconnect
  have hserial := hconnected.serial
  obtain hsock | rfl := hsock
  · rw [heldSocket, if_pos hsock] at hserial
    exact .inr ⟨hsock, hserial, hconnected.answered hsock⟩
  · exact .inl ⟨rfl, hserial⟩

end

def secondUplink : Fin NTRIP_UPLINK_COUNT := ⟨1, by decide⟩

/-- An uplink that may fall back to version 1. -/
def sourceUplink : ntrip_uplink_t := { sampleUplink with password := some (ascii "secret") }

/-- The caster takes the version 1 request. -/
def acceptedAttempt (sock : Int) : AttemptResults :=
  { refusedAttempt with
    socket := sock
    send := [50, (requestV1 sourceUplink).length - 50]
    recv := (12, ascii "ICY 200 OK\r\n") }

/-- Nothing answers. -/
def silentAttempt : AttemptResults := { refusedAttempt with recv := (0, []) }

/-- The caster falls silent to the version 2 request and takes the other one; it
closes the connection, and the next one is made in the same way. -/
def reconnectRun : List SocketsAction :=
  [.ntrip_connect silentAttempt (acceptedAttempt 5), .loop (.xQueueReceive none),
    .loop (.recv .closed), .ntrip_connect silentAttempt (acceptedAttempt 6)]

theorem uplink_owns_one_socket_of_reconnect :
    ∃ s, runs (socketsStep (fun _ _ => none) sourceUplink secondUplink) Anywhere (socketsStart 1#32)
        reconnectRun = some s ∧
      descriptorCalls s.calls = [.socket 5, .close 5, .socket 5, .close 5, .socket 5, .close 5,
        .socket 6] ∧
      Serial SocketCall.socket SocketCall.close (some 6) (descriptorCalls s.calls) ∧
      (s.connected_mask.getLsbD secondUplink = true ↔ 0 ≤ s.task.sock) := by
  have hrun : (runs (socketsStep (fun _ _ => none) sourceUplink secondUplink) Anywhere (socketsStart 1#32)
      reconnectRun).map (fun s => (s.task.sock, descriptorCalls s.calls)) =
        some (6, [.socket 5, .close 5, .socket 5, .close 5, .socket 5, .close 5, .socket 6]) := by
    decide +kernel
  obtain ⟨s, hs, hvalues⟩ := Option.map_eq_some_iff.mp hrun
  obtain ⟨hsock, hcalls⟩ := Prod.mk.inj hvalues
  obtain ⟨hserial, _, hbit, _⟩ := uplink_owns_one_socket (by decide) (Reach.refl.runs hs)
  rw [hsock] at hserial
  exact ⟨s, hs, hcalls, hserial, hbit⟩

end rtkbase.ntrip_client
