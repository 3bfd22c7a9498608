import RTKBase.FramePool.Pool
import RTKBase.Lib.Session
import RTKBase.NtripCaster.Send

namespace rtkbase.ntrip_client

open lib.session frame_pool ntrip_caster

def NTRIP_RECONNECT_MS_MIN : Nat := 2000
def NTRIP_RECONNECT_MS_MAX : Nat := 60000
def NTRIP_SEND_RETRY_LIMIT : Nat := 20

/-- A frame in the queue of an uplink, with what its slot holds. -/
structure QueuedFrame where
  f : FramePtr
  data : List UInt8

/-- The outcome of the `recv` that only looks. -/
inductive PeekResult where
  | data
  | closed
  | again
  | error

/-- Where `task_ntrip_uplink` is in its loop. In the sending loop `ptr` counts
the bytes of the frame that are sent. -/
inductive UplinkPhase where
  | connect
  | receive
  | sending (f : QueuedFrame) (ptr retries : Nat)
  | release (f : QueuedFrame)
  | peek

structure Uplink where
  sock : Int
  reconnect_delay_ms : Nat
  phase : UplinkPhase
  /-- The connections closed so far, each since its handshake was accepted. -/
  closed : List (Session QueuedFrame UInt8)
  /-- The connection of `sock`. -/
  current : Session QueuedFrame UInt8
  dequeued : List QueuedFrame
  released : List FramePtr

inductive UplinkAction where
  | ntrip_connect (result : Int)
  | xQueueReceive (f : Option QueuedFrame)
  | send (result : SendResult)
  | pool_release
  | recv (result : PeekResult)

def uplink_close_socket (s : Uplink) : Uplink :=
  if s.sock < 0 then s else { s with sock := -1, closed := s.closed ++ [s.current] }

/-- The head of the loop `while (remaining > 0)`. -/
def sendingLoop (f : QueuedFrame) (ptr : Nat) : UplinkPhase :=
  if ptr < f.data.length then .sending f ptr 0 else .release f

/-- The loop is entered with a frame; the task owns it until it is released. -/
def Uplink.takeFrame (s : Uplink) (f : QueuedFrame) : Uplink :=
  { s with
    phase := sendingLoop f 0
    current := s.current.take f
    dequeued := s.dequeued ++ [f] }

/-- One turn of the loop, with the outcome of `send`. -/
def Uplink.sendStep (s : Uplink) (f : QueuedFrame) (ptr retries : Nat) (result : SendResult) :
    Option Uplink :=
  match result with
  | .sent n =>
    if n = 0 then some { uplink_close_socket s with phase := .release f }
    else if n ≤ f.data.length - ptr then
      some { s with
        phase := sendingLoop f (ptr + n)
        current := s.current.send ((f.data.drop ptr).take n) }
    else none
  | .again =>
    if retries < NTRIP_SEND_RETRY_LIMIT then some { s with phase := .sending f ptr (retries + 1) }
    else some { uplink_close_socket s with phase := .release f }
  | .error => some { uplink_close_socket s with phase := .release f }

/-- The next step of `task_ntrip_uplink`. -/
def uplinkStep (s : Uplink) (a : UplinkAction) : Option Uplink :=
  match s.phase, a with
  | .connect, .ntrip_connect result =>
    if result < 0 then
      some { s with
        reconnect_delay_ms :=
          if s.reconnect_delay_ms * 2 < NTRIP_RECONNECT_MS_MAX then s.reconnect_delay_ms * 2
          else NTRIP_RECONNECT_MS_MAX }
    else
      some { s with
        sock := result
        reconnect_delay_ms := NTRIP_RECONNECT_MS_MIN
        phase := .receive
        current := .fresh }
  | .receive, .xQueueReceive none => some { s with phase := .peek }
  | .receive, .xQueueReceive (some f) => some (s.takeFrame f)
  | .sending f ptr retries, .send result => s.sendStep f ptr retries result
  | .release f, .pool_release =>
    some { s with
      phase := if 0 ≤ s.sock then .peek else .connect
      released := s.released ++ [f.f] }
  | .peek, .recv .data => some { s with phase := .receive }
  | .peek, .recv .again => some { s with phase := .receive }
  | .peek, .recv .closed => some { uplink_close_socket s with phase := .connect }
  | .peek, .recv .error => some { uplink_close_socket s with phase := .connect }
  | _, _ => none

/-- The task as it begins. -/
def uplinkStart : Uplink where
  sock := -1
  reconnect_delay_ms := NTRIP_RECONNECT_MS_MIN
  phase := .connect
  closed := []
  current := .fresh
  dequeued := []
  released := []

/-- All connections, in the order they were made. -/
def Uplink.connections (s : Uplink) : List (Session QueuedFrame UInt8) :=
  s.closed ++ if 0 ≤ s.sock then [s.current] else []

/-- The frame that the task holds, from taking it off the queue until it is
released. -/
def UplinkPhase.held : UplinkPhase → List QueuedFrame
  | .sending f _ _ => [f]
  | .release f => [f]
  | _ => []

/-- What one turn of the sending loop can do. -/
inductive SendStep (s : Uplink) (f : QueuedFrame) (ptr retries : Nat) :
    SendResult → Uplink → Prop where
  | sent {n : Nat} (hsome : n ≠ 0) (hroom : n ≤ f.data.length - ptr) :
      SendStep s f ptr retries (.sent n)
        { s with
          phase := sendingLoop f (ptr + n)
          current := s.current.send ((f.data.drop ptr).take n) }
  | again (hretry : retries < NTRIP_SEND_RETRY_LIMIT) :
      SendStep s f ptr retries .again { s with phase := .sending f ptr (retries + 1) }
  | failed {result : SendResult} (hfailed : result = .sent 0 ∨
        result = .again ∧ NTRIP_SEND_RETRY_LIMIT ≤ retries ∨ result = .error) :
      SendStep s f ptr retries result { uplink_close_socket s with phase := .release f }

theorem sendStep_cases {s s' : Uplink} {f : QueuedFrame} {ptr retries : Nat}
    {result : SendResult} (hstep : s.sendStep f ptr retries result = some s') :
    SendStep s f ptr retries result s' := by
  cases result with
  | sent n =>
    simp only [Uplink.sendStep] at hstep
    split at hstep
    case isTrue hzero =>
      cases hstep
      exact .failed (.inl (by rw [hzero]))
    case isFalse hsome =>
      split at hstep
      case isTrue hroom =>
        cases hstep
        exact .sent hsome hroom
      case isFalse => cases hstep
  | again =>
    simp only [Uplink.sendStep] at hstep
    split at hstep
    case isTrue hretry =>
      cases hstep
      exact .again hretry
    case isFalse hlimit =>
      cases hstep
      exact .failed (.inr (.inl ⟨rfl, Nat.not_lt.mp hlimit⟩))
  | error =>
    cases hstep
    exact .failed (.inr (.inr rfl))

/-- What one step of the task can do. -/
inductive UplinkStep (s : Uplink) : UplinkAction → Uplink → Prop where
  | notConnected {result : Int} {delay : Nat} (hphase : s.phase = .connect)
      (hfailed : result < 0) :
      UplinkStep s (.ntrip_connect result) { s with reconnect_delay_ms := delay }
  | connected {result : Int} (hphase : s.phase = .connect) (hmade : 0 ≤ result) :
      UplinkStep s (.ntrip_connect result)
        { s with
          sock := result
          reconnect_delay_ms := NTRIP_RECONNECT_MS_MIN
          phase := .receive
          current := .fresh }
  | queueEmpty (hphase : s.phase = .receive) :
      UplinkStep s (.xQueueReceive none) { s with phase := .peek }
  | dequeued {f : QueuedFrame} (hphase : s.phase = .receive) :
      UplinkStep s (.xQueueReceive (some f)) (s.takeFrame f)
  | sending {f : QueuedFrame} {ptr retries : Nat} {result : SendResult} {s' : Uplink}
      (hphase : s.phase = .sending f ptr retries)
      (hsend : s.sendStep f ptr retries result = some s') : UplinkStep s (.send result) s'
  | released {f : QueuedFrame} (hphase : s.phase = .release f) :
      UplinkStep s .pool_release
        { s with
          phase := if 0 ≤ s.sock then .peek else .connect
          released := s.released ++ [f.f] }
  | peeked {result : PeekResult} (hphase : s.phase = .peek)
      (hopen : result = .data ∨ result = .again) :
      UplinkStep s (.recv result) { s with phase := .receive }
  | lost {result : PeekResult} (hphase : s.phase = .peek)
      (hlost : result = .closed ∨ result = .error) :
      UplinkStep s (.recv result) { uplink_close_socket s with phase := .connect }

theorem uplinkStep_cases {s s' : Uplink} {a : UplinkAction}
    (hstep : uplinkStep s a = some s') : UplinkStep s a s' := by
  unfold uplinkStep at hstep
  split at hstep
  case h_1 result hphase =>
    split at hstep
    case isTrue hfailed =>
      cases hstep
      exact .notConnected hphase hfailed
    case isFalse hmade =>
      cases hstep
      exact .connected hphase (Int.not_lt.mp hmade)
  case h_2 hphase =>
    cases hstep
    exact .queueEmpty hphase
  case h_3 f hphase =>
    cases hstep
    exact .dequeued hphase
  case h_4 f ptr retries result hphase => exact .sending hphase hstep
  case h_5 f hphase =>
    cases hstep
    exact .released hphase
  case h_6 hphase =>
    cases hstep
    exact .peeked hphase (.inl rfl)
  case h_7 hphase =>
    cases hstep
    exact .peeked hphase (.inr rfl)
  case h_8 hphase =>
    cases hstep
    exact .lost hphase (.inl rfl)
  case h_9 hphase =>
    cases hstep
    exact .lost hphase (.inr rfl)
  case h_10 => cases hstep

end rtkbase.ntrip_client
