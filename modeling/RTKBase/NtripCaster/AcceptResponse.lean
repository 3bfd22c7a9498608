import Mathlib.Algebra.Order.Ring.Nat
import RTKBase.NtripCaster.FrameAlignment
import RTKBase.NtripCaster.RequestWords

namespace rtkbase.ntrip_caster

open lib.cstring lib.lts frame_pool

/-- The results of `send` begin with such as take `len` bytes: some bytes at a
time, with at most `limit` refusals in a row in front of each. -/
def Carries (limit len : Nat) (results : List SendResult) : Prop :=
  ∃ pieces : List (Nat × Nat), (∀ p ∈ pieces, p.1 ≤ limit ∧ 0 < p.2) ∧
    (pieces.map Prod.snd).sum = len ∧
    (pieces.flatMap fun p => List.replicate p.1 SendResult.again ++ [.sent p.2]) <+: results

theorem sendLoop_end {limit len offset : Nat} (hend : ¬ offset < len) (retries : Nat)
    (results : List SendResult) :
    sendLoop limit len results offset retries = some (.finished, offset, results) := by
  cases results <;> simp [sendLoop, hend]

theorem sendLoop_again {limit len offset retries : Nat} (hmore : offset < len)
    (hretries : retries < limit) (rest : List SendResult) :
    sendLoop limit len (.again :: rest) offset retries =
      sendLoop limit len rest offset (retries + 1) := by
  simp [sendLoop, hmore, hretries]

theorem sendLoop_sent {limit len offset n : Nat} (hn : 0 < n) (hroom : n ≤ len - offset)
    (retries : Nat) (rest : List SendResult) :
    sendLoop limit len (.sent n :: rest) offset retries =
      sendLoop limit len rest (offset + n) 0 := by
  have hmore : offset < len := by omega
  have hzero : n ≠ 0 := by omega
  simp [sendLoop, hmore, hzero, hroom]

theorem sendLoop_refusals {limit len offset k retries : Nat} {rest : List SendResult}
    (hmore : offset < len) (hretries : retries + k ≤ limit) :
    sendLoop limit len (List.replicate k .again ++ rest) offset retries =
      sendLoop limit len rest offset (retries + k) := by
  induction k generalizing retries with
  | zero => rfl
  | succ k ih =>
    rw [List.replicate_succ, List.cons_append, sendLoop_again hmore (by omega), ih (by omega)]
    congr 1
    omega

/-- Results that take all the bytes let the loop finish. -/
theorem sendLoop_of_pieces {limit len offset : Nat} (pieces : List (Nat × Nat))
    (hpieces : ∀ p ∈ pieces, p.1 ≤ limit ∧ 0 < p.2)
    (hsum : offset + (pieces.map Prod.snd).sum = len) (rest : List SendResult) :
    sendLoop limit len
        ((pieces.flatMap fun p => List.replicate p.1 SendResult.again ++ [SendResult.sent p.2]) ++
          rest) offset 0 =
      some (.finished, len, rest) := by
  induction pieces generalizing offset with
  | nil =>
    have hend : offset = len := hsum
    rw [List.flatMap_nil, List.nil_append, sendLoop_end (by omega), hend]
  | cons p pieces ih =>
    obtain ⟨hrefusals, htaken⟩ := hpieces p List.mem_cons_self
    rw [List.map_cons, List.sum_cons] at hsum
    rw [List.flatMap_cons, List.append_assoc, List.append_assoc,
      sendLoop_refusals (by omega) (by omega), List.singleton_append,
      sendLoop_sent htaken (by omega)]
    exact ih (fun q hq => hpieces q (List.mem_cons_of_mem _ hq)) (by omega)

/-- The loop finishes only on results that take all the bytes; the refusals of
the first of them count with those that came before. -/
theorem pieces_of_sendLoop {limit len offset retries stop : Nat} {results rest : List SendResult}
    (hoffset : offset ≤ len) (hretries : retries ≤ limit)
    (hloop : sendLoop limit len results offset retries = some (.finished, stop, rest)) :
    ∃ pieces : List (Nat × Nat), (∀ p ∈ pieces, p.1 ≤ limit ∧ 0 < p.2) ∧
      (∀ p tail, pieces = p :: tail → retries + p.1 ≤ limit) ∧
      offset + (pieces.map Prod.snd).sum = len ∧
      (pieces.flatMap fun p => List.replicate p.1 SendResult.again ++ [.sent p.2]) <+: results := by
  induction results generalizing offset retries with
  | nil =>
    by_cases hmore : offset < len
    · simp [sendLoop, hmore] at hloop
    · exact ⟨[], by simp, by simp, by simp; omega, List.nil_prefix⟩
  | cons first results ih =>
    by_cases hmore : offset < len
    · cases first with
      | sent n =>
        simp only [sendLoop, hmore, if_true] at hloop
        by_cases hzero : n = 0
        · simp [hzero] at hloop
        · by_cases hroom : n ≤ len - offset
          · rw [if_neg hzero, if_pos hroom] at hloop
            obtain ⟨pieces, hpieces, _, hsum, hbegins⟩ := ih (by omega) (Nat.zero_le _) hloop
            refine ⟨(0, n) :: pieces, ?_, ?_, ?_, ?_⟩
            · exact List.forall_mem_cons.mpr ⟨⟨Nat.zero_le _, Nat.pos_of_ne_zero hzero⟩, hpieces⟩
            · rintro p tail heq
              rw [← (List.cons.inj heq).1]
              exact hretries
            · rw [List.map_cons, List.sum_cons]
              omega
            · rw [List.flatMap_cons]
              exact List.cons_prefix_cons.mpr ⟨rfl, hbegins⟩
          · simp [hzero, hroom] at hloop
      | again =>
        simp only [sendLoop, hmore, if_true] at hloop
        by_cases hlimit : retries < limit
        · rw [if_pos hlimit] at hloop
          obtain ⟨pieces, hpieces, hfirst, hsum, hbegins⟩ := ih hoffset hlimit hloop
          -- The refusal belongs to the first of the pieces, and there is one.
          cases pieces with
          | nil =>
            simp at hsum
            omega
          | cons p pieces =>
            have hcount := hfirst p pieces rfl
            obtain ⟨hp, hrest⟩ := List.forall_mem_cons.mp hpieces
            refine ⟨(p.1 + 1, p.2) :: pieces, ?_, ?_, hsum, ?_⟩
            · exact List.forall_mem_cons.mpr ⟨⟨by dsimp only; omega, hp.2⟩, hrest⟩
            · rintro q tail heq
              rw [← (List.cons.inj heq).1]
              dsimp only
              omega
            · rw [List.flatMap_cons] at hbegins ⊢
              exact List.cons_prefix_cons.mpr ⟨rfl, hbegins⟩
        · simp [hlimit] at hloop
      | error => simp [sendLoop, hmore] at hloop
    · exact ⟨[], by simp, by simp, by simp; omega, List.nil_prefix⟩

/-- The loop from the first byte on finishes exactly on results that take all the
bytes. -/
theorem carries_iff {limit len : Nat} {results : List SendResult} :
    Carries limit len results ↔
      ∃ rest, sendLoop limit len results 0 0 = some (.finished, len, rest) := by
  constructor
  · rintro ⟨pieces, hpieces, hsum, rest, rfl⟩
    exact ⟨rest, sendLoop_of_pieces pieces hpieces (by omega) rest⟩
  · rintro ⟨rest, hloop⟩
    obtain ⟨pieces, hpieces, _, hsum, hbegins⟩ :=
      pieces_of_sendLoop (Nat.zero_le _) (Nat.zero_le _) hloop
    exact ⟨pieces, hpieces, by omega, hbegins⟩

instance (limit len : Nat) (results : List SendResult) : Decidable (Carries limit len results) :=
  match hloop : sendLoop limit len results 0 0 with
  | some (.finished, stop, rest) =>
    if hstop : stop = len then .isTrue (carries_iff.mpr ⟨rest, by rw [hloop, hstop]⟩)
    else .isFalse fun hcarries => by
      obtain ⟨rest', hloop'⟩ := carries_iff.mp hcarries
      rw [hloop] at hloop'
      cases hloop'
      exact hstop rfl
  | some (.blocked, _, _) => .isFalse fun hcarries => by
      obtain ⟨rest', hloop'⟩ := carries_iff.mp hcarries
      rw [hloop] at hloop'
      cases hloop'
  | some (.failed, _, _) => .isFalse fun hcarries => by
      obtain ⟨rest', hloop'⟩ := carries_iff.mp hcarries
      rw [hloop] at hloop'
      cases hloop'
  | none => .isFalse fun hcarries => by
      obtain ⟨rest', hloop'⟩ := carries_iff.mp hcarries
      rw [hloop] at hloop'
      cases hloop'

/-- The results take all the bytes exactly when the loop finishes on them. -/
theorem carries_iff_finished {limit len stop : Nat} {results rest : List SendResult}
    {result : SendEnd} (hloop : sendLoop limit len results 0 0 = some (result, stop, rest)) :
    Carries limit len results ↔ result = .finished := by
  rw [carries_iff]
  constructor
  · rintro ⟨rest', hfinished⟩
    rw [hloop] at hfinished
    exact congrArg Prod.fst (Option.some.inj hfinished)
  · rintro rfl
    obtain rfl := (sendLoop_spec (Nat.zero_le _) hloop).2.2 rfl
    exact ⟨rest, hloop⟩

/-- A loop that gives up leaves bytes unsent. -/
theorem sendLoop_unfinished {limit len offset retries stop : Nat} {results rest : List SendResult}
    {result : SendEnd}
    (hloop : sendLoop limit len results offset retries = some (result, stop, rest))
    (hresult : result ≠ .finished) : stop < len := by
  induction results generalizing offset retries with
  | nil =>
    by_cases hmore : offset < len
    · simp [sendLoop, hmore] at hloop
    · rw [sendLoop_end hmore] at hloop
      cases hloop
      exact absurd rfl hresult
  | cons first results ih =>
    by_cases hmore : offset < len
    · simp only [sendLoop, hmore, if_true] at hloop
      cases first with
      | sent n =>
        simp only at hloop
        split at hloop
        · cases hloop
          exact hmore
        · split at hloop
          · exact ih hloop
          · cases hloop
      | again =>
        simp only at hloop
        split at hloop
        · exact ih hloop
        · cases hloop
          exact hmore
      | error =>
        cases hloop
        exact hmore
    · rw [sendLoop_end hmore] at hloop
      cases hloop
      exact absurd rfl hresult

/-- The response to a request that is let in. -/
def acceptResponse (v2 : Bool) : List UInt8 :=
  if v2 then
    ascii "HTTP/1.1 200 OK\r\n" ++ ascii "Ntrip-Version: Ntrip/2.0\r\n" ++
      ascii "Content-Type: gnss/data\r\n\r\n"
  else ascii "ICY 200 OK\r\n\r\n"

/-- A request asks for version 2 of the protocol. -/
def asksV2 (req : List UInt8) : Bool := (stristr req (ascii "Ntrip-Version: Ntrip/2.0")).isSome

section

variable (s_cfg : caster_config_t) (mbedtls_base64_decode : List UInt8 → Option (List UInt8))

theorem accepted_texts {req : List UInt8}
    (haccepted : (requestDecision mbedtls_base64_decode s_cfg req).accepted = true) :
    (requestDecision mbedtls_base64_decode s_cfg req).texts s_cfg req =
      [acceptResponse (asksV2 req)] := by
  have hdecision : requestDecision mbedtls_base64_decode s_cfg req = acceptedAs req := by
    rw [requestDecision_words] at haccepted ⊢
    split at haccepted
    case isTrue => cases haccepted
    case isFalse hget =>
      split at haccepted
      case isTrue => cases haccepted
      case isFalse hslash =>
        split at haccepted
        case isTrue => cases haccepted
        case isFalse hmount =>
          split at haccepted
          case isTrue => cases haccepted
          case isFalse hvalid => rw [if_neg hget, if_neg hslash, if_neg hmount, if_neg hvalid]
  rw [hdecision]
  unfold acceptedAs acceptResponse asksV2
  split
  case isTrue => rfl
  case isFalse => rfl

/-- The request in `rx_buf` once some bytes were received. -/
def RoverSlot.requested (c : RoverSlot) (bytes : List UInt8) : List UInt8 :=
  cstr (c.storeRequest bytes).rover.rx_buf

/-- These bytes complete a request that is let in. -/
def LetIn (c : RoverSlot) (bytes : List UInt8) : Prop :=
  c.rover.state = .ROVER_HANDSHAKE ∧
    (strstr (c.requested bytes) (ascii "\r\n\r\n")).isSome = true ∧
    (requestDecision mbedtls_base64_decode s_cfg (c.requested bytes)).accepted = true

/-- When a request is let in, the results of `send` take the whole response. -/
def ResponseCarried (c : RoverSlot) (received : RecvResult) (results : List SendResult) : Prop :=
  ∀ bytes, received = .data bytes → LetIn s_cfg mbedtls_base64_decode c bytes →
    Carries HANDSHAKE_SEND_RETRIES (acceptResponse (asksV2 (c.requested bytes))).length results

instance (c : RoverSlot) (bytes : List UInt8) :
    Decidable (LetIn s_cfg mbedtls_base64_decode c bytes) :=
  inferInstanceAs (Decidable (_ ∧ _ ∧ _))

instance (c : RoverSlot) (received : RecvResult) (results : List SendResult) :
    Decidable (ResponseCarried s_cfg mbedtls_base64_decode c received results) :=
  match received with
  | .data bytes =>
    decidable_of_iff (LetIn s_cfg mbedtls_base64_decode c bytes →
        Carries HANDSHAKE_SEND_RETRIES (acceptResponse (asksV2 (c.requested bytes))).length
          results)
      ⟨fun h other heq hletin => by cases heq; exact h hletin, fun h => h bytes rfl⟩
  | .closed => .isTrue fun _ heq => by cases heq
  | .error _ => .isTrue fun _ heq => by cases heq

variable {s_cfg mbedtls_base64_decode}

/-- What is sent of the response to a request that is let in: all of it exactly
when the results of `send` take it. -/
theorem receiveRequest_letIn {c c' : RoverSlot} {bytes : List UInt8} {results : List SendResult}
    (hletin : LetIn s_cfg mbedtls_base64_decode c bytes)
    (hreceive : receiveRequest s_cfg mbedtls_base64_decode c bytes results = some c') :
    c'.rover.state = .ROVER_STREAMING ∧ c'.rover.fd = c.rover.fd ∧
      c'.rover.is_ntrip_v2 = asksV2 (c.requested bytes) ∧
      c'.sock.streamStart = c'.sock.sent.length ∧
      ∃ stop, c'.sock.sent =
          c.sock.sent ++ (acceptResponse (asksV2 (c.requested bytes))).take stop ∧
        (Carries HANDSHAKE_SEND_RETRIES (acceptResponse (asksV2 (c.requested bytes))).length
            results → stop = (acceptResponse (asksV2 (c.requested bytes))).length) ∧
        (¬ Carries HANDSHAKE_SEND_RETRIES (acceptResponse (asksV2 (c.requested bytes))).length
            results → stop < (acceptResponse (asksV2 (c.requested bytes))).length) := by
  obtain ⟨_, hblank, haccepted⟩ := hletin
  unfold RoverSlot.requested at hblank haccepted ⊢
  unfold receiveRequest at hreceive
  split at hreceive
  case isFalse => cases hreceive
  case isTrue =>
    dsimp only at hreceive
    rw [if_pos hblank] at hreceive
    unfold handle_request at hreceive
    dsimp only at hreceive
    rw [accepted_texts s_cfg mbedtls_base64_decode haccepted, haccepted, sendTexts] at hreceive
    unfold send_all_nonblocking at hreceive
    generalize hresponse : acceptResponse
      (asksV2 (cstr (c.storeRequest bytes).rover.rx_buf)) = response at *
    cases hloop : sendLoop HANDSHAKE_SEND_RETRIES response.length results 0 0 with
    | none => simp [hloop] at hreceive
    | some outcome =>
      obtain ⟨result, stop, rest⟩ := outcome
      rw [hloop] at hreceive
      have hcarries := carries_iff_finished hloop
      cases result with
      | finished =>
        obtain rfl := Option.some.inj hreceive
        obtain rfl := (sendLoop_spec (Nat.zero_le _) hloop).2.2 rfl
        exact ⟨rfl, rfl, rfl, rfl, response.length, rfl, fun _ => rfl,
          fun hnot => absurd (hcarries.mpr rfl) hnot⟩
      | blocked =>
        obtain rfl := Option.some.inj hreceive
        have hshort := sendLoop_unfinished hloop (by simp)
        refine ⟨rfl, rfl, rfl, rfl, stop, rfl, fun hall => ?_, fun _ => hshort⟩
        cases hcarries.mp hall
      | failed =>
        obtain rfl := Option.some.inj hreceive
        have hshort := sendLoop_unfinished hloop (by simp)
        refine ⟨rfl, rfl, rfl, rfl, stop, rfl, fun hall => ?_, fun _ => hshort⟩
        cases hcarries.mp hall

end

/-- What was sent stays in front of what is sent next, unless the connection is
closed. -/
def Grown (c c' : RoverSlot) : Prop :=
  c'.rover.state = .ROVER_EMPTY ∨ c.sock.sent <+: c'.sock.sent

theorem Grown.refl (c : RoverSlot) : Grown c c := .inr (List.prefix_refl _)

theorem Grown.trans {c c' c'' : RoverSlot} (hgrown : Grown c c') (hsent : Sent c' c'')
    (hgrown' : Grown c' c'') : Grown c c'' := by
  obtain hempty' | hbegins' := hgrown'
  · exact .inl hempty'
  · obtain hempty | hbegins := hgrown
    · cases hsent with
      | closed hfd hstate => exact .inl hstate
      | same hrover hsock =>
        obtain ⟨_, _, _, hrover⟩ := hrover
        exact .inl (by rw [hrover]; exact hempty)
    · exact .inr (hbegins.trans hbegins')

theorem send_bytes_to_rover_grown {c c' : RoverSlot} {data : List UInt8} {len offset stop : Nat}
    {results rest : List SendResult} {result : SendEnd}
    (hsend : send_bytes_to_rover c data len offset results = some (result, c', stop, rest)) :
    Grown c c' := by
  unfold send_bytes_to_rover at hsend
  split at hsend
  case h_1 => cases hsend
  case h_2 =>
    cases hsend
    exact .inl rfl
  case h_3 =>
    cases hsend
    exact .inr (List.prefix_append _ _)

theorem flush_rover_pending_grown {c c' : RoverSlot} {results rest : List SendResult} {ok : Bool}
    (hflush : flush_rover_pending c results = some (ok, c', rest)) : Grown c c' := by
  unfold flush_rover_pending at hflush
  split at hflush
  case isTrue =>
    cases hflush
    exact .refl _
  case isFalse =>
    split at hflush
    case h_1 => cases hflush
    all_goals
      rename_i hsend
      cases hflush
      exact (send_bytes_to_rover_grown hsend).trans (setPending_sent ..) (.refl _)

theorem send_frame_to_rover_grown {c c' : RoverSlot} {frame : RtcmFrame}
    {results : List SendResult} {ok : Bool}
    (hframe : send_frame_to_rover c frame results = some (ok, c')) : Grown c c' := by
  have hgrown : ∀ {c₁ c₂ : RoverSlot} {rest rest' : List SendResult} {result : SendEnd}
      {stop : Nat}, flush_rover_pending c results = some (true, c₁, rest) →
      send_bytes_to_rover c₁ frame.data frame.data.length 0 rest = some (result, c₂, stop, rest') →
        Grown c c₂ := fun hflush hsend =>
    (flush_rover_pending_grown hflush).trans (send_bytes_to_rover_sent hsend)
      (send_bytes_to_rover_grown hsend)
  cases send_frame_to_rover_cases hframe with
  | notFlushed hflush => exact flush_rover_pending_grown hflush
  | finished hflush hsend => exact hgrown hflush hsend
  | stopped hflush hsend => exact hgrown hflush hsend
  | kept hflush hsend =>
    have hblocked := hgrown hflush hsend
    exact hblocked

theorem forwardToRover_grown {c c' : RoverSlot} {frame : RtcmFrame}
    {results : List SendResult} (hforward : forwardToRover c frame results = some c') :
    Grown c c' := by
  obtain ⟨_, ok, hframe⟩ | ⟨_, rfl⟩ := forwardToRover_cases hforward
  · exact send_frame_to_rover_grown hframe
  · exact .refl _

/-- Nothing is sent before the response, and streaming begins behind it. -/
structure Answered (c : RoverSlot) : Prop where
  fresh : c.rover.state = .ROVER_HANDSHAKE → c.sock.sent = []
  begins : c.rover.state = .ROVER_STREAMING →
    c.sock.streamStart = (acceptResponse c.rover.is_ntrip_v2).length ∧
      acceptResponse c.rover.is_ntrip_v2 <+: c.sock.sent

theorem answered_empty {c : RoverSlot} (hempty : c.rover.state = .ROVER_EMPTY) : Answered c where
  fresh hstate := by simp [hempty] at hstate
  begins hstate := by simp [hempty] at hstate

theorem Answered.sent {c c' : RoverSlot} (hc : Answered c) (hsent : Sent c c')
    (hgrown : Grown c c') (hstate : c.rover.state = .ROVER_STREAMING) : Answered c' := by
  cases hsent with
  | closed hfd hstate => exact answered_empty hstate
  | same hrover hsock =>
    obtain ⟨buf, len, pos, hrover⟩ := hrover
    obtain ⟨sent, hsock⟩ := hsock
    obtain hempty | hbegins := hgrown
    · exact answered_empty hempty
    · obtain ⟨hstart, hresponse⟩ := hc.begins hstate
      refine ⟨fun h => ?_, fun _ => ?_⟩
      · rw [hrover] at h
        simp [hstate] at h
      · rw [hrover]
        exact ⟨by rw [hsock]; exact hstart, hresponse.trans hbegins⟩

section

variable {s_cfg : caster_config_t} {mbedtls_base64_decode : List UInt8 → Option (List UInt8)}

/-- Other bytes than such as let the request in leave the slot in its handshake or
close it. -/
theorem receiveRequest_not_letIn {c c' : RoverSlot} {bytes : List UInt8}
    {results : List SendResult} (hstate : c.rover.state = .ROVER_HANDSHAKE)
    (hnot : ¬ LetIn s_cfg mbedtls_base64_decode c bytes)
    (hreceive : receiveRequest s_cfg mbedtls_base64_decode c bytes results = some c') :
    c'.rover.state = .ROVER_EMPTY ∨ c' = c.storeRequest bytes := by
  cases (receiveRequest_branches hreceive).2 with
  | letIn hblank hhandle =>
    have haccepted := (handle_request_spec hhandle).1
    exact absurd ⟨hstate, hblank, haccepted.symm⟩ hnot
  | refused => exact .inl rfl
  | tooLarge => exact .inl rfl
  | more => exact .inr rfl

/-- A pass of the service loop whose response, if there is one to send, goes out
whole. -/
theorem Answered.service {c c' : RoverSlot} {received : RecvResult} {results : List SendResult}
    (hc : Answered c) (hcarried : ResponseCarried s_cfg mbedtls_base64_decode c received results)
    (hservice : serviceRover s_cfg mbedtls_base64_decode c received results = some c') :
    Answered c' := by
  unfold serviceRover at hservice
  split at hservice
  case h_1 =>
    cases hservice
    exact hc
  case h_2 bytes hstate =>
    by_cases hletin : LetIn s_cfg mbedtls_base64_decode c bytes
    · obtain ⟨hstreaming, _, hv2, hstart, stop, hsent, hwhole, _⟩ :=
        receiveRequest_letIn hletin hservice
      rw [hwhole (hcarried bytes rfl hletin), List.take_length, hc.fresh hstate,
        List.nil_append] at hsent
      refine ⟨fun h => ?_, fun _ => ?_⟩
      · simp [hstreaming] at h
      · rw [hstart, hv2, hsent]
        exact ⟨rfl, List.prefix_refl _⟩
    · obtain hempty | rfl := receiveRequest_not_letIn hstate hletin hservice
      · exact answered_empty hempty
      · exact ⟨hc.fresh, hc.begins⟩
  case h_3 =>
    cases hservice
    exact answered_empty rfl
  case h_4 bytes hstate =>
    split at hservice
    · cases hservice
      exact ⟨hc.fresh, hc.begins⟩
    · cases hservice
  case h_5 =>
    cases hservice
    exact hc
  case h_6 =>
    cases hservice
    exact answered_empty rfl

theorem answered_invariant :
    GuardedInvariant s_cfg mbedtls_base64_decode (ResponseCarried s_cfg mbedtls_base64_decode)
      fun _ c => Answered c where
  free hempty _ := answered_empty hempty
  accept _ _ := ⟨fun _ => rfl, fun hstate => by simp [acceptRover] at hstate⟩
  service hc hcarried hservice := hc.service hcarried hservice
  forward := by
    intro offered c c' frame results hc hforward
    obtain ⟨hstate, _⟩ | ⟨_, rfl⟩ := forwardToRover_cases hforward
    · exact hc.sent (forwardToRover_sent hforward) (forwardToRover_grown hforward) hstate
    · exact hc

theorem answered_blank {rover : rover_conn_t} (hrover : rover.Blank) (sock : Socket) :
    Answered ⟨rover, sock⟩ :=
  answered_empty hrover.state

/-- A step whose response does not go out whole leaves a slot streaming behind
a part of it. -/
theorem streaming_behind_part {s s' : Server} {a : ServerAction}
    (hslots : ∀ i, Answered (s.slot i))
    (hpart : ¬ Guarded (ResponseCarried s_cfg mbedtls_base64_decode) s a)
    (hstep : serverStep s_cfg mbedtls_base64_decode s a = some s') :
    ∃ i, (s'.s_rovers i).state = .ROVER_STREAMING ∧
      (s'.slot i).sock.sent.length < (acceptResponse (s'.s_rovers i).is_ntrip_v2).length := by
  unfold Guarded at hpart
  split at hpart
  case h_2 => exact absurd trivial hpart
  case h_1 i received results hphase =>
    unfold ResponseCarried at hpart
    push Not at hpart
    obtain ⟨bytes, rfl, hletin, hnot⟩ := hpart
    obtain ⟨haction, _⟩ | ⟨received', results', c, haction, hservice, rfl⟩ :=
      service_step_cases hphase hstep
    · cases haction
    · cases haction
      have hreceive : receiveRequest s_cfg mbedtls_base64_decode (s.slot i) bytes results = some c := by
        unfold serviceRover at hservice
        rwa [hletin.1] at hservice
      obtain ⟨hstreaming, hfd, hv2, _, stop, hsent, _, hshort⟩ :=
        receiveRequest_letIn hletin hreceive
      have hrover : ((s.setSlot i c).s_rovers i) = c.rover := Function.update_self _ _ _
      have hsock : ((s.setSlot i c).slot i).sock = c.sock := by
        have hsame : c.rover.fd = (s.s_rovers i).fd := hfd
        simp only [Server.slot, hsame, Server.setSlot, Function.update_self]
      refine ⟨i, ?_, ?_⟩
      · rw [hrover]
        exact hstreaming
      · show ((s.setSlot i c).slot i).sock.sent.length <
          (acceptResponse ((s.setSlot i c).s_rovers i).is_ntrip_v2).length
        rw [hsock, hrover, hsent, hv2, (hslots i).fresh hletin.1, List.nil_append, List.length_take]
        have hless := hshort hnot
        omega

end

/-- In every run in which the results of `send` take the whole response to each
request that is let in, what a streaming rover was sent is that response and then,
with what is held back for it, whole frames. A step that does not meet the
condition leaves a slot streaming behind a part of the response. -/
theorem rover_stream_begins_answered {s_cfg : caster_config_t}
    {mbedtls_base64_decode : List UInt8 → Option (List UInt8)}
    {s_rovers : Fin MAX_ROVERS → rover_conn_t} {sockets : Int → Socket}
    (hblank : ∀ i, (s_rovers i).Blank) {s : Server}
    (hreach : Reach (serverStep s_cfg mbedtls_base64_decode)
      (Guarded (ResponseCarried s_cfg mbedtls_base64_decode)) (listening s_rovers sockets) s) :
    (∀ i, (s.s_rovers i).state = .ROVER_STREAMING →
      acceptResponse (s.s_rovers i).is_ntrip_v2 <+: (s.slot i).sock.sent ∧
      ∃ frames : List (List UInt8), frames.Sublist (s.offered i) ∧
        (s.slot i).sock.sent ++ (s.slot i).pending =
          acceptResponse (s.s_rovers i).is_ntrip_v2 ++ frames.flatten) ∧
    ∀ a s', serverStep s_cfg mbedtls_base64_decode s a = some s' →
      ¬ Guarded (ResponseCarried s_cfg mbedtls_base64_decode) s a →
      ∃ i, (s'.s_rovers i).state = .ROVER_STREAMING ∧
        ¬ acceptResponse (s'.s_rovers i).is_ntrip_v2 <+: (s'.slot i).sock.sent := by
  obtain ⟨_, hslots⟩ := answered_invariant.reach hblank
    (fun rover sock hrover => answered_blank hrover sock) hreach
  constructor
  · intro i hstate
    have haligned := frame_aligned_reach hblank (hreach.weaken fun _ _ _ => trivial) i
    obtain ⟨frames, hsub, hframes⟩ := haligned.stream hstate
    obtain ⟨hstart, response, hresponse⟩ := (hslots i).begins hstate
    refine ⟨⟨response, hresponse⟩, frames, hsub, ?_⟩
    have hstreamed : (s.slot i).streamed = response := by
      unfold RoverSlot.streamed
      rw [hstart, ← hresponse, List.drop_left]
    rw [← hresponse, List.append_assoc, ← hstreamed, hframes]
    rfl
  · intro a s' hstep hpart
    obtain ⟨i, hstate, hshort⟩ := streaming_behind_part hslots hpart hstep
    exact ⟨i, hstate, fun hbegins => absurd hbegins.length_le (by omega)⟩

instance (allowed : RoverSlot → RecvResult → List SendResult → Prop)
    [∀ c received results, Decidable (allowed c received results)] (s : Server)
    (a : ServerAction) : Decidable (Guarded allowed s a) := by
  unfold Guarded
  split <;> infer_instance

/-- The caster before its first client. -/
def idleCaster : Server := listening (fun _ => blankRover) fun _ => ⟨false, [], [], 0⟩

/-- A rover is let in; the socket refuses once before it takes the response. -/
def answeredRun : List ServerAction :=
  [.accept 5 [], .service (.data (ascii "GET /BASE HTTP/1.0\r\n\r\n")) [.again, .sent 14]]

theorem rover_stream_begins_answered_once_refused :
    ∃ s : Server, runs (serverStep openCaster fun _ => none)
        (Guarded (ResponseCarried openCaster fun _ => none)) idleCaster answeredRun = some s ∧
      acceptResponse (s.s_rovers 0).is_ntrip_v2 <+: (s.slot 0).sock.sent := by
  have hrun : (runs (serverStep openCaster fun _ => none)
      (Guarded (ResponseCarried openCaster fun _ => none)) idleCaster answeredRun).map
      (fun s => (s.s_rovers 0).state) = some .ROVER_STREAMING := by
    decide +kernel
  obtain ⟨s, hs, hstate⟩ := Option.map_eq_some_iff.mp hrun
  have hanswered := rover_stream_begins_answered (fun _ => blankRover_blank) (Reach.refl.runs hs)
  exact ⟨s, hs, (hanswered.1 0 hstate).1⟩

/-- The socket takes three bytes of the response and then fails. -/
theorem rover_streams_behind_part :
    ∃ s : Server, Reach (serverStep openCaster fun _ => none) Anywhere idleCaster s ∧
      (s.s_rovers 0).state = .ROVER_STREAMING ∧
      ¬ acceptResponse (s.s_rovers 0).is_ntrip_v2 <+: (s.slot 0).sock.sent := by
  have hrun : (runs (serverStep openCaster fun _ => none) Anywhere idleCaster
      [.accept 5 [], .service (.data (ascii "GET /BASE HTTP/1.0\r\n\r\n")) [.sent 3, .error]]).map
      (fun s => ((s.s_rovers 0).state, (s.s_rovers 0).is_ntrip_v2, (s.slot 0).sock.sent)) =
        some (.ROVER_STREAMING, false, ascii "ICY") := by
    decide +kernel
  obtain ⟨s, hs, hvalues⟩ := Option.map_eq_some_iff.mp hrun
  simp only [Prod.mk.injEq] at hvalues
  obtain ⟨hstate, hv2, hsent⟩ := hvalues
  refine ⟨s, Reach.refl.runs hs, hstate, ?_⟩
  rw [hv2, hsent]
  decide

end rtkbase.ntrip_caster
