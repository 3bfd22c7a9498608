import RTKBase.Lib.Search
import RTKBase.NtripClient.Connect

namespace rtkbase.ntrip_client

open lib.cstring

/-- A response up to its first line end, or all of it. -/
def firstLine (resp : List UInt8) : List UInt8 :=
  match strstr resp (ascii "\r\n") with
  | none => resp
  | some stop => resp.take (resp.length - stop.length)

/-- The protocol at the beginning of a status line. -/
def Protocol (proto : List UInt8) : Prop :=
  proto = ascii "ICY" ∨
    ∃ version, version ≠ [] ∧ (∀ b ∈ version, isspace b = false) ∧ proto = ascii "HTTP/" ++ version

/-- The first line is a status line with the code 200. -/
def Status200 (resp : List UInt8) : Prop :=
  ∃ proto more, Protocol proto ∧ firstLine resp = proto ++ ascii " 200" ++ more ∧
    (more = [] ∨ more.head? = some 32)

/-- One of the texts that the uplink looks for stands somewhere. -/
def Mentions (text : List UInt8) : Prop :=
  ascii " 200 " <:+: text ∨ ascii " 200\r\n" <:+: text ∨ ascii "ICY 200" <:+: text

theorem response_is_success_iff (resp : List UInt8) :
    response_is_success resp = true ↔ Mentions resp := by
  unfold response_is_success Mentions
  rw [Bool.or_eq_true, Bool.or_eq_true, strstr_isSome_iff (by decide), strstr_isSome_iff (by decide),
    strstr_isSome_iff (by decide), or_assoc]

theorem Protocol.nonspace {proto : List UInt8} (hproto : Protocol proto) :
    ∀ b ∈ proto, isspace b = false := by
  obtain rfl | ⟨version, _, hversion, rfl⟩ := hproto
  · exact nonspace_of_all (by decide)
  · intro b hb
    obtain hb | hb := List.mem_append.mp hb
    · exact nonspace_of_all (by decide) b hb
    · exact hversion b hb

/-- A line end does not begin in a text without a carriage return. -/
theorem firstLine_append {a : List UInt8} (ha : 13 ∉ a) (b : List UInt8) :
    firstLine (a ++ b) = a ++ firstLine b := by
  have hfind : strstr (a ++ b) (ascii "\r\n") = strstr b (ascii "\r\n") := by
    induction a with
    | nil => rfl
    | cons c a ih =>
      obtain ⟨hc, ha⟩ := not_or.mp (mt List.mem_cons.mpr ha)
      rw [List.cons_append, strstr_cons, if_neg, ih ha]
      exact fun hbegins => hc (List.cons_prefix_cons.mp hbegins).1
  unfold firstLine
  rw [hfind]
  cases hstop : strstr b (ascii "\r\n") with
  | none => rfl
  | some stop =>
    obtain ⟨before, hsplit, _⟩ := search_some hstop
    have hlen := congrArg List.length hsplit
    rw [List.length_append] at hlen
    have hmore : (a ++ b).length - stop.length = a.length + (b.length - stop.length) := by
      rw [List.length_append]
      omega
    dsimp only
    rw [hmore, List.take_length_add_append]

theorem firstLine_end (after : List UInt8) : firstLine (ascii "\r\n" ++ after) = [] := by
  have hfind : strstr (ascii "\r\n" ++ after) (ascii "\r\n") = some (ascii "\r\n" ++ after) := by
    have hbegins : ascii "\r\n" <+: 13 :: 10 :: after := List.prefix_append (ascii "\r\n") after
    show strstr (13 :: 10 :: after) (ascii "\r\n") = _
    rw [strstr_cons, if_pos hbegins]
    rfl
  unfold firstLine
  rw [hfind]
  dsimp only
  rw [Nat.sub_self, List.take_zero]

/-- Behind the first line the response ends, or a line end follows. -/
theorem firstLine_split (resp : List UInt8) :
    ∃ rest, resp = firstLine resp ++ rest ∧ (rest = [] ∨ ascii "\r\n" <+: rest) := by
  unfold firstLine
  cases hstop : strstr resp (ascii "\r\n") with
  | none => exact ⟨[], (List.append_nil resp).symm, .inl rfl⟩
  | some stop =>
    obtain ⟨before, hsplit, hhere⟩ := search_some hstop
    refine ⟨stop, ?_, .inr (List.isPrefixOf_iff_prefix.mp hhere)⟩
    dsimp only
    rw [hsplit, List.length_append, Nat.add_sub_cancel_right, List.take_left]

/-- What may follow the code in a status line. -/
def EndsCode (more : List UInt8) : Prop := more = [] ∨ more.head? = some 32 ∨ ascii "\r\n" <+: more

/-- A status line by what stands around the first blank of the response. -/
theorem status200_iff {head : List UInt8} (hhead : 32 ∉ head) (tail : List UInt8) :
    Status200 (head ++ 32 :: tail) ↔
      Protocol head ∧ ∃ more, tail = ascii "200" ++ more ∧ EndsCode more := by
  have hcode : ascii " 200" = 32 :: ascii "200" := by decide
  constructor
  · rintro ⟨proto, more, hproto, hline, hmore⟩
    obtain ⟨rest, hsplit, hrest⟩ := firstLine_split (head ++ 32 :: tail)
    have hblank : 32 ∉ proto := fun h => absurd (hproto.nonspace 32 h) (by decide)
    rw [hline, hcode, List.append_assoc, List.append_assoc, List.cons_append] at hsplit
    obtain ⟨rfl, rfl⟩ := append_separator_inj hhead hblank hsplit
    refine ⟨hproto, more ++ rest, rfl, ?_⟩
    obtain rfl | hmore := hmore
    · exact hrest.imp_right .inr
    · refine .inr (.inl ?_)
      rw [List.head?_append, hmore]
      rfl
  · rintro ⟨hproto, more, rfl, hmore⟩
    have hreturn : 13 ∉ head ++ 32 :: ascii "200" := by
      intro h
      obtain h | h := List.mem_append.mp h
      · exact absurd (hproto.nonspace 13 h) (by decide)
      · exact absurd h (by decide)
    refine ⟨head, firstLine more, hproto, ?_, ?_⟩
    · rw [← List.cons_append, ← List.append_assoc, firstLine_append hreturn, hcode]
    · obtain rfl | hmore | ⟨after, rfl⟩ := hmore
      · exact .inl rfl
      · obtain ⟨after, rfl⟩ : ∃ after, more = [32] ++ after := by
          cases more with
          | nil => cases hmore
          | cons b after => exact ⟨after, by rw [← Option.some.inj hmore]; rfl⟩
        refine .inr ?_
        rw [firstLine_append (by decide)]
        rfl
      · exact .inl (firstLine_end after)

theorem not_status200 {resp : List UInt8} (hresp : 32 ∉ resp) : ¬ Status200 resp := by
  rintro ⟨proto, more, _, hline, _⟩
  obtain ⟨rest, hsplit, _⟩ := firstLine_split resp
  have hblank : 32 ∈ ascii " 200" := by decide
  apply hresp
  rw [hsplit, hline]
  exact List.mem_append_left _ (List.mem_append_left _ (List.mem_append_right _ hblank))

/-- The texts around the first blank, or behind it. -/
theorem mentions_iff {head : List UInt8} (hhead : 32 ∉ head) (tail : List UInt8) :
    Mentions (head ++ 32 :: tail) ↔
      ascii "200 " <+: tail ∨ ascii "200\r\n" <+: tail ∨
        (ascii "ICY" <:+ head ∧ ascii "200" <+: tail) ∨ Mentions tail := by
  have hspace : ascii " 200 " = [] ++ 32 :: ascii "200 " := by decide
  have hend : ascii " 200\r\n" = [] ++ 32 :: ascii "200\r\n" := by decide
  have hicy : ascii "ICY 200" = ascii "ICY" ++ 32 :: ascii "200" := by decide
  unfold Mentions
  rw [hspace, hend, hicy, infix_separator List.not_mem_nil hhead,
    infix_separator List.not_mem_nil hhead, infix_separator (by decide) hhead]
  simp only [List.nil_suffix, true_and]
  grind

theorem not_mentions {text : List UInt8} (htext : 32 ∉ text) : ¬ Mentions text := by
  rintro (hpart | hpart | hpart)
  · exact htext (hpart.mem (by decide))
  · exact htext (hpart.mem (by decide))
  · exact htext (hpart.mem (by decide))

/-- The response, parted at its first blank, cannot be taken for another: under
`HTTP` it goes on behind a code 200; and with any other status line no text that is
looked for stands behind it, no foreign first word is followed by the code, and
none that ends in `ICY` by a longer one. -/
structure Unmistakable (head tail : List UInt8) : Prop where
  ended : Status200 (head ++ 32 :: tail) → tail = ascii "200" → ascii "ICY" <:+ head
  foreign : ¬ Protocol head → ¬ ascii "200 " <+: tail ∧ ¬ ascii "200\r\n" <+: tail
  longer : ¬ Status200 (head ++ 32 :: tail) → ascii "ICY" <:+ head → ¬ ascii "200" <+: tail
  behind : ¬ Status200 (head ++ 32 :: tail) → ¬ Mentions tail

/-- With the code 200 the response is taken for a success if it goes on. -/
theorem mentions_of_status {head tail : List UInt8} (hhead : 32 ∉ head)
    (hstatus : Status200 (head ++ 32 :: tail)) :
    Mentions (head ++ 32 :: tail) ↔ (tail = ascii "200" → ascii "ICY" <:+ head) := by
  obtain ⟨_, more, rfl, hmore⟩ := (status200_iff hhead tail).mp hstatus
  rw [mentions_iff hhead]
  have hwhole : ascii "200" ++ more = ascii "200" ↔ more = [] := List.append_right_eq_self
  constructor
  · intro hmentions hnil
    obtain rfl := hwhole.mp hnil
    obtain h | h | h | h := hmentions
    · exact absurd h (by decide)
    · exact absurd h (by decide)
    · exact h.1
    · exact absurd h (not_mentions (by decide))
  · intro hicy
    obtain rfl | hmore | ⟨after, rfl⟩ := hmore
    · exact .inr (.inr (.inl ⟨hicy rfl, List.prefix_append _ _⟩))
    · cases more with
      | nil => cases hmore
      | cons b after =>
        obtain rfl := Option.some.inj hmore
        exact .inl ⟨after, rfl⟩
    · exact .inr (.inl ⟨after, rfl⟩)

/-- A foreign status line is refused unless the texts stand somewhere else. -/
theorem mentions_of_other {head tail : List UInt8} (hhead : 32 ∉ head)
    (hother : ¬ Status200 (head ++ 32 :: tail)) :
    ¬ Mentions (head ++ 32 :: tail) ↔ Unmistakable head tail := by
  rw [mentions_iff hhead]
  constructor
  · intro hnone
    obtain ⟨hspace, hrest⟩ := not_or.mp hnone
    obtain ⟨hend, hrest⟩ := not_or.mp hrest
    obtain ⟨hicy, hbehind⟩ := not_or.mp hrest
    exact ⟨fun h => absurd h hother, fun _ => ⟨hspace, hend⟩, fun _ hsuffix h => hicy ⟨hsuffix, h⟩,
      fun _ => hbehind⟩
  · rintro ⟨_, hforeign, hlonger, hbehind⟩ (hspace | hend | ⟨hsuffix, hcode⟩ | hmentions)
    · by_cases hproto : Protocol head
      · obtain ⟨after, rfl⟩ := hspace
        exact hother ((status200_iff hhead _).mpr ⟨hproto, 32 :: after, rfl, .inr (.inl rfl)⟩)
      · exact (hforeign hproto).1 hspace
    · by_cases hproto : Protocol head
      · obtain ⟨after, rfl⟩ := hend
        exact hother ((status200_iff hhead _).mpr
          ⟨hproto, 13 :: 10 :: after, rfl, .inr (.inr ⟨after, rfl⟩)⟩)
      · exact (hforeign hproto).2 hend
    · exact hlonger hother hsuffix hcode
    · exact hbehind hother hmentions

/-- A text is accepted exactly if its status is 200, provided that it cannot be
taken for another. -/
theorem response_is_success_status (resp : List UInt8) :
    (response_is_success resp = true ↔ Status200 resp) ↔
      ∀ head tail, resp = head ++ 32 :: tail → 32 ∉ head → Unmistakable head tail := by
  rw [response_is_success_iff]
  by_cases hblank : 32 ∈ resp
  · obtain ⟨head, tail, rfl, hhead⟩ := List.eq_append_cons_of_mem hblank
    have hunique : (∀ head' tail', head ++ 32 :: tail = head' ++ 32 :: tail' → 32 ∉ head' →
        Unmistakable head' tail') ↔ Unmistakable head tail := by
      refine ⟨fun hall => hall head tail rfl hhead, fun hone head' tail' heq hhead' => ?_⟩
      obtain ⟨rfl, rfl⟩ := append_separator_inj hhead hhead' heq
      exact hone
    rw [hunique]
    by_cases hstatus : Status200 (head ++ 32 :: tail)
    · have hproto := ((status200_iff hhead tail).mp hstatus).1
      rw [iff_true_right hstatus, mentions_of_status hhead hstatus]
      exact ⟨fun hended => ⟨fun _ => hended, fun hforeign => absurd hproto hforeign,
        fun hother => absurd hstatus hother, fun hother => absurd hstatus hother⟩,
        fun hplain => hplain.ended hstatus⟩
    · rw [iff_false_right hstatus]
      exact mentions_of_other hhead hstatus
  · refine iff_of_true (iff_of_false (not_mentions hblank) (not_status200 hblank)) ?_
    rintro head tail rfl
    exact absurd (by simp) hblank

section

variable (mbedtls_base64_encode : Nat → List UInt8 → Option (List UInt8))

/-- A connection is kept only after a response that counts as a success. -/
theorem response_of_connected {uplink : ntrip_uplink_t} {r : AttemptResults} {sock : Int}
    {calls : List SocketCall}
    (hconnect : ntrip_connect_v2 mbedtls_base64_encode uplink r = some (sock, calls) ∨
      ntrip_connect_v1_source uplink r = some (sock, calls)) (hsock : 0 ≤ sock) :
    ∃ resp, recv_response r = some (some resp) ∧ response_is_success resp = true := by
  have hwith : ∃ request, connectWith request r = some (sock, calls) := by
    obtain hv2 | hv1 := hconnect
    · exact ⟨_, hv2⟩
    · unfold ntrip_connect_v1_source at hv1
      split at hv1
      case h_1 =>
        cases hv1
        cases hsock
      case h_2 =>
        cases hv1
        cases hsock
      case h_3 => exact ⟨_, hv1⟩
  obtain ⟨request, hwith⟩ := hwith
  obtain ⟨rfl, _⟩ | ⟨_, resp, hrecv, hsuccess, _⟩ := connectWith_cases hwith
  · cases hsock
  · exact ⟨resp, hrecv, hsuccess⟩

/-- A response is accepted exactly if its status is 200, provided that it cannot
be taken for another. Both ways to connect then keep the connection only to a
caster that answered with this status. -/
theorem uplink_accepted_by_status (resp : List UInt8) :
    ((response_is_success resp = true ↔ Status200 resp) ↔
      ∀ head tail, resp = head ++ 32 :: tail → 32 ∉ head → Unmistakable head tail) ∧
    ((∀ head tail, resp = head ++ 32 :: tail → 32 ∉ head → Unmistakable head tail) →
      ∀ uplink r sock calls,
        (ntrip_connect_v2 mbedtls_base64_encode uplink r = some (sock, calls) ∨
          ntrip_connect_v1_source uplink r = some (sock, calls)) → 0 ≤ sock →
        recv_response r = some (some resp) → Status200 resp) := by
  refine ⟨response_is_success_status resp, fun hplain uplink r sock calls hconnect hsock hrecv => ?_⟩
  obtain ⟨resp', hrecv', hsuccess⟩ := response_of_connected mbedtls_base64_encode hconnect hsock
  obtain rfl := Option.some.inj (Option.some.inj (hrecv.symm.trans hrecv'))
  exact ((response_is_success_status resp).mpr hplain).mp hsuccess

end

def sampleUplink : ntrip_uplink_t where
  host := ascii "caster"
  port := 2101
  mountpoint := ascii "BASE"
  username := none
  password := none

/-- An answer with the code 404 and a header that holds the code 200. -/
def notFoundResponse : List UInt8 := ascii "HTTP/1.1 404 Not Found\r\nX: 1 200 2\r\n"

/-- Everything works, and the caster answers that there is no such mountpoint. -/
def refusedAttempt : AttemptResults where
  getaddrinfo := true
  socket := 5
  connect := 0
  send := [124]
  recv := (notFoundResponse.length, notFoundResponse)
  getfl := 0
  setfl := 0

theorem not_found_response_connects :
    ¬ Status200 notFoundResponse ∧ response_is_success notFoundResponse = true ∧
      recv_response refusedAttempt = some (some notFoundResponse) ∧
      ∃ calls, ntrip_connect_v2 (fun _ _ => none) sampleUplink refusedAttempt = some (5, calls) := by
  refine ⟨?_, by decide +kernel, by decide +kernel, ?_⟩
  · have hsplit : notFoundResponse =
        ascii "HTTP/1.1" ++ 32 :: ascii "404 Not Found\r\nX: 1 200 2\r\n" := by decide
    rw [hsplit, status200_iff (by decide)]
    rintro ⟨_, more, heq, _⟩
    have hcode : ¬ ascii "200" <+: ascii "404 Not Found\r\nX: 1 200 2\r\n" := by decide
    exact hcode ⟨more, heq.symm⟩
  · have hconnect : (ntrip_connect_v2 (fun _ _ => none) sampleUplink refusedAttempt).map
        Prod.fst = some 5 := by decide +kernel
    obtain ⟨⟨sock, calls⟩, hcalls, rfl⟩ := Option.map_eq_some_iff.mp hconnect
    exact ⟨calls, hcalls⟩

end rtkbase.ntrip_client
