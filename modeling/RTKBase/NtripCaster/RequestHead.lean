import RTKBase.NtripCaster.AcceptResponse

namespace rtkbase.ntrip_caster

open lib.cstring

/-- `head` is a text up to and with its first blank line, and `rest` what follows. -/
structure BlankLine (text head rest : List UInt8) : Prop where
  split : text = head ++ rest
  ends : ∃ before, head = before ++ ascii "\r\n\r\n"
  first : ∀ n < head.length, strstr (head.take n) (ascii "\r\n\r\n") = none

theorem blankLine_of_isSome {text : List UInt8}
    (hfind : (strstr text (ascii "\r\n\r\n")).isSome = true) :
    ∃ head rest, BlankLine text head rest := by
  obtain ⟨found, hfound⟩ := Option.isSome_iff_exists.mp hfind
  obtain ⟨before, after, rfl, _, hfirst⟩ := strstr_eq_some hfound
  refine ⟨before ++ ascii "\r\n\r\n", after, (List.append_assoc ..).symm, ⟨before, rfl⟩, ?_⟩
  intro n hn
  rw [List.length_append] at hn
  have hnone := hfirst n hn
  rwa [← List.append_assoc, List.take_append_of_le_length] at hnone
  rw [List.length_append]
  omega

/-- A part of the text has a blank line exactly when it reaches the end of the
first one. -/
theorem BlankLine.found_iff {text head rest : List UInt8} (hline : BlankLine text head rest)
    (n : Nat) :
    (strstr (text.take n) (ascii "\r\n\r\n")).isSome = true ↔ head.length ≤ n := by
  obtain ⟨hsplit, ⟨before, hends⟩, hfirst⟩ := hline
  constructor
  · intro hfound
    by_contra hshort
    rw [hsplit, List.take_append_of_le_length (by omega), hfirst n (by omega)] at hfound
    cases hfound
  · intro hlong
    obtain ⟨found, hfound⟩ := Option.isSome_iff_exists.mp
      (strstr_append_self before (ascii "\r\n\r\n") (by decide))
    rw [hsplit, List.take_append, List.take_of_length_le hlong, hends,
      strstr_append hfound]
    rfl

/-- A head that ends with a blank line has an end behind its words. -/
theorem afterWord_blank {before : List UInt8} (hword : word (before ++ ascii "\r\n\r\n") ≠ []) :
    ∃ before', afterWord (before ++ ascii "\r\n\r\n") = before' ++ ascii "\r\n\r\n" := by
  have hblank : ∀ b ∈ ascii "\r\n\r\n", isspace b = true := List.all_eq_true.mp (by decide)
  have hstart : before.dropWhile isspace ≠ [] := by
    intro hnil
    apply hword
    unfold word
    rw [List.dropWhile_append, if_pos (by simpa using hnil), List.dropWhile_eq_nil_iff.mpr hblank]
    rfl
  have hdrop : (before ++ ascii "\r\n\r\n").dropWhile isspace =
      before.dropWhile isspace ++ ascii "\r\n\r\n" := by
    rw [List.dropWhile_append, if_neg (by simpa using hstart)]
  unfold afterWord
  rw [hdrop, List.dropWhile_append]
  split
  case isTrue => exact ⟨[], by decide⟩
  case isFalse => exact ⟨_, rfl⟩

/-- The words of the request line do not change behind the blank line once they
are there. -/
theorem asks_append {head : List UInt8} (hblank : ∃ before, head = before ++ ascii "\r\n\r\n")
    (hmethod : word head ≠ []) (hpath : word (afterWord head) ≠ []) (part : List UInt8) :
    word (head ++ part) = word head ∧
      word (afterWord (head ++ part)) = word (afterWord head) := by
  obtain ⟨before, rfl⟩ := hblank
  obtain ⟨before', hafter⟩ := afterWord_blank hmethod
  rw [hafter] at hpath
  obtain ⟨before'', hafter'⟩ := afterWord_blank hpath
  have hends : afterWord (before ++ ascii "\r\n\r\n") ≠ [] := by
    rw [hafter]
    simp [ascii]
  obtain ⟨hfirst, hsecond⟩ := word_append hends part
  refine ⟨hfirst, ?_⟩
  rw [hsecond, hafter]
  exact (word_append (by rw [hafter']; simp [ascii]) part).1

theorem authToken_append {text : List UInt8} (hreturn : (13 : UInt8) ∈ text)
    (part : List UInt8) : authToken (text ++ part) = authToken text := by
  obtain ⟨before, after, rfl⟩ := List.append_of_mem hreturn
  have hself := strstr_append_self before [13] (by decide)
  obtain ⟨found, hfound⟩ := Option.isSome_iff_exists.mp hself
  have htext := strstr_append hfound after
  have hall := strstr_append htext part
  rw [List.append_assoc, List.singleton_append] at htext
  rw [List.append_assoc before, List.singleton_append] at hall
  unfold authToken
  rw [htext, hall]
  dsimp only
  obtain ⟨front, hsplit, _⟩ := search_some htext
  have hlen := congrArg List.length hsplit
  rw [List.length_append] at hlen
  have hlong : (before ++ 13 :: after ++ part).length - (found ++ after ++ part).length =
      (before ++ 13 :: after).length - (found ++ after).length := by
    simp only [List.length_append]
    omega
  rw [hlong, List.take_append_of_le_length (by omega)]

theorem authToken_eq_nil {text : List UInt8} (hreturn : (13 : UInt8) ∉ text) :
    authToken text = [] := by
  unfold authToken
  split
  case h_1 => rfl
  case h_2 stop hstop =>
    obtain ⟨before, rfl, hhere⟩ := search_some hstop
    obtain ⟨after, rfl⟩ := List.isPrefixOf_iff_prefix.mp hhere
    exact absurd (by simp) hreturn

section

variable (s_cfg : caster_config_t) (mbedtls_base64_decode : List UInt8 → Option (List UInt8))

/-- What stands behind the blank line does not count: there is neither a method
nor a path where the head has none, and to a head that asks for the mountpoint it
adds no header that would be looked at. -/
structure Settled (head rest : List UInt8) : Prop where
  method : word head = [] → ¬ strcasecmp ((word rest).take 3) (ascii "GET")
  path : strcasecmp (word head) (ascii "GET") → word (afterWord head) = [] →
    (word rest).head? ≠ some 47
  login : Asks s_cfg head → s_cfg.auth_required = true → stristr head authHeader = none →
    (stristr rest authHeader).isSome = true →
      auth_valid mbedtls_base64_decode s_cfg [] = false ∧
        credentials mbedtls_base64_decode s_cfg rest = false
  version : Asks s_cfg head →
    (s_cfg.auth_required = true → credentials mbedtls_base64_decode s_cfg head = true) →
    asksV2 head = false → asksV2 rest = false

/-- The decision is the same for every part of what follows. -/
def SameDecision (head rest : List UInt8) : Prop :=
  ∀ part, part <+: rest → requestDecision mbedtls_base64_decode s_cfg (head ++ part) =
    requestDecision mbedtls_base64_decode s_cfg head

variable {s_cfg mbedtls_base64_decode}

theorem decision_of_no_method {req : List UInt8} (hmethod : ¬ strcasecmp (word req) (ascii "GET")) :
    requestDecision mbedtls_base64_decode s_cfg req = .badRequest := by
  rw [requestDecision_words, if_pos hmethod]

theorem acceptedAs_ne (req : List UInt8) :
    acceptedAs req ≠ .badRequest ∧ acceptedAs req ≠ .notFound ∧
      acceptedAs req ≠ .unauthorized := by
  unfold acceptedAs
  split <;> decide

theorem decision_of_method {req : List UInt8} (hmethod : strcasecmp (word req) (ascii "GET")) :
    requestDecision mbedtls_base64_decode s_cfg req ≠ .badRequest := by
  rw [requestDecision_words, if_neg (not_not.mpr hmethod)]
  split
  case isTrue => decide
  case isFalse =>
    split
    case isTrue => decide
    case isFalse =>
      split
      case isTrue => decide
      case isFalse => exact (acceptedAs_ne req).1

theorem decision_of_other_path {req : List UInt8} (hmethod : strcasecmp (word req) (ascii "GET"))
    (hslash : (word (afterWord req)).head? ≠ some 47) :
    requestDecision mbedtls_base64_decode s_cfg req = .notFound := by
  have hroot : word (afterWord req) ≠ ascii "/" := fun h => hslash (by rw [h]; rfl)
  have hmount : ¬ strcasecmp (word (afterWord req)) (ascii "/" ++ s_cfg.mountpoint.bytes) := by
    intro hcase
    obtain ⟨d, tail, hword, hd, _⟩ := strcasecmp_cons (strcasecmp_symm hcase)
    have hletter : ∀ n < 256, tolower 47 = tolower (UInt8.ofNat n) → UInt8.ofNat n = 47 := by
      decide +kernel
    have heq := hletter d.toNat d.toNat_lt
    rw [UInt8.ofNat_toNat] at heq
    rw [hword, heq hd] at hslash
    exact hslash rfl
  rw [requestDecision_words, if_neg (not_not.mpr hmethod), if_neg hroot, if_pos hmount]

/-- A head without a word leaves the method to what follows. -/
theorem same_decision_no_method {head rest : List UInt8} (hnone : word head = []) :
    SameDecision s_cfg mbedtls_base64_decode head rest ↔
      ¬ strcasecmp ((word rest).take 3) (ascii "GET") := by
  have hspaces := word_eq_nil hnone
  have hhead : requestDecision mbedtls_base64_decode s_cfg head = .badRequest :=
    decision_of_no_method (by rw [hnone]; decide)
  unfold SameDecision
  rw [hhead]
  constructor
  · intro hsame hget
    obtain ⟨part, hpart, hword⟩ := word_part (List.take_prefix 3 (word rest))
    have hmethod : strcasecmp (word (head ++ part)) (ascii "GET") := by
      rwa [(word_spaces hspaces part).1, hword]
    exact decision_of_method hmethod (hsame part hpart)
  · intro hother part hpart
    apply decision_of_no_method
    rw [(word_spaces hspaces part).1]
    intro hget
    have hlen : (word part).length = 3 := strcasecmp_length hget
    obtain ⟨tail, htail⟩ := word_prefix hpart
    apply hother
    rwa [← htail, ← hlen, List.take_left]

/-- A head with the method `GET` alone leaves the path to what follows. -/
theorem same_decision_no_path {head rest : List UInt8}
    (hget : strcasecmp (word head) (ascii "GET")) (hends : afterWord head ≠ [])
    (hnone : word (afterWord head) = []) :
    SameDecision s_cfg mbedtls_base64_decode head rest ↔ (word rest).head? ≠ some 47 := by
  have hspaces := word_eq_nil hnone
  have hhead : requestDecision mbedtls_base64_decode s_cfg head = .notFound :=
    decision_of_other_path hget (by rw [hnone]; decide)
  have hwords : ∀ part, word (head ++ part) = word head ∧
      word (afterWord (head ++ part)) = word part := by
    intro part
    obtain ⟨hfirst, hafter⟩ := word_append hends part
    rw [hfirst, hafter]
    exact ⟨rfl, (word_spaces hspaces part).1⟩
  unfold SameDecision
  rw [hhead]
  constructor
  · intro hsame hslash
    have hbegins : [47] <+: word rest := by
      obtain ⟨b, tail, hword⟩ : ∃ b tail, word rest = b :: tail := by
        cases hword : word rest with
        | nil => simp [hword] at hslash
        | cons b tail => exact ⟨b, tail, rfl⟩
      rw [hword] at hslash ⊢
      rw [Option.some.inj hslash]
      exact List.prefix_append [47] tail
    obtain ⟨part, hpart, hword⟩ := word_part hbegins
    have hroot := hsame part hpart
    rw [requestDecision_words, (hwords part).1, (hwords part).2, if_neg (not_not.mpr hget), hword,
      if_pos (by decide)] at hroot
    cases hroot
  · intro hother part hpart
    apply decision_of_other_path
    · rwa [(hwords part).1]
    · rw [(hwords part).2]
      intro hslash
      obtain ⟨tail, htail⟩ := word_prefix hpart
      apply hother
      rw [← htail, List.head?_append, hslash]
      rfl

theorem credentials_of_some {req found : List UInt8} (hfind : stristr req authHeader = some found) :
    credentials mbedtls_base64_decode s_cfg req =
      auth_valid mbedtls_base64_decode s_cfg (authToken (found.drop authHeader.length)) := by
  unfold credentials
  rw [hfind]

variable (s_cfg mbedtls_base64_decode) in
theorem credentials_of_none {req : List UInt8} (hfind : stristr req authHeader = none) :
    credentials mbedtls_base64_decode s_cfg req = false := by
  unfold credentials
  rw [hfind]

theorem authHeader_blank (before part : List UInt8) :
    stristr (before ++ ascii "\r\n\r\n" ++ part) authHeader =
      match stristr before authHeader with
      | some found => some (found ++ ascii "\r\n\r\n" ++ part)
      | none => stristr part authHeader :=
  stristr_blank_line (by decide) (by decide) (by decide) before part

variable (s_cfg mbedtls_base64_decode) in
/-- The credentials are those of the first header, in the head if it has one. -/
theorem credentials_append {head : List UInt8}
    (hblank : ∃ before, head = before ++ ascii "\r\n\r\n") (part : List UInt8) :
    credentials mbedtls_base64_decode s_cfg (head ++ part) =
      if (stristr head authHeader).isSome then credentials mbedtls_base64_decode s_cfg head
      else credentials mbedtls_base64_decode s_cfg part := by
  obtain ⟨before, rfl⟩ := hblank
  have hhead := authHeader_blank before []
  have hall := authHeader_blank before part
  rw [List.append_nil] at hhead
  cases hfind : stristr before authHeader with
  | some found =>
    rw [hfind] at hhead hall
    dsimp only at hhead hall
    rw [hhead, credentials_of_some hhead, credentials_of_some hall, if_pos (by rfl), List.append_nil]
    obtain ⟨_, hsplit, hhere⟩ := search_some hfind
    have hlen := strcasecmp_length (of_decide_eq_true hhere)
    rw [List.length_take] at hlen
    rw [List.append_assoc, List.drop_append_of_le_length (by omega),
      List.drop_append_of_le_length (by omega), ← List.append_assoc, authToken_append]
    exact List.mem_append_right _ (by decide)
  | none =>
    rw [hfind] at hhead hall
    dsimp only at hhead hall
    rw [hhead, if_neg (by simp [stristr, search])]
    unfold credentials
    rw [hall]

theorem version_header_blank (before part : List UInt8) :
    stristr (before ++ ascii "\r\n\r\n" ++ part) (ascii "Ntrip-Version: Ntrip/2.0") =
      match stristr before (ascii "Ntrip-Version: Ntrip/2.0") with
      | some found => some (found ++ ascii "\r\n\r\n" ++ part)
      | none => stristr part (ascii "Ntrip-Version: Ntrip/2.0") :=
  stristr_blank_line (by decide) (by decide) (by decide) before part

theorem asksV2_append {head : List UInt8}
    (hblank : ∃ before, head = before ++ ascii "\r\n\r\n") (part : List UInt8) :
    asksV2 (head ++ part) = (asksV2 head || asksV2 part) := by
  obtain ⟨before, rfl⟩ := hblank
  have hsearch := version_header_blank before
  have hhead := hsearch []
  rw [List.append_nil] at hhead
  unfold asksV2
  rw [hsearch, hhead]
  cases stristr before (ascii "Ntrip-Version: Ntrip/2.0") <;> rfl

/-- A part of the body has no valid credentials: either its first header is whole,
or the token is empty. -/
theorem credentials_parts {rest : List UInt8} :
    (∀ part, part <+: rest → credentials mbedtls_base64_decode s_cfg part = false) ↔
      ((stristr rest authHeader).isSome = true →
        auth_valid mbedtls_base64_decode s_cfg [] = false ∧
          credentials mbedtls_base64_decode s_cfg rest = false) := by
  constructor
  · intro hnone hfind
    obtain ⟨header, hheader⟩ := Option.isSome_iff_exists.mp hfind
    obtain ⟨before, found, after, hsplit, _, hfound, hcut⟩ := stristr_eq_some (by decide) hheader
    refine ⟨?_, hnone rest (List.prefix_refl _)⟩
    have hpart := hnone (before ++ found) ⟨after, hsplit.symm⟩
    have hlen := strcasecmp_length hfound
    rwa [credentials_of_some hcut, List.drop_of_length_le (by omega)] at hpart
  · rintro hempty part ⟨more, hmore⟩
    cases hfind : stristr part authHeader with
    | none => exact credentials_of_none _ _ hfind
    | some found =>
      have hrest := stristr_append hfind more
      rw [hmore] at hrest
      obtain ⟨hnil, hwhole⟩ := hempty (by rw [hrest]; rfl)
      rw [credentials_of_some hfind]
      by_cases hreturn : (13 : UInt8) ∈ found.drop authHeader.length
      · obtain ⟨_, _, hhere⟩ := search_some hfind
        have hlen := strcasecmp_length (of_decide_eq_true hhere)
        rw [List.length_take] at hlen
        rwa [credentials_of_some hrest, List.drop_append_of_le_length (by omega),
          authToken_append hreturn] at hwhole
      · rwa [authToken_eq_nil hreturn]

theorem asksV2_parts {rest : List UInt8} :
    (∀ part, part <+: rest → asksV2 part = false) ↔ asksV2 rest = false := by
  refine ⟨fun hnone => hnone rest (List.prefix_refl _), ?_⟩
  rintro hrest part ⟨more, hmore⟩
  unfold asksV2 at hrest ⊢
  cases hfind : stristr part (ascii "Ntrip-Version: Ntrip/2.0") with
  | none => rfl
  | some found =>
    rw [← hmore, stristr_append hfind more] at hrest
    cases hrest

theorem acceptedAs_eq (req : List UInt8) :
    acceptedAs req = if asksV2 req then .acceptV2 else .acceptV1 := rfl

theorem Asks.words {req : List UInt8} (hasks : Asks s_cfg req) :
    word req ≠ [] ∧ word (afterWord req) ≠ [] := by
  obtain ⟨hget, _, hmount⟩ := hasks
  constructor
  · intro hnil
    rw [hnil] at hget
    cases strcasecmp_length hget
  · intro hnil
    rw [hnil] at hmount
    cases strcasecmp_length hmount

theorem asks_of_append {head : List UInt8} (hblank : ∃ before, head = before ++ ascii "\r\n\r\n")
    (hasks : Asks s_cfg head) (part : List UInt8) : Asks s_cfg (head ++ part) := by
  obtain ⟨hmethod, hpath⟩ := hasks.words
  obtain ⟨hfirst, hsecond⟩ := asks_append hblank hmethod hpath part
  unfold Asks
  rwa [hfirst, hsecond]

/-- Credentials are in a header. -/
theorem header_of_credentials {req : List UInt8}
    (hvalid : credentials mbedtls_base64_decode s_cfg req = true) :
    (stristr req authHeader).isSome = true := by
  by_contra hnone
  rw [credentials_of_none s_cfg mbedtls_base64_decode
    (Option.not_isSome_iff_eq_none.mp hnone)] at hvalid
  cases hvalid

/-- A head that is accepted leaves only the version to what follows. -/
theorem same_decision_accepted {head rest : List UInt8}
    (hblank : ∃ before, head = before ++ ascii "\r\n\r\n") (hasks : Asks s_cfg head)
    (hopen : s_cfg.auth_required = true → credentials mbedtls_base64_decode s_cfg head = true) :
    SameDecision s_cfg mbedtls_base64_decode head rest ↔
      (asksV2 head = false → asksV2 rest = false) := by
  have haccepted : ∀ part, requestDecision mbedtls_base64_decode s_cfg (head ++ part) =
      acceptedAs (head ++ part) := by
    intro part
    rw [requestDecision_asks mbedtls_base64_decode s_cfg (asks_of_append hblank hasks part), if_neg]
    rintro ⟨hrequired, hfalse⟩
    have hin := header_of_credentials (hopen hrequired)
    rw [credentials_append s_cfg mbedtls_base64_decode hblank, if_pos hin, hopen hrequired] at hfalse
    cases hfalse
  have hversion : ∀ part, acceptedAs (head ++ part) = acceptedAs head ↔
      (asksV2 head = false → asksV2 part = false) := by
    intro part
    rw [acceptedAs_eq, acceptedAs_eq, asksV2_append hblank]
    cases asksV2 head <;> cases asksV2 part <;> simp
  have hhead := haccepted []
  rw [List.append_nil] at hhead
  unfold SameDecision
  simp only [hhead, haccepted, hversion]
  constructor
  · exact fun hsame hv1 => hsame rest (List.prefix_refl _) hv1
  · exact fun hrest part hpart hv1 => asksV2_parts.mpr (hrest hv1) part hpart

/-- A head that is refused leaves the credentials to what follows, if it has no
header for them. -/
theorem same_decision_refused {head rest : List UInt8}
    (hblank : ∃ before, head = before ++ ascii "\r\n\r\n") (hasks : Asks s_cfg head)
    (hrequired : s_cfg.auth_required = true)
    (hrefused : credentials mbedtls_base64_decode s_cfg head = false) :
    SameDecision s_cfg mbedtls_base64_decode head rest ↔
      (stristr head authHeader = none → (stristr rest authHeader).isSome = true →
        auth_valid mbedtls_base64_decode s_cfg [] = false ∧
          credentials mbedtls_base64_decode s_cfg rest = false) := by
  have hunauthorized : ∀ part,
      requestDecision mbedtls_base64_decode s_cfg (head ++ part) = .unauthorized ↔
        (stristr head authHeader = none →
          credentials mbedtls_base64_decode s_cfg part = false) := by
    intro part
    rw [requestDecision_asks mbedtls_base64_decode s_cfg (asks_of_append hblank hasks part),
      credentials_append s_cfg mbedtls_base64_decode hblank]
    cases stristr head authHeader with
    | some found => simp [hrequired, hrefused]
    | none =>
      cases credentials mbedtls_base64_decode s_cfg part with
      | false => simp [hrequired]
      | true => simpa using (acceptedAs_ne (head ++ part)).2.2
  unfold SameDecision
  rw [requestDecision_asks mbedtls_base64_decode s_cfg hasks, if_pos ⟨hrequired, hrefused⟩]
  simp only [hunauthorized]
  constructor
  · exact fun hsame hnone => credentials_parts.mp fun part hpart => hsame part hpart hnone
  · exact fun hlogin part hpart hnone => credentials_parts.mpr (hlogin hnone) part hpart

/-- A head that asks for the mountpoint leaves the headers it has not to what
follows. -/
theorem same_decision_asks {head rest : List UInt8}
    (hblank : ∃ before, head = before ++ ascii "\r\n\r\n") (hasks : Asks s_cfg head) :
    SameDecision s_cfg mbedtls_base64_decode head rest ↔
      (s_cfg.auth_required = true → stristr head authHeader = none →
        (stristr rest authHeader).isSome = true →
          auth_valid mbedtls_base64_decode s_cfg [] = false ∧
            credentials mbedtls_base64_decode s_cfg rest = false) ∧
      ((s_cfg.auth_required = true → credentials mbedtls_base64_decode s_cfg head = true) →
        asksV2 head = false → asksV2 rest = false) := by
  by_cases hopen : s_cfg.auth_required = true → credentials mbedtls_base64_decode s_cfg head = true
  · rw [same_decision_accepted hblank hasks hopen]
    refine ⟨fun hversion => ⟨fun hrequired hnone => ?_, fun _ => hversion⟩, fun h => h.2 hopen⟩
    have hin := header_of_credentials (hopen hrequired)
    rw [hnone] at hin
    cases hin
  · obtain ⟨hrequired, hrefused⟩ := Classical.not_imp.mp hopen
    rw [same_decision_refused hblank hasks hrequired (Bool.not_eq_true _ ▸ hrefused)]
    exact ⟨fun hlogin => ⟨fun _ => hlogin, fun hcontra => absurd hcontra hopen⟩,
      fun h => h.1 hrequired⟩

/-- A head with both words of another request is decided without what follows. -/
theorem same_decision_words {head : List UInt8} (rest : List UInt8)
    (hblank : ∃ before, head = before ++ ascii "\r\n\r\n") (hmethod : word head ≠ [])
    (hother : ¬ strcasecmp (word head) (ascii "GET") ∨ word (afterWord head) ≠ [])
    (hasks : ¬ Asks s_cfg head) : SameDecision s_cfg mbedtls_base64_decode head rest := by
  intro part _
  by_cases hget : strcasecmp (word head) (ascii "GET")
  · have hpath := hother.resolve_left (not_not.mpr hget)
    obtain ⟨hfirst, hsecond⟩ := asks_append hblank hmethod hpath part
    rw [requestDecision_words, requestDecision_words, hfirst, hsecond,
      if_neg (not_not.mpr hget), if_neg (not_not.mpr hget)]
    by_cases hroot : word (afterWord head) = ascii "/"
    · rw [if_pos hroot, if_pos hroot]
    · have hmount : ¬ strcasecmp (word (afterWord head)) (ascii "/" ++ s_cfg.mountpoint.bytes) :=
        fun hmount => hasks ⟨hget, hroot, hmount⟩
      rw [if_neg hroot, if_neg hroot, if_pos hmount, if_pos hmount]
  · obtain ⟨before, rfl⟩ := hblank
    obtain ⟨before', hafter⟩ := afterWord_blank hmethod
    have hends : afterWord (before ++ ascii "\r\n\r\n") ≠ [] := by
      rw [hafter]
      simp [ascii]
    rw [decision_of_no_method hget, decision_of_no_method]
    rwa [(word_append hends part).1]

/-- The head settles the decision exactly when nothing that counts follows. -/
theorem same_decision_iff {head rest : List UInt8}
    (hblank : ∃ before, head = before ++ ascii "\r\n\r\n") :
    SameDecision s_cfg mbedtls_base64_decode head rest ↔
      Settled s_cfg mbedtls_base64_decode head rest := by
  by_cases hasks : Asks s_cfg head
  · obtain ⟨hmethod, hpath⟩ := hasks.words
    rw [same_decision_asks hblank hasks]
    constructor
    · rintro ⟨hlogin, hversion⟩
      exact ⟨fun h => absurd h hmethod, fun _ h => absurd h hpath, fun _ => hlogin,
        fun _ => hversion⟩
    · rintro ⟨_, _, hlogin, hversion⟩
      exact ⟨hlogin hasks, hversion hasks⟩
  · have hvacuous : ∀ {p : Prop}, Asks s_cfg head → p := fun h => absurd h hasks
    by_cases hmethod : word head = []
    · rw [same_decision_no_method hmethod]
      have hnot : ¬ strcasecmp (word head) (ascii "GET") := by
        rw [hmethod]
        decide
      constructor
      · exact fun hother => ⟨fun _ => hother, fun h => absurd h hnot, hvacuous, hvacuous⟩
      · exact fun hsettled => hsettled.method hmethod
    · by_cases hget : strcasecmp (word head) (ascii "GET")
      · by_cases hpath : word (afterWord head) = []
        · have hends : afterWord head ≠ [] := by
            obtain ⟨before, rfl⟩ := hblank
            obtain ⟨before', hafter⟩ := afterWord_blank hmethod
            rw [hafter]
            simp [ascii]
          rw [same_decision_no_path hget hends hpath]
          constructor
          · exact fun hother => ⟨fun h => absurd h hmethod, fun _ _ => hother, hvacuous, hvacuous⟩
          · exact fun hsettled => hsettled.path hget hpath
        · exact iff_of_true (same_decision_words rest hblank hmethod (.inr hpath) hasks)
            ⟨fun h => absurd h hmethod, fun _ h => absurd h hpath, hvacuous, hvacuous⟩
      · exact iff_of_true (same_decision_words rest hblank hmethod (.inl hget) hasks)
          ⟨fun h => absurd h hmethod, fun h => absurd h hget, hvacuous, hvacuous⟩

end

end rtkbase.ntrip_caster
