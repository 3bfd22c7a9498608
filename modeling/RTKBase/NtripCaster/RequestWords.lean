import RTKBase.Lib.Search
import RTKBase.NtripCaster.Request

namespace rtkbase.ntrip_caster

open lib.cstring

theorem scanS_word (width : Nat) (input : List UInt8) :
    scanS width input =
      if word input = [] then none
      else some ((word input).take width, (word input).drop width ++ afterWord input) := by
  unfold scanS
  split
  case h_1 hnone => rw [if_pos hnone]
  case h_2 hsome => rw [if_neg hsome]

theorem strcasecmp_take_iff {text short : List UInt8} {width : Nat} (hshort : short.length < width) :
    strcasecmp (text.take width) short ↔ strcasecmp text short := by
  by_cases hlen : text.length ≤ width
  · rw [List.take_of_length_le hlen]
  · refine iff_of_false (fun h => ?_) (fun h => ?_)
    · have heq := strcasecmp_length h
      rw [List.length_take] at heq
      omega
    · have heq := strcasecmp_length h
      omega

theorem take_eq_iff {text short : List UInt8} {width : Nat} (hshort : short.length < width) :
    text.take width = short ↔ text = short := by
  by_cases hlen : text.length ≤ width
  · rw [List.take_of_length_le hlen]
  · refine iff_of_false (fun h => ?_) (fun h => ?_)
    · have heq := congrArg List.length h
      rw [List.length_take] at heq
      omega
    · rw [h] at hlen
      omega

/-- The method is the first word of the request, as far as it can be `GET`. -/
theorem requestLine_method (req : List UInt8) :
    strcasecmp (requestLine req).1 (ascii "GET") ↔ strcasecmp (word req) (ascii "GET") := by
  have hfirst : (requestLine req).1 = (word req).take 7 := by
    unfold requestLine
    rw [scanS_word]
    by_cases hnone : word req = []
    · rw [if_pos hnone, hnone]
      rfl
    · rw [if_neg hnone]
      dsimp only
      split <;> rfl
  rw [hfirst]
  exact strcasecmp_take_iff (by decide)

/-- The path of a request with the method `GET` is its second word, up to the
size of its array. -/
theorem requestLine_path {req : List UInt8} (hget : strcasecmp (word req) (ascii "GET")) :
    (requestLine req).2 = (word (afterWord req)).take 63 := by
  have hlen : (word req).length = 3 := strcasecmp_length hget
  have hne : word req ≠ [] := fun h => by simp [h] at hlen
  unfold requestLine
  rw [scanS_word, if_neg hne]
  dsimp only
  rw [List.drop_of_length_le (show (word req).length ≤ 7 by omega), List.nil_append, scanS_word]
  by_cases hnone : word (afterWord req) = []
  · rw [if_pos hnone, hnone]
    rfl
  · rw [if_neg hnone]

theorem expected_path (s_cfg : caster_config_t) :
    (ascii "/" ++ s_cfg.mountpoint.bytes).length < 63 ∧
      (ascii "/" ++ s_cfg.mountpoint.bytes).take 71 = ascii "/" ++ s_cfg.mountpoint.bytes := by
  have hfits := s_cfg.mountpoint.fits
  have hslash : (ascii "/").length = 1 := rfl
  rw [List.take_eq_self_iff, List.length_append, hslash]
  omega

section

variable (mbedtls_base64_decode : List UInt8 → Option (List UInt8)) (s_cfg : caster_config_t)

/-- A request has an `Authorization: Basic` header, the first of which holds valid
credentials. -/
def credentials (req : List UInt8) : Bool :=
  match stristr req authHeader with
  | none => false
  | some rest => auth_valid mbedtls_base64_decode s_cfg (authToken (rest.drop authHeader.length))

def acceptedAs (req : List UInt8) : Decision :=
  if (stristr req (ascii "Ntrip-Version: Ntrip/2.0")).isSome then .acceptV2 else .acceptV1

/-- A request asks for the mountpoint. -/
def Asks (req : List UInt8) : Prop :=
  strcasecmp (word req) (ascii "GET") ∧ word (afterWord req) ≠ ascii "/" ∧
    strcasecmp (word (afterWord req)) (ascii "/" ++ s_cfg.mountpoint.bytes)

instance (req : List UInt8) : Decidable (Asks s_cfg req) := inferInstanceAs (Decidable (_ ∧ _ ∧ _))

/-- The decision in terms of the words of the request. -/
theorem requestDecision_words (req : List UInt8) :
    requestDecision mbedtls_base64_decode s_cfg req =
      if ¬ strcasecmp (word req) (ascii "GET") then .badRequest
      else if word (afterWord req) = ascii "/" then .sourcetable
      else if ¬ strcasecmp (word (afterWord req)) (ascii "/" ++ s_cfg.mountpoint.bytes) then
        .notFound
      else if s_cfg.auth_required = true ∧ credentials mbedtls_base64_decode s_cfg req = false then
        .unauthorized
      else acceptedAs req := by
  obtain ⟨hexpected, htake⟩ := expected_path s_cfg
  unfold requestDecision
  dsimp only
  rw [htake]
  by_cases hget : strcasecmp (word req) (ascii "GET")
  · have hmethod := (requestLine_method req).mpr hget
    have hpath := requestLine_path hget
    rw [if_neg (not_not.mpr hmethod), if_neg (not_not.mpr hget), hpath]
    have hroot : (word (afterWord req)).take 63 = ascii "/" ↔ word (afterWord req) = ascii "/" :=
      take_eq_iff (by decide)
    simp only [hroot, strcasecmp_take_iff hexpected]
    by_cases hslash : word (afterWord req) = ascii "/"
    · rw [if_pos hslash, if_pos hslash]
    · rw [if_neg hslash, if_neg hslash]
      by_cases hmount : strcasecmp (word (afterWord req)) (ascii "/" ++ s_cfg.mountpoint.bytes)
      · rw [if_neg (not_not.mpr hmount), if_neg (not_not.mpr hmount)]
        unfold credentials acceptedAs
        cases hrequired : s_cfg.auth_required with
        | false => simp
        | true =>
          cases stristr req authHeader with
          | none => simp
          | some rest =>
            cases hvalid : auth_valid mbedtls_base64_decode s_cfg
                (authToken (rest.drop authHeader.length)) <;> simp [hvalid]
      · rw [if_pos hmount, if_pos hmount]
  · rw [if_pos (mt (requestLine_method req).mp hget), if_pos hget]

/-- A request for the mountpoint is accepted with valid credentials, or where
none are asked for. -/
theorem requestDecision_asks {req : List UInt8} (hasks : Asks s_cfg req) :
    requestDecision mbedtls_base64_decode s_cfg req =
      if s_cfg.auth_required = true ∧ credentials mbedtls_base64_decode s_cfg req = false then
        .unauthorized
      else acceptedAs req := by
  obtain ⟨hget, hslash, hmount⟩ := hasks
  rw [requestDecision_words, if_neg (not_not.mpr hget), if_neg hslash, if_neg (not_not.mpr hmount)]

end

end rtkbase.ntrip_caster
