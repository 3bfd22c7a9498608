import RTKBase.NtripCaster.Handshake
import RTKBase.NtripCaster.RequestHead

namespace rtkbase.ntrip_caster

open lib.cstring

theorem cstr_take (n : Nat) (bytes : List UInt8) : cstr (bytes.take n) = (cstr bytes).take n :=
  List.take_takeWhile.symm

/-- What the branch can read of a stream. -/
def readable (stream : List UInt8) : List UInt8 := cstr (stream.take (ROVER_REQ_BUF_SIZE - 1))

theorem readable_take {stream : List UInt8} {n : Nat} (hn : n ≤ ROVER_REQ_BUF_SIZE - 1) :
    cstr (stream.take n) = (readable stream).take n := by
  unfold readable
  rw [← cstr_take, List.take_take, Nat.min_eq_left hn]

theorem readable_length (stream : List UInt8) :
    (readable stream).length ≤ ROVER_REQ_BUF_SIZE - 1 ∧
      (readable stream).length ≤ stream.length := by
  have hbegins : (readable stream).length ≤ (stream.take (ROVER_REQ_BUF_SIZE - 1)).length :=
    (List.takeWhile_prefix _).length_le
  rw [List.length_take] at hbegins
  omega

/-- The pieces in which `recv` may hand out a stream. -/
def Pieces (stream : List UInt8) (chunks : List (List UInt8)) : Prop :=
  chunks.flatten = stream ∧ ∀ bytes ∈ chunks, bytes ≠ []

instance (stream : List UInt8) (chunks : List (List UInt8)) : Decidable (Pieces stream chunks) :=
  inferInstanceAs (Decidable (_ ∧ _))

/-- A slot as `acceptRover` leaves it has received nothing. -/
theorem accepted_buffered (rover : rover_conn_t) (new_fd : Nat) :
    Buffered ⟨acceptRover rover new_fd, acceptedSocket⟩ [] :=
  ⟨rfl, List.nil_prefix⟩

section

variable {s_cfg : caster_config_t} {mbedtls_base64_decode : List UInt8 → Option (List UInt8)}

variable (s_cfg mbedtls_base64_decode) in
/-- Every beginning of the stream that has the head is judged. -/
theorem judge_head {stream head rest part : List UInt8}
    (hline : BlankLine (readable stream) head rest) (hpart : part <+: rest) :
    judge s_cfg mbedtls_base64_decode (stream.take (head.length + part.length)) =
      some (.decided (requestDecision mbedtls_base64_decode s_cfg (head ++ part))) := by
  obtain ⟨hlimit, _⟩ := readable_length stream
  have hlen := congrArg List.length hline.split
  have hshort := hpart.length_le
  rw [List.length_append] at hlen
  have htext : cstr (stream.take (head.length + part.length)) =
      (readable stream).take (head.length + part.length) := readable_take (by omega)
  have hblank := (hline.found_iff (head.length + part.length)).mpr (by omega)
  have hbegins : (readable stream).take (head.length + part.length) = head ++ part := by
    rw [hline.split, List.take_length_add_append, ← List.prefix_iff_eq_take.mp hpart]
  unfold judge
  rw [htext, if_pos hblank, hbegins]

/-- A verdict is about the head and a part of what follows, or the stream has no
blank line that fits the buffer. -/
theorem judge_cases {stream : List UInt8} {n : Nat} {v : Verdict} (hn : n ≤ ROVER_REQ_BUF_SIZE - 1)
    (hjudge : judge s_cfg mbedtls_base64_decode (stream.take n) = some v) :
    (∃ head rest part, BlankLine (readable stream) head rest ∧ part <+: rest ∧
      v = .decided (requestDecision mbedtls_base64_decode s_cfg (head ++ part))) ∨
    ((strstr (readable stream) (ascii "\r\n\r\n")).isSome = false ∧ v = .tooLarge) := by
  unfold judge at hjudge
  rw [readable_take hn] at hjudge
  cases hblank : (strstr (readable stream) (ascii "\r\n\r\n")).isSome with
  | true =>
    obtain ⟨head, rest, hline⟩ := blankLine_of_isSome hblank
    have hfound := hline.found_iff n
    split at hjudge
    case isTrue hhere =>
      have hlong := hfound.mp hhere
      refine .inl ⟨head, rest, rest.take (n - head.length), hline, List.take_prefix _ _, ?_⟩
      rw [hline.split, List.take_append, List.take_of_length_le hlong] at hjudge
      exact (Option.some.inj hjudge).symm
    case isFalse hshort =>
      -- A full buffer holds all that can be read, and with it the blank line.
      obtain ⟨hlimit, _⟩ := readable_length stream
      have hlen := congrArg List.length hline.split
      rw [List.length_append] at hlen
      split at hjudge
      case isTrue hfull =>
        rw [List.length_take] at hfull
        exact absurd (hfound.mpr (by omega)) hshort
      case isFalse => cases hjudge
  | false =>
    refine .inr ⟨rfl, ?_⟩
    split at hjudge
    case isTrue hhere =>
      obtain ⟨found, hfound⟩ := Option.isSome_iff_exists.mp hhere
      have hwhole := strstr_append hfound ((readable stream).drop n)
      rw [List.take_append_drop] at hwhole
      rw [hwhole] at hblank
      cases hblank
    case isFalse =>
      split at hjudge
      case isTrue => exact (Option.some.inj hjudge).symm
      case isFalse => cases hjudge

theorem BlankLine.isSome {text head rest : List UInt8} (hline : BlankLine text head rest) :
    (strstr text (ascii "\r\n\r\n")).isSome = true := by
  have hfound := (hline.found_iff text.length).mpr (by
    rw [hline.split, List.length_append]
    omega)
  rwa [List.take_length] at hfound

theorem BlankLine.unique {text head rest head' rest' : List UInt8} (hline : BlankLine text head rest)
    (hline' : BlankLine text head' rest') : head' = head ∧ rest' = rest := by
  have hlen : head'.length = head.length := by
    refine Nat.le_antisymm ?_ ?_
    · exact (hline'.found_iff head.length).mp ((hline.found_iff head.length).mpr (Nat.le_refl _))
    · exact (hline.found_iff head'.length).mp ((hline'.found_iff head'.length).mpr (Nat.le_refl _))
  exact List.append_inj (hline'.split.symm.trans hline.split) hlen

/-- Pieces of the stream bring about the decision on the head with any part of what
follows. -/
theorem decision_reached (rover : rover_conn_t) (new_fd : Nat)
    {stream head rest part : List UInt8} (hline : BlankLine (readable stream) head rest)
    (hpart : part <+: rest) :
    ∃ chunks, Pieces stream chunks ∧
      handshake s_cfg mbedtls_base64_decode ⟨acceptRover rover new_fd, acceptedSocket⟩ chunks =
        some (.decided (requestDecision mbedtls_base64_decode s_cfg (head ++ part))) := by
  obtain ⟨hlimit, hstream⟩ := readable_length stream
  have hlen := congrArg List.length hline.split
  rw [List.length_append] at hlen
  have hpos : 0 < head.length := by
    obtain ⟨before, rfl⟩ := hline.ends
    rw [List.length_append]
    exact Nat.add_pos_right _ (by decide)
  have hshort := hpart.length_le
  obtain ⟨chunks, hflat, hnonempty, hend⟩ := handshake_first (accepted_buffered rover new_fd)
    (by omega) (by omega) (by omega) (judge_head s_cfg mbedtls_base64_decode hline hpart)
  exact ⟨chunks, ⟨hflat, hnonempty⟩, hend⟩

/-- Where what follows the head does not count, the verdict is about the head. -/
theorem verdict_of_settled {rover : rover_conn_t} {new_fd : Nat} {stream : List UInt8}
    (hsettled : ∀ head rest, BlankLine (readable stream) head rest →
      Settled s_cfg mbedtls_base64_decode head rest)
    {chunks : List (List UInt8)} {v : Verdict} (hpieces : Pieces stream chunks)
    (hend : handshake s_cfg mbedtls_base64_decode ⟨acceptRover rover new_fd, acceptedSocket⟩
      chunks = some v) :
    (∃ head rest, BlankLine (readable stream) head rest ∧
      v = .decided (requestDecision mbedtls_base64_decode s_cfg head)) ∨
    ((strstr (readable stream) (ascii "\r\n\r\n")).isSome = false ∧ v = .tooLarge) := by
  obtain ⟨n, hn, hjudge⟩ := handshake_judge (accepted_buffered rover new_fd) hend
  rw [List.nil_append, hpieces.1] at hjudge
  refine (judge_cases hn hjudge).imp_left ?_
  rintro ⟨head, rest, part, hline, hpart, rfl⟩
  have hsame := (same_decision_iff hline.ends).mpr (hsettled head rest hline)
  exact ⟨head, rest, hline, by rw [hsame part hpart]⟩

end

/-- All ways of receiving a stream that come to a decision come to the same one
exactly when nothing behind the first blank line that fits the buffer counts. -/
theorem decision_unsegmented (s_cfg : caster_config_t)
    (mbedtls_base64_decode : List UInt8 → Option (List UInt8)) (rover : rover_conn_t)
    (new_fd : Nat) (stream : List UInt8) :
    (∀ chunks chunks' v v', Pieces stream chunks → Pieces stream chunks' →
      handshake s_cfg mbedtls_base64_decode ⟨acceptRover rover new_fd, acceptedSocket⟩ chunks =
        some v →
      handshake s_cfg mbedtls_base64_decode ⟨acceptRover rover new_fd, acceptedSocket⟩ chunks' =
        some v' → v = v') ↔
    ∀ head rest, BlankLine (readable stream) head rest →
      Settled s_cfg mbedtls_base64_decode head rest := by
  constructor
  · intro hsame head rest hline
    rw [← same_decision_iff hline.ends]
    intro part hpart
    obtain ⟨chunks, hpieces, hend⟩ := decision_reached rover new_fd hline hpart
    obtain ⟨chunks', hpieces', hend'⟩ := decision_reached rover new_fd hline List.nil_prefix
    have heq := Verdict.decided.inj (hsame _ _ _ _ hpieces hpieces' hend hend')
    rwa [List.append_nil] at heq
  · intro hsettled chunks chunks' v v' hpieces hpieces' hend hend'
    obtain ⟨head, rest, hline, rfl⟩ | ⟨hnone, rfl⟩ := verdict_of_settled hsettled hpieces hend
    · obtain ⟨head', rest', hline', rfl⟩ | ⟨hnone, _⟩ := verdict_of_settled hsettled hpieces' hend'
      · rw [(hline.unique hline').1]
      · cases hline.isSome.symm.trans hnone
    · obtain ⟨head', rest', hline', rfl⟩ | ⟨_, rfl⟩ := verdict_of_settled hsettled hpieces' hend'
      · cases hline'.isSome.symm.trans hnone
      · rfl

/-- A request whose version header stands behind the blank line. -/
def lateVersion : List UInt8 := ascii "GET /BASE HTTP/1.0\r\n\r\nNtrip-Version: Ntrip/2.0"

/-- Received at once it is accepted as version 2, cut at the blank line as version 1. -/
theorem late_version_segmented :
    ∃ chunks chunks', Pieces lateVersion chunks ∧ Pieces lateVersion chunks' ∧
      handshake openCaster (fun _ => none) ⟨acceptRover blankRover 5, acceptedSocket⟩ chunks =
        some (.decided .acceptV2) ∧
      handshake openCaster (fun _ => none) ⟨acceptRover blankRover 5, acceptedSocket⟩ chunks' =
        some (.decided .acceptV1) :=
  ⟨[lateVersion], [lateVersion.take 22, lateVersion.drop 22], by decide +kernel⟩

end rtkbase.ntrip_caster
