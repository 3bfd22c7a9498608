import RTKBase.Lib.Numeral
import RTKBase.Lib.Search
import RTKBase.NtripCaster.Request

namespace rtkbase.ntrip_caster

open lib.cstring lib.numeral nvs_config

/-- Characters that end a field or a line of a sourcetable. -/
def Separator (b : UInt8) : Prop := b = 59 ∨ b = 13 ∨ b = 10

instance (b : UInt8) : Decidable (Separator b) := inferInstanceAs (Decidable (_ ∨ _))

/-- The fields behind the identifier, the last of them empty. -/
def formatFields : List (List UInt8) :=
  ["RTCM 3.2", "1005(1),1074(1),1084(1),1094(1),1124(1)", "2", "GPS+GLO+GAL+BDS", "ESP32", "DE",
    "48.10", "11.60", "1", "1", "sNTRIP", "none", "N", "N", "0", ""].map ascii

/-- What a client reads: one line, a record of the given mountpoint and
identifier, and the line that ends the table. -/
def TableBody (mountpoint identifier body : List UInt8) : Prop :=
  ∃ line, body = line ++ ascii "\r\n" ++ ascii "ENDSOURCETABLE\r\n" ∧ 13 ∉ line ∧ 10 ∉ line ∧
    line.splitOn 59 = ascii "STR" :: mountpoint :: identifier :: formatFields

/-- The length that a header announces. -/
def announced (header : List UInt8) : Option Nat :=
  (stristr header (ascii "Content-Length: ")).map fun rest =>
    decimal ((rest.drop (ascii "Content-Length: ").length).takeWhile isdigit)

theorem sanitizeSourcetableChar_clean (b : UInt8) : ¬ Separator (sanitizeSourcetableChar b) := by
  unfold sanitizeSourcetableChar
  split
  case isTrue => decide
  case isFalse hclean => exact hclean

/-- The line of the record. -/
def recordLine (mountpoint identifier : List UInt8) : List UInt8 :=
  ascii "STR" ++ 59 :: (mountpoint ++ 59 :: (identifier ++ 59 :: ([59].intercalate formatFields)))

theorem sourcetableRecord_line (s_cfg : caster_config_t) :
    sourcetableRecord s_cfg = recordLine s_cfg.mountpoint.bytes s_cfg.identifier.bytes ++
      ascii "\r\n" ++ ascii "ENDSOURCETABLE\r\n" := by
  have hfields : ascii ";RTCM 3.2;" ++ ascii "1005(1),1074(1),1084(1),1094(1),1124(1);" ++
      ascii "2;GPS+GLO+GAL+BDS;ESP32;DE;48.10;11.60;1;1;sNTRIP;none;N;N;0;\r\n" =
      59 :: [59].intercalate formatFields ++ ascii "\r\n" := by decide +kernel
  have hstart : ascii "STR;" = ascii "STR" ++ [59] := by decide
  have hsemicolon : ascii ";" = [59] := by decide
  calc sourcetableRecord s_cfg =
      ascii "STR" ++ [59] ++ s_cfg.mountpoint.bytes ++ [59] ++ s_cfg.identifier.bytes ++
        (ascii ";RTCM 3.2;" ++ ascii "1005(1),1074(1),1084(1),1094(1),1124(1);" ++
          ascii "2;GPS+GLO+GAL+BDS;ESP32;DE;48.10;11.60;1;1;sNTRIP;none;N;N;0;\r\n") ++
        ascii "ENDSOURCETABLE\r\n" := by
        unfold sourcetableRecord
        rw [hstart, hsemicolon]
        simp only [List.append_assoc]
    _ = _ := by
        rw [hfields]
        unfold recordLine
        simp only [List.append_assoc, List.cons_append, List.nil_append]

theorem formatFields_clean : ∀ field ∈ formatFields, ∀ b ∈ field, ¬ Separator b := by
  have hall : (formatFields.all fun field => field.all fun b => decide (¬ Separator b)) = true := by
    decide +kernel
  intro field hfield b hb
  exact of_decide_eq_true (List.all_eq_true.mp (List.all_eq_true.mp hall field hfield) b hb)

/-- The fields of the line, in front of those that do not vary. -/
theorem splitOn_recordLine {mountpoint identifier : List UInt8} (hmountpoint : 59 ∉ mountpoint)
    (hidentifier : 59 ∉ identifier) :
    (recordLine mountpoint identifier).splitOn 59 =
      ascii "STR" :: mountpoint :: identifier :: formatFields := by
  have hfields : ∀ field ∈ formatFields, 59 ∉ field := fun field hfield h =>
    formatFields_clean field hfield 59 h (.inl rfl)
  unfold recordLine
  rw [List.splitOn_append_cons_self_of_not_mem (by decide),
    List.splitOn_append_cons_self_of_not_mem hmountpoint,
    List.splitOn_append_cons_self_of_not_mem hidentifier,
    List.splitOn_intercalate 59 hfields (by decide)]

theorem mem_recordLine {mountpoint identifier : List UInt8} {b : UInt8}
    (hb : b = 13 ∨ b = 10) :
    b ∈ recordLine mountpoint identifier ↔ b ∈ mountpoint ∨ b ∈ identifier := by
  have hformat : ∀ b, b = 13 ∨ b = 10 → b ∉ ascii "STR" ∧ b ≠ 59 ∧ b ∉ [59].intercalate formatFields := by
    rintro b (rfl | rfl) <;> decide +kernel
  obtain ⟨hstart, hsemicolon, hfields⟩ := hformat b hb
  unfold recordLine
  simp only [List.mem_append, List.mem_cons, hstart, hsemicolon, hfields, false_or, or_false]

/-- A client reads the table as it was meant exactly when neither name holds a
separator. -/
theorem tableBody_iff (s_cfg : caster_config_t)
    (hidentifier : ∀ b ∈ s_cfg.identifier.bytes, ¬ Separator b) :
    TableBody s_cfg.mountpoint.bytes s_cfg.identifier.bytes (sourcetableRecord s_cfg) ↔
      ∀ b ∈ s_cfg.mountpoint.bytes, ¬ Separator b := by
  have hclean : ∀ b, b = 13 ∨ b = 10 → b ∉ s_cfg.identifier.bytes := fun b hb hmem =>
    hidentifier b hmem (.inr hb)
  rw [sourcetableRecord_line]
  constructor
  · rintro ⟨line, hbody, hreturn, hnewline, hsplit⟩ b hb hsep
    obtain rfl : recordLine s_cfg.mountpoint.bytes s_cfg.identifier.bytes = line := by
      rw [List.append_assoc, List.append_assoc] at hbody
      exact List.append_cancel_right hbody
    obtain rfl | hbreak := hsep
    · -- A semicolon would end the second field early.
      obtain ⟨front, back, hmountpoint, hfront⟩ := List.eq_append_cons_of_mem hb
      unfold recordLine at hsplit
      rw [List.splitOn_append_cons_self_of_not_mem (by decide), hmountpoint, List.append_assoc,
        List.cons_append, List.splitOn_append_cons_self_of_not_mem hfront] at hsplit
      have hfield := congrArg List.length (List.cons.inj (List.cons.inj hsplit).2).1
      rw [List.length_append, List.length_cons] at hfield
      omega
    · have hmem := (mem_recordLine hbreak).mpr (.inl hb : b ∈ _ ∨ b ∈ s_cfg.identifier.bytes)
      obtain rfl | rfl := hbreak
      · exact hreturn hmem
      · exact hnewline hmem
  · intro hmountpoint
    refine ⟨recordLine s_cfg.mountpoint.bytes s_cfg.identifier.bytes, rfl, ?_, ?_, ?_⟩
    · rw [mem_recordLine (.inl rfl)]
      exact not_or.mpr ⟨fun h => hmountpoint 13 h (by decide), hclean 13 (.inl rfl)⟩
    · rw [mem_recordLine (.inr rfl)]
      exact not_or.mpr ⟨fun h => hmountpoint 10 h (by decide), hclean 10 (.inr rfl)⟩
    · exact splitOn_recordLine (fun h => hmountpoint 59 h (.inl rfl))
        fun h => hidentifier 59 h (.inl rfl)

theorem toString_digits {len : Nat} (hlen : len < 256) :
    decimal (ascii (toString len)) = len ∧ (∀ b ∈ ascii (toString len), isdigit b = true) ∧
      (ascii (toString len)).length ≤ 3 := by
  have hall : ∀ len < 256, decimal (ascii (toString len)) = len ∧
      (ascii (toString len)).all isdigit = true ∧ (ascii (toString len)).length ≤ 3 := by
    decide +kernel
  rw [← List.all_eq_true]
  exact hall len hlen

/-- The lines of the header in front of the length. -/
def headerLines (v2 : Bool) : List UInt8 :=
  if v2 then
    ascii "HTTP/1.1 200 OK\r\n" ++ ascii "Ntrip-Version: Ntrip/2.0\r\n" ++
      ascii "Content-Type: text/plain\r\n"
  else ascii "SOURCETABLE 200 OK\r\n" ++ ascii "Content-Type: text/plain\r\n"

/-- The header announces the length it is given, and fits its buffer. -/
theorem sourcetableHeader_announces {len : Nat} (hlen : len < 256) (v2 : Bool) :
    announced (sourcetableHeader len v2) = some len ∧
      (sourcetableHeader len v2).length < 256 := by
  have hfirst : stristr (headerLines v2 ++ ascii "Content-Length: ") (ascii "Content-Length: ") =
      some (ascii "Content-Length: ") := by
    cases v2 <;> decide +kernel
  have hfront : (headerLines v2).length ≤ 100 := by
    cases v2 <;> decide
  have hname : (ascii "Content-Length: ").length = 16 := rfl
  have hend : (ascii "\r\n\r\n").length = 4 := rfl
  obtain ⟨hdecimal, hdigits, hshort⟩ := toString_digits hlen
  have hheader : sourcetableHeader len v2 = headerLines v2 ++ ascii "Content-Length: " ++
      (ascii (toString len) ++ ascii "\r\n\r\n") := by
    unfold sourcetableHeader headerLines
    rw [List.append_assoc _ (ascii (toString len))]
  rw [hheader]
  constructor
  · unfold announced
    rw [stristr_append hfirst, Option.map_some, List.drop_left, List.takeWhile_append_of_pos hdigits]
    show some (decimal (ascii (toString len) ++ [])) = _
    rw [List.append_nil, hdecimal]
  · simp only [List.length_append, hname, hend]
    omega

section

variable {cfg_get_u16 : String → Option UInt16} {cfg_get_str : String → Option (List UInt8)}
  {s_cfg : caster_config_t}

/-- The names of a loaded configuration: the identifier was cleaned, the
mountpoint is the stored one up to the size of its array. -/
theorem load_caster_config_names (hload : load_caster_config cfg_get_u16 cfg_get_str = some s_cfg) :
    (∃ stored, cfg_get_str KEY_CONFIG_CASTER_MOUNTPOINT = some stored ∧
      s_cfg.mountpoint = strlcpy 32 stored) ∧
    ∀ b ∈ s_cfg.identifier.bytes, ¬ Separator b := by
  unfold load_caster_config at hload
  simp only [Option.bind_eq_bind, Option.bind_eq_some_iff, Option.pure_def,
    Option.some.injEq] at hload
  obtain ⟨port, _, mountpoint, hmountpoint, username, _, password, _, rfl⟩ := hload
  obtain ⟨stored, hstored, rfl⟩ := Option.map_eq_some_iff.mp hmountpoint
  refine ⟨⟨stored, hstored, rfl⟩, fun b hb => ?_⟩
  obtain ⟨c, _, rfl⟩ := List.mem_map.mp hb
  exact sanitizeSourcetableChar_clean c

/-- The sourcetable of a loaded configuration is announced with its length and
never cut. It is well formed exactly when the stored mountpoint, up to the size
of its array, holds no separator. -/
theorem sourcetable_well_formed
    (hload : load_caster_config cfg_get_u16 cfg_get_str = some s_cfg) {stored : List UInt8}
    (hstored : cfg_get_str KEY_CONFIG_CASTER_MOUNTPOINT = some stored) (req : List UInt8) :
    ∃ header body, Decision.texts s_cfg req .sourcetable = [header, body] ∧
      announced header = some body.length ∧ header.length < 256 ∧ body.length < 256 ∧
      (TableBody s_cfg.mountpoint.bytes s_cfg.identifier.bytes body ↔
        ∀ b ∈ (strlcpy 32 stored).bytes, b ≠ 59 ∧ b ≠ 13 ∧ b ≠ 10) := by
  obtain ⟨⟨stored', hstored', hmountpoint⟩, hidentifier⟩ := load_caster_config_names hload
  obtain rfl : stored = stored' := Option.some.inj (hstored.symm.trans hstored')
  have hlen := sourcetableRecord_length_lt s_cfg
  obtain ⟨hannounced, hheader⟩ := sourcetableHeader_announces hlen
    (stristr req (ascii "Ntrip-Version: Ntrip/2.0")).isSome
  refine ⟨_, _, rfl, hannounced, hheader, hlen, ?_⟩
  rw [tableBody_iff s_cfg hidentifier, hmountpoint]
  simp only [Separator, not_or, ne_eq]

end

/-- The stored values of a caster with the given mountpoint. -/
def storedStrings (mountpoint : List UInt8) (key : String) : Option (List UInt8) :=
  if key = KEY_CONFIG_CASTER_MOUNTPOINT then some mountpoint else some []

theorem sourcetable_well_formed_base :
    ∃ s_cfg : caster_config_t, ∃ header body,
      load_caster_config (fun _ => some 2101) (storedStrings (ascii "BASE")) = some s_cfg ∧
      Decision.texts s_cfg [] .sourcetable = [header, body] ∧
      TableBody s_cfg.mountpoint.bytes s_cfg.identifier.bytes body := by
  obtain ⟨s_cfg, hload, hstored⟩ : ∃ s_cfg : caster_config_t,
      load_caster_config (fun _ => some 2101) (storedStrings (ascii "BASE")) = some s_cfg ∧
      storedStrings (ascii "BASE") KEY_CONFIG_CASTER_MOUNTPOINT = some (ascii "BASE") :=
    ⟨_, rfl, by decide⟩
  obtain ⟨header, body, htexts, _, _, _, hbody⟩ := sourcetable_well_formed hload hstored []
  have hbytes : (strlcpy 32 (ascii "BASE")).bytes = [66, 65, 83, 69] := by decide
  refine ⟨s_cfg, header, body, hload, htexts, hbody.mpr ?_⟩
  rw [hbytes]
  simp

/-- A caster with the mountpoint `A;B`. -/
theorem sourcetable_semicolon :
    ∃ s_cfg : caster_config_t,
      load_caster_config (fun _ => some 2101) (storedStrings (ascii "A;B")) = some s_cfg ∧
      ¬ TableBody s_cfg.mountpoint.bytes s_cfg.identifier.bytes (sourcetableRecord s_cfg) := by
  obtain ⟨s_cfg, hload, hmountpoint⟩ : ∃ s_cfg : caster_config_t,
      load_caster_config (fun _ => some 2101) (storedStrings (ascii "A;B")) = some s_cfg ∧
      s_cfg.mountpoint.bytes = ascii "A;B" := ⟨_, rfl, by decide⟩
  refine ⟨s_cfg, hload, fun hbody => ?_⟩
  have hclean := (tableBody_iff s_cfg (load_caster_config_names hload).2).mp hbody
  rw [hmountpoint] at hclean
  exact hclean 59 (by decide) (.inl rfl)

end rtkbase.ntrip_caster
