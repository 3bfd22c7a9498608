import RTKBase.Lib.Ledger
import RTKBase.NtripCaster.Config
import RTKBase.WebServer.BasicAuth

namespace rtkbase.nvs_config.owned

open lib.cstring lib.ledger web_server EspErr

/-- A pointer to a block of the heap, or NULL. -/
abbrev Pointer := Option Nat

inductive Call where
  | nvs_open
  | nvs_close
  | malloc (block : Nat)
  | free (block : Nat)
deriving DecidableEq

/-- The call is about the heap. -/
def Call.heap : Call → Bool
  | .malloc _ | .free _ => true
  | .nvs_open | .nvs_close => false

/-- A failed `malloc` takes no block. -/
def malloc (block : Pointer) : List Call := block.toList.map .malloc

/-- `free(NULL)` does nothing. -/
def free (block : Pointer) : List Call := block.toList.map .free

/-- What the calls of one `cfg_get_str` return: the handle, the length of the string
with its NUL, a block of that length, and the string. -/
structure StrResults where
  nvs_open : EspErr
  nvs_get_str_len : EspErr × UInt32
  malloc : UInt32 → Pointer
  nvs_get_str : EspErr × CString

structure StrOutcome where
  ret : EspErr
  out_value : Pointer
  /-- The string at `out_value`, if `ret` is `ESP_OK` and there is a block. -/
  text : List UInt8
  calls : List Call

/-- `out_value` is the pointer before the call, and in the outcome the one after it.
There is no outcome when `ESP_ERROR_CHECK` restarts the device. -/
def cfg_get_str (results : StrResults) (out_value : Pointer) : Option StrOutcome :=
  if results.nvs_open ≠ ESP_OK then none
  else
    let (res, str_len) := results.nvs_get_str_len
    if res ≠ ESP_OK then some ⟨res, out_value, [], [.nvs_open, .nvs_close]⟩
    else
      let out_value := results.malloc str_len
      let (res, text) := results.nvs_get_str
      if res ≠ ESP_OK then
        some ⟨res, out_value, [], .nvs_open :: malloc out_value ++ free out_value ++ [.nvs_close]⟩
      else some ⟨ESP_OK, out_value, text.bytes, .nvs_open :: malloc out_value ++ [.nvs_close]⟩

def load_cfg_string (results : StrResults) (size : Nat) :
    Option (Option (CStr (size + 1)) × List Call) := do
  let r ← cfg_get_str results none
  if r.ret ≠ ESP_OK ∨ r.out_value = none then return (none, r.calls ++ free r.out_value)
  else return (some (strlcpy size r.text), r.calls ++ free r.out_value)

/-- The time zone that is set. -/
def time_sync_init (results : StrResults) : Option (List UInt8 × List Call) := do
  let r ← cfg_get_str results none
  let timezone :=
    if r.ret = ESP_OK ∧ r.out_value ≠ none ∧ r.text ≠ [] then r.text else ascii "UTC0"
  return (timezone, r.calls ++ free r.out_value)

def sanitizeFilenameChar (c : UInt8) : UInt8 :=
  if (65 ≤ c ∧ c ≤ 90) ∨ (97 ≤ c ∧ c ≤ 122) ∨ (48 ≤ c ∧ c ≤ 57) ∨ c = 45 ∨ c = 95 ∨ c = 46 then c
  else 95

/-- What is not fit for a file name becomes an underscore, and the fallback is taken
when there is nothing else. -/
def sanitize_filename_part {size : Nat} (value fallback : CStr size) : CStr size :=
  if value.bytes.map sanitizeFilenameChar |>.any (fun c => c ≠ 95 ∧ c ≠ 46) then
    { bytes := value.bytes.map sanitizeFilenameChar
      nul_free b hb := by
        obtain ⟨c, hc, rfl⟩ := List.mem_map.mp hb
        have hne := value.nul_free c hc
        unfold sanitizeFilenameChar
        split
        · exact hne
        · decide
      fits := by simpa using value.fits }
  else fallback

inductive CoreDumpReply where
  | unauthorized (resp : Option HttpdResp)
  | httpd_resp_sendstr (text : String)
  | attachment (station_name : CStr 33)

def core_dump_get_handler (auth : esp_err_t × Option HttpdResp) (core_dump_size : Nat)
    (results : StrResults) : Option (CoreDumpReply × List Call) :=
  if auth.1 = .ESP_FAIL then some (.unauthorized auth.2, [])
  else if core_dump_size = 0 then some (.httpd_resp_sendstr "No core dump available", [])
  else do
    let r ← cfg_get_str results none
    let station_name :=
      if r.ret = ESP_OK ∧ r.out_value ≠ none ∧ r.text ≠ [] then strlcpy 32 r.text
      else strlcpy 32 (ascii "rtkbase")
    let station_name := sanitize_filename_part station_name (strlcpy 32 (ascii "rtkbase"))
    return (.attachment station_name, r.calls ++ free r.out_value)

/-- Every block was freed once, before the next one was allocated. -/
def FreedOnce (calls : List Call) : Prop :=
  Serial Call.malloc Call.free none (calls.filter Call.heap)

/-- The second read of the string fails although the first one did not. -/
structure SecondReadFails (results : StrResults) : Prop where
  opened : results.nvs_open = ESP_OK
  found : results.nvs_get_str_len.1 = ESP_OK
  failed : results.nvs_get_str.1 ≠ ESP_OK

/-- The block that is allocated for the string. -/
def StrResults.block (results : StrResults) : Pointer := results.malloc results.nvs_get_str_len.2

section

variable {results : StrResults} {out_value : Pointer} {r : StrOutcome}

/-- An error leaves the pointer alone, or leaves it at a block that is gone. -/
theorem cfg_get_str_cases (hcall : cfg_get_str results out_value = some r) :
    (¬ SecondReadFails results ∧ r.ret ≠ ESP_OK ∧ r.out_value = out_value ∧
      r.calls = [.nvs_open, .nvs_close]) ∨
    (SecondReadFails results ∧ r.ret ≠ ESP_OK ∧ r.out_value = results.block ∧
      r.calls = .nvs_open :: malloc results.block ++ free results.block ++ [.nvs_close]) ∨
    (¬ SecondReadFails results ∧ r.ret = ESP_OK ∧ r.out_value = results.block ∧
      r.calls = .nvs_open :: malloc results.block ++ [.nvs_close]) := by
  unfold cfg_get_str at hcall
  split at hcall
  · cases hcall
  case isFalse hopen =>
    dsimp only at hcall
    split at hcall
    case isTrue hmissing =>
      cases hcall
      exact .inl ⟨fun hfails => hmissing hfails.found, hmissing, rfl, rfl⟩
    case isFalse hfound =>
      split at hcall
      case isTrue hfailed =>
        cases hcall
        exact .inr (.inl ⟨⟨not_not.mp hopen, not_not.mp hfound, hfailed⟩, hfailed, rfl, rfl⟩)
      case isFalse hread =>
        cases hcall
        exact .inr (.inr ⟨fun hfails => hread hfails.failed, rfl, rfl, rfl⟩)

/-- The handle is closed on every path. -/
theorem cfg_get_str_closes (hcall : cfg_get_str results out_value = some r) :
    r.calls.filter (!·.heap) = [.nvs_open, .nvs_close] := by
  obtain ⟨_, _, _, hcalls⟩ | ⟨_, _, _, hcalls⟩ | ⟨_, _, _, hcalls⟩ := cfg_get_str_cases hcall
  · rw [hcalls]
    rfl
  · rw [hcalls]
    cases results.block <;> rfl
  · rw [hcalls]
    cases results.block <;> rfl

/-- Where the caller frees the pointer in any case, the block of a failed second
read is freed twice. -/
theorem freedOnce_iff (hcall : cfg_get_str results none = some r) :
    FreedOnce (r.calls ++ free r.out_value) ↔
      (SecondReadFails results → results.block = none) := by
  obtain ⟨hno, _, hout, hcalls⟩ | ⟨hfails, _, hout, hcalls⟩ | ⟨hno, _, hout, hcalls⟩ :=
    cfg_get_str_cases hcall <;> rw [hcalls, hout, FreedOnce]
  · exact ⟨fun _ hfails => absurd hfails hno, fun _ => .nil⟩
  · cases results.block with
    | none => exact ⟨fun _ _ => rfl, fun _ => .nil⟩
    | some block =>
      refine ⟨fun hfreed => ?_, fun hnone => absurd (hnone hfails) (by simp)⟩
      obtain ⟨n, hn⟩ := hfreed.even
      have hthree : 3 = 2 * n := hn
      omega
  · refine ⟨fun _ hfails => absurd hfails hno, fun _ => ?_⟩
    cases results.block with
    | none => exact .nil
    | some block => exact .both block

theorem cfg_get_str_of_fails (hfails : SecondReadFails results) (out_value : Pointer) :
    ∃ r, cfg_get_str results out_value = some r ∧ r.ret ≠ ESP_OK ∧ r.out_value = results.block := by
  refine ⟨⟨results.nvs_get_str.1, results.block, [],
    .nvs_open :: malloc results.block ++ free results.block ++ [.nvs_close]⟩, ?_,
    hfails.failed, rfl⟩
  unfold cfg_get_str
  rw [if_neg (not_not.mpr hfails.opened)]
  dsimp only
  rw [if_neg (not_not.mpr hfails.found), if_pos hfails.failed]
  rfl

theorem load_cfg_string_calls {size : Nat} {name : Option (CStr (size + 1))} {calls : List Call}
    (hload : load_cfg_string results size = some (name, calls)) :
    ∃ r, cfg_get_str results none = some r ∧ calls = r.calls ++ free r.out_value := by
  simp only [load_cfg_string, Option.bind_eq_bind, Option.bind_eq_some_iff] at hload
  obtain ⟨r, hcall, hload⟩ := hload
  refine ⟨r, hcall, ?_⟩
  split at hload <;> cases hload <;> rfl

theorem load_cfg_string_some (hcall : cfg_get_str results none = some r) (size : Nat) :
    ∃ name, load_cfg_string results size = some (name, r.calls ++ free r.out_value) := by
  simp only [load_cfg_string, hcall, Option.bind_eq_bind, Option.bind_some]
  split
  · exact ⟨_, rfl⟩
  · exact ⟨_, rfl⟩

theorem core_dump_get_handler_calls {auth : esp_err_t × Option HttpdResp} {core_dump_size : Nat}
    {reply : CoreDumpReply} {calls : List Call}
    (hget : core_dump_get_handler auth core_dump_size results = some (reply, calls)) :
    calls = [] ∨ ∃ r, cfg_get_str results none = some r ∧ calls = r.calls ++ free r.out_value := by
  unfold core_dump_get_handler at hget
  split at hget
  · cases hget
    exact .inl rfl
  split at hget
  · cases hget
    exact .inl rfl
  simp only [Option.bind_eq_bind, Option.bind_eq_some_iff, Option.pure_def,
    Option.some.injEq, Prod.mk.injEq] at hget
  obtain ⟨r, hcall, _, rfl⟩ := hget
  exact .inr ⟨r, hcall, rfl⟩

end

/-- After an error the pointer is what it was before, and the callers, which free it
then, free every block once. -/
structure CleanOnFailure (results : StrResults) (out_value : Pointer) : Prop where
  unchanged : ∀ r, cfg_get_str results out_value = some r → r.ret ≠ ESP_OK →
    r.out_value = out_value
  load_cfg_string : ∀ size name calls, load_cfg_string results size = some (name, calls) →
    FreedOnce calls
  time_sync_init : ∀ timezone calls, time_sync_init results = some (timezone, calls) →
    FreedOnce calls
  core_dump_get_handler : ∀ auth core_dump_size reply calls,
    core_dump_get_handler auth core_dump_size results = some (reply, calls) → FreedOnce calls

theorem cleanOnFailure_iff (results : StrResults) (out_value : Pointer) :
    CleanOnFailure results out_value ↔
      (SecondReadFails results → results.block = none ∧ out_value = none) := by
  constructor
  · intro hclean hfails
    obtain ⟨r, hcall, hret, hout⟩ := cfg_get_str_of_fails hfails out_value
    have hsame := hclean.unchanged r hcall hret
    have hnone : results.block = none := by
      obtain ⟨r, hcall, _, _⟩ := cfg_get_str_of_fails hfails none
      obtain ⟨name, hload⟩ := load_cfg_string_some hcall 0
      exact (freedOnce_iff hcall).mp (hclean.load_cfg_string 0 name _ hload) hfails
    exact ⟨hnone, by rw [← hsame, hout, hnone]⟩
  · intro hexact
    have hfreed : ∀ r, cfg_get_str results none = some r →
        FreedOnce (r.calls ++ free r.out_value) :=
      fun r hcall => (freedOnce_iff hcall).mpr fun hfails => (hexact hfails).1
    refine ⟨fun r hcall hret => ?_, fun size name calls hload => ?_, fun timezone calls hinit => ?_,
      fun auth core_dump_size reply calls hget => ?_⟩
    · obtain ⟨_, _, hout, _⟩ | ⟨hfails, _, hout, _⟩ | ⟨_, hok, _⟩ := cfg_get_str_cases hcall
      · exact hout
      · rw [hout, (hexact hfails).1, (hexact hfails).2]
      · exact absurd hok hret
    · obtain ⟨r, hcall, rfl⟩ := load_cfg_string_calls hload
      exact hfreed r hcall
    · simp only [time_sync_init, Option.bind_eq_bind, Option.bind_eq_some_iff, Option.pure_def,
        Option.some.injEq, Prod.mk.injEq] at hinit
      obtain ⟨r, hcall, _, rfl⟩ := hinit
      exact hfreed r hcall
    · obtain rfl | ⟨r, hcall, rfl⟩ := core_dump_get_handler_calls hget
      · exact .nil
      · exact hfreed r hcall

/-- The calls find what is stored, and a block for it. -/
def storedResults (stored : Option CString) (block : Nat) : StrResults where
  nvs_open := ESP_OK
  nvs_get_str_len :=
    match stored with
    | none => (0x1102, 0)
    | some value => (ESP_OK, UInt32.ofNat (value.bytes.length + 1))
  malloc := fun _ => some block
  nvs_get_str :=
    match stored with
    | none => (0x1102, literal "")
    | some value => (ESP_OK, value)

/-- With such calls the caster gets the string that is stored, and frees it. -/
theorem load_cfg_string_stored (store : Nvs) (key : String) (size block : Nat) :
    ∃ calls, FreedOnce calls ∧
      load_cfg_string (storedResults (nvs_config.cfg_get_str store key) block) size =
        some (ntrip_caster.load_cfg_string
          (fun key => (nvs_config.cfg_get_str store key).map (·.bytes)) key size, calls) := by
  unfold ntrip_caster.load_cfg_string
  cases hstored : nvs_config.cfg_get_str store key with
  | none =>
    refine ⟨[.nvs_open, .nvs_close], Serial.nil, ?_⟩
    simp [load_cfg_string, cfg_get_str, storedResults, ESP_OK, free, hstored]
  | some value =>
    refine ⟨[.nvs_open, .malloc block, .nvs_close, .free block], Serial.both block, ?_⟩
    simp [load_cfg_string, cfg_get_str, storedResults, malloc, free, hstored]

/-- The string was replaced by a longer one between the two reads. -/
def secondReadFails : StrResults where
  nvs_open := ESP_OK
  nvs_get_str_len := (ESP_OK, 5)
  malloc := fun _ => some 1
  nvs_get_str := (0x110c, literal "")

theorem cfg_get_str_leaves_freed_block : ¬ CleanOnFailure secondReadFails none := by
  intro hclean
  have hunchanged := hclean.unchanged _ rfl (by decide)
  cases hunchanged

end rtkbase.nvs_config.owned
