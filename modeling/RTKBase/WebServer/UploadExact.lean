import RTKBase.Lib.Placement
import RTKBase.WebServer.Upload

namespace rtkbase.web_server.ota

open lib.placement nvs_config nvs_config.EspErr

section

variable (write : Nat → List UInt8 → EspErr → OtaCall) (written : Nat → EspErr)

/-- The bytes that the loop asks for next, and what comes then. -/
def Upload.recv (s : Upload) : Option (List UInt8 × List RecvResult) :=
  recv_upload_chunk (min s.remaining OTA_UPLOAD_BUF_SIZE).toNat s.results

/-- An upload after a chunk was received and handed to the flash. -/
def Upload.moved (s : Upload) (data : List UInt8) (results : List RecvResult) : Upload :=
  { s with
    err := written s.offset
    results := results
    calls := s.calls ++ [.httpd_req_recv data, write s.offset data (written s.offset)] }

/-- And after the chunk was counted. -/
def Upload.counted (s : Upload) (data : List UInt8) : Upload :=
  { s with offset := s.offset + data.length, remaining := s.remaining - data.length }

/-- What the loop makes of an upload, one constructor for each way that a turn of it
ends. -/
inductive Loop : Upload → Upload → Prop where
  | done {s : Upload} (hdone : ¬ (s.err = ESP_OK ∧ 0 < s.remaining)) : Loop s s
  | waits {s : Upload} (hgoes : s.err = ESP_OK ∧ 0 < s.remaining) (hrecv : s.recv = none) :
    Loop s { s with waiting := true }
  | fails {s : Upload} {results : List RecvResult} (hgoes : s.err = ESP_OK ∧ 0 < s.remaining)
      (hrecv : s.recv = some ([], results)) :
    Loop s { s with err := ESP_FAIL, results := results }
  | refused {s : Upload} {data : List UInt8} {results : List RecvResult}
      (hgoes : s.err = ESP_OK ∧ 0 < s.remaining) (hrecv : s.recv = some (data, results))
      (hdata : data ≠ []) (herr : written s.offset ≠ ESP_OK) :
    Loop s (s.moved write written data results)
  | next {s s' : Upload} {data : List UInt8} {results : List RecvResult}
      (hgoes : s.err = ESP_OK ∧ 0 < s.remaining) (hrecv : s.recv = some (data, results))
      (hdata : data ≠ []) (herr : written s.offset = ESP_OK)
      (hrest : Loop ((s.moved write written data results).counted data) s') : Loop s s'

theorem uploadLoop_loops (s : Upload) : Loop write written s (uploadLoop write written s) := by
  rw [uploadLoop]
  split
  case isTrue hgoes =>
    split
    case h_1 hrecv => exact .waits hgoes hrecv
    case h_2 results hrecv => exact .fails hgoes hrecv
    case h_3 b data results hrecv =>
      dsimp only
      split
      case isTrue herr => exact .refused hgoes hrecv (List.cons_ne_nil b data) herr
      case isFalse herr =>
        exact .next hgoes hrecv (List.cons_ne_nil b data) (not_not.mp herr) (uploadLoop_loops _)
  case isFalse hdone => exact .done hdone
termination_by s.results.length
decreasing_by exact recv_upload_chunk_shorter ‹_›

end

/-- The call is one of those that move the data. -/
def OtaCall.moves : OtaCall → Bool
  | .httpd_req_recv _ | .esp_ota_write _ _ | .esp_partition_write _ _ _ => true
  | _ => false

@[simp] theorem recv_moves (data : List UInt8) : (OtaCall.httpd_req_recv data).moves = true := rfl

/-- The calls that move some pieces, each with its place. -/
def moves (write : Nat → List UInt8 → EspErr → OtaCall) (pieces : List (Nat × List UInt8)) :
    List OtaCall :=
  pieces.flatMap fun piece => [.httpd_req_recv piece.2, write piece.1 piece.2 ESP_OK]

section

variable {write : Nat → List UInt8 → EspErr → OtaCall} {written : Nat → EspErr} {s s' : Upload}

theorem recv_length {len : Nat} {results rest : List RecvResult} {data : List UInt8}
    (hrecv : recv_upload_chunk len results = some (data, rest)) : data.length ≤ len := by
  induction results with
  | nil => cases hrecv
  | cons result results ih =>
    cases result with
    | HTTPD_SOCK_ERR_TIMEOUT => exact ih hrecv
    | failed =>
      cases hrecv
      exact Nat.zero_le len
    | received data =>
      cases hrecv
      exact List.length_take_le len data

/-- A chunk is no longer than what remains. -/
theorem Upload.recv_le {data : List UInt8} {results : List RecvResult} (hgoes : 0 < s.remaining)
    (hrecv : s.recv = some (data, results)) : (data.length : Int) ≤ s.remaining := by
  have hlength := recv_length hrecv
  unfold OTA_UPLOAD_BUF_SIZE at hlength
  omega

/-- The loop only moves data. -/
theorem Loop.only_moves (hloop : Loop write written s s')
    (hwrite : ∀ offset data err, (write offset data err).moves = true) :
    ∃ calls, s'.calls = s.calls ++ calls ∧ ∀ call ∈ calls, call.moves = true := by
  induction hloop with
  | done | waits | fails => exact ⟨[], (List.append_nil _).symm, by simp⟩
  | refused => exact ⟨_, rfl, by simp [hwrite]⟩
  | next _ _ _ _ _ ih =>
    obtain ⟨calls, hcalls, hmoves⟩ := ih
    refine ⟨_, hcalls.trans (List.append_assoc _ _ _), ?_⟩
    simpa [hwrite] using hmoves

/-- When the loop ends well it has moved all that remained, piece by piece. -/
theorem Loop.exact (hloop : Loop write written s s') (hremaining : 0 ≤ s.remaining)
    (herr : s'.err = ESP_OK) (hwaiting : s'.waiting = false) :
    ∃ pieces : List (List UInt8),
      s'.calls = s.calls ++ ota.moves write (placed s.offset pieces) ∧
      (pieces.flatten.length : Int) = s.remaining := by
  induction hloop with
  | @done s hdone =>
    have hnone : ¬ 0 < s.remaining := fun hmore => hdone ⟨herr, hmore⟩
    refine ⟨[], (List.append_nil _).symm, ?_⟩
    rw [List.flatten_nil, List.length_nil]
    omega
  | waits => cases hwaiting
  | fails => cases herr
  | refused _ _ _ hfailed => exact absurd herr hfailed
  | @next s s' data results hgoes hrecv _ hok _ ih =>
    have hle := Upload.recv_le hgoes.2 hrecv
    obtain ⟨pieces, hcalls, hlength⟩ := ih (Int.sub_nonneg.mpr hle) herr hwaiting
    refine ⟨data :: pieces, ?_, ?_⟩
    · rw [hcalls]
      simp [Upload.moved, Upload.counted, ota.moves, placed, hok]
    · simp only [Upload.counted, Upload.moved] at hlength
      rw [List.flatten_cons, List.length_append]
      omega

/-- The results that are no timeouts. -/
def answers (results : List RecvResult) : Nat := results.countP (· ≠ .HTTPD_SOCK_ERR_TIMEOUT)

theorem answers_of_none {len : Nat} {results : List RecvResult}
    (hrecv : recv_upload_chunk len results = none) : answers results = 0 := by
  induction results with
  | nil => rfl
  | cons result results ih =>
    cases result with
    | HTTPD_SOCK_ERR_TIMEOUT => simpa [answers] using ih hrecv
    | failed => cases hrecv
    | received data => cases hrecv

theorem answers_of_some {len : Nat} {results rest : List RecvResult} {data : List UInt8}
    (hrecv : recv_upload_chunk len results = some (data, rest)) :
    answers results = answers rest + 1 := by
  induction results with
  | nil => cases hrecv
  | cons result results ih =>
    cases result with
    | HTTPD_SOCK_ERR_TIMEOUT => simpa [answers] using ih hrecv
    | failed =>
      cases hrecv
      simp [answers]
    | received data =>
      cases hrecv
      simp [answers]

/-- As long as it waits, fewer results than bytes have come. -/
theorem Loop.waits_short (hloop : Loop write written s s') (hwaiting : s'.waiting = true)
    (hstarted : s.waiting = false) : (answers s.results : Int) < s.remaining := by
  induction hloop with
  | done | fails | refused =>
    exact absurd (hstarted.symm.trans hwaiting) Bool.false_ne_true
  | waits hgoes hrecv =>
    rw [answers_of_none hrecv]
    exact hgoes.2
  | next hgoes hrecv hdata _ _ ih =>
    have hanswers := answers_of_some hrecv
    have hlength := List.length_pos_iff.mpr hdata
    have hrest := ih hwaiting hstarted
    simp only [Upload.counted, Upload.moved] at hrest
    omega

/-- After an error there is no turn. -/
theorem Loop.stopped (hloop : Loop write written s s') (herr : s.err ≠ ESP_OK) : s' = s := by
  cases hloop with
  | done => rfl
  | waits hgoes | fails hgoes | refused hgoes | next hgoes => exact absurd hgoes.1 herr

end

/-- The bytes that were received. -/
def received (calls : List OtaCall) : List UInt8 :=
  calls.flatMap fun
    | .httpd_req_recv data => data
    | _ => []

/-- The bytes that were handed to the update. -/
def otaWritten (calls : List OtaCall) : List UInt8 :=
  calls.flatMap fun
    | .esp_ota_write data _ => data
    | _ => []

/-- The writes to the partition, and what they returned. -/
def partitionWrites (calls : List OtaCall) : List ((Nat × List UInt8) × EspErr) :=
  calls.filterMap fun
    | .esp_partition_write offset data err => some ((offset, data), err)
    | _ => none

/-- The call ends an update. -/
def OtaCall.finishes : OtaCall → Bool
  | .esp_ota_end _ | .esp_ota_abort => true
  | _ => false

/-- All bytes received were written in their order, as many as announced and each with
success, before the update was ended with success. -/
structure FirmwareImage (content_len : Nat) (calls : List OtaCall) : Prop where
  written : otaWritten calls = received calls
  length : (otaWritten calls).length = content_len
  succeeded : ∀ data err, .esp_ota_write data err ∈ calls → err = ESP_OK
  ended : ∃ before err, calls = before ++ [.esp_ota_end ESP_OK, .esp_ota_set_boot_partition err]

/-- The bytes received were written piece by piece with success, from the start of the
erased partition on, and fill it. -/
structure WebImage (size : Nat) (calls : List OtaCall) : Prop where
  erased : .esp_partition_erase_range 0 size ESP_OK ∈ calls
  written : ∃ pieces : List (List UInt8), pieces.flatten = received calls ∧
    partitionWrites calls = (placed 0 pieces).map fun piece => (piece, ESP_OK)
  length : (received calls).length = size

/-- So the partition holds what was received. -/
theorem WebImage.content {size : Nat} {calls : List OtaCall} (himage : WebImage size calls)
    (memory : Nat → UInt8) :
    stores memory ((partitionWrites calls).map (·.1)) = store memory 0 (received calls) := by
  obtain ⟨pieces, hpieces, hwrites⟩ := himage.written
  rw [hwrites, List.map_map, ← hpieces, ← stores_placed]
  congr 1
  exact List.map_id _

theorem toInt_of_le {n size : Nat} (hle : n ≤ size) (hsize : size < 2147483648) :
    toInt n = n := by
  unfold toInt
  split <;> omega

section

variable {results : OtaResults} {auth : esp_err_t × Option HttpdResp} {content_len : Nat}
  {recvResults : List RecvResult}

/-- The first chunk of a firmware as it was handed to the update. -/
def firstFirmware (results : OtaResults) (content_len : Nat) (data : List UInt8)
    (recvResults : List RecvResult) : Upload where
  err := results.esp_ota_write 0
  offset := data.length
  remaining := content_len - data.length
  results := recvResults
  calls := [.httpd_req_recv data, .esp_ota_begin ESP_OK,
    .esp_ota_write data (results.esp_ota_write 0)]
  waiting := false

/-- An upload is refused before the update begins, waits for its first byte, or goes on
with its first chunk. -/
theorem ota_firmware_post_handler_cases (update_partition : Option esp_partition_t) :
    let o := ota_firmware_post_handler results auth content_len recvResults update_partition
    (o.reply ≠ none ∧
      ∀ call ∈ o.calls, call.moves = true ∨ ∃ err, err ≠ ESP_OK ∧ call = .esp_ota_begin err) ∨
    (o = ⟨[], none⟩ ∧ 0 < content_len ∧ answers recvResults = 0) ∨
    ∃ data rest, data ≠ [] ∧ data.length ≤ content_len ∧
      answers recvResults = answers rest + 1 ∧
      o = otaFirmwareFinish results (uploadLoop (fun _ => .esp_ota_write)
        results.esp_ota_write (firstFirmware results content_len data rest)) := by
  intro o
  simp only [o]
  unfold ota_firmware_post_handler
  split
  · exact .inl ⟨by simp, by simp⟩
  split
  · exact .inl ⟨by simp [refuse], by simp [refuse]⟩
  split
  · exact .inl ⟨by simp [refuse], by simp [refuse]⟩
  case h_2 partition =>
    split
    · exact .inl ⟨by simp [refuse], by simp [refuse]⟩
    case isFalse hsize =>
      push Not at hsize
      dsimp only
      rw [toInt_of_le hsize.2 partition.in_flash]
      split
      case h_1 hrecv => exact .inr (.inl ⟨rfl, by omega, answers_of_none hrecv⟩)
      case h_2 => exact .inl ⟨by simp [refuse], by simp [refuse]⟩
      case h_3 b data rest hrecv =>
        split
        · exact .inl ⟨by simp [refuse], by simp [refuse]⟩
        split
        case isTrue hbegin => exact .inl ⟨by simp [refuse], by simp [refuse, hbegin]⟩
        case isFalse hbegin =>
          have hlength := recv_length hrecv
          refine .inr (.inr ⟨b :: data, rest, by simp, by omega, answers_of_some hrecv, ?_⟩)
          rw [not_not.mp hbegin]
          rfl

/-- An update is ended, or given up, once, and only a good one gets to start. -/
theorem otaFirmwareFinish_cases (results : OtaResults) (s : Upload) :
    let o := otaFirmwareFinish results s
    (s.waiting = true ∧ o = ⟨s.calls, none⟩) ∨
    (s.waiting = false ∧ o.reply ≠ none ∧
      ((s.err ≠ ESP_OK ∧ o.calls = s.calls ++ [OtaCall.esp_ota_abort]) ∨
      (∃ err, err ≠ ESP_OK ∧ o.calls = s.calls ++ [OtaCall.esp_ota_end err]) ∨
      ∃ err, s.err = ESP_OK ∧
        o.calls =
          s.calls ++ [OtaCall.esp_ota_end ESP_OK, OtaCall.esp_ota_set_boot_partition err])) := by
  intro o
  simp only [o]
  unfold otaFirmwareFinish
  split
  case isTrue hwaiting => exact .inl ⟨hwaiting, rfl⟩
  case isFalse hwaiting =>
    refine .inr ⟨Bool.eq_false_iff.mpr hwaiting, by simp, ?_⟩
    by_cases herr : s.err = ESP_OK
    · by_cases hend : results.esp_ota_end = ESP_OK
      · exact .inr (.inr ⟨results.esp_ota_set_boot_partition, herr, by simp [herr, hend]⟩)
      · exact .inr (.inl ⟨results.esp_ota_end, hend, by simp [herr, hend]⟩)
    · exact .inl ⟨herr, by simp [herr]⟩

end

section

variable {calls calls' : List OtaCall}

theorem received_append : received (calls ++ calls') = received calls ++ received calls' :=
  List.flatMap_append

theorem otaWritten_append :
    otaWritten (calls ++ calls') = otaWritten calls ++ otaWritten calls' :=
  List.flatMap_append

theorem partitionWrites_append :
    partitionWrites (calls ++ calls') = partitionWrites calls ++ partitionWrites calls' :=
  List.filterMap_append

theorem mem_moves {write : Nat → List UInt8 → EspErr → OtaCall}
    {pieces : List (Nat × List UInt8)} {call : OtaCall} :
    call ∈ moves write pieces ↔
      ∃ piece ∈ pieces, call = .httpd_req_recv piece.2 ∨ call = write piece.1 piece.2 ESP_OK := by
  simp [moves]

theorem received_moves {write : Nat → List UInt8 → EspErr → OtaCall}
    (hwrite : ∀ offset data err, received [write offset data err] = [])
    (pieces : List (Nat × List UInt8)) :
    received (moves write pieces) = (pieces.map (·.2)).flatten := by
  induction pieces with
  | nil => rfl
  | cons piece pieces ih =>
    have hcons : moves write (piece :: pieces) =
        [.httpd_req_recv piece.2] ++ ([write piece.1 piece.2 ESP_OK] ++ moves write pieces) := rfl
    rw [hcons, received_append, received_append, hwrite, ih, List.map_cons, List.flatten_cons]
    simp [received]

theorem otaWritten_moves (pieces : List (Nat × List UInt8)) :
    otaWritten (moves (fun _ => .esp_ota_write) pieces) = (pieces.map (·.2)).flatten := by
  induction pieces with
  | nil => rfl
  | cons piece pieces ih =>
    have hcons : moves (fun _ => .esp_ota_write) (piece :: pieces) =
        [.httpd_req_recv piece.2, .esp_ota_write piece.2 ESP_OK] ++
          moves (fun _ => .esp_ota_write) pieces := rfl
    rw [hcons, otaWritten_append, ih, List.map_cons, List.flatten_cons]
    simp [otaWritten]

theorem partitionWrites_moves (pieces : List (Nat × List UInt8)) :
    partitionWrites (moves .esp_partition_write pieces) = pieces.map fun piece =>
      (piece, ESP_OK) := by
  induction pieces with
  | nil => rfl
  | cons piece pieces ih =>
    have hcons : moves .esp_partition_write (piece :: pieces) =
        [.httpd_req_recv piece.2, .esp_partition_write piece.1 piece.2 ESP_OK] ++
          moves .esp_partition_write pieces := rfl
    rw [hcons, partitionWrites_append, ih]
    rfl

/-- Calls that only move data end no update and start none. -/
theorem countP_finishes_of_moves (hmoves : ∀ call ∈ calls, call.moves = true) :
    calls.countP OtaCall.finishes = 0 := by
  rw [List.countP_eq_zero]
  intro call hcall hfinishes
  have hmove := hmoves call hcall
  cases call <;> cases hmove <;> cases hfinishes

end

/-- A firmware that the loop has moved is complete. -/
theorem firmwareImage_of_moved {calls : List OtaCall} {data : List UInt8}
    {pieces : List (List UInt8)} {content_len : Nat} {err : EspErr}
    (hcalls : calls =
      [OtaCall.httpd_req_recv data, OtaCall.esp_ota_begin ESP_OK,
        OtaCall.esp_ota_write data ESP_OK] ++
      moves (fun _ => OtaCall.esp_ota_write) (placed data.length pieces) ++
      [OtaCall.esp_ota_end ESP_OK, OtaCall.esp_ota_set_boot_partition err])
    (hlength : data.length + pieces.flatten.length = content_len) :
    FirmwareImage content_len calls := by
  have hwritten : otaWritten calls = data ++ pieces.flatten := by
    rw [hcalls, otaWritten_append, otaWritten_append, otaWritten_moves, placed_flatten]
    simp [otaWritten]
  have hreceived : received calls = data ++ pieces.flatten := by
    rw [hcalls, received_append, received_append,
      received_moves (fun _ _ _ => rfl), placed_flatten]
    simp [received]
  refine ⟨hwritten.trans hreceived.symm, ?_, ?_, ⟨_, err, hcalls⟩⟩
  · rw [hwritten, List.length_append, hlength]
  · intro data' err' hwrite
    rw [hcalls] at hwrite
    simp only [List.mem_append, mem_moves] at hwrite
    obtain (hfirst | ⟨_, _, hmoved | hmoved⟩) | hlast := hwrite
    · simp only [List.mem_cons, List.not_mem_nil, or_false, reduceCtorEq, false_or,
        OtaCall.esp_ota_write.injEq] at hfirst
      exact hfirst.2
    · cases hmoved
    · cases hmoved
      rfl
    · simp at hlast

section

variable {results : OtaResults} {content_len : Nat} {data : List UInt8}
  {recvResults : List RecvResult} {s : Upload}

/-- The loop behind the first chunk neither ends the update nor sets the boot partition. -/
theorem firmware_loop_unfinished
    (hloop : Loop (fun _ => .esp_ota_write) results.esp_ota_write
      (firstFirmware results content_len data recvResults) s) :
    s.calls.countP OtaCall.finishes = 0 ∧ ∀ err, .esp_ota_set_boot_partition err ∉ s.calls := by
  obtain ⟨moved, hcalls, hmoves⟩ := hloop.only_moves fun _ _ _ => rfl
  constructor
  · rw [hcalls, List.countP_append, countP_finishes_of_moves hmoves]
    rfl
  · intro err hboot
    rw [hcalls, List.mem_append] at hboot
    obtain hboot | hboot := hboot
    · simp [firstFirmware] at hboot
    · cases hmoves _ hboot

/-- Where it ends well, the firmware that it has moved is complete. -/
theorem firmwareImage_of_loop
    (hloop : Loop (fun _ => .esp_ota_write) results.esp_ota_write
      (firstFirmware results content_len data recvResults) s)
    (hlength : data.length ≤ content_len) (hok : s.err = ESP_OK) (hwaiting : s.waiting = false)
    (err : EspErr) :
    FirmwareImage content_len
      (s.calls ++ [.esp_ota_end ESP_OK, .esp_ota_set_boot_partition err]) := by
  have hfirst : results.esp_ota_write 0 = ESP_OK := by
    by_contra hfailed
    rw [hloop.stopped hfailed] at hok
    exact hfailed hok
  have hremaining : (0 : Int) ≤ content_len - data.length := by omega
  obtain ⟨pieces, hpieces, hsum⟩ := hloop.exact hremaining hok hwaiting
  simp only [firstFirmware, hfirst] at hpieces hsum
  exact firmwareImage_of_moved (by rw [hpieces]) (by omega)

end

/-- The boot partition is set for a complete firmware only, an update that has begun is
ended or given up once, and the handler waits for fewer results than bytes. -/
theorem ota_firmware_exact (results : OtaResults) (auth : esp_err_t × Option HttpdResp)
    (content_len : Nat) (recvResults : List RecvResult)
    (update_partition : Option esp_partition_t) :
    let o := ota_firmware_post_handler results auth content_len recvResults update_partition
    (∀ err, .esp_ota_set_boot_partition err ∈ o.calls → FirmwareImage content_len o.calls) ∧
    (.esp_ota_begin ESP_OK ∈ o.calls → o.reply ≠ none →
      o.calls.countP OtaCall.finishes = 1) ∧
    (o.reply = none → answers recvResults < content_len) := by
  intro o
  obtain ⟨hreply, hbefore⟩ | ⟨hwaits, hlength, hanswers⟩ |
      ⟨data, rest, hdata, hlength, hanswers, hfinish⟩ :=
    @ota_firmware_post_handler_cases results auth content_len recvResults update_partition
  · -- refused before the update begins
    refine ⟨fun err hboot => ?_, fun hbegin => ?_, fun hnone => absurd hnone hreply⟩
    · obtain hmove | ⟨_, _, hcall⟩ := hbefore _ hboot
      · cases hmove
      · cases hcall
    · obtain hmove | ⟨err, herr, hcall⟩ := hbefore _ hbegin
      · cases hmove
      · cases hcall
        exact absurd rfl herr
  · have ho : o = ⟨[], none⟩ := hwaits
    rw [ho]
    exact ⟨fun err hboot => (by cases hboot), fun hbegin => (by cases hbegin), fun _ => by omega⟩
  · have hloop := uploadLoop_loops (fun _ => .esp_ota_write) results.esp_ota_write
      (firstFirmware results content_len data rest)
    generalize uploadLoop (fun _ => .esp_ota_write) results.esp_ota_write
      (firstFirmware results content_len data rest) = s at hfinish hloop
    obtain ⟨hunfinished, hunset⟩ := firmware_loop_unfinished hloop
    have ho : o = otaFirmwareFinish results s := hfinish
    obtain ⟨hwaiting, houtcome⟩ | ⟨hwaiting, hreply, ⟨_, hend⟩ | ⟨err, _, hend⟩ |
        ⟨err, hok, hend⟩⟩ := otaFirmwareFinish_cases results s
    · rw [ho, houtcome]
      have hshort := hloop.waits_short hwaiting rfl
      simp only [firstFirmware] at hshort
      have hpositive := List.length_pos_iff.mpr hdata
      exact ⟨fun err hboot => absurd hboot (hunset err), fun _ hnone => absurd rfl hnone,
        fun _ => by omega⟩
    · rw [ho, hend, List.countP_append, hunfinished]
      exact ⟨fun err hboot => absurd hboot (by simp [hunset]), fun _ _ => rfl,
        fun hnone => absurd hnone hreply⟩
    · rw [ho, hend, List.countP_append, hunfinished]
      exact ⟨fun err hboot => absurd hboot (by simp [hunset]), fun _ _ => rfl,
        fun hnone => absurd hnone hreply⟩
    · refine ⟨fun _ _ => ?_, fun _ _ => ?_, fun hnone => absurd (ho ▸ hnone) hreply⟩
      · rw [ho, hend]
        exact firmwareImage_of_loop hloop (by omega) hok hwaiting err
      · rw [ho, hend, List.countP_append, hunfinished]
        rfl

/-- The first chunk of a web image after the partition was erased. -/
def firstWebImage (results : OtaResults) (size : Nat) (data : List UInt8)
    (recvResults : List RecvResult) : Upload where
  err := results.esp_partition_write 0
  offset := data.length
  remaining := size - data.length
  results := recvResults
  calls := [.httpd_req_recv data, .esp_partition_erase_range 0 size ESP_OK,
    .esp_partition_write 0 data (results.esp_partition_write 0)]
  waiting := false

/-- After an error the loop is left at once, and no success is reported. -/
theorem otaWwwFinish_failed {results : OtaResults} {s : Upload} {message : UploadMessage}
    (herr : s.err ≠ ESP_OK) :
    (otaWwwFinish (uploadLoop .esp_partition_write results.esp_partition_write s)).reply ≠
      some (.json_response true message) := by
  rw [(uploadLoop_loops .esp_partition_write results.esp_partition_write s).stopped herr,
    otaWwwFinish]
  split
  · simp
  · simp [herr]

/-- Success is reported of an upload whose first chunk was written only. -/
theorem ota_www_post_handler_success {results : OtaResults}
    {auth : esp_err_t × Option HttpdResp} {content_len : Nat} {recvResults : List RecvResult}
    {www_partition : Option esp_partition_t} {message : UploadMessage} {o : UploadOutcome}
    (ho : ota_www_post_handler results auth content_len recvResults www_partition = o)
    (hsuccess : o.reply = some (.json_response true message)) :
    ∃ partition data rest, www_partition = some partition ∧ data.length ≤ partition.size ∧
      results.esp_partition_write 0 = ESP_OK ∧
      o = otaWwwFinish (uploadLoop .esp_partition_write results.esp_partition_write
        (firstWebImage results partition.size data rest)) := by
  unfold ota_www_post_handler at ho
  split at ho
  · subst ho
    cases hsuccess
  split at ho
  · subst ho
    cases hsuccess
  case h_2 partition =>
    split at ho
    · subst ho
      cases hsuccess
    case isFalse hsize =>
      split at ho
      · subst ho
        cases hsuccess
      dsimp only at ho
      rw [not_not.mp hsize, toInt_of_le (le_refl _) partition.in_flash] at ho
      split at ho
      · subst ho
        cases hsuccess
      · subst ho
        cases hsuccess
      case h_3 b data rest hrecv =>
        split at ho
        · subst ho
          cases hsuccess
        have hlength := recv_length hrecv
        subst ho
        by_cases herased : results.esp_partition_erase_range = ESP_OK
        · by_cases hwritten : results.esp_partition_write 0 = ESP_OK
          · refine ⟨partition, b :: data, rest, rfl, by omega, hwritten, ?_⟩
            rw [if_neg (not_not.mpr herased), if_neg (not_not.mpr hwritten), herased]
            rfl
          · rw [if_neg (not_not.mpr herased), if_pos hwritten] at hsuccess
            exact absurd hsuccess (otaWwwFinish_failed hwritten)
        · rw [if_pos herased] at hsuccess
          exact absurd hsuccess (otaWwwFinish_failed herased)

/-- Success is reported for an image that fills the partition only. -/
theorem ota_www_exact (results : OtaResults) (auth : esp_err_t × Option HttpdResp)
    (content_len : Nat) (recvResults : List RecvResult) (www_partition : Option esp_partition_t)
    (message : UploadMessage) :
    let o := ota_www_post_handler results auth content_len recvResults www_partition
    o.reply = some (.json_response true message) →
      ∃ partition, www_partition = some partition ∧ WebImage partition.size o.calls := by
  intro o hsuccess
  obtain ⟨partition, data, rest, hpartition, hlength, hfirst, hfinish⟩ :=
    ota_www_post_handler_success rfl hsuccess
  have ho : o = _ := hfinish
  have hloop := uploadLoop_loops .esp_partition_write results.esp_partition_write
    (firstWebImage results partition.size data rest)
  generalize uploadLoop .esp_partition_write results.esp_partition_write
    (firstWebImage results partition.size data rest) = s at ho hloop
  have hended : s.waiting = false ∧ s.err = ESP_OK ∧ o.calls = s.calls := by
    rw [ho] at hsuccess ⊢
    unfold otaWwwFinish at hsuccess ⊢
    split at hsuccess
    case isTrue => cases hsuccess
    case isFalse hwaiting =>
      rw [if_neg hwaiting]
      by_cases herr : s.err = ESP_OK
      · exact ⟨Bool.eq_false_iff.mpr hwaiting, herr, rfl⟩
      · simp [herr] at hsuccess
  obtain ⟨hwaiting, hok, hcalls⟩ := hended
  have hremaining : (0 : Int) ≤ partition.size - data.length := by omega
  obtain ⟨pieces, hpieces, hsum⟩ := hloop.exact hremaining hok hwaiting
  simp only [firstWebImage, hfirst] at hpieces hsum
  have hreceived : received o.calls = (data :: pieces).flatten := by
    rw [hcalls, hpieces, received_append, received_moves (fun _ _ _ => rfl), placed_flatten]
    simp [received]
  refine ⟨partition, hpartition, by rw [hcalls, hpieces]; simp, ⟨data :: pieces,
    hreceived.symm, ?_⟩, ?_⟩
  · rw [hcalls, hpieces, partitionWrites_append, partitionWrites_moves]
    simp [partitionWrites, placed]
  · rw [hreceived, List.flatten_cons, List.length_append]
    omega

/-- Both handlers move an image as it is or do not take it. -/
theorem uploads_exact (results : OtaResults) (auth : esp_err_t × Option HttpdResp)
    (content_len : Nat) (recvResults : List RecvResult)
    (update_partition www_partition : Option esp_partition_t) :
    let firmware := ota_firmware_post_handler results auth content_len recvResults update_partition
    let www := ota_www_post_handler results auth content_len recvResults www_partition
    (∀ err, .esp_ota_set_boot_partition err ∈ firmware.calls →
      FirmwareImage content_len firmware.calls) ∧
    (.esp_ota_begin ESP_OK ∈ firmware.calls → firmware.reply ≠ none →
      firmware.calls.countP OtaCall.finishes = 1) ∧
    (firmware.reply = none → answers recvResults < content_len) ∧
    (∀ message, www.reply = some (.json_response true message) →
      ∃ partition, www_partition = some partition ∧ WebImage partition.size www.calls) := by
  obtain ⟨hboot, hfinishes, hwaits⟩ :=
    ota_firmware_exact results auth content_len recvResults update_partition
  exact ⟨hboot, hfinishes, hwaits,
    ota_www_exact results auth content_len recvResults www_partition⟩

end rtkbase.web_server.ota
