import RTKBase.Lib.Lts
import RTKBase.WebServer.UploadExact

namespace rtkbase.web_server.ota

open lib.lts lib.placement nvs_config nvs_config.EspErr

/-- The partitions of the partition table that hold a firmware. -/
inductive OtaSlot where
  | ota_0
  | ota_1
deriving DecidableEq

/-- Both are as large. -/
def OtaSlot.partition : esp_partition_t where
  size := 1507328
  in_flash := by decide

/-- Of two slots the next one is the other one, whichever runs. -/
def esp_ota_get_next_update_partition : OtaSlot → OtaSlot
  | .ota_0 => .ota_1
  | .ota_1 => .ota_0

theorem next_update_partition_ne (running : OtaSlot) :
    running ≠ esp_ota_get_next_update_partition running := by
  cases running <;> decide

/-- What is recorded of the image in a slot, for the rollback to the other one. -/
inductive esp_ota_img_states_t where
  | ESP_OTA_IMG_NEW
  | ESP_OTA_IMG_PENDING_VERIFY
  | ESP_OTA_IMG_VALID
  | ESP_OTA_IMG_INVALID
  | ESP_OTA_IMG_ABORTED
  | ESP_OTA_IMG_UNDEFINED
deriving DecidableEq

/-- The flash under the functions of ESP-IDF, which an upload calls for the slot that it
updates: what a slot holds, which one is to boot, whether the bootloader takes an image,
and what the functions are documented to do. Of a call that fails only this is known, that
it does not touch the other slot, nor what is to boot unless it was to set it. The
bootloader starts a slot with an image that it takes; it may change what is recorded of the
images, and with it what is to boot, as it does to go back from an image that was never
marked valid. -/
structure EspOta (Flash : Type) where
  content : Flash → OtaSlot → List UInt8
  boot : Flash → OtaSlot
  imageValid : List UInt8 → Bool
  call : OtaSlot → Flash → OtaCall → Flash
  bootloader : Flash → Option (OtaSlot × Flash)
  esp_ota_get_state_partition : Flash → OtaSlot → Option esp_ota_img_states_t
  esp_ota_mark_app_valid_cancel_rollback : OtaSlot → Flash → EspErr → Flash
  other_kept : ∀ {slot update : OtaSlot} (flash : Flash) (c : OtaCall), slot ≠ update →
    content (call update flash c) slot = content flash slot
  received : ∀ (update : OtaSlot) (flash : Flash) (data : List UInt8),
    content (call update flash (.httpd_req_recv data)) update = content flash update
  begun : ∀ (update : OtaSlot) (flash : Flash),
    content (call update flash (.esp_ota_begin ESP_OK)) update = []
  written : ∀ (update : OtaSlot) (flash : Flash) (data : List UInt8),
    content (call update flash (.esp_ota_write data ESP_OK)) update = content flash update ++ data
  ended : ∀ (update : OtaSlot) (flash : Flash),
    content (call update flash (.esp_ota_end ESP_OK)) update = content flash update
  boot_content : ∀ (update : OtaSlot) (flash : Flash) (err : EspErr),
    content (call update flash (.esp_ota_set_boot_partition err)) update = content flash update
  erased_elsewhere : ∀ (update : OtaSlot) (flash : Flash) (start size : Nat) (err : EspErr),
    content (call update flash (.esp_partition_erase_range start size err)) update =
      content flash update
  written_elsewhere : ∀ (update : OtaSlot) (flash : Flash) (offset : Nat) (data : List UInt8)
    (err : EspErr),
    content (call update flash (.esp_partition_write offset data err)) update =
      content flash update
  boot_kept : ∀ (update : OtaSlot) (flash : Flash) (c : OtaCall),
    (∀ err, c ≠ .esp_ota_set_boot_partition err) → boot (call update flash c) = boot flash
  boot_failed : ∀ (update : OtaSlot) (flash : Flash) (err : EspErr),
    boot (call update flash (.esp_ota_set_boot_partition err)) = boot flash ∨
      boot (call update flash (.esp_ota_set_boot_partition err)) = update
  boot_set : ∀ (update : OtaSlot) (flash : Flash),
    boot (call update flash (.esp_ota_set_boot_partition ESP_OK)) = update
  booted : ∀ {flash flash' : Flash} {slot : OtaSlot}, bootloader flash = some (slot, flash') →
    imageValid (content flash slot) = true ∧ content flash' = content flash
  marked_content : ∀ (running : OtaSlot) (flash : Flash) (err : EspErr),
    content (esp_ota_mark_app_valid_cancel_rollback running flash err) = content flash
  marked_boot : ∀ (running : OtaSlot) (flash : Flash),
    boot (esp_ota_mark_app_valid_cancel_rollback running flash ESP_OK) = boot flash

/-- A request as a handler sees it, with what the calls into ESP-IDF return, and the number
of its calls that are made before the power is lost. -/
structure UploadRequest where
  results : OtaResults
  auth : esp_err_t × Option HttpdResp
  content_len : Nat
  recvResults : List RecvResult
  done : Nat

/-- The device between two requests. -/
structure OtaDevice (Flash : Type) where
  flash : Flash
  running : OtaSlot
  /-- The power is lost, or a handler waits. -/
  stopped : Bool
  /-- What the slot that runs held when it was started. -/
  image : List UInt8
  /-- What was to boot then. -/
  bootBefore : OtaSlot
  /-- The uploads of firmware since: how many bytes each announced, and its calls. -/
  session : List (Nat × List OtaCall)
  /-- A call that was to mark the image valid has failed since. -/
  markFailed : Bool

inductive OtaAction where
  | ota_firmware_post_handler (request : UploadRequest)
  | ota_www_post_handler (request : UploadRequest) (www_partition : Option esp_partition_t)
  /-- At the end of `app_main`, when the web server answers already. -/
  | ota_mark_running_app_valid (err : EspErr)
  | restart

section

variable {Flash : Type} (api : EspOta Flash)

/-- The calls of a handler that are made. -/
def UploadRequest.made (request : UploadRequest) (o : UploadOutcome) : List OtaCall :=
  o.calls.take request.done

/-- The flash after some calls for the slot that does not run. -/
def OtaDevice.after (s : OtaDevice Flash) (calls : List OtaCall) : Flash :=
  calls.foldl (api.call (esp_ota_get_next_update_partition s.running)) s.flash

/-- The handler does not answer. -/
def UploadRequest.cut (request : UploadRequest) (o : UploadOutcome) : Bool :=
  o.reply.isNone || decide (request.done < o.calls.length)

/-- The device when a slot has been started. -/
def otaStart (flash : Flash) (slot : OtaSlot) : OtaDevice Flash where
  flash := flash
  running := slot
  stopped := false
  image := api.content flash slot
  bootBefore := api.boot flash
  session := []
  markFailed := false

/-- Without this call the bootloader goes back to the other slot at the next start. -/
def ota_mark_running_app_valid (running : OtaSlot) (flash : Flash) (err : EspErr) : Flash :=
  if api.esp_ota_get_state_partition flash running = some .ESP_OTA_IMG_PENDING_VERIFY then
    api.esp_ota_mark_app_valid_cancel_rollback running flash err
  else flash

def otaStep (s : OtaDevice Flash) : OtaAction → Option (OtaDevice Flash)
  | .ota_firmware_post_handler request =>
    let o := ota.ota_firmware_post_handler request.results request.auth request.content_len
      request.recvResults (some OtaSlot.partition)
    if s.stopped then none
    else some { s with
      flash := s.after api (request.made o)
      stopped := request.cut o
      session := s.session ++ [(request.content_len, request.made o)] }
  | .ota_www_post_handler request www_partition =>
    let o := ota.ota_www_post_handler request.results request.auth request.content_len
      request.recvResults www_partition
    if s.stopped then none
    else some { s with flash := s.after api (request.made o), stopped := request.cut o }
  | .ota_mark_running_app_valid err =>
    if s.stopped then none
    else some { s with
      flash := ota.ota_mark_running_app_valid api s.running s.flash err
      markFailed := s.markFailed || decide (err ≠ ESP_OK) }
  | .restart => (api.bootloader s.flash).map fun (slot, flash) => otaStart api flash slot

end

/-- The calls of an upload of firmware, maybe cut short: it has not come to the flash, it has
begun to update the slot but does not set the boot partition, or it is complete. -/
inductive FirmwareCalls (content_len : Nat) : List OtaCall → Prop where
  | untouched {calls : List OtaCall} (hcalls : ∀ c ∈ calls, ∃ data, c = .httpd_req_recv data) :
      FirmwareCalls content_len calls
  | torn {data : List UInt8} {err : EspErr} {rest : List OtaCall}
      (hunset : ∀ err', .esp_ota_set_boot_partition err' ∉ rest) :
      FirmwareCalls content_len (.httpd_req_recv data :: .esp_ota_begin err :: rest)
  | complete {data : List UInt8} {pieces : List (List UInt8)} {err : EspErr}
      (hlength : data.length + pieces.flatten.length = content_len) :
      FirmwareCalls content_len (.httpd_req_recv data :: .esp_ota_begin ESP_OK ::
        (.esp_ota_write data ESP_OK :: moves (fun _ => .esp_ota_write) (placed data.length pieces) ++
          [.esp_ota_end ESP_OK] ++ [.esp_ota_set_boot_partition err]))

section

variable {content_len : Nat} {calls : List OtaCall}

theorem boot_not_mem_moves (err : EspErr) (pieces : List (Nat × List UInt8)) :
    .esp_ota_set_boot_partition err ∉ moves (fun _ => .esp_ota_write) pieces := by
  simp [mem_moves]

/-- An upload that loses the power is one that is cut short. -/
theorem FirmwareCalls.take (hcalls : FirmwareCalls content_len calls) (done : Nat) :
    FirmwareCalls content_len (calls.take done) := by
  cases hcalls with
  | untouched hcalls => exact .untouched fun c hc => hcalls c (List.mem_of_mem_take hc)
  | torn hunset =>
    match done with
    | 0 => exact .untouched (by simp)
    | 1 => exact .untouched (by simp)
    | done + 2 =>
      simp only [List.take_succ_cons]
      exact .torn fun err' hboot => hunset err' (List.mem_of_mem_take hboot)
  | @complete data pieces err hlength =>
    match done with
    | 0 => exact .untouched (by simp)
    | 1 => exact .untouched (by simp)
    | done + 2 =>
      simp only [List.take_succ_cons]
      generalize hbody : OtaCall.esp_ota_write data ESP_OK ::
        moves (fun _ => .esp_ota_write) (placed data.length pieces) ++ [.esp_ota_end ESP_OK] = body
      have hunset : ∀ err', .esp_ota_set_boot_partition err' ∉ body := by
        intro err'
        simp [← hbody, boot_not_mem_moves]
      by_cases hdone : done ≤ body.length
      · rw [List.take_append_of_le_length hdone]
        exact .torn fun err' hboot => hunset err' (List.mem_of_mem_take hboot)
      · rw [List.take_of_length_le (by simp; omega), ← hbody]
        exact .complete hlength

end

/-- The calls that the loop adds have whatever the bytes that it receives and its writes
have. -/
theorem Loop.adds {write : Nat → List UInt8 → EspErr → OtaCall} {written : Nat → EspErr}
    {s s' : Upload} {P : OtaCall → Prop} (hloop : Loop write written s s')
    (hrecv : ∀ data, P (.httpd_req_recv data))
    (hwrite : ∀ offset data err, P (write offset data err)) :
    ∃ calls, s'.calls = s.calls ++ calls ∧ ∀ c ∈ calls, P c := by
  induction hloop with
  | done | waits | fails => exact ⟨[], (List.append_nil _).symm, by simp⟩
  | refused => exact ⟨_, rfl, by simp [hrecv, hwrite]⟩
  | next _ _ _ _ _ ih =>
    obtain ⟨calls, hcalls, hadded⟩ := ih
    refine ⟨_, hcalls.trans (List.append_assoc _ _ _), ?_⟩
    simpa [hrecv, hwrite] using hadded

section

variable {results : OtaResults} {content_len : Nat} {data : List UInt8}
  {recvResults : List RecvResult} {s : Upload}

/-- The calls behind the first chunk, when the update has begun. -/
theorem otaFirmwareFinish_calls (hlength : data.length ≤ content_len)
    (hloop : Loop (fun _ => .esp_ota_write) results.esp_ota_write
      (firstFirmware results content_len data recvResults) s) :
    FirmwareCalls content_len (otaFirmwareFinish results s).calls := by
  obtain ⟨added, hadded, hunset⟩ := hloop.adds
    (P := fun c => ∀ err, c ≠ .esp_ota_set_boot_partition err) (by simp) (by simp)
  have hadded : s.calls = .httpd_req_recv data :: .esp_ota_begin ESP_OK ::
      .esp_ota_write data (results.esp_ota_write 0) :: added := hadded
  have hnotin : ∀ err, .esp_ota_set_boot_partition err ∉ added :=
    fun err hboot => hunset _ hboot err rfl
  obtain ⟨_, houtcome⟩ | ⟨hwaiting, _, ⟨_, hend⟩ | ⟨err, _, hend⟩ | ⟨err, hok, hend⟩⟩ :=
    otaFirmwareFinish_cases results s
  · rw [houtcome, hadded]
    exact .torn (by simp [hnotin])
  · rw [hend, hadded]
    exact .torn (by simp [hnotin])
  · rw [hend, hadded]
    exact .torn (by simp [hnotin])
  · have hfirst : results.esp_ota_write 0 = ESP_OK := by
      by_contra hfailed
      rw [hloop.stopped hfailed] at hok
      exact hfailed hok
    have hremaining : (0 : Int) ≤ content_len - data.length := by omega
    obtain ⟨pieces, hpieces, hsum⟩ := hloop.exact hremaining hok hwaiting
    have hsum : (pieces.flatten.length : Int) = content_len - data.length := hsum
    rw [hend, hpieces, firstFirmware, hfirst]
    have hcomplete := @FirmwareCalls.complete content_len data pieces err (by omega)
    simpa using hcomplete

end

/-- What the handler calls, it calls in this order. -/
theorem ota_firmware_calls (results : OtaResults) (auth : esp_err_t × Option HttpdResp)
    (content_len : Nat) (recvResults : List RecvResult)
    (update_partition : Option esp_partition_t) :
    FirmwareCalls content_len
      (ota_firmware_post_handler results auth content_len recvResults update_partition).calls := by
  unfold ota_firmware_post_handler
  split
  · exact .untouched (by simp)
  split
  · exact .untouched (by simp [refuse])
  split
  · exact .untouched (by simp [refuse])
  case h_2 partition =>
    split
    · exact .untouched (by simp [refuse])
    case isFalse hsize =>
      push Not at hsize
      dsimp only
      rw [toInt_of_le hsize.2 partition.in_flash]
      split
      · exact .untouched (by simp)
      · exact .untouched (by simp [refuse])
      case h_3 b data rest hrecv =>
        split
        · exact .untouched (by simp [refuse])
        split
        case isTrue => exact .torn (by simp)
        case isFalse hbegin =>
          have hlength := recv_length hrecv
          rw [not_not.mp hbegin]
          exact otaFirmwareFinish_calls (by omega) (uploadLoop_loops _ _
            (firstFirmware results content_len (b :: data) rest))

/-- A call for the partition of the web image. -/
def OtaCall.Elsewhere (c : OtaCall) : Prop :=
  (∃ data, c = .httpd_req_recv data) ∨
    (∃ start size err, c = .esp_partition_erase_range start size err) ∨
    ∃ offset data err, c = .esp_partition_write offset data err

/-- The other handler has nothing to do with the slots. -/
theorem ota_www_calls (results : OtaResults) (auth : esp_err_t × Option HttpdResp)
    (content_len : Nat) (recvResults : List RecvResult) (www_partition : Option esp_partition_t) :
    ∀ c ∈ (ota_www_post_handler results auth content_len recvResults www_partition).calls,
      c.Elsewhere := by
  have hfinish : ∀ s : Upload, (∀ c ∈ s.calls, c.Elsewhere) →
      ∀ c ∈ (otaWwwFinish
        (uploadLoop .esp_partition_write results.esp_partition_write s)).calls, c.Elsewhere := by
    intro s hbefore
    obtain ⟨added, hadded, helsewhere⟩ :=
      (uploadLoop_loops .esp_partition_write results.esp_partition_write s).adds
        (P := OtaCall.Elsewhere) (fun data => .inl ⟨data, rfl⟩)
        (fun offset data err => .inr (.inr ⟨offset, data, err, rfl⟩))
    have hcalls : ∀ s' : Upload, (otaWwwFinish s').calls = s'.calls := by
      intro s'
      unfold otaWwwFinish
      split <;> rfl
    rw [hcalls, hadded]
    intro c hc
    rcases List.mem_append.mp hc with hc | hc
    · exact hbefore c hc
    · exact helsewhere c hc
  unfold ota_www_post_handler
  split
  · simp
  split
  · simp [refuse]
  split
  · simp [refuse]
  split
  · simp [refuse]
  dsimp only
  split
  · simp
  · simp [refuse]
  split
  · simp [refuse, OtaCall.Elsewhere]
  apply hfinish
  split
  · simp [OtaCall.Elsewhere]
  · split <;> simp [OtaCall.Elsewhere]

section

variable {Flash : Type} (api : EspOta Flash) (update : OtaSlot)

/-- Whatever is called for one slot, the other one keeps what it holds. -/
theorem EspOta.calls_other_kept {slot : OtaSlot} (hslot : slot ≠ update) (calls : List OtaCall)
    (flash : Flash) :
    api.content (calls.foldl (api.call update) flash) slot = api.content flash slot := by
  induction calls generalizing flash with
  | nil => rfl
  | cons c rest ih => rw [List.foldl_cons, ih, api.other_kept flash c hslot]

theorem EspOta.calls_boot_kept {calls : List OtaCall}
    (hunset : ∀ err, .esp_ota_set_boot_partition err ∉ calls) (flash : Flash) :
    api.boot (calls.foldl (api.call update) flash) = api.boot flash := by
  induction calls generalizing flash with
  | nil => rfl
  | cons c rest ih =>
    have hrest : ∀ err, .esp_ota_set_boot_partition err ∉ rest :=
      fun err hmem => hunset err (List.mem_cons_of_mem _ hmem)
    have hc : ∀ err, c ≠ .esp_ota_set_boot_partition err := by
      rintro err rfl
      exact hunset err (List.mem_cons_self ..)
    rw [List.foldl_cons, ih hrest, api.boot_kept update flash c hc]

/-- What is to boot is what was, or the slot that is updated. -/
theorem EspOta.calls_boot_or (calls : List OtaCall) (flash : Flash) :
    api.boot (calls.foldl (api.call update) flash) = api.boot flash ∨
      api.boot (calls.foldl (api.call update) flash) = update := by
  induction calls generalizing flash with
  | nil => exact .inl rfl
  | cons c rest ih =>
    rw [List.foldl_cons]
    refine (ih (api.call update flash c)).elim (fun hrest => ?_) .inr
    rw [hrest]
    by_cases hset : ∃ err, c = .esp_ota_set_boot_partition err
    · obtain ⟨err, rfl⟩ := hset
      exact api.boot_failed update flash err
    · push Not at hset
      exact .inl (api.boot_kept update flash c hset)

theorem EspOta.calls_elsewhere {calls : List OtaCall} (helsewhere : ∀ c ∈ calls, c.Elsewhere)
    (flash : Flash) :
    api.content (calls.foldl (api.call update) flash) update = api.content flash update := by
  induction calls generalizing flash with
  | nil => rfl
  | cons c rest ih =>
    rw [List.foldl_cons, ih fun c' hc' => helsewhere c' (List.mem_cons_of_mem _ hc')]
    obtain ⟨data, rfl⟩ | ⟨start, size, err, rfl⟩ | ⟨offset, data, err, rfl⟩ :=
      helsewhere c (List.mem_cons_self ..)
    · exact api.received update flash data
    · exact api.erased_elsewhere update flash start size err
    · exact api.written_elsewhere update flash offset data err

/-- The slot gets the pieces that are moved. -/
theorem EspOta.calls_moves (pieces : List (Nat × List UInt8)) (flash : Flash) :
    api.content ((moves (fun _ => .esp_ota_write) pieces).foldl (api.call update) flash) update =
      api.content flash update ++ (pieces.map (·.2)).flatten := by
  induction pieces generalizing flash with
  | nil => simp [moves]
  | cons piece pieces ih =>
    have hcons : moves (fun _ => .esp_ota_write) (piece :: pieces) =
        [.httpd_req_recv piece.2, .esp_ota_write piece.2 ESP_OK] ++
          moves (fun _ => .esp_ota_write) pieces := rfl
    rw [hcons, List.foldl_append, ih, List.foldl_cons, List.foldl_cons, List.foldl_nil,
      api.written, api.received, List.map_cons, List.flatten_cons, List.append_assoc]

/-- An upload that sets the boot partition leaves the slot with the bytes received, as many
as were announced. -/
theorem FirmwareCalls.stored {content_len : Nat} {calls : List OtaCall} {err : EspErr}
    (hcalls : FirmwareCalls content_len calls) (hboot : .esp_ota_set_boot_partition err ∈ calls)
    (flash : Flash) :
    api.content (calls.foldl (api.call update) flash) update = received calls ∧
      (received calls).length = content_len := by
  cases hcalls with
  | untouched hcalls =>
    obtain ⟨data, hdata⟩ := hcalls _ hboot
    cases hdata
  | torn hunset =>
    simp only [List.mem_cons, reduceCtorEq, false_or] at hboot
    exact absurd hboot (hunset err)
  | @complete data pieces err' hlength =>
    have hreceived : received (.httpd_req_recv data :: .esp_ota_begin ESP_OK ::
        (.esp_ota_write data ESP_OK :: moves (fun _ => .esp_ota_write) (placed data.length pieces) ++
          [.esp_ota_end ESP_OK] ++ [.esp_ota_set_boot_partition err'])) = data ++ pieces.flatten := by
      have hmoves := @received_moves (fun _ => .esp_ota_write) (fun _ _ _ => rfl)
        (placed data.length pieces)
      rw [placed_flatten] at hmoves
      rw [← hmoves]
      simp [received]
    refine ⟨?_, by rw [hreceived, List.length_append, hlength]⟩
    rw [hreceived]
    simp only [List.cons_append, List.foldl_cons, List.foldl_append, List.foldl_nil]
    rw [api.boot_content, api.ended, api.calls_moves, api.written, api.begun, placed_flatten,
      List.nil_append]

end

end rtkbase.web_server.ota
