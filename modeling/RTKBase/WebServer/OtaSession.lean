import RTKBase.WebServer.OtaSlots

namespace rtkbase.web_server.ota

open lib.lts lib.placement nvs_config nvs_config.EspErr

section

variable {Flash : Type} (api : EspOta Flash)

/-- The slot that runs holds the image with which it was started, one that the bootloader
takes; what is to boot is what was, as long as no upload sets it, and the other slot from
the first upload on that sets it with success, unless the call failed that was to mark the
image valid; and after an upload that sets it, with success or not, the other slot holds
all the bytes of that upload, until another one begins to update it. -/
structure Safe (s : OtaDevice Flash) : Prop where
  running : api.content s.flash s.running = s.image
  imageValid : api.imageValid s.image = true
  boot_kept : s.markFailed = false →
    (∀ upload ∈ s.session, ∀ err, .esp_ota_set_boot_partition err ∉ upload.2) →
      api.boot s.flash = s.bootBefore
  boot_set : s.markFailed = false →
    ∀ upload ∈ s.session, .esp_ota_set_boot_partition ESP_OK ∈ upload.2 →
      api.boot s.flash = esp_ota_get_next_update_partition s.running
  stored : ∀ before upload after err, s.session = before ++ upload :: after →
    .esp_ota_set_boot_partition err ∈ upload.2 →
    (∀ later ∈ after, ∀ err', .esp_ota_begin err' ∉ later.2) →
      api.content s.flash (esp_ota_get_next_update_partition s.running) = received upload.2 ∧
        (received upload.2).length = upload.1

variable {api} {s s' : OtaDevice Flash}

theorem Safe.start {flash : Flash} {slot : OtaSlot}
    (hvalid : api.imageValid (api.content flash slot) = true) :
    Safe api (otaStart api flash slot) where
  running := rfl
  imageValid := hvalid
  boot_kept _ _ := rfl
  boot_set _ _ hmem := by cases hmem
  stored before upload after err hsession := by simp [otaStart] at hsession

/-- An upload that sets the boot partition with success sets it to the slot. -/
theorem FirmwareCalls.boot_set {content_len : Nat} {calls : List OtaCall}
    (hcalls : FirmwareCalls content_len calls)
    (hboot : .esp_ota_set_boot_partition ESP_OK ∈ calls) (update : OtaSlot) (flash : Flash) :
    api.boot (calls.foldl (api.call update) flash) = update := by
  cases hcalls with
  | untouched hcalls =>
    obtain ⟨data, hdata⟩ := hcalls _ hboot
    cases hdata
  | torn hunset =>
    simp only [List.mem_cons, reduceCtorEq, false_or] at hboot
    exact absurd hboot (hunset ESP_OK)
  | @complete data pieces err hlength =>
    have herr : err = ESP_OK := by
      simp only [List.mem_cons, List.mem_append, reduceCtorEq, false_or,
        boot_not_mem_moves, List.not_mem_nil, or_false, OtaCall.esp_ota_set_boot_partition.injEq]
        at hboot
      exact hboot.symm
    subst herr
    rw [List.foldl_cons, List.foldl_cons, List.foldl_append]
    exact api.boot_set update _

/-- One that does not begin to update the slot leaves it as it is. -/
theorem FirmwareCalls.untouched_of {content_len : Nat} {calls : List OtaCall}
    (hcalls : FirmwareCalls content_len calls) (hunbegun : ∀ err, .esp_ota_begin err ∉ calls) :
    ∀ c ∈ calls, c.Elsewhere := by
  cases hcalls with
  | untouched hcalls => exact fun c hc => .inl (hcalls c hc)
  | @torn _ err => exact absurd (by simp) (hunbegun err)
  | complete => exact absurd (by simp) (hunbegun ESP_OK)

theorem OtaCall.Elsewhere.unset {calls : List OtaCall} (helsewhere : ∀ c ∈ calls, c.Elsewhere)
    (err : EspErr) : .esp_ota_set_boot_partition err ∉ calls := by
  intro hmem
  simpa [OtaCall.Elsewhere] using helsewhere _ hmem

/-- Calls for the web image change nothing of this. -/
theorem Safe.elsewhere (hsafe : Safe api s) {calls : List OtaCall} (stopped : Bool)
    (helsewhere : ∀ c ∈ calls, c.Elsewhere) :
    Safe api { s with flash := s.after api calls, stopped := stopped } := by
  have hother := api.calls_other_kept _ (next_update_partition_ne s.running) calls s.flash
  have hboot : api.boot (s.after api calls) = api.boot s.flash :=
    api.calls_boot_kept _ (OtaCall.Elsewhere.unset helsewhere) s.flash
  refine ⟨hother.trans hsafe.running, hsafe.imageValid,
    fun hmarked hunset => hboot.trans (hsafe.boot_kept hmarked hunset),
    fun hmarked upload hupload hset => hboot.trans (hsafe.boot_set hmarked upload hupload hset),
    ?_⟩
  intro before upload after err hsession hset hlater
  obtain ⟨hcontent, hlength⟩ := hsafe.stored before upload after err hsession hset hlater
  exact ⟨(api.calls_elsewhere _ helsewhere s.flash).trans hcontent, hlength⟩

/-- And an upload of firmware, cut short or not, keeps it. -/
theorem Safe.upload (hsafe : Safe api s) {content_len : Nat} {calls : List OtaCall}
    (stopped : Bool) (hcalls : FirmwareCalls content_len calls) :
    Safe api { s with
      flash := s.after api calls
      stopped := stopped
      session := s.session ++ [(content_len, calls)] } := by
  have hother := api.calls_other_kept _ (next_update_partition_ne s.running) calls s.flash
  refine ⟨hother.trans hsafe.running, hsafe.imageValid, fun hmarked hunset => ?_,
    fun hmarked upload hupload hset => ?_, ?_⟩
  · have hnew : ∀ err, .esp_ota_set_boot_partition err ∉ calls :=
      hunset _ (List.mem_append_right _ (List.mem_singleton_self _))
    have hbefore := hsafe.boot_kept hmarked fun upload hupload =>
      hunset upload (List.mem_append_left _ hupload)
    exact (api.calls_boot_kept _ hnew s.flash).trans hbefore
  · rcases List.mem_append.mp hupload with hupload | hupload
    · rcases api.calls_boot_or (esp_ota_get_next_update_partition s.running) calls s.flash with
        hboot | hboot
      · exact hboot.trans (hsafe.boot_set hmarked upload hupload hset)
      · exact hboot
    · rw [List.mem_singleton.mp hupload] at hset
      exact hcalls.boot_set hset _ _
  · intro before upload after err hsession hset hlater
    obtain ⟨rfl, rfl, rfl⟩ | ⟨rest, rfl, hbefore⟩ := append_split hsession
    · exact hcalls.stored api _ hset s.flash
    · have hunbegun : ∀ err', .esp_ota_begin err' ∉ calls :=
        hlater _ (List.mem_append_right _ (List.mem_singleton_self _))
      obtain ⟨hcontent, hlength⟩ := hsafe.stored before upload rest err hbefore hset
        fun later hmem => hlater later (List.mem_append_left _ hmem)
      exact ⟨(api.calls_elsewhere _ (hcalls.untouched_of hunbegun) s.flash).trans hcontent,
        hlength⟩

/-- What a slot holds stays when the image is marked valid, and what is to boot when this
succeeds. -/
theorem ota_mark_running_app_valid_kept (running : OtaSlot) (flash : Flash) (err : EspErr) :
    api.content (ota_mark_running_app_valid api running flash err) = api.content flash ∧
      (err = ESP_OK →
        api.boot (ota_mark_running_app_valid api running flash err) = api.boot flash) := by
  unfold ota_mark_running_app_valid
  split
  · refine ⟨api.marked_content running flash err, ?_⟩
    rintro rfl
    exact api.marked_boot running flash
  · exact ⟨rfl, fun _ => rfl⟩

/-- The flash is the other one after some starts: nothing was done to it but what the
bootloader does and the marking of an image. -/
inductive Restarted (api : EspOta Flash) (flash₀ : Flash) : Flash → Prop where
  | refl : Restarted api flash₀ flash₀
  | bootloader {slot : OtaSlot} {flash flash' : Flash} (hbefore : Restarted api flash₀ flash)
      (hbooted : api.bootloader flash = some (slot, flash')) : Restarted api flash₀ flash'
  | ota_mark_running_app_valid {flash : Flash} (hbefore : Restarted api flash₀ flash)
      (running : OtaSlot) (err : EspErr) :
      Restarted api flash₀ (ota_mark_running_app_valid api running flash err)

/-- No start writes to a slot. -/
theorem Restarted.content {flash₀ flash : Flash} (hrestarted : Restarted api flash₀ flash) :
    api.content flash = api.content flash₀ := by
  induction hrestarted with
  | refl => rfl
  | bootloader _ hbooted ih => rw [(api.booted hbooted).2, ih]
  | ota_mark_running_app_valid _ running err ih =>
    rw [(ota_mark_running_app_valid_kept running _ err).1, ih]

theorem Safe.marked (hsafe : Safe api s) (err : EspErr) :
    Safe api { s with
      flash := ota_mark_running_app_valid api s.running s.flash err
      markFailed := s.markFailed || decide (err ≠ ESP_OK) } := by
  obtain ⟨hcontent, hboot⟩ := ota_mark_running_app_valid_kept s.running s.flash err
  have hmarked : (s.markFailed || decide (err ≠ ESP_OK)) = false →
      s.markFailed = false ∧ api.boot (ota_mark_running_app_valid api s.running s.flash err) =
        api.boot s.flash := by
    intro hmarked
    obtain ⟨hbefore, hok⟩ := Bool.or_eq_false_iff.mp hmarked
    exact ⟨hbefore, hboot (not_not.mp (of_decide_eq_false hok))⟩
  refine ⟨by rw [hcontent]; exact hsafe.running, hsafe.imageValid, fun hnot hunset => ?_,
    fun hnot upload hupload hset => ?_, ?_⟩
  · obtain ⟨hbefore, hsame⟩ := hmarked hnot
    exact hsame.trans (hsafe.boot_kept hbefore hunset)
  · obtain ⟨hbefore, hsame⟩ := hmarked hnot
    exact hsame.trans (hsafe.boot_set hbefore upload hupload hset)
  · rw [hcontent]
    exact hsafe.stored

theorem ota_mark_running_app_valid_cases {err : EspErr}
    (hstep : otaStep api s (.ota_mark_running_app_valid err) = some s') :
    s.stopped = false ∧ s' = { s with
      flash := ota_mark_running_app_valid api s.running s.flash err
      markFailed := s.markFailed || decide (err ≠ ESP_OK) } := by
  simp only [otaStep] at hstep
  split at hstep
  case isTrue => cases hstep
  case isFalse hrunning => exact ⟨Bool.not_eq_true _ ▸ hrunning, (Option.some.inj hstep).symm⟩

theorem restart_cases (hstep : otaStep api s .restart = some s') :
    ∃ slot flash, api.bootloader s.flash = some (slot, flash) ∧ s' = otaStart api flash slot := by
  obtain ⟨⟨slot, flash⟩, hbooted, rfl⟩ := Option.map_eq_some_iff.mp hstep
  exact ⟨slot, flash, hbooted, rfl⟩

theorem otaStep_safe {a : OtaAction} (hsafe : Safe api s) (hstep : otaStep api s a = some s') :
    Safe api s' := by
  cases a with
  | ota_firmware_post_handler request =>
    simp only [otaStep] at hstep
    split at hstep
    case isTrue => cases hstep
    case isFalse =>
      cases hstep
      exact hsafe.upload _ ((ota_firmware_calls _ _ _ _ _).take _)
  | ota_www_post_handler request www_partition =>
    simp only [otaStep] at hstep
    split at hstep
    case isTrue => cases hstep
    case isFalse =>
      cases hstep
      exact hsafe.elsewhere _ fun c hc => ota_www_calls _ _ _ _ _ c (List.mem_of_mem_take hc)
  | ota_mark_running_app_valid err =>
    obtain ⟨_, rfl⟩ := ota_mark_running_app_valid_cases hstep
    exact hsafe.marked err
  | restart =>
    obtain ⟨slot, flash, hbooted, rfl⟩ := restart_cases hstep
    obtain ⟨hvalid, hcontent⟩ := api.booted hbooted
    exact Safe.start (by rw [hcontent]; exact hvalid)

end

/-- In every run of uploads, whatever they hold, whichever calls fail and wherever the power
is lost, and of restarts, the firmware that runs is never written to, and what is to boot
in its place is the whole of the last upload that began, when it got to set the boot
partition. -/
theorem running_firmware_kept {Flash : Type} {api : EspOta Flash} {flash : Flash}
    {slot : OtaSlot} {s : OtaDevice Flash}
    (hvalid : api.imageValid (api.content flash slot) = true)
    (hreach : Reach (otaStep api) Anywhere (otaStart api flash slot) s) : Safe api s :=
  hreach.invariant (Safe.start hvalid) fun _ _ _ hsafe _ hstep => otaStep_safe hsafe hstep

/-- Two lists of bytes, the name of a slot and what is recorded of the images. -/
structure SlotsFlash where
  content : OtaSlot → List UInt8
  boot : OtaSlot
  state : OtaSlot → esp_ota_img_states_t

/-- The bootloader looks at the first byte. -/
def magicValid (image : List UInt8) : Bool := image.head? = some ESP_IMAGE_HEADER_MAGIC

/-- It starts an image once that was not started before, and goes back to the other slot
when it has not been marked valid. -/
def SlotsFlash.bootloader (flash : SlotsFlash) : Option (OtaSlot × SlotsFlash) :=
  match flash.state flash.boot with
  | .ESP_OTA_IMG_NEW =>
    if magicValid (flash.content flash.boot) then
      some (flash.boot,
        { flash with state := Function.update flash.state flash.boot .ESP_OTA_IMG_PENDING_VERIFY })
    else none
  | .ESP_OTA_IMG_PENDING_VERIFY =>
    let other := esp_ota_get_next_update_partition flash.boot
    if magicValid (flash.content other) then
      some (other, { flash with
        boot := other
        state := Function.update flash.state flash.boot .ESP_OTA_IMG_ABORTED })
    else none
  | _ => if magicValid (flash.content flash.boot) then some (flash.boot, flash) else none

def twoSlots : EspOta SlotsFlash where
  content := SlotsFlash.content
  boot := SlotsFlash.boot
  imageValid := magicValid
  bootloader := SlotsFlash.bootloader
  esp_ota_get_state_partition flash slot := some (flash.state slot)
  esp_ota_mark_app_valid_cancel_rollback running flash err :=
    if err = ESP_OK then
      { flash with state := Function.update flash.state running .ESP_OTA_IMG_VALID }
    else flash
  call update flash
    | .esp_ota_begin err =>
      if err = ESP_OK then { flash with content := Function.update flash.content update [] }
      else flash
    | .esp_ota_write data err =>
      if err = ESP_OK then
        { flash with
          content := Function.update flash.content update (flash.content update ++ data) }
      else flash
    | .esp_ota_set_boot_partition err =>
      if err = ESP_OK then
        { flash with
          boot := update
          state := Function.update flash.state update .ESP_OTA_IMG_NEW }
      else flash
    | _ => flash
  other_kept flash c hslot := by cases c <;> simp only <;> split <;> simp [hslot]
  received _ _ _ := rfl
  begun _ _ := by simp
  written _ _ _ := by simp
  ended _ _ := rfl
  boot_content _ _ _ := by simp only; split <;> rfl
  erased_elsewhere _ _ _ _ _ := rfl
  written_elsewhere _ _ _ _ _ := rfl
  boot_kept _ _ c hunset := by
    cases c with
    | esp_ota_set_boot_partition err => exact absurd rfl (hunset err)
    | esp_ota_begin | esp_ota_write => simp only; split <;> rfl
    | _ => rfl
  boot_failed _ _ _ := by simp only; split <;> simp
  boot_set _ _ := by simp
  booted {flash flash' slot} hbooted := by
    unfold SlotsFlash.bootloader at hbooted
    dsimp only at hbooted
    split at hbooted <;> split at hbooted <;> cases hbooted
    all_goals exact ⟨‹_›, rfl⟩
  marked_content _ _ _ := by split <;> rfl
  marked_boot _ _ := by simp

/-- An upload of three bytes, all of whose calls succeed. -/
def smallUpload : UploadRequest where
  results := ⟨true, ESP_OK, fun _ => ESP_OK, ESP_OK, ESP_OK, ESP_OK, fun _ => ESP_OK⟩
  auth := (.ESP_OK, none)
  content_len := 3
  recvResults := [.received [233, 1, 2]]
  done := 5

def firstFirmwareImage : SlotsFlash where
  content _ := [233, 0]
  boot := .ota_0
  state _ := .ESP_OTA_IMG_UNDEFINED

def smallUploadCalls : List OtaCall :=
  [.httpd_req_recv [233, 1, 2], .esp_ota_begin ESP_OK, .esp_ota_write [233, 1, 2] ESP_OK,
    .esp_ota_end ESP_OK, .esp_ota_set_boot_partition ESP_OK]

theorem smallUpload_made :
    smallUpload.made (ota_firmware_post_handler smallUpload.results smallUpload.auth
      smallUpload.content_len smallUpload.recvResults (some OtaSlot.partition)) =
      smallUploadCalls := by
  have hhandler : ota_firmware_post_handler smallUpload.results smallUpload.auth
      smallUpload.content_len smallUpload.recvResults (some OtaSlot.partition) =
      otaFirmwareFinish smallUpload.results
        (uploadLoop (fun _ => .esp_ota_write) smallUpload.results.esp_ota_write
          (firstFirmware smallUpload.results 3 [233, 1, 2] [])) := rfl
  rw [hhandler, uploadLoop, if_neg (by decide)]
  rfl

/-- The new firmware is in the other slot and is to boot, and the old one is where it was;
as the new one is not marked valid after the next start, the one after it goes back to the
old one. -/
theorem running_firmware_kept_of_upload : ∃ s s',
    Reach (otaStep twoSlots) Anywhere (otaStart twoSlots firstFirmwareImage .ota_0) s ∧
      s.flash.content .ota_0 = [233, 0] ∧ s.flash.content .ota_1 = [233, 1, 2] ∧
      s.flash.boot = .ota_1 ∧
      runs (otaStep twoSlots) Anywhere s [.restart, .restart] = some s' ∧ s'.running = .ota_0 ∧
      s'.flash.content .ota_0 = [233, 0] := by
  have hreach : Reach (otaStep twoSlots) Anywhere (otaStart twoSlots firstFirmwareImage .ota_0)
      _ := .next .refl trivial (show otaStep twoSlots _ (.ota_firmware_post_handler smallUpload) =
        some _ from rfl)
  have hsafe := running_firmware_kept (by rfl) hreach
  have hlast : (3, smallUploadCalls) ∈ [] ++ [(3, smallUploadCalls)] := by simp
  rw [smallUpload_made] at hreach hsafe
  have hagain := hreach.next trivial (show otaStep twoSlots _ .restart = some _ from rfl)
  have hback := hagain.next trivial (show otaStep twoSlots _ .restart = some _ from rfl)
  have hsafe_back := running_firmware_kept (by rfl) hback
  refine ⟨_, _, hreach, hsafe.running, ?_, ?_, rfl, rfl, hsafe_back.running⟩
  · exact (hsafe.stored [] (3, smallUploadCalls) [] ESP_OK rfl (by simp [smallUploadCalls])
      (by simp)).1
  · exact hsafe.boot_set rfl _ hlast (by simp [smallUploadCalls])

end rtkbase.web_server.ota
