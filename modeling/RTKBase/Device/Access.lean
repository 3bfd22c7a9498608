import RTKBase.Device.System
import RTKBase.Lib.Ledger
import RTKBase.NvsConfig.History
import RTKBase.WebServer.NotModified
import RTKBase.WebServer.OtaSession

namespace rtkbase.device

open lib lib.cstring lib.ledger lib.lts nvs_config web_server

section

variable {httpd_req_t Flash Partition : Type} {libs : Libraries httpd_req_t Flash Partition}
  {s : WebDevice Flash Partition} {req : httpd_req_t} {block : Option (List UInt8)}
  {calls : hotspot.HotspotCalls} {auth : esp_err_t × Option HttpdResp}

@[simp] theorem stop_store : s.stop.store = s.store := rfl

/-- The device stands at a start whose settings its access control was made from. -/
structure Guarded (libs : Libraries httpd_req_t Flash Partition) (s : WebDevice Flash Partition)
    (before since : List ConfigAction) : Prop where
  started : ∃ earlier nvs_set mac4 mac5, before = earlier ++ [.nvs_cfg_init nvs_set mac4 mac5]
  running : ∀ nvs_set mac4 mac5, .nvs_cfg_init nvs_set mac4 mac5 ∉ since
  auth : ∃ store, runs configStep Anywhere erased before = some store ∧
    web_server_start libs.mbedtls_base64_encode store = some s.auth

/-- What is known of every device: its settings have the history that was recorded, and
as long as it runs its access control is the one of the last start. -/
structure Known (libs : Libraries httpd_req_t Flash Partition) (s : WebDevice Flash Partition)
    (history : List ConfigAction) : Prop where
  config : runs configStep Anywhere erased history = some s.store
  guarded : s.ota.stopped = false →
    ∃ before since, history = before ++ since ∧ Guarded libs s before since

theorem Guarded.kept {s' : WebDevice Flash Partition} {before since more : List ConfigAction}
    (hguarded : Guarded libs s before since) (hauth : s'.auth = s.auth)
    (hmore : ∀ nvs_set mac4 mac5, .nvs_cfg_init nvs_set mac4 mac5 ∉ more) :
    Guarded libs s' before (since ++ more) where
  started := hguarded.started
  running nvs_set mac4 mac5 hmem := by
    rcases List.mem_append.mp hmem with hmem | hmem
    · exact hguarded.running nvs_set mac4 mac5 hmem
    · exact hmore nvs_set mac4 mac5 hmem
  auth := by rw [hauth]; exact hguarded.auth

/-- A step behind which the access control is the same. -/
theorem Known.kept {s' : WebDevice Flash Partition} {history more : List ConfigAction}
    (hknown : Known libs s history) (hrunning : s.ota.stopped = false)
    (hconfig : runs configStep Anywhere s.store more = some s'.store) (hauth : s'.auth = s.auth)
    (hmore : ∀ nvs_set mac4 mac5, .nvs_cfg_init nvs_set mac4 mac5 ∉ more) :
    Known libs s' (history ++ more) where
  config := by rw [runs_append, hknown.config, Option.bind_some, hconfig]
  guarded _ := by
    obtain ⟨before, since, rfl, hguarded⟩ := hknown.guarded hrunning
    exact ⟨before, since ++ more, by rw [List.append_assoc], hguarded.kept hauth hmore⟩

end

end rtkbase.device
