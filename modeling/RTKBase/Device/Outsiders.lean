import RTKBase.Device.Access

namespace rtkbase.device

open lib lib.cstring lib.ledger lib.lts nvs_config web_server
open web_server.ota (Restarted)

section

variable {httpd_req_t Flash Partition : Type} {libs : Libraries httpd_req_t Flash Partition}
  {s s₀ s' : WebDevice Flash Partition} {username password : CString}

/-- The text that an administrator presents. -/
def credentials (username password : CString) : List UInt8 :=
  ascii "Basic " ++ base64.encode (user_info username password)

/-- Every setting that was there is as it was, and so is everything else that a request can
change, but for the text of the console. What is to boot is as the starts leave it. -/
structure Untouched (libs : Libraries httpd_req_t Flash Partition)
    (s₀ s : WebDevice Flash Partition) : Prop where
  store : ∀ item ∈ CONFIG_ITEMS, ∀ value, s₀.store item.key = some value →
    s.store item.key = some value
  content : libs.ota.content s.ota.flash = libs.ota.content s₀.ota.flash
  restarted : Restarted libs.ota s₀.ota.flash s.ota.flash
  www : s.www = s₀.www
  commands : s.commands = s₀.commands
  disconnects : s.disconnects = s₀.disconnects
  restart : s.restart_scheduled = true → s₀.restart_scheduled = true

theorem Untouched.refl (s : WebDevice Flash Partition) : Untouched libs s s where
  store _ _ _ hvalue := hvalue
  content := rfl
  restarted := .refl
  www := rfl
  commands := rfl
  disconnects := rfl
  restart hscheduled := hscheduled

end

end rtkbase.device
