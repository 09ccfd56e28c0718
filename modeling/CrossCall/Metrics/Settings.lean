import CrossCall.Data.Basic
import CrossCall.Text.IpAddress

/-!
# Where metrics are served

## Main definitions

* `MetricsSettings` — whether, where and how often metrics are collected
-/

namespace CrossCall

/-- Whether metrics are served, at which address, and how many seconds lie between collections. -/
structure MetricsSettings where
  enabled : Bool := false
  interval : BitVec 64 := 30
  port : BitVec 16 := 9090
  address : IpAddress := .v4 0
deriving DecidableEq

/-- Reads the settings, all of which have to be given. -/
def MetricsSettings.ofData? (d : Data) : Option MetricsSettings := do
  let fs ← d.fields? .json ["enabled", "interval", "port", "addr"] false
  let enabled ← fs.required? "enabled" Data.bool?
  let interval ← fs.required? "interval" (Data.bits? 64)
  let port ← fs.required? "port" (Data.bits? 16)
  let address ← fs.required? "addr" fun d => d.text?.bind IpAddress.parse?
  return { enabled, interval, port, address }

end CrossCall
