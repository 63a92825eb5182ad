import DisplayEnv.Error
import DisplayEnv.Rect

/-!
# Monitors

The platform reports monitors (`MonitorInfo`) with a flag for the primary one, and may flag none or
several. `Layout.ofReport` (`normalize`) keeps the report's order and its entries and leaves exactly
one flag: at the first flagged monitor, or at the first one when none is flagged.
-/

namespace DisplayEnv

/-- A physical monitor (`MonitorInfo`). -/
structure Monitor where
  id : Nat
  bounds : Rect
  workArea : Rect
  primary : Bool
  deriving DecidableEq, Repr

/-- Monitors of which exactly one is the primary one (`MonitorSet`). -/
structure Layout where
  monitors : List Monitor
  primaryIndex : Nat
  deriving DecidableEq, Repr

namespace Layout

/-- The index of the first flagged monitor. -/
def flaggedIndex? (report : List Monitor) : Option Nat := report.findIdx? (·.primary)

/-- The report with the flag at one index only. -/
def flagOnly (report : List Monitor) (index : Nat) : List Monitor :=
  report.mapIdx fun i m => { m with primary := i == index }

/-- The layout a report gives (`normalize`); an empty report gives none. -/
def ofReport (report : List Monitor) : Except DisplayError Layout :=
  if report.isEmpty then .error .noMonitors
  else
    let index := (flaggedIndex? report).getD 0
    .ok ⟨flagOnly report index, index⟩

/-- The primary monitor. -/
def primary? (l : Layout) : Option Monitor := l.monitors[l.primaryIndex]?

end Layout

end DisplayEnv
