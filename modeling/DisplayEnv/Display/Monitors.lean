import DisplayEnv.Display.Setting

/-!
# The monitors of a display

The monitors are enumerated once; the layout is kept until it is invalidated (`MonitorCache`). An
enumeration that fails, or finds no monitor, keeps nothing, so the next query tries again. Both
queries, `monitors` and `primary_monitor`, take what they answer from the same layout.
-/

namespace DisplayEnv.Setting

variable {σ τ : Type}

/-- What the platform reports (`monitors` of a `DisplayBackend`). -/
def enumerate (S : Setting σ τ) : Act σ (Except PlatformError (List Monitor)) := do
  match ← S.before .monitors with
  | .error e => return .error e
  | .ok () => return .ok (← S.report)

/-- The layout that was kept, or the one that is enumerated now (`get_or_enumerate`). -/
def layout (S : Setting σ τ) : Act σ (Except DisplayError Layout) := do
  match ← S.display.view (·.layout) with
  | some l => return .ok l
  | none =>
    match ← S.enumerate with
    | .error e => return .error (.platform e)
    | .ok report =>
      match Layout.ofReport report with
      | .error e => return .error e
      | .ok l =>
        if (Layout.flaggedIndex? report).isNone then S.note .noPrimaryMonitor
        S.note (.monitorsEnumerated l.monitors.length l.primaryIndex)
        S.display.change fun d => { d with layout := some l, layouts := d.layouts + 1 }
        return .ok l

/-- All monitors (`monitors`). -/
def monitors (S : Setting σ τ) : Act σ (Except DisplayError (List Monitor)) := do
  if ← S.display.view (·.disposed) then return .error .disposed
  else
    match ← S.layout with
    | .ok l => return .ok l.monitors
    | .error e => return .error e

/-- The primary monitor (`primary_monitor`). -/
def primaryMonitor (S : Setting σ τ) : Act σ (Except DisplayError Monitor) := do
  if ← S.display.view (·.disposed) then return .error .disposed
  else
    match ← S.layout with
    | .error e => return .error e
    | .ok l =>
      match l.primary? with
      | some m => return .ok m
      | none => return .error .noMonitors

/-- Forget the layout (`invalidate_monitors`); the next query enumerates again. -/
def invalidateMonitors (S : Setting σ τ) : Act σ Unit :=
  S.display.change fun d => { d with layout := none }

end DisplayEnv.Setting
