import DisplayEnv.Monitor

/-!
# Settings of the headless backend

Which monitors it reports, how many dots there are to an inch, and how long one wait for an event
lasts (`HeadlessConfig`). A monitor without a work area of its own has its bounds for one
(`MonitorConfig`). No operation reads the length of a wait; it is only kept, read and written.
-/

namespace DisplayEnv

/-- A monitor that the headless backend reports (`MonitorConfig`). -/
structure MonitorConfig where
  bounds : Rect
  workArea : Option Rect
  primary : Bool
  deriving DecidableEq, Repr

/-- Settings of the headless backend (`HeadlessConfig`). -/
structure HeadlessConfig where
  monitors : List MonitorConfig
  dpi : UInt32
  idleWaitMs : UInt64
  deriving DecidableEq, Repr

namespace HeadlessConfig

/-- One primary monitor of 1920 by 1080 with a bar of 40 rows at its bottom (`default_monitors`). -/
def defaultMonitors : List MonitorConfig := [⟨⟨0, 0, 1920, 1080⟩, some ⟨0, 0, 1920, 1040⟩, true⟩]

def defaultDpi : UInt32 := 96

def defaultIdleWaitMs : UInt64 := 50

/-- The settings of a backend that nothing was said about. -/
def standard : HeadlessConfig := ⟨defaultMonitors, defaultDpi, defaultIdleWaitMs⟩

instance : Inhabited HeadlessConfig := ⟨standard⟩

/-- The monitors as the backend reports them (`monitors`), numbered from one. -/
def report (c : HeadlessConfig) : List Monitor :=
  c.monitors.mapIdx fun i m => ⟨i + 1, m.bounds, m.workArea.getD m.bounds, m.primary⟩

end HeadlessConfig

end DisplayEnv
