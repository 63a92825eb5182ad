import DisplayEnv.Headless.Config
import DisplayEnv.Json.Reading
import DisplayEnv.Json.Value

/-!
# Configurations as JSON

A display's configuration (`DisplayConfig`) is the filter of its log and the settings of the
headless backend. Each record is written as an object of all its fields in a fixed order, and read
from an object with any of them, or from an array of them. Only the bounds of a monitor and the four
numbers of a rectangle have to be there; every other field has a default.

* `DisplayConfig.toJson`, `DisplayConfig.ofText`: the two directions (`to_string`, `from_str`).
-/

namespace DisplayEnv

/-- The configuration of a display environment (`DisplayConfig`). -/
structure DisplayConfig where
  logFilter : String
  headless : HeadlessConfig
  deriving DecidableEq, Repr

namespace DisplayConfig

def defaultLogFilter : String := "info"

/-- The configuration when nothing was said about it (`default`). -/
def standard : DisplayConfig := ⟨defaultLogFilter, .standard⟩

instance : Inhabited DisplayConfig := ⟨standard⟩

end DisplayConfig

open Json

/-! ## Writing -/

def Rect.toJson (q : Rect) : Json :=
  .object [("x", .number q.x.toInt), ("y", .number q.y.toInt), ("width", .number q.width.toInt),
    ("height", .number q.height.toInt)]

def MonitorConfig.toJson (m : MonitorConfig) : Json :=
  .object [("bounds", m.bounds.toJson),
    ("work_area", match m.workArea with
      | some q => q.toJson
      | none => .null),
    ("primary", .bool m.primary)]

def HeadlessConfig.toJson (c : HeadlessConfig) : Json :=
  .object [("monitors", .array (c.monitors.map MonitorConfig.toJson)),
    ("dpi", .number c.dpi.toNat), ("idle_wait_ms", .number c.idleWaitMs.toNat)]

def DisplayConfig.toJson (c : DisplayConfig) : Json :=
  .object [("log_filter", .string c.logFilter), ("headless", c.headless.toJson)]

/-! ## Reading -/

/-- A value that was read, or what stands for one that was not there. -/
def orMissing {α : Type} (name : String) : Option α → Except String α
  | some a => .ok a
  | none => .error name

namespace Rect

/-- The numbers of a rectangle read so far. -/
structure Parts where
  x : Option Int32
  y : Option Int32
  width : Option Int32
  height : Option Int32

def record : Record Parts Rect where
  expected := "struct Rect"
  fields :=
    [⟨"x", (·.x.isSome), fun d p => (readInt32 d).map fun v => { p with x := some v }⟩,
     ⟨"y", (·.y.isSome), fun d p => (readInt32 d).map fun v => { p with y := some v }⟩,
     ⟨"width", (·.width.isSome), fun d p => (readInt32 d).map fun v => { p with width := some v }⟩,
     ⟨"height", (·.height.isSome),
       fun d p => (readInt32 d).map fun v => { p with height := some v }⟩]
  start := ⟨none, none, none, none⟩
  finish p := do
    return ⟨← orMissing "x" p.x, ← orMissing "y" p.y, ← orMissing "width" p.width,
      ← orMissing "height" p.height⟩

def read : Reader Rect := record.read

end Rect

namespace MonitorConfig

/-- The fields of a monitor read so far. -/
structure Parts where
  bounds : Option Rect
  workArea : Option (Option Rect)
  primary : Option Bool

def record : Record Parts MonitorConfig where
  expected := "struct MonitorConfig"
  fields :=
    [⟨"bounds", (·.bounds.isSome),
       fun d p => (Rect.read d).map fun v => { p with bounds := some v }⟩,
     ⟨"work_area", (·.workArea.isSome),
       fun d p => (readOption Rect.read d).map fun v => { p with workArea := some v }⟩,
     ⟨"primary", (·.primary.isSome),
       fun d p => (readBool d).map fun v => { p with primary := some v }⟩]
  start := ⟨none, none, none⟩
  finish p := do
    return ⟨← orMissing "bounds" p.bounds, p.workArea.getD none, p.primary.getD false⟩

def read : Reader MonitorConfig := record.read

end MonitorConfig

namespace HeadlessConfig

/-- The settings of the headless backend read so far. -/
structure Parts where
  monitors : Option (List MonitorConfig)
  dpi : Option UInt32
  idleWaitMs : Option UInt64

def record : Record Parts HeadlessConfig where
  expected := "struct HeadlessConfig"
  fields :=
    [⟨"monitors", (·.monitors.isSome),
       fun d p => (readList MonitorConfig.read d).map fun v => { p with monitors := some v }⟩,
     ⟨"dpi", (·.dpi.isSome), fun d p => (readUInt32 d).map fun v => { p with dpi := some v }⟩,
     ⟨"idle_wait_ms", (·.idleWaitMs.isSome),
       fun d p => (readUInt64 d).map fun v => { p with idleWaitMs := some v }⟩]
  start := ⟨none, none, none⟩
  finish p :=
    .ok ⟨p.monitors.getD defaultMonitors, p.dpi.getD defaultDpi,
      p.idleWaitMs.getD defaultIdleWaitMs⟩

def read : Reader HeadlessConfig := record.read

end HeadlessConfig

namespace DisplayConfig

/-- The fields of a configuration read so far. -/
structure Parts where
  logFilter : Option String
  headless : Option HeadlessConfig

def record : Record Parts DisplayConfig where
  expected := "struct DisplayConfig"
  fields :=
    [⟨"log_filter", (·.logFilter.isSome),
       fun d p => (readString d).map fun v => { p with logFilter := some v }⟩,
     ⟨"headless", (·.headless.isSome),
       fun d p => (HeadlessConfig.read d).map fun v => { p with headless := some v }⟩]
  start := ⟨none, none⟩
  finish p := .ok ⟨p.logFilter.getD defaultLogFilter, p.headless.getD .standard⟩

def read : Reader DisplayConfig := record.read

/-- The configuration in a text (`from_str`). -/
def ofText (text : String) : Except ReadError DisplayConfig := readText read text.toList

/-- The configuration on one line. -/
def compact (c : DisplayConfig) : String := c.toJson.compact

/-- The configuration over several lines (`to_string_pretty`). -/
def pretty (c : DisplayConfig) : String := c.toJson.pretty

end DisplayConfig

end DisplayEnv
