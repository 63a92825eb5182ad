import DisplayEnv.Error
import DisplayEnv.Platform
import DisplayEnv.Window

/-!
# Window properties

A strategy (`WindowProperties`) keeps a number for each window and key, and knows the numbers behind
constants' names. The headless strategy (`HeadlessProperties`) is a table that answers zero where
nothing was set. The strategy of a platform without such a thing (`UnsupportedProperties`) refuses
everything and names the primitive that is missing.

* `get_set`: reading after writing, through `Properties.get` and `Properties.set`.
-/

namespace DisplayEnv

/-- A strategy with what was set through it: `HeadlessProperties` or `UnsupportedProperties`. -/
inductive Properties where
  | table (values : List ((Window × Int32) × Int64))
  | unsupported (platform : Platform)
  deriving DecidableEq, Repr

namespace Properties

/-- A table in which nothing was set. -/
def empty : Properties := .table []

/-- The strategy that works on a platform, as `for_platform` picks it. -/
def forPlatform (p : Platform) : Properties := if p = .headless then empty else .unsupported p

def platform : Properties → Platform
  | .table _ => .headless
  | .unsupported p => p

/-- The constants that the headless strategy knows (`HEADLESS_CONSTANTS`). -/
def constants : List (String × Int32) :=
  [("GWL_ID", -12), ("GWL_STYLE", -16), ("GWL_EXSTYLE", -20), ("GWLP_USERDATA", -21)]

def get : Properties → Window → Int32 → Except PlatformError Int64
  | .table values, w, key => .ok ((values.lookup (w, key)).getD 0)
  | .unsupported p, _, _ => .error (.unsupported p.identifier "GetWindowLong")

def set : Properties → Window → Int32 → Int64 → Except PlatformError Properties
  | .table values, w, key, value => .ok (.table (((w, key), value) :: values))
  | .unsupported p, _, _, _ => .error (.unsupported p.identifier "SetWindowLong")

def constant : Properties → String → Except PlatformError Int32
  | .table _, name =>
    match constants.lookup name with
    | some value => .ok value
    | none => .error (.unsupported "headless" name)
  | .unsupported p, name => .error (.unsupported p.identifier name)

theorem get_set {p q : Properties} {w v : Window} {key k : Int32} {value : Int64}
    (h : p.set w key value = .ok q) :
    q.get v k = if (v, k) = (w, key) then .ok value else p.get v k := by
  cases p with
  | unsupported => simp [set] at h
  | table values =>
    simp only [set, Except.ok.injEq] at h
    subst h
    by_cases e : (v, k) = (w, key)
    · simp [get, e]
    · have : ((v, k) == (w, key)) = false := by simpa using e
      simp [get, List.lookup_cons, this, e]

end Properties

end DisplayEnv
