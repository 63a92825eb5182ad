import DisplayEnv.Cache.Stats
import DisplayEnv.Pump

/-!
# What a script is answered

Each step is answered by a report: its reply, the handlers that ran during it, the handles that were
released, and how many are live. Handlers report their own steps in the same form.
-/

namespace DisplayEnv.Session

/-- A native handle of any kind. -/
inductive Handle where
  | color (h : NativeColor)
  | font (h : NativeFont)
  | image (h : NativeImage)
  | gc (h : NativeGc)
  deriving DecidableEq, Repr

mutual

/-- The reply of a step. -/
inductive Reply where
  | nothing
  | flag (b : Bool)
  | count (n : Nat)
  | text (s : String)
  | handle (h : Handle)
  | handle? (h : Option NativeImage)
  | rgb (r g b : UInt8)
  | size (width height : Nat)
  | monitor (m : Monitor)
  | monitors (list : List Monitor)
  /-- Monitors, and whether they are the very list answered before. -/
  | layout (list : List Monitor) (same : Option Bool)
  | stats (s : DisplayStats)
  | platform (p : Platform)
  /-- Whether a property was set, and its value afterwards. -/
  | property (set : Bool) (value : Int64)
  | tick (t : Tick)
  | pumpStats (s : PumpStats)
  | pumpState (s : PumpState)
  | steps (reports : List Report)
  /-- What the step is about is there no more. -/
  | gone
  | platformError (e : PlatformError)
  | resourceError (e : ResourceError)
  | displayError (e : DisplayError)
  | fault (c : Fault)

/-- The answer of a step. -/
inductive Report where
  | make (reply : Reply) (ran : List RunReport) (released : List Released) (live : Option Nat)

/-- The answer of a handler's steps. -/
inductive RunReport where
  | make (name : Option String) (steps : List Report)

end

instance : Inhabited Reply := ⟨.nothing⟩

instance : Inhabited Report := ⟨.make .nothing [] [] none⟩

end DisplayEnv.Session
