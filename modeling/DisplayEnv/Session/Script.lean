import DisplayEnv.Display.Setting

/-!
# Scripts for displays

A script is a list of steps on numbered displays. A step is an operation of a display, of its
backend or of its surroundings. Some carry a handler, a script of its own that is run later: as a
task in the event queue, or right before a native call. A handler ends well, with an error, or by
giving up.

* `Step.size`: the number of steps and handlers in a step, which bounds how deeply they can nest.
-/

namespace DisplayEnv.Session

/-- How a handler ends. -/
inductive Ending where
  | well
  | error (cause : PlatformError)
  | gaveUp (text : Option String)
  deriving DecidableEq, Repr

/-- The loops and queries that need a pump. -/
inductive PumpAction where
  | tick
  | run (root : Window)
  | runNested (root : Window)
  | stats
  | state
  deriving DecidableEq, Repr

/-- Operations of a display. -/
inductive DisplayAction where
  | resolveColor (c : Color) (slot : Option String)
  | releaseColor (c : Color)
  | releaseAllColors
  | resolveFont (f : Font) (slot : Option String)
  | releaseFont (f : Font)
  | releaseAllFonts
  | resolveImage (i : Image) (slot : Option String)
  | image (i : Image)
  | releaseImage (i : Image)
  | releaseAllImages
  | scratchGc (slot : Option String)
  | textExtent (f : Font) (text : String)
  | monitors
  | primaryMonitor
  | invalidateMonitors
  | stats
  | teardown
  | isDisposed
  | id
  | platform
  | bridgeSetGet (w : Window) (key : Int32) (value : Int64)
  deriving Repr

/-- Operations of a backend without handlers. -/
inductive BackendAction where
  | color (r g b : UInt8) (slot : Option String)
  | font (f : Font) (slot : Option String)
  | image (width height : UInt32) (slot : Option String)
  | gc (slot : Option String)
  | dispose (slot : String)
  | query (slot text : String)
  | monitors
  | dispatch
  | sleep
  | close
  | isClosed
  | journal
  | createWindow
  | destroyWindow (w : Window)
  | postDestroy (w : Window)
  | isDestroyed (w : Window)
  | pending
  | config
  deriving Repr

/-- Operations around a display, without handlers. -/
inductive OutsideAction where
  | setMonitors (report : Option (List Monitor))
  | opens
  | writeFile (path : String) (bytes : List UInt8)
  | removeFile (path : String)
  | sendDestroy (w : Window)
  | sendWake
  | drop
  | dropBackend
  deriving Repr

mutual

/-- A step on the display with a number. -/
inductive Step where
  | on (seat : Nat) (action : Action)

/-- What a step does. -/
inductive Action where
  | display (a : DisplayAction)
  | backend (a : BackendAction)
  | outside (a : OutsideAction)
  /-- Steps with a pump of their own. -/
  | pump (steps : List PumpStep)
  /-- Put a task into the queue. -/
  | post (h : Handler)
  /-- Send a task to the inbox. -/
  | send (h : Handler)
  /-- Have a handler run before the next native call of a kind. -/
  | inject (point : Point) (h : Handler)

/-- A step that can use the pump around it. -/
inductive PumpStep where
  | pump (seat : Nat) (a : PumpAction)
  | other (s : Step)

/-- A script that is run later; `reported` says whether its run is told about. -/
inductive Handler where
  | make (name : Option String) (reported : Bool) (steps : List Step) (ending : Ending)

end

mutual

/-- The number of steps and handlers in a step. -/
def Step.size : Step → Nat
  | .on _ a => a.size + 1

/-- The number of steps and handlers in an action. -/
def Action.size : Action → Nat
  | .display _ | .backend _ | .outside _ => 1
  | .pump steps => pumpSize steps + 1
  | .post h | .send h | .inject _ h => h.size + 1

/-- The number of steps and handlers in steps with a pump. -/
def pumpSize : List PumpStep → Nat
  | [] => 0
  | .pump _ _ :: rest => pumpSize rest + 1
  | .other s :: rest => s.size + pumpSize rest + 1

/-- The number of steps and handlers in a handler. -/
def Handler.size : Handler → Nat
  | .make _ _ steps _ => stepsSize steps + 1

/-- The number of steps and handlers in a script. -/
def stepsSize : List Step → Nat
  | [] => 0
  | s :: rest => s.size + stepsSize rest

end

end DisplayEnv.Session
