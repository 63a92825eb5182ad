import DisplayEnv.Act
import DisplayEnv.Display.State
import DisplayEnv.Image
import DisplayEnv.Notice
import DisplayEnv.Picture.Load

/-!
# What surrounds a display

A display is a part of a larger state `σ`, with code around it that the display calls into: code
that runs before a native call and may refuse it, the report of the monitors, the sources of images
(`ImageSource`), the decoder of their bytes, the tasks in the event queue, and the log. A `Setting`
names all of it, and every operation of a display is an action on `σ` built from a setting. So a
setting stands for any backend (`DisplayBackend`) that keeps its handles as the headless one does,
and the decoder for any that answers width, height and pixels (`load_from_memory`).

* `Setting.plain`: a display on its own. Nothing refuses, the backend's own monitors are reported,
  sources are opened in a tree of files, and nobody listens to the log.
* `lending`: a part of the display borrowed while other code runs (`borrow_mut`).
-/

namespace DisplayEnv

/-- The native calls of a `DisplayBackend` that other code can come before. -/
inductive Point where
  | createColor
  | createFont
  | createImage
  | createGc
  | monitors
  | dispatch
  | sleep
  deriving DecidableEq, Repr

/-- The surroundings of a display in a state `σ`, with tasks in `τ`. -/
structure Setting (σ τ : Type) where
  /-- The display. -/
  display : Lens σ (Display τ)
  /-- Write to the log. -/
  note : Notice → Act σ Unit
  /-- What comes before a native call, and may refuse it. -/
  before : Point → Act σ (Except PlatformError Unit)
  /-- The monitors that are reported, when nothing came before. -/
  report : Act σ (List Monitor)
  /-- Open the source of an image (`open`). -/
  openSource : Source → Act σ (Except FileError (List Delivery))
  /-- Decode the bytes of an image (`load_from_memory`). -/
  decoder : Decoder
  /-- Run a task of the event queue. -/
  run : τ → Act σ (Except PlatformError Unit)

namespace Setting

variable {σ τ α : Type}

/-- The backend of the display. -/
def backend (S : Setting σ τ) : Lens σ (Headless τ) := S.display.comp Display.backendPart

/-- A display on its own, with the files that its images are read from and the tasks it runs. -/
def plain (files : Files) (run : τ → Act (Display τ) (Except PlatformError Unit)) :
    Setting (Display τ) τ where
  display := .whole
  note _ := pure ()
  before _ := pure (.ok ())
  report := Act.view fun d => d.backend.config.report
  openSource source := pure (source.opened files)
  decoder := Picture.decode
  run := run

/-- Run `x` with a store lent to it; a store that is lent already is a fault. -/
def lending (S : Setting σ τ) (store : Store) (x : Act σ α) : Act σ α := do
  if (← S.display.view (·.lent)).contains store then Act.fault .lentOut
  else
    S.display.change fun d => { d with lent := store :: d.lent }
    x.ensuring (S.display.change fun d => { d with lent := d.lent.erase store })

end Setting

end DisplayEnv
