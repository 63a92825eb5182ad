import DisplayEnv.Cache
import DisplayEnv.Color
import DisplayEnv.Headless

/-!
# The state of a display

A display (`Display`) owns the connection to a backend and every handle made on it: a cache each of
colors, fonts and images, one scratch drawing context, and the last monitor layout that was
enumerated (`MonitorCache`). A cache or the scratch slot is lent out while an entry of it is being
made, so that nothing else changes it meanwhile: `lent` lists the cells that are borrowed.

* `Display.new`: a fresh display on a backend.
* `Display.held`: every native number that the display has not given back.
-/

namespace DisplayEnv

/-- The parts of a display that keep native handles. -/
inductive Store where
  | colors
  | fonts
  | images
  | scratch
  deriving DecidableEq, Repr

/-- A display environment (`Display`). Its number comes from outside (`NEXT_DISPLAY_ID`); `layouts`
counts the layouts that were kept so far, which tells one kept list from another. -/
structure Display (τ : Type) where
  id : Nat
  backend : Headless τ
  colors : Cache Color NativeColor
  fonts : Cache Font NativeFont
  images : Cache String NativeImage
  scratch : Option NativeGc
  layout : Option Layout
  layouts : Nat
  disposed : Bool
  lent : List Store
  deriving Repr

namespace Display

variable {τ : Type}

/-- A fresh display on a backend. -/
def new (id : Nat) (backend : Headless τ) : Display τ :=
  ⟨id, backend, .empty, .empty, .empty, none, none, 0, false, []⟩

instance : Inhabited (Display τ) := ⟨new 0 default⟩

/-- The statistics of the three caches, and whether there is a scratch context (`cache_stats`). -/
def stats (d : Display τ) : DisplayStats :=
  ⟨d.colors.stats, d.fonts.stats, d.images.stats, d.scratch.isSome⟩

/-- The native numbers the display keeps. -/
def held (d : Display τ) : List Nat :=
  d.colors.handles.map (·.id) ++ d.fonts.handles.map (·.id) ++ d.images.handles.map (·.id) ++
    d.scratch.toList.map (·.id)

/-! ## The parts of a display -/

def backendPart : Lens (Display τ) (Headless τ) := ⟨(·.backend), fun b d => { d with backend := b }⟩

def colorsPart : Lens (Display τ) (Cache Color NativeColor) :=
  ⟨(·.colors), fun c d => { d with colors := c }⟩

def fontsPart : Lens (Display τ) (Cache Font NativeFont) :=
  ⟨(·.fonts), fun c d => { d with fonts := c }⟩

def imagesPart : Lens (Display τ) (Cache String NativeImage) :=
  ⟨(·.images), fun c d => { d with images := c }⟩

theorem lawful_backendPart : (backendPart : Lens (Display τ) _).Lawful :=
  ⟨fun _ _ => rfl, fun _ => rfl, fun _ _ _ => rfl⟩

end Display

end DisplayEnv
