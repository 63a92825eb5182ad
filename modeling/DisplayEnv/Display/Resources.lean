import DisplayEnv.Display.Setting

/-!
# The native resources of a display

Colors, fonts and images are resolved through their caches: the first lookup of a descriptor makes a
native handle, later ones find it, until it is released. The scratch context is made on first use
and kept. A display that was torn down resolves nothing (`ensure_live`). Every released handle goes
back to the backend.

* `resolveColor`, `resolveFont`, `resolveImage`, `scratchGc`: a handle, or why there is none
  (`resolve_color`, `resolve_font`, `resolve_image`, `scratch_gc`).
* `releaseColor`, …, `releaseAllImages`: handles given back (`release_color`, …,
  `release_all_images`). The kinds differ in their cache and in the call that takes a handle back,
  so all are `releaseFrom` and `releaseAllFrom`.
* `textExtent`: the size of a text in a font (`text_extent`).
-/

namespace DisplayEnv.Setting

variable {σ τ α : Type}

/-- Go on unless the display was torn down (`ensure_live`). -/
def ifLive (S : Setting σ τ) (x : Act σ (Except ResourceError α)) :
    Act σ (Except ResourceError α) := do
  if ← S.display.view (·.disposed) then return .error .disposed else x

/-- Make something on the backend (`create_color` and its like), unless what comes before refuses
it. -/
def make (S : Setting σ τ) (point : Point)
    (create : Headless τ → Except PlatformError (α × Headless τ)) :
    Act σ (Except ResourceError α) := do
  match ← S.before point with
  | .error e => return .error (.native e)
  | .ok () =>
    match create (← S.backend.view id) with
    | .error e => return .error (.native e)
    | .ok (a, backend) => S.backend.change fun _ => backend; return .ok a

/-- Give a native number back to the backend (`release`). -/
def giveBack (S : Setting σ τ) (id : Nat) (entry : Released) : Act σ Unit := do
  let known ← S.backend.alter (·.release id entry)
  unless known do S.note (.unknownRelease id entry)

def disposeColor (S : Setting σ τ) (h : NativeColor) : Act σ Unit := S.giveBack h.id (.color h.id)
def disposeFont (S : Setting σ τ) (h : NativeFont) : Act σ Unit := S.giveBack h.id (.font h.id)
def disposeImage (S : Setting σ τ) (h : NativeImage) : Act σ Unit := S.giveBack h.id (.image h.id)
def disposeGc (S : Setting σ τ) (h : NativeGc) : Act σ Unit := S.giveBack h.id (.gc h.id)

/-- Give back each of several handles. -/
def disposeEach (dispose : α → Act σ Unit) : List α → Act σ Unit
  | [] => pure ()
  | h :: rest => do dispose h; disposeEach dispose rest

/-- Release the handle of a descriptor from a cache (`release_with`): whether there was one. -/
def releaseFrom {K H : Type} [DecidableEq K] (S : Setting σ τ) (store : Store)
    (cache : Lens σ (Cache K H)) (dispose : H → Act σ Unit) (k : K) : Act σ Bool :=
  S.lending store do
    match ← cache.alter (·.release k) with
    | some h => dispose h; return true
    | none => return false

/-- Release all handles of a cache (`release_all_with`): how many there were. -/
def releaseAllFrom {K H : Type} (S : Setting σ τ) (store : Store) (cache : Lens σ (Cache K H))
    (dispose : H → Act σ Unit) : Act σ Nat :=
  S.lending store do
    let handles ← cache.alter (·.releaseAll)
    disposeEach dispose handles
    return handles.length

/-! ## Colors -/

def colors (S : Setting σ τ) : Lens σ (Cache Color NativeColor) :=
  S.display.comp Display.colorsPart

/-- The native color of a descriptor (`resolve_color`); native colors are opaque. -/
def resolveColor (S : Setting σ τ) (c : Color) : Act σ (Except ResourceError NativeColor) :=
  S.ifLive <| S.lending .colors <| Cache.resolveIn S.colors c do
    S.note (.makingColor c)
    S.make .createColor (·.createColor c.r c.g c.b)

def releaseColor (S : Setting σ τ) (c : Color) : Act σ Bool :=
  S.releaseFrom .colors S.colors S.disposeColor c

def releaseAllColors (S : Setting σ τ) : Act σ Nat :=
  S.releaseAllFrom .colors S.colors S.disposeColor

/-! ## Fonts -/

def fonts (S : Setting σ τ) : Lens σ (Cache Font NativeFont) := S.display.comp Display.fontsPart

/-- The native font of a descriptor (`resolve_font`). -/
def resolveFont (S : Setting σ τ) (f : Font) : Act σ (Except ResourceError NativeFont) :=
  S.ifLive <| S.lending .fonts <| Cache.resolveIn S.fonts f do
    S.note (.makingFont f)
    S.make .createFont (·.createFont f)

def releaseFont (S : Setting σ τ) (f : Font) : Act σ Bool :=
  S.releaseFrom .fonts S.fonts S.disposeFont f

def releaseAllFonts (S : Setting σ τ) : Act σ Nat :=
  S.releaseAllFrom .fonts S.fonts S.disposeFont

/-! ## Images -/

def images (S : Setting σ τ) : Lens σ (Cache String NativeImage) :=
  S.display.comp Display.imagesPart

/-- The picture of an image, read from its source (`load`). -/
def loadPicture (S : Setting σ τ) (i : Image) : Act σ (Except ResourceError Picture) := do
  match i.source with
  | none => return .error (.noSource i.uri)
  | some source => Act.ofExcept (Picture.ofOpeningBy S.decoder i.uri (← S.openSource source))

/-- The native image of a descriptor, by its uri (`resolve_image`). -/
def resolveImage (S : Setting σ τ) (i : Image) : Act σ (Except ResourceError NativeImage) :=
  S.ifLive <| S.lending .images <| Cache.resolveIn S.images i.uri do
    S.note (.loadingImage i.uri)
    match ← S.loadPicture i with
    | .error e => return .error e
    | .ok picture => S.make .createImage (·.createImage picture)

/-- The native image of a descriptor (`image`), if it can be had; why it cannot is told to the
log. -/
def image? (S : Setting σ τ) (i : Image) : Act σ (Option NativeImage) := do
  match ← S.resolveImage i with
  | .ok h => return some h
  | .error e => S.note (.imageMissing i.uri e); return none

def releaseImage (S : Setting σ τ) (i : Image) : Act σ Bool :=
  S.releaseFrom .images S.images S.disposeImage i.uri

def releaseAllImages (S : Setting σ τ) : Act σ Nat :=
  S.releaseAllFrom .images S.images S.disposeImage

/-! ## The scratch context -/

/-- The scratch context (`scratch_gc`), made on first use. -/
def scratchGc (S : Setting σ τ) : Act σ (Except ResourceError NativeGc) :=
  S.ifLive <| S.lending .scratch do
    match ← S.display.view (·.scratch) with
    | some gc => return .ok gc
    | none =>
      match ← S.make .createGc (·.createGc) with
      | .error e => return .error e
      | .ok gc =>
        S.note (.scratchAllocated gc.id)
        S.display.change fun d => { d with scratch := some gc }
        return .ok gc

/-- Give the scratch context back (`dispose_scratch_gc`): whether there was one. -/
def disposeScratch (S : Setting σ τ) : Act σ Bool :=
  S.lending .scratch do
    match ← S.display.alter fun d => (d.scratch, { d with scratch := none }) with
    | some gc => S.disposeGc gc; return true
    | none => return false

/-- Width and height of a text in a font, measured on the scratch context (`text_extent`). -/
def textExtent (S : Setting σ τ) (f : Font) (text : String) :
    Act σ (Except ResourceError (Nat × Nat)) := do
  match ← S.resolveFont f with
  | .error e => return .error e
  | .ok font =>
    match ← S.scratchGc with
    | .error e => return .error e
    | .ok _ => return .ok (← Act.ofExcept (Headless.textExtent font text.length))

/-! ## Statistics -/

/-- The statistics of the display (`cache_stats`). A store that is lent out cannot be read. -/
def stats (S : Setting σ τ) : Act σ DisplayStats := do
  let d ← S.display.view id
  if d.lent.isEmpty then return d.stats else Act.fault .lentOutForChange

end DisplayEnv.Setting
