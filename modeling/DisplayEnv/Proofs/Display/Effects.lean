import DisplayEnv.Proofs.Display.Calls

/-!
# What an operation does to a display alone

The operations of a display are actions that lend a store, ask the code around the display and write
to a log. On a display with nothing around it, and with nothing lent out when they begin, none of
that is left: what they come to is a function of the display.

* `Shelf`: the three caches as one family, so that what is said of a cache is said once.
* `Making`: what a native constructor comes to.
* `Display.resolve`, `Display.release`, `Display.releaseAll`, `Display.resolveScratch` and
  `Display.tornDown` are the functions; `alone_resolve` to `alone_teardown` say that the operations
  are those functions.
* `Display.resolves`, `Display.resolvesScratch`: all that a lookup can come to, by cases.
-/

namespace DisplayEnv

variable {τ α : Type}

/-- The number of a handle that is given back. -/
def Released.number : Released → Nat
  | .color id | .font id | .image id | .gc id => id
  | .connection => 0

/-! ## The three caches as one family -/

/-- The caches of a display. -/
inductive Shelf where
  | colors
  | fonts
  | images
  deriving DecidableEq, Repr

namespace Shelf

/-- The descriptors of a cache. -/
abbrev Key : Shelf → Type
  | colors => Color
  | fonts => Font
  | images => String

/-- The handles of a cache. -/
abbrev Handle : Shelf → Type
  | colors => NativeColor
  | fonts => NativeFont
  | images => NativeImage

instance : (sh : Shelf) → DecidableEq sh.Key
  | colors => inferInstanceAs (DecidableEq Color)
  | fonts => inferInstanceAs (DecidableEq Font)
  | images => inferInstanceAs (DecidableEq String)

def store : Shelf → Store
  | colors => .colors
  | fonts => .fonts
  | images => .images

def part : (sh : Shelf) → Lens (Display τ) (Cache sh.Key sh.Handle)
  | colors => Display.colorsPart
  | fonts => Display.fontsPart
  | images => Display.imagesPart

/-- How a handle of the cache is entered when it is given back. -/
def released : (sh : Shelf) → sh.Handle → Released
  | colors, h => .color h.id
  | fonts, h => .font h.id
  | images, h => .image h.id

end Shelf

/-! ## Operations on a cache, as functions of the display -/

/-- What making a handle comes to, and the backend it leaves. -/
abbrev Making (τ H : Type) := Headless τ → Except Fault (Except ResourceError (H × Headless τ))

/-- Make a handle on the backend of a display. -/
def Making.act {H : Type} (make : Making τ H) : Act (Display τ) (Except ResourceError H) := fun d =>
  match make d.backend with
  | .ok (.ok (h, b)) => (.done (.ok h), { d with backend := b })
  | .ok (.error e) => (.done (.error e), d)
  | .error c => (.fault c, d)

/-- A native call that makes a handle. -/
def Making.native {H : Type} (create : Headless τ → Except PlatformError (H × Headless τ)) :
    Making τ H := fun b =>
  match create b with
  | .ok r => .ok (.ok r)
  | .error e => .ok (.error (.native e))

/-- Some handles given back to a backend. -/
def Headless.giveBack (b : Headless τ) (gone : List Released) : Headless τ :=
  { b with live := b.live.filter (· ∉ gone.map Released.number), journal := b.journal ++ gone }

namespace Display

/-- Look a descriptor up in a cache, and have its handle made when there is none. -/
def resolve (d : Display τ) (sh : Shelf) (k : sh.Key) (make : Making τ sh.Handle) :
    Outcome (Except ResourceError sh.Handle) × Display τ :=
  if d.disposed then (.done (.error .disposed), d)
  else
    match (sh.part.get d).find? k with
    | some h => (.done (.ok h), sh.part.modify .countHit d)
    | none =>
      match make d.backend with
      | .ok (.ok (h, b)) =>
        (.done (.ok h), { sh.part.modify (·.countMiss.insert k h) d with backend := b })
      | .ok (.error e) => (.done (.error e), sh.part.modify .countMiss d)
      | .error c => (.fault c, sh.part.modify .countMiss d)

/-- Release the handle of a descriptor. -/
def release (d : Display τ) (sh : Shelf) (k : sh.Key) : Bool × Display τ :=
  match (sh.part.get d).find? k with
  | some h =>
    (true, { sh.part.modify (·.erase k) d with backend := d.backend.giveBack [sh.released h] })
  | none => (false, d)

/-- What giving back the handles of a cache enters. -/
def shelved (d : Display τ) (sh : Shelf) : List Released := (sh.part.get d).handles.map sh.released

/-- What the display has to give back, in the order of its teardown. -/
def owed (d : Display τ) : List Released :=
  d.shelved .images ++ d.shelved .fonts ++ d.shelved .colors ++ d.scratch.toList.map (.gc ·.id)

/-- Release all handles of a cache. -/
def releaseAll (d : Display τ) (sh : Shelf) : Display τ :=
  { sh.part.modify .clear d with backend := d.backend.giveBack (d.shelved sh) }

/-- The scratch context, made when there is none. -/
def resolveScratch (d : Display τ) : Outcome (Except ResourceError NativeGc) × Display τ :=
  if d.disposed then (.done (.error .disposed), d)
  else
    match d.scratch with
    | some gc => (.done (.ok gc), d)
    | none =>
      match d.backend.createGc with
      | .error e => (.done (.error (.native e)), d)
      | .ok (gc, b) => (.done (.ok gc), { d with backend := b, scratch := some gc })

/-- The display after everything was given back and the connection closed. -/
def tornDown (d : Display τ) : Display τ :=
  { d with
    backend := (d.backend.giveBack d.owed).close.2
    colors := d.colors.clear
    fonts := d.fonts.clear
    images := d.images.clear
    scratch := none
    layout := none
    disposed := true }

/-! ## What a lookup can come to -/

/-- What looking a descriptor up answers, and the display that it leaves. -/
inductive Resolves (d : Display τ) (sh : Shelf) (k : sh.Key) (make : Making τ sh.Handle) :
    Outcome (Except ResourceError sh.Handle) × Display τ → Prop
  | ended (ended : d.disposed = true) : Resolves d sh k make (.done (.error .disposed), d)
  | found {h : sh.Handle} (live : d.disposed = false)
      (found : (sh.part.get d).find? k = some h) :
      Resolves d sh k make (.done (.ok h), sh.part.modify .countHit d)
  | made {h : sh.Handle} {b : Headless τ} (live : d.disposed = false)
      (absent : (sh.part.get d).find? k = none) (made : make d.backend = .ok (.ok (h, b))) :
      Resolves d sh k make
        (.done (.ok h), { sh.part.modify (·.countMiss.insert k h) d with backend := b })
  | refused {e : ResourceError} (live : d.disposed = false)
      (absent : (sh.part.get d).find? k = none) (refused : make d.backend = .ok (.error e)) :
      Resolves d sh k make (.done (.error e), sh.part.modify .countMiss d)
  | gaveUp {c : Fault} (live : d.disposed = false) (absent : (sh.part.get d).find? k = none)
      (gaveUp : make d.backend = .error c) :
      Resolves d sh k make (.fault c, sh.part.modify .countMiss d)

theorem resolves (d : Display τ) (sh : Shelf) (k : sh.Key) (make : Making τ sh.Handle) :
    d.Resolves sh k make (d.resolve sh k make) := by
  unfold resolve
  split
  · exact .ended ‹_›
  · rename_i live
    have live : d.disposed = false := by simpa using live
    split
    · exact .found live ‹_›
    · split
      · exact .made live ‹_› ‹_›
      · exact .refused live ‹_› ‹_›
      · exact .gaveUp live ‹_› ‹_›

/-- What looking the scratch context up answers, and the display that it leaves. -/
inductive ResolvesScratch (d : Display τ) :
    Outcome (Except ResourceError NativeGc) × Display τ → Prop
  | ended (ended : d.disposed = true) : ResolvesScratch d (.done (.error .disposed), d)
  | found {gc : NativeGc} (live : d.disposed = false) (found : d.scratch = some gc) :
      ResolvesScratch d (.done (.ok gc), d)
  | refused {e : PlatformError} (live : d.disposed = false) (absent : d.scratch = none)
      (refused : d.backend.createGc = .error e) :
      ResolvesScratch d (.done (.error (.native e)), d)
  | made {gc : NativeGc} {b : Headless τ} (live : d.disposed = false) (absent : d.scratch = none)
      (made : d.backend.createGc = .ok (gc, b)) :
      ResolvesScratch d (.done (.ok gc), { d with backend := b, scratch := some gc })

theorem resolvesScratch (d : Display τ) : d.ResolvesScratch d.resolveScratch := by
  unfold resolveScratch
  split
  · exact .ended ‹_›
  · rename_i live
    have live : d.disposed = false := by simpa using live
    split
    · exact .found live ‹_›
    · split
      · exact .refused live ‹_› ‹_›
      · exact .made live ‹_› ‹_›

end Display

variable {d : Display τ} {opening : Opening}

/-! ## Giving back -/

theorem Headless.giveBack_nil (b : Headless τ) : b.giveBack [] = b := by
  have live : b.live.filter (· ∉ ([] : List Released).map Released.number) = b.live :=
    List.filter_eq_self.mpr (by simp)
  simp only [giveBack, live, List.append_nil]

theorem Headless.giveBack_append (b : Headless τ) (l l' : List Released) :
    (b.giveBack l).giveBack l' = b.giveBack (l ++ l') := by
  simp [giveBack, List.filter_filter, Bool.and_comm]

/-- One release gives back one handle. -/
theorem Headless.release_eq (b : Headless τ) (e : Released) :
    (b.release e.number e).2 = b.giveBack [e] := by
  simp [giveBack, release]

theorem alone_ifLive (x : Act (Display τ) (Except ResourceError α)) :
    (Setting.alone opening).ifLive x d =
      if d.disposed then (.done (.error .disposed), d) else x d := by
  show (if d.disposed = true then _ else x : Act (Display τ) (Except ResourceError α)) d = _
  split <;> rfl

/-- Nothing is lent out when a call begins, and what is lent to it comes back at its end. -/
theorem alone_lending {d' : Display τ} (hl : d.lent = []) {store : Store} {x : Act (Display τ) α}
    {o : Outcome α} (h : x { d with lent := [store] } = (o, { d' with lent := [store] }))
    (hl' : d'.lent = []) (ho : o ≠ .stalled) :
    (Setting.alone opening).lending store x d = (o, d') := by
  have back : { d' with lent := [store].erase store } = d' := by
    rw [List.erase_cons_head, ← hl']
  show (if d.lent.contains store = true then _ else _ : Act (Display τ) α) d = _
  rw [hl, if_neg (by simp)]
  show (x.ensuring _) { d with lent := store :: d.lent } = _
  rw [hl, Act.ensuring, Act.bind_apply, Act.attempt_apply, h]
  cases o with
  | done a => exact congrArg (Prod.mk _) back
  | fault c => exact congrArg (Prod.mk _) back
  | stalled => exact absurd rfl ho

theorem alone_make {H : Type} (point : Point)
    (create : Headless τ → Except PlatformError (H × Headless τ)) :
    (Setting.alone opening).make point create = (Making.native create).act := by
  funext d
  unfold Setting.make Making.act Making.native
  simp only [Act.bind_apply, Setting.alone, Setting.plain, Act.pure_apply, Setting.backend,
    Lens.view, Act.view_apply, Lens.comp, Lens.whole, Display.backendPart, id]
  cases create d.backend <;> rfl

theorem resolveIn_apply {K H ε σ : Type} [DecidableEq K] (m : Lens σ (Cache K H)) (k : K)
    (create : Act σ (Except ε H)) (s : σ) :
    Cache.resolveIn m k create s =
      match (m.get s).find? k with
      | some h => (.done (.ok h), m.modify .countHit s)
      | none =>
        match create (m.modify .countMiss s) with
        | (.done (.ok h), s') => (.done (.ok h), m.modify (·.insert k h) s')
        | (.done (.error e), s') => (.done (.error e), s')
        | (.fault c, s') => (.fault c, s')
        | (.stalled, s') => (.stalled, s') := by
  unfold Cache.resolveIn
  rw [Act.bind_apply]
  show (match (m.get s).find? k with | some h => _ | none => _ : Act σ (Except ε H)) s = _
  cases (m.get s).find? k with
  | some h => rfl
  | none =>
    show (create >>= _ : Act σ (Except ε H)) (m.modify .countMiss s) = _
    rw [Act.bind_apply]
    cases create (m.modify .countMiss s) with
    | mk o s' =>
      cases o with
      | done r => cases r <;> rfl
      | fault c => rfl
      | stalled => rfl

theorem alone_resolve (opening : Opening) (hl : d.lent = []) (sh : Shelf) (k : sh.Key)
    (make : Making τ sh.Handle) :
    (Setting.alone opening).ifLive ((Setting.alone opening).lending sh.store
      (Cache.resolveIn (Lens.whole.comp sh.part) k make.act)) d = d.resolve sh k make := by
  rw [alone_ifLive, Display.resolve]
  split
  · rfl
  · have lent (u : Cache sh.Key sh.Handle → Cache sh.Key sh.Handle) :
        (sh.part.modify u d).lent = [] := by cases sh <;> exact hl
    have run := resolveIn_apply (Lens.whole.comp sh.part) k make.act { d with lent := [sh.store] }
    have hf : ((Lens.whole.comp sh.part).get { d with lent := [sh.store] }).find? k =
        (sh.part.get d).find? k := by cases sh <;> rfl
    have hb : ((Lens.whole.comp sh.part).modify Cache.countMiss
        { d with lent := [sh.store] }).backend = d.backend := by cases sh <;> rfl
    rw [hf, Making.act, hb] at run
    cases hk : (sh.part.get d).find? k with
    | some h =>
      rw [hk] at run
      exact alone_lending hl (run.trans (by cases sh <;> rfl)) (lent _) (by simp)
    | none =>
      rw [hk] at run
      cases hm : make d.backend with
      | error c =>
        rw [hm] at run
        exact alone_lending hl (run.trans (by cases sh <;> rfl)) (lent _) (by simp)
      | ok r =>
        cases r with
        | error e =>
          rw [hm] at run
          exact alone_lending hl (run.trans (by cases sh <;> rfl)) (lent _) (by simp)
        | ok r =>
          rw [hm] at run
          exact alone_lending hl (run.trans (by cases sh <;> rfl)) (lent _) (by simp)

theorem alone_giveBack (e : Released) (d : Display τ) :
    (Setting.alone opening).giveBack e.number e d =
      (.done (), { d with backend := d.backend.giveBack [e] }) := by
  rw [← Headless.release_eq]
  show (if (d.backend.release e.number e).1 = true then _ else _ : Act (Display τ) Unit) _ = _
  split <;> rfl

theorem alone_release (hl : d.lent = []) (sh : Shelf) (k : sh.Key) :
    (Setting.alone opening).releaseFrom sh.store (Lens.whole.comp sh.part)
      (fun h => (Setting.alone opening).giveBack (sh.released h).number (sh.released h)) k d =
        (.done (d.release sh k).1, (d.release sh k).2) := by
  unfold Setting.releaseFrom Display.release
  have hf : (sh.part.get { d with lent := [sh.store] }).find? k = (sh.part.get d).find? k := by
    cases sh <;> rfl
  cases hk : (sh.part.get d).find? k with
  | none =>
    refine alone_lending hl ?_ hl (by simp)
    rw [Act.bind_apply]
    simp only [Lens.alter, Act.alter_apply, Lens.comp, Lens.whole, id, Cache.release, hf, hk]
    cases sh <;> rfl
  | some h =>
    refine alone_lending hl ?_ (by cases sh <;> exact hl) (by simp)
    rw [Act.bind_apply]
    simp only [Lens.alter, Act.alter_apply, Lens.comp, Lens.whole, id, Cache.release, hf, hk]
    rw [Act.bind_apply, alone_giveBack]
    cases sh <;> rfl

theorem alone_disposeEach (f : α → Released) (l : List α) (d : Display τ) :
    Setting.disposeEach (fun h => (Setting.alone opening).giveBack (f h).number (f h)) l d =
      (.done (), { d with backend := d.backend.giveBack (l.map f) }) := by
  induction l generalizing d with
  | nil =>
    rw [List.map_nil, Headless.giveBack_nil]
    rfl
  | cons a l ih =>
    rw [Setting.disposeEach, Act.bind_apply, alone_giveBack]
    simp only [ih, Headless.giveBack_append, List.map_cons, List.singleton_append]

theorem alone_releaseAll (opening : Opening) (hl : d.lent = []) (sh : Shelf) :
    (Setting.alone opening).releaseAllFrom sh.store (Lens.whole.comp sh.part)
      (fun h => (Setting.alone opening).giveBack (sh.released h).number (sh.released h)) d =
        (.done (sh.part.get d).handles.length, d.releaseAll sh) := by
  unfold Setting.releaseAllFrom
  refine alone_lending hl ?_ (by cases sh <;> exact hl) (by simp)
  rw [Act.bind_apply]
  simp only [Lens.alter, Act.alter_apply, Lens.comp, Lens.whole, id, Cache.releaseAll]
  rw [Act.bind_apply, alone_disposeEach]
  cases sh <;> rfl

/-! ## The scratch context -/

theorem alone_scratchGc (hl : d.lent = []) :
    (Setting.alone opening).scratchGc d = d.resolveScratch := by
  unfold Setting.scratchGc Display.resolveScratch
  rw [alone_ifLive, alone_make]
  split
  · rfl
  · cases hs : d.scratch with
    | some gc =>
      refine alone_lending hl ?_ hl (by simp)
      show (match d.scratch with | some gc => _ | none => _ :
        Act (Display τ) (Except ResourceError NativeGc)) _ = _
      rw [hs]
      rfl
    | none =>
      cases hb : d.backend.createGc with
      | error e =>
        refine alone_lending hl ?_ hl (by simp)
        show (match d.scratch with | some gc => _ | none => _ :
          Act (Display τ) (Except ResourceError NativeGc)) _ = _
        rw [hs]
        simp only [Act.bind_apply, Making.act, Making.native, hb]
        rfl
      | ok r =>
        refine alone_lending hl ?_ (by exact hl) (by simp)
        show (match d.scratch with | some gc => _ | none => _ :
          Act (Display τ) (Except ResourceError NativeGc)) _ = _
        rw [hs]
        simp only [Act.bind_apply, Making.act, Making.native, hb]
        rfl

theorem alone_disposeScratch (hl : d.lent = []) :
    (Setting.alone opening).disposeScratch d =
      (.done d.scratch.isSome, { d with
        scratch := none
        backend := d.backend.giveBack (d.scratch.toList.map (.gc ·.id)) }) := by
  unfold Setting.disposeScratch
  refine alone_lending hl ?_ (by exact hl) (by simp)
  show (match d.scratch with | some gc => _ | none => _ : Act (Display τ) Bool)
    { d with lent := [.scratch], scratch := none } = _
  cases hs : d.scratch with
  | none =>
    simp only [Option.toList_none, List.map_nil, Headless.giveBack_nil]
    rfl
  | some gc =>
    show ((Setting.alone opening).giveBack (Released.gc gc.id).number (.gc gc.id) >>= _ :
      Act (Display τ) Bool) _ = _
    rw [Act.bind_apply, alone_giveBack]
    rfl

/-! ## The end of a display -/

theorem alone_closeBackend (d : Display τ) :
    (Setting.alone opening).closeBackend d =
      (.done (), { d with backend := d.backend.close.2 }) := by
  show (if d.backend.close.1 = true then (if 0 < d.backend.liveHandles then _ else _) else _ :
    Act (Display τ) Unit) { d with backend := d.backend.close.2 } = _
  split
  · split <;> rfl
  · rfl

theorem alone_teardown (hl : d.lent = []) :
    (Setting.alone opening).teardown d =
      if d.disposed then (.done false, d) else (.done true, d.tornDown) := by
  show (if d.disposed = true then _ else _ : Act (Display τ) Bool) d = _
  split
  · rfl
  · have images := alone_releaseAll opening (d := { d with disposed := true }) hl .images
    have fonts := alone_releaseAll opening
      (d := { d with disposed := true }.releaseAll .images) hl .fonts
    have colors := alone_releaseAll opening
      (d := ({ d with disposed := true }.releaseAll .images).releaseAll .fonts) hl .colors
    show (Setting.releaseAllImages _ >>= _ : Act (Display τ) Bool) { d with disposed := true } = _
    rw [Act.bind_apply, show (Setting.alone opening).releaseAllImages _ = _ from images]
    show (Setting.releaseAllFonts _ >>= _ : Act (Display τ) Bool) _ = _
    rw [Act.bind_apply, show (Setting.alone opening).releaseAllFonts _ = _ from fonts]
    show (Setting.releaseAllColors _ >>= _ : Act (Display τ) Bool) _ = _
    rw [Act.bind_apply, show (Setting.alone opening).releaseAllColors _ = _ from colors]
    show (Setting.disposeScratch _ >>= _ : Act (Display τ) Bool) _ = _
    rw [Act.bind_apply, alone_disposeScratch (by exact hl)]
    show (Setting.closeBackend _ >>= _ : Act (Display τ) Bool) _ = _
    rw [Act.bind_apply, alone_closeBackend]
    show (Outcome.done true, ({ d with
      backend := ((((d.backend.giveBack (d.shelved .images)).giveBack (d.shelved .fonts)).giveBack
        (d.shelved .colors)).giveBack (d.scratch.toList.map (.gc ·.id))).close.2
      colors := d.colors.clear
      fonts := d.fonts.clear
      images := d.images.clear
      scratch := none
      layout := none
      disposed := true } : Display τ)) = _
    simp only [Headless.giveBack_append]
    rfl

theorem alone_drop (hl : d.lent = []) :
    (Setting.alone opening).drop d = (.done (), if d.disposed then d else d.tornDown) := by
  show (if d.disposed = true then _ else _ : Act (Display τ) Unit) d = _
  split
  · rfl
  · rename_i hd
    show (Setting.teardown _ >>= _ : Act (Display τ) Unit) d = _
    rw [Act.bind_apply, alone_teardown hl, if_neg hd]
    rfl

end DisplayEnv
