import DisplayEnv.Proofs.Display.Changes

/-!
# What the calls about resources leave alone

Most calls of a display are about its resources. On the backend they allocate numbers, give handles
back and close the connection, and nothing else. So whatever has nothing to do with that, such as
the windows and the events, is as it was after every such call (`Display.after_apart`).
-/

namespace DisplayEnv

variable {τ γ : Type} {f : Headless τ → γ} {opening : Opening}

/-- `f` reads of a backend what allocations, releases and the connection have nothing to do with. -/
structure Headless.Apart (f : Headless τ → γ) : Prop where
  allocate : ∀ b b' n, b.allocate = .ok (n, b') → f b' = f b
  giveBack : ∀ b gone, f (b.giveBack gone) = f b
  close : ∀ b, f b.close.2 = f b

/-- A call about the windows of the backend, or about its events. -/
def Call.OnBackend : Call τ → Prop
  | .createWindow | .destroyWindow _ | .post _ | .send _ | .pendingEvents | .dispatch _ | .sleep =>
    True
  | _ => False

namespace Display

variable (d : Display τ)

theorem resolve_apart (hf : Headless.Apart f) (sh : Shelf) (k : sh.Key) {make : Making τ sh.Handle}
    (hm : make.Allocates sh.released) : f (d.resolve sh k make).2.backend = f d.backend := by
  have outcome := d.resolves sh k make
  generalize d.resolve sh k make = r at outcome ⊢
  cases outcome with
  | ended _ => rfl
  | made _ _ made => exact hf.allocate _ _ _ (hm _ _ _ made)
  | found _ _ | refused _ _ _ | gaveUp _ _ _ => cases sh <;> rfl

theorem resolveScratch_apart (hf : Headless.Apart f) :
    f d.resolveScratch.2.backend = f d.backend := by
  have outcome := d.resolvesScratch
  generalize d.resolveScratch = r at outcome ⊢
  cases outcome with
  | ended _ | found _ _ | refused _ _ _ => rfl
  | made _ _ made => exact hf.allocate _ _ _ (Headless.createGc_allocates made)

theorem measured_apart (hf : Headless.Apart f) (font : Font) :
    f (d.measured font).backend = f d.backend := by
  have h := d.resolve_apart hf .fonts font (createFont_allocates font)
  rcases d.measured_eq font with once | twice
  · rw [once]
    exact h
  · rw [twice]
    exact ((d.resolveFont font).2.resolveScratch_apart hf).trans h

theorem release_apart (hf : Headless.Apart f) (sh : Shelf) (k : sh.Key) :
    f (d.release sh k).2.backend = f d.backend := by
  unfold release
  split
  · exact hf.giveBack _ _
  · rfl

theorem tornDown_apart (hf : Headless.Apart f) : f d.tornDown.backend = f d.backend :=
  (hf.close _).trans (hf.giveBack _ _)

theorem enumerated_backend : d.enumerated.backend = d.backend := by
  rcases d.enumerated_eq with same | ⟨l, kept⟩
  · rw [same]
  · rw [kept]

/-- **A call about resources leaves alone what has nothing to do with them.** -/
theorem after_apart (hf : Headless.Apart f) {c : Call τ} (hc : ¬ c.OnBackend) :
    f (d.after opening c).backend = f d.backend := by
  cases c with
  | resolveColor c => exact d.resolve_apart hf .colors c (createColor_allocates c.r c.g c.b)
  | resolveFont font => exact d.resolve_apart hf .fonts font (createFont_allocates font)
  | resolveImage i | image i => exact d.resolve_apart hf .images i.uri (image_allocates _ i)
  | releaseColor _ | releaseFont _ | releaseImage _ => exact d.release_apart hf _ _
  | releaseAllColors | releaseAllFonts | releaseAllImages => exact hf.giveBack _ _
  | scratchGc => exact d.resolveScratch_apart hf
  | textExtent font _ => exact d.measured_apart hf font
  | monitors | primaryMonitor => exact congrArg f d.enumerated_backend
  | teardown | drop =>
    unfold after
    simp only
    split
    · rfl
    · exact d.tornDown_apart hf
  | closeBackend => exact hf.close _
  | invalidateMonitors | stats => rfl
  | createWindow | destroyWindow _ | post _ | send _ | pendingEvents | dispatch _ | sleep =>
    exact absurd trivial hc

end Display

end DisplayEnv
