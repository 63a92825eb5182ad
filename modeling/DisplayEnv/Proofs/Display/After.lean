import DisplayEnv.Proofs.Display.Effects

/-!
# The display after a call

`Display.after` gives, for every call, the display that it leaves, as a function of the display and
of the answer of an opened source. `Moment.of_after` is the reason for believing it: nothing is lent
out between two calls, and then a call leaves just that display.

It is put together from the operations of `Effects.lean` and from a few more that are not about a
cache.
-/

namespace DisplayEnv

variable {τ : Type}

/-! ## The operations that are not about a cache -/

/-- What making the image of a descriptor comes to. -/
def Making.image (opening : Opening) (i : Image) : Making τ NativeImage := fun b =>
  match i.source with
  | none => .ok (.error (.noSource i.uri))
  | some _ =>
    match opening.answer with
    | .error c => .error c
    | .ok r =>
      match Picture.ofOpeningBy opening.decoder i.uri r with
      | .error c => .error c
      | .ok (.error e) => .ok (.error e)
      | .ok (.ok picture) => Making.native (·.createImage picture) b

namespace Display

def resolveColor (d : Display τ) (c : Color) :
    Outcome (Except ResourceError NativeColor) × Display τ :=
  d.resolve .colors c (Making.native (·.createColor c.r c.g c.b))

def resolveFont (d : Display τ) (f : Font) :
    Outcome (Except ResourceError NativeFont) × Display τ :=
  d.resolve .fonts f (Making.native (·.createFont f))

def resolveImage (d : Display τ) (opening : Opening) (i : Image) :
    Outcome (Except ResourceError NativeImage) × Display τ :=
  d.resolve .images i.uri (Making.image opening i)

/-- The display after a text was measured: with the font, and then with the scratch context. -/
def measured (d : Display τ) (f : Font) : Display τ :=
  match d.resolveFont f with
  | (.done (.ok _), d') => d'.resolveScratch.2
  | (_, d') => d'

/-- The display after its monitors were asked for. -/
def enumerated (d : Display τ) : Display τ :=
  if d.disposed then d
  else
    match d.layout with
    | some _ => d
    | none =>
      match Layout.ofReport d.backend.config.report with
      | .error _ => d
      | .ok l => { d with layout := some l, layouts := d.layouts + 1 }

/-- The display after its next event was taken and, when that is for the backend, handled. -/
def dispatched (d : Display τ) : Display τ :=
  match d.backend.next.1 with
  | some (.destroy w) => { d with backend := d.backend.next.2.destroyWindow w }
  | _ => { d with backend := d.backend.next.2 }

/-- The display after a call. -/
def after (d : Display τ) (opening : Opening) : Call τ → Display τ
  | .resolveColor c => (d.resolveColor c).2
  | .releaseColor c => (d.release .colors c).2
  | .releaseAllColors => d.releaseAll .colors
  | .resolveFont f => (d.resolveFont f).2
  | .releaseFont f => (d.release .fonts f).2
  | .releaseAllFonts => d.releaseAll .fonts
  | .resolveImage i | .image i => (d.resolveImage opening i).2
  | .releaseImage i => (d.release .images i.uri).2
  | .releaseAllImages => d.releaseAll .images
  | .scratchGc => d.resolveScratch.2
  | .textExtent f _ => d.measured f
  | .monitors | .primaryMonitor => d.enumerated
  | .invalidateMonitors => { d with layout := none }
  | .stats => d
  | .teardown | .drop => if d.disposed then d else d.tornDown
  | .createWindow => { d with backend := d.backend.createWindow.2 }
  | .destroyWindow w => { d with backend := d.backend.destroyWindow w }
  | .post e => { d with backend := d.backend.post e }
  | .send e => { d with backend := d.backend.send e }
  | .pendingEvents => { d with backend := d.backend.drain }
  | .dispatch _ => d.dispatched
  | .sleep => { d with backend := d.backend.sleep }
  | .closeBackend => { d with backend := d.backend.close.2 }

end Display

variable {d : Display τ} {opening : Opening}

/-! ## What measuring and enumerating come to -/

/-- Measuring makes a second lookup or stops after the first. -/
theorem Display.measured_eq (d : Display τ) (f : Font) :
    d.measured f = (d.resolveFont f).2 ∨ d.measured f = (d.resolveFont f).2.resolveScratch.2 := by
  unfold measured
  split
  · rename_i e
    rw [e]
    exact .inr rfl
  · rename_i e
    rw [e]
    exact .inl rfl

/-- Enumerating keeps a layout or changes nothing. -/
theorem Display.enumerated_eq (d : Display τ) : d.enumerated = d ∨
    ∃ l, d.enumerated = { d with layout := some l, layouts := d.layouts + 1 } := by
  unfold enumerated
  split
  · exact .inl rfl
  · split
    · exact .inl rfl
    · split
      · exact .inl rfl
      · exact .inr ⟨_, rfl⟩

/-! ## Each operation -/

theorem Display.resolve_lent (hl : d.lent = []) (sh : Shelf) (k : sh.Key)
    (make : Making τ sh.Handle) : (d.resolve sh k make).2.lent = [] := by
  have outcome := d.resolves sh k make
  generalize d.resolve sh k make = r at outcome ⊢
  cases outcome with
  | ended _ => exact hl
  | found _ _ | made _ _ _ | refused _ _ _ | gaveUp _ _ _ => cases sh <;> exact hl

theorem alone_resolveColor (hl : d.lent = []) (c : Color) :
    (Setting.alone opening).resolveColor c d = d.resolveColor c := by
  unfold Setting.resolveColor Display.resolveColor
  rw [← alone_resolve opening hl, ← alone_make .createColor]
  rfl

theorem alone_resolveFont (hl : d.lent = []) (f : Font) :
    (Setting.alone opening).resolveFont f d = d.resolveFont f := by
  unfold Setting.resolveFont Display.resolveFont
  rw [← alone_resolve opening hl, ← alone_make .createFont]
  rfl

theorem alone_makeImage (i : Image) :
    (do
      (Setting.alone opening).note (.loadingImage i.uri)
      match ← (Setting.alone opening).loadPicture i with
      | .error e => return .error e
      | .ok picture => (Setting.alone opening).make .createImage (·.createImage picture) :
        Act (Display τ) (Except ResourceError NativeImage)) = (Making.image opening i).act := by
  funext d
  obtain ⟨decoder, answer⟩ := opening
  rw [Act.bind_apply]
  show ((Setting.alone ⟨decoder, answer⟩).loadPicture i >>= _ : Act (Display τ) _) d = _
  unfold Setting.loadPicture Making.act Making.image
  cases i.source with
  | none => rfl
  | some source =>
    cases answer with
    | error c => rfl
    | ok r =>
      show ((Act.ofExcept (Picture.ofOpeningBy decoder i.uri r)) >>= _ : Act (Display τ) _) d = _
      simp only
      cases Picture.ofOpeningBy decoder i.uri r with
      | error c => rfl
      | ok p =>
        cases p with
        | error e => rfl
        | ok picture =>
          show (Setting.alone ⟨decoder, .ok r⟩).make .createImage _ d = _
          rw [alone_make]
          rfl

theorem alone_resolveImage (hl : d.lent = []) (i : Image) :
    (Setting.alone opening).resolveImage i d = d.resolveImage opening i := by
  have h := alone_resolve opening hl .images i.uri (Making.image opening i)
  rw [← alone_makeImage] at h
  exact h

theorem alone_image? (hl : d.lent = []) (i : Image) :
    (Setting.alone opening).image? i d =
      ((d.resolveImage opening i).1.map Except.toOption, (d.resolveImage opening i).2) := by
  unfold Setting.image?
  rw [Act.bind_apply, alone_resolveImage hl]
  cases d.resolveImage opening i with
  | mk o d' =>
    cases o with
    | done r => cases r <;> rfl
    | fault c => rfl
    | stalled => rfl

/-- A text is measured with its font, and then on the scratch context. -/
theorem alone_textExtent_apply (hl : d.lent = []) (f : Font) (text : String) :
    (Setting.alone opening).textExtent f text d =
      match d.resolveFont f with
      | (.done (.ok font), d₁) =>
        match d₁.resolveScratch with
        | (.done (.ok _), d₂) =>
          match Headless.textExtent font text.length with
          | .ok extent => (.done (.ok extent), d₂)
          | .error c => (.fault c, d₂)
        | (.done (.error e), d₂) => (.done (.error e), d₂)
        | (.fault c, d₂) => (.fault c, d₂)
        | (.stalled, d₂) => (.stalled, d₂)
      | (.done (.error e), d₁) => (.done (.error e), d₁)
      | (.fault c, d₁) => (.fault c, d₁)
      | (.stalled, d₁) => (.stalled, d₁) := by
  unfold Setting.textExtent
  rw [Act.bind_apply, alone_resolveFont hl]
  have hl' : (d.resolveFont f).2.lent = [] := Display.resolve_lent hl _ _ _
  cases h : d.resolveFont f with
  | mk o d₁ =>
    rw [h] at hl'
    cases o with
    | fault c => rfl
    | stalled => rfl
    | done r =>
      cases r with
      | error e => rfl
      | ok font =>
        show ((Setting.alone opening).scratchGc >>= _ : Act (Display τ) _) d₁ = _
        rw [Act.bind_apply, alone_scratchGc hl']
        cases hs : d₁.resolveScratch with
        | mk o d₂ =>
          cases o with
          | fault c => simp only [hs]
          | stalled => simp only [hs]
          | done r =>
            cases r with
            | error e =>
              simp only [hs]
              rfl
            | ok gc =>
              simp only [hs]
              show (Act.ofExcept (Headless.textExtent font text.length) >>= fun extent =>
                pure (.ok extent) : Act (Display τ) (Except ResourceError _)) d₂ = _
              cases Headless.textExtent font text.length <;> rfl

theorem alone_textExtent (hl : d.lent = []) (f : Font) (text : String) :
    ((Setting.alone opening).textExtent f text d).2 = d.measured f := by
  rw [alone_textExtent_apply hl, Display.measured]
  cases d.resolveFont f with
  | mk o d₁ =>
    cases o with
    | fault c => rfl
    | stalled => rfl
    | done r =>
      cases r with
      | error e => rfl
      | ok font =>
        simp only
        split
        · split <;> simp only [*]
        all_goals simp only [*]

theorem alone_layout (opening : Opening) (d : Display τ) (hd : d.disposed = false) :
    ((Setting.alone opening).layout d).2 = d.enumerated := by
  show ((match d.layout with | some l => _ | none => _ : Act (Display τ) _) d).2 = _
  unfold Display.enumerated
  rw [if_neg (by simp [hd])]
  cases d.layout with
  | some l => rfl
  | none =>
    show ((match Layout.ofReport d.backend.config.report with | .error e => _ | .ok l => _ :
      Act (Display τ) _) d).2 = _
    cases Layout.ofReport d.backend.config.report with
    | error e => rfl
    | ok l =>
      simp only
      split <;> rfl

theorem alone_monitors (d : Display τ) :
    ((Setting.alone opening).monitors d).2 = d.enumerated := by
  show ((if d.disposed = true then _ else _ : Act (Display τ) _) d).2 = _
  split
  · rename_i hd
    rw [Display.enumerated, if_pos hd]
    rfl
  · rename_i hd
    rw [← alone_layout opening d (by simpa using hd), Act.bind_apply]
    cases (Setting.alone opening).layout d with
    | mk o d' =>
      cases o with
      | done r => cases r <;> rfl
      | fault c => rfl
      | stalled => rfl

theorem alone_primaryMonitor (d : Display τ) :
    ((Setting.alone opening).primaryMonitor d).2 = d.enumerated := by
  show ((if d.disposed = true then _ else _ : Act (Display τ) _) d).2 = _
  split
  · rename_i hd
    rw [Display.enumerated, if_pos hd]
    rfl
  · rename_i hd
    rw [← alone_layout opening d (by simpa using hd), Act.bind_apply]
    cases (Setting.alone opening).layout d with
    | mk o d' =>
      cases o with
      | done r =>
        cases r with
        | error e => rfl
        | ok l =>
          simp only
          cases l.primary? <;> rfl
      | fault c => rfl
      | stalled => rfl

theorem alone_stats (hl : d.lent = []) : (Setting.alone opening).stats d = (.done d.stats, d) := by
  show (if d.lent.isEmpty = true then _ else _ : Act (Display τ) DisplayStats) d = _
  rw [if_pos (by simp [hl])]
  rfl

theorem alone_dispatchNext (ending : Outcome (Except PlatformError Unit)) (d : Display τ) :
    (((Setting.alone opening).endingWith ending).dispatchNext d).2 = d.dispatched := by
  have front : ((Setting.alone opening).endingWith ending).backend.get d = d.backend := rfl
  unfold Setting.dispatchNext Display.dispatched
  rw [Act.bind_apply]
  simp only [Lens.alter, Act.alter_apply, front]
  cases h : d.backend.next.1 with
  | none => rfl
  | some e =>
    cases e with
    | wake => rfl
    | destroy w => rfl
    | task t =>
      cases ending with
      | done r => cases r <;> rfl
      | fault c => rfl
      | stalled => rfl

/-! ## Every call -/

/-- **What a call leaves**, when nothing is lent out. -/
theorem Moment.of_after (opening : Opening) (hl : d.lent = []) (c : Call τ) :
    (Moment.of opening c d).after = d.after opening c := by
  show ((Setting.alone opening).call c d).2 = _
  cases c <;> rw [Setting.call] <;> try rw [Act.bind_pure_snd]
  case resolveColor c => rw [alone_resolveColor hl]; rfl
  case releaseColor c => exact congrArg Prod.snd (alone_release hl .colors c)
  case releaseAllColors => exact congrArg Prod.snd (alone_releaseAll opening hl .colors)
  case resolveFont f => rw [alone_resolveFont hl]; rfl
  case releaseFont f => exact congrArg Prod.snd (alone_release hl .fonts f)
  case releaseAllFonts => exact congrArg Prod.snd (alone_releaseAll opening hl .fonts)
  case resolveImage i => rw [alone_resolveImage hl]; rfl
  case image i => rw [alone_image? hl]; rfl
  case releaseImage i => exact congrArg Prod.snd (alone_release hl .images i.uri)
  case releaseAllImages => exact congrArg Prod.snd (alone_releaseAll opening hl .images)
  case scratchGc => rw [alone_scratchGc hl]; rfl
  case textExtent f text => exact alone_textExtent hl f text
  case monitors => exact alone_monitors d
  case primaryMonitor => exact alone_primaryMonitor d
  case teardown =>
    rw [alone_teardown hl, Display.after]
    split <;> rfl
  case drop =>
    rw [alone_drop hl]
    rfl
  case dispatch ending => exact alone_dispatchNext ending d
  case closeBackend =>
    rw [alone_closeBackend]
    rfl
  case stats =>
    rw [alone_stats hl]
    rfl
  all_goals rfl

end DisplayEnv
