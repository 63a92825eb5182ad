import DisplayEnv.Proofs.Events.Order
import DisplayEnv.Proofs.Monitors.Lookups

/-!
# Calls that do not see the events

Most calls of a display are not about events. Such a call does the same, and answers the same,
whatever events wait (`Display.after_withEvents`, `alone_call_withEvents`): the queue and the inbox
can be exchanged before it or after it.
-/

namespace DisplayEnv

variable {τ : Type}

/-- The backend with these events waiting. -/
def Headless.withEvents (b : Headless τ) (queue inbox : List (Event τ)) : Headless τ :=
  { b with queue := queue, inbox := inbox }

/-- The display with these events waiting. -/
def Display.withEvents (d : Display τ) (queue inbox : List (Event τ)) : Display τ :=
  { d with backend := d.backend.withEvents queue inbox }

/-! ## What a call leaves -/

namespace Headless

variable (b : Headless τ) (queue inbox : List (Event τ))

theorem allocate_withEvents : (b.withEvents queue inbox).allocate =
    b.allocate.map fun r => (r.1, r.2.withEvents queue inbox) := by
  unfold allocate withEvents
  simp only
  split <;> rfl

theorem createColor_withEvents (red green blue : UInt8) :
    (b.withEvents queue inbox).createColor red green blue =
      (b.createColor red green blue).map fun r => (r.1, r.2.withEvents queue inbox) := by
  unfold createColor
  rw [allocate_withEvents]
  cases b.allocate <;> rfl

theorem createGc_withEvents : (b.withEvents queue inbox).createGc =
    b.createGc.map fun r => (r.1, r.2.withEvents queue inbox) := by
  unfold createGc
  rw [allocate_withEvents]
  cases b.allocate <;> rfl

theorem createImage_withEvents (p : Picture) : (b.withEvents queue inbox).createImage p =
    (b.createImage p).map fun r => (r.1, r.2.withEvents queue inbox) := by
  unfold createImage
  split
  · rfl
  · rw [allocate_withEvents]
    cases b.allocate <;> rfl

theorem createFont_withEvents (f : Font) : (b.withEvents queue inbox).createFont f =
    (b.createFont f).map fun r => (r.1, r.2.withEvents queue inbox) := by
  have pixels : (b.withEvents queue inbox).pixels? f.size = b.pixels? f.size := rfl
  unfold createFont
  rw [pixels]
  split
  · rfl
  · cases b.pixels? f.size with
    | none => rfl
    | some height =>
      simp only
      rw [allocate_withEvents]
      cases b.allocate <;> rfl

theorem close_withEvents : (b.withEvents queue inbox).close.2 =
    b.close.2.withEvents queue inbox := by
  unfold close withEvents
  simp only
  split <;> rfl

end Headless

/-- Making a handle has nothing to do with the events that wait. -/
def Making.Blind {H : Type} (make : Making τ H) : Prop :=
  ∀ (b : Headless τ) (queue inbox : List (Event τ)), make (b.withEvents queue inbox) =
    (make b).map (Except.map fun r => (r.1, r.2.withEvents queue inbox))

theorem Making.blind_native {H : Type} {create : Headless τ → Except PlatformError (H × Headless τ)}
    (h : ∀ (b : Headless τ) (queue inbox : List (Event τ)), create (b.withEvents queue inbox) =
      (create b).map fun r => (r.1, r.2.withEvents queue inbox)) :
    (Making.native create).Blind := by
  intro b queue inbox
  unfold Making.native
  rw [h]
  cases create b <;> rfl

theorem Making.blind_image (opening : Opening) (i : Image) :
    (Making.image opening i : Making τ _).Blind := by
  intro b queue inbox
  unfold Making.image
  cases i.source with
  | none => rfl
  | some source =>
    cases opening.answer with
    | error c => rfl
    | ok r =>
      simp only
      cases Picture.ofOpeningBy opening.decoder i.uri r with
      | error c => rfl
      | ok p =>
        cases p with
        | error e => rfl
        | ok picture =>
          exact Making.blind_native (fun b _ _ => b.createImage_withEvents _ _ _) b queue inbox

namespace Display

variable (d : Display τ) (queue inbox : List (Event τ))

theorem resolve_withEvents (sh : Shelf) (k : sh.Key) {make : Making τ sh.Handle}
    (blind : make.Blind) : (d.withEvents queue inbox).resolve sh k make =
      ((d.resolve sh k make).1, (d.resolve sh k make).2.withEvents queue inbox) := by
  have shelf : sh.part.get (d.withEvents queue inbox) = sh.part.get d := by cases sh <;> rfl
  have backend : (d.withEvents queue inbox).backend = d.backend.withEvents queue inbox := rfl
  have disposed : (d.withEvents queue inbox).disposed = d.disposed := rfl
  have changed (u : Cache sh.Key sh.Handle → Cache sh.Key sh.Handle) :
      sh.part.modify u (d.withEvents queue inbox) =
        (sh.part.modify u d).withEvents queue inbox := by
    cases sh <;> rfl
  unfold resolve
  rw [shelf, backend, disposed, blind d.backend queue inbox]
  split
  · rfl
  · cases (sh.part.get d).find? k with
    | some h => simp only [changed]
    | none =>
      cases make d.backend with
      | error c => simp only [Except.map, changed]
      | ok r =>
        cases r with
        | error e => simp only [Except.map, changed]
        | ok made =>
          simp only [Except.map, changed]
          rfl

theorem resolveScratch_withEvents : (d.withEvents queue inbox).resolveScratch =
    (d.resolveScratch.1, d.resolveScratch.2.withEvents queue inbox) := by
  have backend : (d.withEvents queue inbox).backend = d.backend.withEvents queue inbox := rfl
  have scratch : (d.withEvents queue inbox).scratch = d.scratch := rfl
  have disposed : (d.withEvents queue inbox).disposed = d.disposed := rfl
  unfold resolveScratch
  rw [backend, scratch, disposed, Headless.createGc_withEvents]
  split
  · rfl
  · cases d.scratch with
    | some gc => rfl
    | none =>
      simp only
      cases d.backend.createGc <;> rfl

theorem resolveFont_withEvents (f : Font) : (d.withEvents queue inbox).resolveFont f =
    ((d.resolveFont f).1, (d.resolveFont f).2.withEvents queue inbox) :=
  d.resolve_withEvents queue inbox .fonts f
    (Making.blind_native fun b _ _ => b.createFont_withEvents _ _ _)

theorem measured_withEvents (f : Font) : (d.withEvents queue inbox).measured f =
    (d.measured f).withEvents queue inbox := by
  unfold measured
  rw [resolveFont_withEvents]
  cases d.resolveFont f with
  | mk o d' =>
    match o with
    | .done (.ok _) => simp only [resolveScratch_withEvents]
    | .done (.error _) | .fault _ | .stalled => rfl

theorem release_withEvents (sh : Shelf) (k : sh.Key) : (d.withEvents queue inbox).release sh k =
    ((d.release sh k).1, (d.release sh k).2.withEvents queue inbox) := by
  have shelf : sh.part.get (d.withEvents queue inbox) = sh.part.get d := by cases sh <;> rfl
  unfold release
  rw [shelf]
  split
  · cases sh <;> rfl
  · rfl

theorem releaseAll_withEvents (sh : Shelf) :
    (d.withEvents queue inbox).releaseAll sh = (d.releaseAll sh).withEvents queue inbox := by
  cases sh <;> rfl

theorem tornDown_withEvents :
    (d.withEvents queue inbox).tornDown = d.tornDown.withEvents queue inbox := by
  have given : (d.withEvents queue inbox).backend.giveBack (d.withEvents queue inbox).owed =
      (d.backend.giveBack d.owed).withEvents queue inbox := rfl
  unfold tornDown
  rw [given, Headless.close_withEvents]
  rfl

theorem enumerated_withEvents :
    (d.withEvents queue inbox).enumerated = d.enumerated.withEvents queue inbox := by
  have disposed : (d.withEvents queue inbox).disposed = d.disposed := rfl
  have layout : (d.withEvents queue inbox).layout = d.layout := rfl
  have report : (d.withEvents queue inbox).backend.config.report = d.backend.config.report := rfl
  unfold enumerated
  rw [disposed, layout, report]
  split
  · rfl
  · cases d.layout with
    | some l => rfl
    | none =>
      simp only
      cases Layout.ofReport d.backend.config.report <;> rfl

/-- **A call that is not about events does the same**, whatever waits. -/
theorem after_withEvents (opening : Opening) {c : Call τ} (hc : ¬ c.OnEvents) :
    (d.withEvents queue inbox).after opening c = (d.after opening c).withEvents queue inbox := by
  cases c with
  | resolveColor c =>
    exact congrArg Prod.snd (d.resolve_withEvents queue inbox .colors c
      (Making.blind_native fun b _ _ => b.createColor_withEvents _ _ _ _ _))
  | resolveFont f => exact congrArg Prod.snd (d.resolveFont_withEvents queue inbox f)
  | resolveImage i | image i =>
    exact congrArg Prod.snd (d.resolve_withEvents queue inbox .images i.uri
      (Making.blind_image opening i))
  | releaseColor c => exact congrArg Prod.snd (d.release_withEvents queue inbox .colors c)
  | releaseFont f => exact congrArg Prod.snd (d.release_withEvents queue inbox .fonts f)
  | releaseImage i => exact congrArg Prod.snd (d.release_withEvents queue inbox .images i.uri)
  | releaseAllColors => exact d.releaseAll_withEvents queue inbox .colors
  | releaseAllFonts => exact d.releaseAll_withEvents queue inbox .fonts
  | releaseAllImages => exact d.releaseAll_withEvents queue inbox .images
  | scratchGc => exact congrArg Prod.snd (d.resolveScratch_withEvents queue inbox)
  | textExtent f _ => exact d.measured_withEvents queue inbox f
  | monitors | primaryMonitor => exact d.enumerated_withEvents queue inbox
  | teardown | drop =>
    show (if d.disposed then _ else _) = (if d.disposed then _ else _ : Display τ).withEvents _ _
    split
    · rfl
    · exact d.tornDown_withEvents queue inbox
  | invalidateMonitors | stats | createWindow | destroyWindow _ => rfl
  | closeBackend =>
    show { d with backend := (d.backend.withEvents queue inbox).close.2 } = _
    rw [Headless.close_withEvents]
    rfl
  | post _ | send _ | pendingEvents | dispatch _ | sleep => exact absurd trivial hc

end Display

/-! ## What a call answers -/

/-- A call that opens the source of an image. -/
def Call.Opens : Call τ → Prop
  | .resolveImage _ | .image _ => True
  | _ => False

/-- What looking the layout up answers on a display alone. -/
theorem alone_layout_fst (opening : Opening) (d : Display τ) :
    ((Setting.alone opening).layout d).1 = .done (match d.layout with
      | some l => .ok l
      | none => Layout.ofReport d.backend.config.report) := by
  cases kept : d.layout with
  | some l => exact congrArg Prod.fst (Setting.layout_kept (S := Setting.alone opening) kept)
  | none =>
    have asked : (Setting.alone opening).enumerate d =
        (.done (.ok d.backend.config.report), d) := rfl
    rw [Setting.layout_asked (S := Setting.alone opening) kept, asked]
    simp only
    cases Layout.ofReport d.backend.config.report with
    | error e => rfl
    | ok l =>
      simp only
      unfold Setting.remember
      split <;> rfl

theorem alone_monitors_fst (opening : Opening) (d : Display τ) :
    ((Setting.alone opening).monitors d).1 = if d.disposed then .done (.error .disposed) else
      ((Setting.alone opening).layout d).1.map (Except.map (·.monitors)) := by
  show ((if d.disposed = true then _ else _ : Act (Display τ) _) d).1 = _
  split
  · rfl
  · rw [Act.bind_apply]
    cases (Setting.alone opening).layout d with
    | mk o d' =>
      match o with
      | .done (.ok _) | .done (.error _) | .fault _ | .stalled => rfl

theorem alone_primaryMonitor_fst (opening : Opening) (d : Display τ) :
    ((Setting.alone opening).primaryMonitor d).1 = if d.disposed then .done (.error .disposed) else
      ((Setting.alone opening).layout d).1.map (· >>= fun l =>
        match l.primary? with
        | some m => .ok m
        | none => .error .noMonitors) := by
  show ((if d.disposed = true then _ else _ : Act (Display τ) _) d).1 = _
  split
  · rfl
  · rw [Act.bind_apply]
    cases (Setting.alone opening).layout d with
    | mk o d' =>
      match o with
      | .done (.error _) | .fault _ | .stalled => rfl
      | .done (.ok l) =>
        simp only [Outcome.map]
        cases h : l.primary? <;> simp [bind, Except.bind, h]

section Answers

variable {d : Display τ} (hl : d.lent = []) (queue inbox : List (Event τ))
  (opening opening' : Opening)

include hl

/-- What giving one resource back answers, or all of a kind, has nothing to do with the events. -/
theorem alone_release_withEvents (sh : Shelf) (k : sh.Key) :
    ((Setting.alone opening).releaseFrom sh.store (Lens.whole.comp sh.part)
      (fun h => (Setting.alone opening).giveBack (sh.released h).number (sh.released h)) k
      (d.withEvents queue inbox)).1 =
    ((Setting.alone opening').releaseFrom sh.store (Lens.whole.comp sh.part)
      (fun h => (Setting.alone opening').giveBack (sh.released h).number (sh.released h)) k
      d).1 := by
  have hl' : (d.withEvents queue inbox).lent = [] := hl
  rw [alone_release hl, alone_release hl', Display.release_withEvents]

theorem alone_releaseAll_withEvents (sh : Shelf) :
    ((Setting.alone opening).releaseAllFrom sh.store (Lens.whole.comp sh.part)
      (fun h => (Setting.alone opening).giveBack (sh.released h).number (sh.released h))
      (d.withEvents queue inbox)).1 =
    ((Setting.alone opening').releaseAllFrom sh.store (Lens.whole.comp sh.part)
      (fun h => (Setting.alone opening').giveBack (sh.released h).number (sh.released h)) d).1 := by
  have hl' : (d.withEvents queue inbox).lent = [] := hl
  rw [alone_releaseAll _ hl, alone_releaseAll _ hl']
  cases sh <;> rfl

theorem alone_textExtent_withEvents (f : Font) (text : String) :
    ((Setting.alone opening).textExtent f text (d.withEvents queue inbox)).1 =
      ((Setting.alone opening').textExtent f text d).1 := by
  have hl' : (d.withEvents queue inbox).lent = [] := hl
  rw [alone_textExtent_apply hl, alone_textExtent_apply hl', Display.resolveFont_withEvents]
  cases d.resolveFont f with
  | mk o d₁ =>
    match o with
    | .done (.error _) | .fault _ | .stalled => rfl
    | .done (.ok font) =>
      simp only [Display.resolveScratch_withEvents]
      cases d₁.resolveScratch with
      | mk o d₂ =>
        match o with
        | .done (.error _) | .fault _ | .stalled => rfl
        | .done (.ok _) =>
          simp only
          cases Headless.textExtent font text.length <;> rfl

theorem alone_resolveImage_withEvents (i : Image) :
    ((Setting.alone opening).resolveImage i (d.withEvents queue inbox)).1 =
      ((Setting.alone opening).resolveImage i d).1 := by
  have hl' : (d.withEvents queue inbox).lent = [] := hl
  rw [alone_resolveImage hl, alone_resolveImage hl', Display.resolveImage,
    Display.resolve_withEvents _ _ _ _ _ (Making.blind_image opening i)]
  rfl

/-- **A call that is not about events answers the same**, whatever waits, if the source answers the
same that it may open. -/
theorem alone_call_withEvents {c : Call τ} (events : ¬ c.OnEvents)
    (opens : c.Opens → opening = opening') :
    ((Setting.alone opening).call c (d.withEvents queue inbox)).1 =
      ((Setting.alone opening').call c d).1 := by
  have hl' : (d.withEvents queue inbox).lent = [] := hl
  have released (sh : Shelf) (k : sh.Key) :=
    congrArg (Outcome.map Answer.flag)
      (alone_release_withEvents hl queue inbox opening opening' sh k)
  have releasedAll (sh : Shelf) := congrArg (Outcome.map Answer.count)
    (alone_releaseAll_withEvents hl queue inbox opening opening' sh)
  cases c <;> rw [Setting.call, Setting.call] <;> try rw [Act.bind_pure_apply, Act.bind_pure_apply]
  case resolveColor c =>
    rw [alone_resolveColor hl, alone_resolveColor hl', Display.resolveColor,
      Display.resolve_withEvents _ _ _ _ _
        (Making.blind_native fun b _ _ => b.createColor_withEvents _ _ _ _ _)]
    rfl
  case resolveFont f =>
    rw [alone_resolveFont hl, alone_resolveFont hl', Display.resolveFont_withEvents]
  case scratchGc =>
    rw [alone_scratchGc hl, alone_scratchGc hl', Display.resolveScratch_withEvents]
  case releaseColor c => exact released .colors c
  case releaseFont f => exact released .fonts f
  case releaseImage i => exact released .images i.uri
  case releaseAllColors => exact releasedAll .colors
  case releaseAllFonts => exact releasedAll .fonts
  case releaseAllImages => exact releasedAll .images
  case textExtent f text =>
    exact congrArg (Outcome.map Answer.extent)
      (alone_textExtent_withEvents hl queue inbox opening opening' f text)
  case stats =>
    rw [alone_stats hl, alone_stats hl']
    rfl
  case drop => rw [alone_drop hl, alone_drop hl']
  case closeBackend => rw [alone_closeBackend, alone_closeBackend]
  case monitors =>
    simp only [alone_monitors_fst, alone_layout_fst]
    rfl
  case primaryMonitor =>
    simp only [alone_primaryMonitor_fst, alone_layout_fst]
    rfl
  case teardown =>
    rw [alone_teardown hl, alone_teardown hl']
    show Outcome.map _ (if d.disposed = true then _ else _ : Outcome Bool × Display τ).1 = _
    split <;> rfl
  case resolveImage i =>
    obtain rfl := opens trivial
    rw [alone_resolveImage_withEvents hl]
  case image i =>
    obtain rfl := opens trivial
    have same := alone_resolveImage_withEvents hl queue inbox opening i
    rw [alone_resolveImage hl, alone_resolveImage hl'] at same
    rw [alone_image? hl, alone_image? hl', same]
  all_goals first | rfl | exact absurd trivial events

end Answers

end DisplayEnv
