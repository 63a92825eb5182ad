import DisplayEnv.Proofs.Display.Calls

/-!
# A call in a quiet setting is a call on the display alone

Every operation of a display is written for a display that is a part of some larger state.
`Quiet.call_alone`: in a quiet setting each of them does to the display, and answers, what it does
and answers on a display with nothing around it, for one answer of the image source that it may
open. So what is said of histories is said of every program around a display.

The lemmas follow the code: first the actions on a part of the state, then the ways of putting
actions together, then one lemma for each operation. A lemma about an action that may open a source
keeps track of the state in which the source is opened, because the answer depends on it.
-/

namespace DisplayEnv

variable {σ δ τ α β γ : Type}

namespace Lens.Mirrors

variable {L : Lens σ δ} {s : σ}

/-! ## Actions on a part -/

theorem pure (a : α) : L.Mirrors s (Pure.pure a) (Pure.pure a) := rfl

theorem fault (c : Fault) : L.Mirrors s (Act.fault c : Act σ α) (Act.fault c) := rfl

theorem ofExcept (r : Except Fault α) : L.Mirrors s (Act.ofExcept r) (Act.ofExcept r) := by
  cases r <;> rfl

theorem view (m : Lens δ β) (v : β → α) :
    L.Mirrors s ((L.comp m).view v) ((Lens.whole.comp m).view v) := rfl

theorem alter (hL : L.Lawful) (m : Lens δ β) (u : β → α × β) :
    L.Mirrors s ((L.comp m).alter u) ((Lens.whole.comp m).alter u) :=
  Prod.ext rfl (hL.get_set _ _)

theorem change (hL : L.Lawful) (m : Lens δ β) (u : β → β) :
    L.Mirrors s ((L.comp m).change u) ((Lens.whole.comp m).change u) :=
  Prod.ext rfl (hL.get_set _ _)

/-! ## Actions put together -/

/-- The second action need only be mirrored where the first one ends. -/
theorem bind_of {x : Act σ α} {y : Act δ α} {f : α → Act σ β} {g : α → Act δ β}
    (hx : L.Mirrors s x y) (hf : ∀ a s', x s = (.done a, s') → L.Mirrors s' (f a) (g a)) :
    L.Mirrors s (x >>= f) (y >>= g) := by
  unfold Mirrors at hx ⊢
  rw [Act.bind_apply, Act.bind_apply, ← hx]
  cases h : x s with
  | mk o s' =>
    cases o with
    | done a => exact hf a s' h
    | fault c => rfl
    | stalled => rfl

theorem bind {x : Act σ α} {y : Act δ α} {f : α → Act σ β} {g : α → Act δ β}
    (hx : L.Mirrors s x y) (hf : ∀ a s', L.Mirrors s' (f a) (g a)) :
    L.Mirrors s (x >>= f) (y >>= g) :=
  hx.bind_of fun a s' _ => hf a s'

theorem attempt {x : Act σ α} {y : Act δ α} (hx : L.Mirrors s x y) :
    L.Mirrors s x.attempt y.attempt := by
  unfold Mirrors at hx ⊢
  rw [Act.attempt_apply, Act.attempt_apply, ← hx]
  cases x s with
  | mk o s' => cases o <;> rfl

theorem ensuring {x : Act σ α} {y : Act δ α} {last : Act σ Unit} {last' : Act δ Unit}
    (hx : L.Mirrors s x y) (hl : ∀ s', L.Mirrors s' last last') :
    L.Mirrors s (x.ensuring last) (y.ensuring last') := by
  refine hx.attempt.bind fun r s' => ?_
  cases r with
  | ok a => exact (hl s').bind fun _ _ => .pure a
  | error c => exact (hl s').bind fun _ _ => .fault c

end Lens.Mirrors

/-- A display on its own is quiet, whatever tasks it runs. -/
theorem Setting.plain_quiet (files : Files)
    (run : τ → Act (Display τ) (Except PlatformError Unit)) : (Setting.plain files run).Quiet where
  lawful := Lens.lawful_whole
  note _ _ := rfl
  before _ _ _ _ := rfl
  report _ := rfl
  openSource source _ := ⟨.ok (source.opened files), rfl⟩

/-! ## Operations of a display -/

namespace Setting.Quiet

variable {S : Setting σ τ} {opening : Opening} {answer : SourceAnswer} {s : σ}

theorem noteAlone (hS : S.Quiet) (n : Notice) :
    S.display.Mirrors s (S.note n) ((Setting.alone opening).note n) := hS.note n s

theorem viewDisplay (_ : S.Quiet) (v : Display τ → α) :
    S.display.Mirrors s (S.display.view v) ((Setting.alone opening).display.view v) := rfl

theorem changeDisplay (hS : S.Quiet) (u : Display τ → Display τ) :
    S.display.Mirrors s (S.display.change u) ((Setting.alone opening).display.change u) :=
  .change hS.lawful .whole u

theorem ifLive (hS : S.Quiet) {x : Act σ (Except ResourceError α)}
    {y : Act (Display τ) (Except ResourceError α)} (h : S.display.Mirrors s x y) :
    S.display.Mirrors s (S.ifLive x) ((Setting.alone opening).ifLive y) := by
  refine (hS.viewDisplay _).bind_of fun disposed s' hs => ?_
  obtain rfl : s = s' := congrArg Prod.snd hs
  split
  · exact .pure _
  · exact h

/-- The display while a store of it is lent out. -/
def lend (store : Store) (d : Display τ) : Display τ := { d with lent := store :: d.lent }

theorem lending (hS : S.Quiet) {store : Store} {x : Act σ α} {y : Act (Display τ) α}
    (h : S.display.Mirrors (S.display.modify (lend store) s) x y) :
    S.display.Mirrors s (S.lending store x) ((Setting.alone opening).lending store y) := by
  refine (hS.viewDisplay _).bind_of fun lent s' hs => ?_
  obtain rfl : s = s' := congrArg Prod.snd hs
  split
  · exact .fault _
  · refine (hS.changeDisplay _).bind_of fun _ s' hs => ?_
    obtain rfl : S.display.modify (lend store) s = s' := congrArg Prod.snd hs
    exact h.ensuring fun s' => hS.changeDisplay _

theorem make (hS : S.Quiet) {point : Point} (hp : point ≠ .dispatch ∧ point ≠ .sleep)
    (create : Headless τ → Except PlatformError (α × Headless τ)) :
    S.display.Mirrors s (S.make point create) ((Setting.alone opening).make point create) := by
  refine (hS.before point s hp.1 hp.2).bind fun r s' => ?_
  cases r with
  | error e => exact .pure _
  | ok _ =>
    refine Lens.Mirrors.bind (.view Display.backendPart id) fun b s' => ?_
    cases create b with
    | error e => exact .pure _
    | ok r =>
      exact (Lens.Mirrors.change hS.lawful Display.backendPart _).bind fun _ _ => .pure _

theorem giveBack (hS : S.Quiet) (id : Nat) (entry : Released) :
    S.display.Mirrors s (S.giveBack id entry) ((Setting.alone opening).giveBack id entry) := by
  refine (Lens.Mirrors.alter hS.lawful Display.backendPart _).bind fun known s' => ?_
  split
  · exact .pure _
  · exact hS.noteAlone _

theorem disposeEach {f : α → Act σ Unit} {g : α → Act (Display τ) Unit}
    (h : ∀ a s, S.display.Mirrors s (f a) (g a)) (l : List α) :
    S.display.Mirrors s (Setting.disposeEach f l) (Setting.disposeEach g l) := by
  induction l generalizing s with
  | nil => exact .pure _
  | cons a l ih => exact (h a s).bind fun _ _ => ih

theorem releaseFrom {K H : Type} [DecidableEq K] (hS : S.Quiet) (store : Store)
    (m : Lens (Display τ) (Cache K H)) (k : K) {f : H → Act σ Unit} {g : H → Act (Display τ) Unit}
    (h : ∀ a s, S.display.Mirrors s (f a) (g a)) :
    S.display.Mirrors s (S.releaseFrom store (S.display.comp m) f k)
      ((Setting.alone opening).releaseFrom store (Lens.whole.comp m) g k) := by
  refine hS.lending ((Lens.Mirrors.alter hS.lawful m _).bind fun found s' => ?_)
  cases found with
  | none => exact .pure _
  | some a => exact (h a s').bind fun _ _ => .pure _

theorem releaseAllFrom {K H : Type} (hS : S.Quiet) (store : Store)
    (m : Lens (Display τ) (Cache K H)) {f : H → Act σ Unit} {g : H → Act (Display τ) Unit}
    (h : ∀ a s, S.display.Mirrors s (f a) (g a)) :
    S.display.Mirrors s (S.releaseAllFrom store (S.display.comp m) f)
      ((Setting.alone opening).releaseAllFrom store (Lens.whole.comp m) g) :=
  hS.lending ((Lens.Mirrors.alter hS.lawful m _).bind fun l _ =>
    (disposeEach h l).bind fun _ _ => .pure _)

/-- The miss is counted before the making starts, so the making is mirrored in that state. -/
theorem resolveIn {K H ε : Type} [DecidableEq K] (hS : S.Quiet) (m : Lens (Display τ) (Cache K H))
    (k : K) {create : Act σ (Except ε H)} {create' : Act (Display τ) (Except ε H)}
    (h : S.display.Mirrors ((S.display.comp m).modify Cache.countMiss s) create create') :
    S.display.Mirrors s (Cache.resolveIn (S.display.comp m) k create)
      (Cache.resolveIn (Lens.whole.comp m) k create') := by
  refine (Lens.Mirrors.view m _).bind_of fun found s' hs => ?_
  obtain rfl : s = s' := congrArg Prod.snd hs
  cases found with
  | some a => exact (Lens.Mirrors.change hS.lawful m _).bind fun _ _ => .pure _
  | none =>
    refine (Lens.Mirrors.change hS.lawful m _).bind_of fun _ s' hs => ?_
    obtain rfl : (S.display.comp m).modify Cache.countMiss s = s' := congrArg Prod.snd hs
    refine h.bind fun r s' => ?_
    cases r with
    | error e => exact .pure _
    | ok a => exact (Lens.Mirrors.change hS.lawful m _).bind fun _ _ => .pure _

/-! ## Colors, fonts and images -/

theorem resolveColor (hS : S.Quiet) (c : Color) :
    S.display.Mirrors s (S.resolveColor c) ((Setting.alone opening).resolveColor c) :=
  hS.ifLive <| hS.lending <| hS.resolveIn Display.colorsPart c <|
    (hS.noteAlone _).bind fun _ _ => hS.make (by decide) _

theorem resolveFont (hS : S.Quiet) (f : Font) :
    S.display.Mirrors s (S.resolveFont f) ((Setting.alone opening).resolveFont f) :=
  hS.ifLive <| hS.lending <| hS.resolveIn Display.fontsPart f <|
    (hS.noteAlone _).bind fun _ _ => hS.make (by decide) _

/-- The picture of an image that has no source, or whose source answers so. -/
theorem loadPicture_of {i : Image}
    (h : ∀ source, i.source = some source →
      S.display.Mirrors s (S.openSource source) (Act.ofExcept answer)) :
    S.display.Mirrors s (S.loadPicture i)
      ((Setting.alone ⟨S.decoder, answer⟩).loadPicture i) := by
  unfold Setting.loadPicture
  cases hi : i.source with
  | none => exact .pure _
  | some source => exact (h source hi).bind fun _ _ => .ofExcept _

/-- The state in which the source of an image is opened: the store is lent, the miss counted, the
log written. -/
def opened (S : Setting σ τ) (i : Image) (s : σ) : σ :=
  (S.note (.loadingImage i.uri) ((S.display.comp Display.imagesPart).modify Cache.countMiss
    (S.display.modify (lend .images) s))).2

theorem resolveImage_of (hS : S.Quiet) {i : Image}
    (h : S.display.Mirrors (opened S i s) (S.loadPicture i)
      ((Setting.alone opening).loadPicture i)) :
    S.display.Mirrors s (S.resolveImage i) ((Setting.alone opening).resolveImage i) := by
  refine hS.ifLive <| hS.lending <| hS.resolveIn Display.imagesPart i.uri <|
    (hS.noteAlone _).bind_of fun _ s' hs => ?_
  obtain rfl : opened S i s = s' := congrArg Prod.snd hs
  refine h.bind fun r s' => ?_
  cases r with
  | error e => exact .pure _
  | ok picture => exact hS.make (by decide) _

theorem resolveImage (hS : S.Quiet) {i : Image}
    (h : ∀ source, i.source = some source →
      S.display.Mirrors (opened S i s) (S.openSource source) (Act.ofExcept answer)) :
    S.display.Mirrors s (S.resolveImage i)
      ((Setting.alone ⟨S.decoder, answer⟩).resolveImage i) :=
  hS.resolveImage_of (loadPicture_of h)

theorem image? (hS : S.Quiet) {i : Image}
    (h : ∀ source, i.source = some source →
      S.display.Mirrors (opened S i s) (S.openSource source) (Act.ofExcept answer)) :
    S.display.Mirrors s (S.image? i) ((Setting.alone ⟨S.decoder, answer⟩).image? i) := by
  refine (hS.resolveImage h).bind fun r s' => ?_
  cases r with
  | ok a => exact .pure _
  | error e => exact (hS.noteAlone _).bind fun _ _ => .pure _

theorem releaseAllColors (hS : S.Quiet) :
    S.display.Mirrors s S.releaseAllColors (Setting.alone opening).releaseAllColors :=
  hS.releaseAllFrom .colors Display.colorsPart fun _ _ => hS.giveBack _ _

theorem releaseAllFonts (hS : S.Quiet) :
    S.display.Mirrors s S.releaseAllFonts (Setting.alone opening).releaseAllFonts :=
  hS.releaseAllFrom .fonts Display.fontsPart fun _ _ => hS.giveBack _ _

theorem releaseAllImages (hS : S.Quiet) :
    S.display.Mirrors s S.releaseAllImages (Setting.alone opening).releaseAllImages :=
  hS.releaseAllFrom .images Display.imagesPart fun _ _ => hS.giveBack _ _

/-! ## The scratch context and texts -/

theorem scratchGc (hS : S.Quiet) :
    S.display.Mirrors s S.scratchGc (Setting.alone opening).scratchGc := by
  refine hS.ifLive <| hS.lending <| (hS.viewDisplay _).bind fun found s' => ?_
  cases found with
  | some gc => exact .pure _
  | none =>
    refine (hS.make (by decide) _).bind fun r s' => ?_
    cases r with
    | error e => exact .pure _
    | ok gc =>
      exact (hS.noteAlone _).bind fun _ _ => (hS.changeDisplay _).bind fun _ _ => .pure _

theorem disposeScratch (hS : S.Quiet) :
    S.display.Mirrors s S.disposeScratch (Setting.alone opening).disposeScratch := by
  refine hS.lending <| (Lens.Mirrors.alter hS.lawful .whole _).bind fun found s' => ?_
  cases found with
  | none => exact .pure _
  | some gc => exact (hS.giveBack _ _).bind fun _ _ => .pure _

theorem textExtent (hS : S.Quiet) (f : Font) (text : String) :
    S.display.Mirrors s (S.textExtent f text) ((Setting.alone opening).textExtent f text) := by
  refine (hS.resolveFont f).bind fun r s' => ?_
  cases r with
  | error e => exact .pure _
  | ok font =>
    refine hS.scratchGc.bind fun r s' => ?_
    cases r with
    | error e => exact .pure _
    | ok gc => exact (Lens.Mirrors.ofExcept _).bind fun _ _ => .pure _

/-! ## Monitors and statistics -/

theorem layout (hS : S.Quiet) :
    S.display.Mirrors s S.layout (Setting.alone opening).layout := by
  refine (hS.viewDisplay _).bind fun found s' => ?_
  cases found with
  | some l => exact .pure _
  | none =>
    refine Lens.Mirrors.bind ?_ fun r s' => ?_
    · refine (hS.before _ _ (by decide) (by decide)).bind fun r s' => ?_
      cases r with
      | error e => exact .pure _
      | ok _ => exact (hS.report _).bind fun _ _ => .pure _
    · cases r with
      | error e => exact .pure _
      | ok report =>
        simp only
        cases Layout.ofReport report with
        | error e => exact .pure _
        | ok l =>
          let told := Notice.monitorsEnumerated l.monitors.length l.primaryIndex
          have note (s' : σ) : S.display.Mirrors s' (S.note told)
            ((Setting.alone opening).note told) := hS.noteAlone told
          let keep (d : Display τ) := { d with layout := some l, layouts := d.layouts + 1 }
          have change (s' : σ) : S.display.Mirrors s' (S.display.change keep)
            ((Setting.alone opening).display.change keep) := hS.changeDisplay keep
          have rest (s' : σ) := (note s').bind fun _ s' => (change s').bind fun _ _ =>
            Lens.Mirrors.pure (Except.ok l : Except DisplayError Layout)
          simp only
          split
          · exact (hS.noteAlone _).bind fun _ s' => rest s'
          · exact rest s'

theorem monitors (hS : S.Quiet) :
    S.display.Mirrors s S.monitors (Setting.alone opening).monitors := by
  refine (hS.viewDisplay _).bind fun disposed s' => ?_
  split
  · exact .pure _
  · refine hS.layout.bind fun r s' => ?_
    cases r <;> exact .pure _

theorem primaryMonitor (hS : S.Quiet) :
    S.display.Mirrors s S.primaryMonitor (Setting.alone opening).primaryMonitor := by
  refine (hS.viewDisplay _).bind fun disposed s' => ?_
  split
  · exact .pure _
  · refine hS.layout.bind fun r s' => ?_
    cases r with
    | error e => exact .pure _
    | ok l =>
      simp only
      cases l.primary? <;> exact .pure _

theorem stats (hS : S.Quiet) :
    S.display.Mirrors s S.stats (Setting.alone opening).stats := by
  refine (hS.viewDisplay _).bind fun d s' => ?_
  split
  · exact .pure _
  · exact .fault _

/-! ## The end of a display -/

theorem closeBackend (hS : S.Quiet) :
    S.display.Mirrors s S.closeBackend (Setting.alone opening).closeBackend := by
  refine (Lens.Mirrors.view Display.backendPart _).bind fun live s' => ?_
  refine (Lens.Mirrors.alter hS.lawful Display.backendPart _).bind fun opened s' => ?_
  split
  · split
    · exact hS.noteAlone _
    · exact .pure _
  · exact hS.noteAlone _

theorem teardown (hS : S.Quiet) :
    S.display.Mirrors s S.teardown (Setting.alone opening).teardown := by
  refine (hS.viewDisplay _).bind fun id s' => (hS.viewDisplay _).bind fun disposed s' => ?_
  split
  · exact (hS.noteAlone _).bind fun _ _ => .pure _
  · refine (hS.changeDisplay _).bind fun _ _ => hS.releaseAllImages.bind fun images _ => ?_
    refine hS.releaseAllFonts.bind fun fonts _ => hS.releaseAllColors.bind fun colors _ => ?_
    refine hS.disposeScratch.bind fun scratch _ => (hS.changeDisplay _).bind fun _ _ => ?_
    exact hS.closeBackend.bind fun _ _ => (hS.noteAlone _).bind fun _ _ => .pure _

theorem drop (hS : S.Quiet) :
    S.display.Mirrors s S.drop (Setting.alone opening).drop := by
  refine (hS.viewDisplay _).bind fun disposed s' => ?_
  split
  · exact .pure _
  · refine (hS.viewDisplay _).bind fun id s' => (hS.noteAlone _).bind fun _ s' => ?_
    exact hS.teardown.bind fun _ _ => .pure _

/-! ## Events -/

theorem dispatchNext (hS : S.Quiet) (ending : Outcome (Except PlatformError Unit)) :
    S.display.Mirrors s (S.endingWith ending).dispatchNext
      ((Setting.alone opening).endingWith ending).dispatchNext := by
  refine (Lens.Mirrors.alter hS.lawful Display.backendPart _).bind fun e s' => ?_
  match e with
  | none | some .wake => exact .pure _
  | some (.destroy w) =>
    exact (Lens.Mirrors.change hS.lawful Display.backendPart _).bind fun _ _ => .pure _
  | some (.task t) =>
    refine Lens.Mirrors.bind rfl fun r s' => ?_
    cases r <;> exact .pure _

/-! ## Every call -/

/-- A call in a quiet setting is a call on the display alone, when the source that it may open
answers there as it does here. -/
theorem call_alone_of (hS : S.Quiet) {c : Call τ}
    (h : ∀ i source, c = .resolveImage i ∨ c = .image i → i.source = some source →
      S.display.Mirrors (opened S i s) (S.openSource source) (Act.ofExcept answer)) :
    S.display.Mirrors s (S.call c) ((Setting.alone ⟨S.decoder, answer⟩).call c) := by
  cases c with
  | resolveColor c => exact (hS.resolveColor c).bind fun _ _ => .pure _
  | releaseColor c =>
    exact (hS.releaseFrom .colors Display.colorsPart c fun _ _ => hS.giveBack _ _).bind
      fun _ _ => .pure _
  | releaseAllColors => exact hS.releaseAllColors.bind fun _ _ => .pure _
  | resolveFont f => exact (hS.resolveFont f).bind fun _ _ => .pure _
  | releaseFont f =>
    exact (hS.releaseFrom .fonts Display.fontsPart f fun _ _ => hS.giveBack _ _).bind
      fun _ _ => .pure _
  | releaseAllFonts => exact hS.releaseAllFonts.bind fun _ _ => .pure _
  | resolveImage i => exact (hS.resolveImage (h i · (.inl rfl))).bind fun _ _ => .pure _
  | image i => exact (hS.image? (h i · (.inr rfl))).bind fun _ _ => .pure _
  | releaseImage i =>
    exact (hS.releaseFrom .images Display.imagesPart i.uri fun _ _ => hS.giveBack _ _).bind
      fun _ _ => .pure _
  | releaseAllImages => exact hS.releaseAllImages.bind fun _ _ => .pure _
  | scratchGc => exact hS.scratchGc.bind fun _ _ => .pure _
  | textExtent f text => exact (hS.textExtent f text).bind fun _ _ => .pure _
  | monitors => exact hS.monitors.bind fun _ _ => .pure _
  | primaryMonitor => exact hS.primaryMonitor.bind fun _ _ => .pure _
  | invalidateMonitors => exact (hS.changeDisplay _).bind fun _ _ => .pure _
  | stats => exact hS.stats.bind fun _ _ => .pure _
  | teardown => exact hS.teardown.bind fun _ _ => .pure _
  | drop => exact hS.drop.bind fun _ _ => .pure _
  | createWindow | pendingEvents =>
    exact (Lens.Mirrors.alter hS.lawful Display.backendPart _).bind fun _ _ => .pure _
  | destroyWindow _ | post _ | send _ | sleep =>
    exact (Lens.Mirrors.change hS.lawful Display.backendPart _).bind fun _ _ => .pure _
  | dispatch ending => exact (hS.dispatchNext ending).bind fun _ _ => .pure _
  | closeBackend => exact hS.closeBackend.bind fun _ _ => .pure _

/-- A call asks for one image at most. -/
theorem asks_unique {c : Call τ} {i i' : Image} (asks : c = .resolveImage i ∨ c = .image i)
    (asks' : c = .resolveImage i' ∨ c = .image i') : i = i' := by
  obtain rfl | rfl := asks <;> obtain same | same := asks' <;> cases same <;> rfl

/-- **A call in a quiet setting** answers what it answers on the display alone, and does the same to
it, with the setting's decoder and for one answer of the source that it may open. -/
theorem call_alone (hS : S.Quiet) (c : Call τ) (s : σ) :
    ∃ opening : Opening, opening.decoder = S.decoder ∧
      S.display.Mirrors s (S.call c) ((Setting.alone opening).call c) := by
  by_cases opens : ∃ i source, (c = .resolveImage i ∨ c = .image i) ∧ i.source = some source
  · obtain ⟨i, source, asks, found⟩ := opens
    obtain ⟨answer, h⟩ := hS.openSource source (opened S i s)
    refine ⟨⟨S.decoder, answer⟩, rfl, hS.call_alone_of fun i' source' asks' found' => ?_⟩
    obtain rfl := asks_unique asks asks'
    obtain rfl : source = source' := Option.some.inj (found.symm.trans found')
    exact h
  · exact ⟨⟨S.decoder, .ok (.ok [])⟩, rfl, hS.call_alone_of fun i source asks found =>
      absurd ⟨i, source, asks, found⟩ opens⟩

end Setting.Quiet

end DisplayEnv
