import DisplayEnv.Proofs.Display.Calls

/-!
# A call on a display changes nothing around it

An operation of a display changes the display and calls the code around it, and does nothing else
to the state that it runs on. So whatever the display is no part of, and the code around it keeps,
every call keeps (`Setting.Keeps.call`): other displays, the registries of threads, a program's own
data.
-/

namespace DisplayEnv

variable {σ τ α β γ : Type} {f : σ → γ}

/-- `x` leaves what `f` reads as it was. -/
def Act.Keeps (f : σ → γ) (x : Act σ α) : Prop := ∀ s, f (x s).2 = f s

namespace Act.Keeps

theorem pure (a : α) : Keeps f (Pure.pure a) := fun _ => rfl

theorem fault (c : Fault) : Keeps f (Act.fault c : Act σ α) := fun _ => rfl

theorem ofExcept (r : Except Fault α) : Keeps f (Act.ofExcept r) := by
  cases r
  · exact .fault _
  · exact .pure _

theorem view (v : σ → α) : Keeps f (Act.view v) := fun _ => rfl

theorem bind {x : Act σ α} {g : α → Act σ β} (hx : Keeps f x) (hg : ∀ a, Keeps f (g a)) :
    Keeps f (x >>= g) := by
  intro s
  have h := hx s
  rw [Act.bind_apply]
  cases e : x s with
  | mk o s' =>
    rw [e] at h
    cases o with
    | done a => exact (hg a s').trans h
    | fault c => exact h
    | stalled => exact h

theorem attempt {x : Act σ α} (hx : Keeps f x) : Keeps f x.attempt := by
  intro s
  have h := hx s
  rw [Act.attempt_apply]
  cases e : x s with
  | mk o s' =>
    rw [e] at h
    cases o <;> exact h

theorem ensuring {x : Act σ α} {last : Act σ Unit} (hx : Keeps f x) (hl : Keeps f last) :
    Keeps f (x.ensuring last) := by
  refine hx.attempt.bind fun r => ?_
  cases r with
  | ok a => exact hl.bind fun _ => .pure a
  | error c => exact hl.bind fun _ => .fault c

end Act.Keeps

namespace Setting

/-- The display is no part of what `f` reads, and the code around it keeps that. -/
structure Keeps (S : Setting σ τ) (f : σ → γ) : Prop where
  display : ∀ d s, f (S.display.set d s) = f s
  note : ∀ n, Act.Keeps f (S.note n)
  before : ∀ p, Act.Keeps f (S.before p)
  report : Act.Keeps f S.report
  openSource : ∀ source, Act.Keeps f (S.openSource source)

namespace Keeps

variable {S : Setting σ τ}

theorem change (hS : S.Keeps f) (m : Lens (Display τ) β) (u : β → β) :
    Act.Keeps f ((S.display.comp m).change u) := fun s => hS.display _ s

theorem alter (hS : S.Keeps f) (m : Lens (Display τ) β) (u : β → α × β) :
    Act.Keeps f ((S.display.comp m).alter u) := fun s => hS.display _ s

theorem changeDisplay (hS : S.Keeps f) (u : Display τ → Display τ) :
    Act.Keeps f (S.display.change u) := fun s => hS.display _ s

theorem ifLive (_ : S.Keeps f) {x : Act σ (Except ResourceError α)} (hx : Act.Keeps f x) :
    Act.Keeps f (S.ifLive x) := by
  refine (Act.Keeps.view _).bind fun disposed => ?_
  split
  · exact .pure _
  · exact hx

theorem lending (hS : S.Keeps f) (store : Store) {x : Act σ α} (hx : Act.Keeps f x) :
    Act.Keeps f (S.lending store x) := by
  refine (Act.Keeps.view _).bind fun lent => ?_
  split
  · exact .fault _
  · exact (hS.changeDisplay _).bind fun _ => hx.ensuring (hS.changeDisplay _)

theorem make (hS : S.Keeps f) (point : Point)
    (create : Headless τ → Except PlatformError (α × Headless τ)) :
    Act.Keeps f (S.make point create) := by
  refine (hS.before point).bind fun r => ?_
  cases r with
  | error e => exact .pure _
  | ok _ =>
    refine (Act.Keeps.view _).bind fun b => ?_
    cases create b with
    | error e => exact .pure _
    | ok r => exact (hS.change Display.backendPart _).bind fun _ => .pure _

theorem giveBack (hS : S.Keeps f) (id : Nat) (entry : Released) :
    Act.Keeps f (S.giveBack id entry) := by
  refine (hS.alter Display.backendPart _).bind fun known => ?_
  split
  · exact .pure _
  · exact hS.note _

theorem disposeEach {dispose : α → Act σ Unit} (h : ∀ a, Act.Keeps f (dispose a)) (l : List α) :
    Act.Keeps f (Setting.disposeEach dispose l) := by
  induction l with
  | nil => exact .pure _
  | cons a l ih => exact (h a).bind fun _ => ih

theorem resolveIn {K H : Type} [DecidableEq K] (hS : S.Keeps f) (m : Lens (Display τ) (Cache K H))
    (k : K) {create : Act σ (Except ResourceError H)} (hc : Act.Keeps f create) :
    Act.Keeps f (Cache.resolveIn (S.display.comp m) k create) := by
  refine (Act.Keeps.view _).bind fun found => ?_
  cases found with
  | some h => exact (hS.change m _).bind fun _ => .pure _
  | none =>
    refine (hS.change m _).bind fun _ => hc.bind fun r => ?_
    cases r with
    | error e => exact .pure _
    | ok h => exact (hS.change m _).bind fun _ => .pure _

theorem releaseFrom {K H : Type} [DecidableEq K] (hS : S.Keeps f) (store : Store)
    (m : Lens (Display τ) (Cache K H)) {dispose : H → Act σ Unit}
    (h : ∀ a, Act.Keeps f (dispose a)) (k : K) :
    Act.Keeps f (S.releaseFrom store (S.display.comp m) dispose k) := by
  refine hS.lending _ ((hS.alter m _).bind fun found => ?_)
  cases found with
  | none => exact .pure _
  | some a => exact (h a).bind fun _ => .pure _

theorem releaseAllFrom {K H : Type} (hS : S.Keeps f) (store : Store)
    (m : Lens (Display τ) (Cache K H)) {dispose : H → Act σ Unit}
    (h : ∀ a, Act.Keeps f (dispose a)) :
    Act.Keeps f (S.releaseAllFrom store (S.display.comp m) dispose) :=
  hS.lending _ ((hS.alter m _).bind fun l => (disposeEach h l).bind fun _ => .pure _)

theorem resolveColor (hS : S.Keeps f) (c : Color) : Act.Keeps f (S.resolveColor c) :=
  hS.ifLive <| hS.lending _ <| hS.resolveIn Display.colorsPart c <|
    (hS.note _).bind fun _ => hS.make _ _

theorem resolveFont (hS : S.Keeps f) (font : Font) : Act.Keeps f (S.resolveFont font) :=
  hS.ifLive <| hS.lending _ <| hS.resolveIn Display.fontsPart font <|
    (hS.note _).bind fun _ => hS.make _ _

theorem loadPicture (hS : S.Keeps f) (i : Image) : Act.Keeps f (S.loadPicture i) := by
  unfold Setting.loadPicture
  cases i.source with
  | none => exact .pure _
  | some source => exact (hS.openSource source).bind fun _ => .ofExcept _

theorem resolveImage (hS : S.Keeps f) (i : Image) : Act.Keeps f (S.resolveImage i) := by
  refine hS.ifLive <| hS.lending _ <| hS.resolveIn Display.imagesPart i.uri <|
    (hS.note _).bind fun _ => (hS.loadPicture i).bind fun r => ?_
  cases r with
  | error e => exact .pure _
  | ok picture => exact hS.make _ _

theorem scratchGc (hS : S.Keeps f) : Act.Keeps f S.scratchGc := by
  refine hS.ifLive <| hS.lending _ <| (Act.Keeps.view _).bind fun found => ?_
  cases found with
  | some gc => exact .pure _
  | none =>
    refine (hS.make _ _).bind fun r => ?_
    cases r with
    | error e => exact .pure _
    | ok gc => exact (hS.note _).bind fun _ => (hS.changeDisplay _).bind fun _ => .pure _

theorem disposeScratch (hS : S.Keeps f) : Act.Keeps f S.disposeScratch := by
  have taken : Act.Keeps f (S.display.alter fun d => (d.scratch, { d with scratch := none })) :=
    fun s => hS.display _ s
  refine hS.lending _ (taken.bind fun found => ?_)
  cases found with
  | none => exact .pure _
  | some gc => exact (hS.giveBack _ _).bind fun _ => .pure _

theorem textExtent (hS : S.Keeps f) (font : Font) (text : String) :
    Act.Keeps f (S.textExtent font text) := by
  refine (hS.resolveFont font).bind fun r => ?_
  cases r with
  | error e => exact .pure _
  | ok h =>
    refine hS.scratchGc.bind fun r => ?_
    cases r with
    | error e => exact .pure _
    | ok gc => exact (Act.Keeps.ofExcept _).bind fun _ => .pure _

/-! ## Monitors, the end, events -/

theorem layout (hS : S.Keeps f) : Act.Keeps f S.layout := by
  refine (Act.Keeps.view _).bind fun found => ?_
  cases found with
  | some l => exact .pure _
  | none =>
    refine Act.Keeps.bind ?_ fun r => ?_
    · refine (hS.before _).bind fun r => ?_
      cases r with
      | error e => exact .pure _
      | ok _ => exact hS.report.bind fun _ => .pure _
    · cases r with
      | error e => exact .pure _
      | ok report =>
        simp only
        cases Layout.ofReport report with
        | error e => exact .pure _
        | ok l =>
          have rest := (hS.note (.monitorsEnumerated l.monitors.length l.primaryIndex)).bind
            fun _ => (hS.changeDisplay fun d =>
              { d with layout := some l, layouts := d.layouts + 1 }).bind fun _ =>
                Act.Keeps.pure (Except.ok l : Except DisplayError Layout)
          simp only
          split
          · exact (hS.note _).bind fun _ => rest
          · exact rest

theorem closeBackend (hS : S.Keeps f) : Act.Keeps f S.closeBackend := by
  refine (Act.Keeps.view _).bind fun live => (hS.alter Display.backendPart _).bind fun opened => ?_
  split
  · split
    · exact hS.note _
    · exact .pure _
  · exact hS.note _

theorem teardown (hS : S.Keeps f) : Act.Keeps f S.teardown := by
  refine (Act.Keeps.view _).bind fun id => (Act.Keeps.view _).bind fun disposed => ?_
  split
  · exact (hS.note _).bind fun _ => .pure _
  · refine (hS.changeDisplay _).bind fun _ => ?_
    refine (hS.releaseAllFrom .images Display.imagesPart fun _ => hS.giveBack _ _).bind fun _ => ?_
    refine (hS.releaseAllFrom .fonts Display.fontsPart fun _ => hS.giveBack _ _).bind fun _ => ?_
    refine (hS.releaseAllFrom .colors Display.colorsPart fun _ => hS.giveBack _ _).bind fun _ => ?_
    refine hS.disposeScratch.bind fun _ => (hS.changeDisplay _).bind fun _ => ?_
    exact hS.closeBackend.bind fun _ => (hS.note _).bind fun _ => .pure _

theorem drop (hS : S.Keeps f) : Act.Keeps f S.drop := by
  refine (Act.Keeps.view _).bind fun disposed => ?_
  split
  · exact .pure _
  · exact (Act.Keeps.view _).bind fun id => (hS.note _).bind fun _ =>
      hS.teardown.bind fun _ => .pure _

theorem dispatchNext (hS : S.Keeps f) (ending : Outcome (Except PlatformError Unit)) :
    Act.Keeps f (S.endingWith ending).dispatchNext := by
  refine (hS.alter Display.backendPart _).bind fun e => ?_
  match e with
  | none | some .wake => exact .pure _
  | some (.destroy w) => exact (hS.change Display.backendPart _).bind fun _ => .pure _
  | some (.task t) =>
    refine Act.Keeps.bind (fun _ => rfl) fun r => ?_
    cases r <;> exact .pure _

/-! ## Every call -/

/-- **A call changes nothing around its display.** -/
theorem call (hS : S.Keeps f) (c : Call τ) : Act.Keeps f (S.call c) := by
  cases c with
  | resolveColor c => exact (hS.resolveColor c).bind fun _ => .pure _
  | resolveFont font => exact (hS.resolveFont font).bind fun _ => .pure _
  | resolveImage i => exact (hS.resolveImage i).bind fun _ => .pure _
  | image i =>
    refine Act.Keeps.bind ((hS.resolveImage i).bind fun r => ?_) fun _ => .pure _
    cases r with
    | ok h => exact .pure _
    | error e => exact (hS.note _).bind fun _ => .pure _
  | releaseColor c =>
    exact (hS.releaseFrom .colors Display.colorsPart (fun _ => hS.giveBack _ _) c).bind
      fun _ => .pure _
  | releaseFont font =>
    exact (hS.releaseFrom .fonts Display.fontsPart (fun _ => hS.giveBack _ _) font).bind
      fun _ => .pure _
  | releaseImage i =>
    exact (hS.releaseFrom .images Display.imagesPart (fun _ => hS.giveBack _ _) i.uri).bind
      fun _ => .pure _
  | releaseAllColors =>
    exact (hS.releaseAllFrom .colors Display.colorsPart fun _ => hS.giveBack _ _).bind
      fun _ => .pure _
  | releaseAllFonts =>
    exact (hS.releaseAllFrom .fonts Display.fontsPart fun _ => hS.giveBack _ _).bind
      fun _ => .pure _
  | releaseAllImages =>
    exact (hS.releaseAllFrom .images Display.imagesPart fun _ => hS.giveBack _ _).bind
      fun _ => .pure _
  | scratchGc => exact hS.scratchGc.bind fun _ => .pure _
  | textExtent font text => exact (hS.textExtent font text).bind fun _ => .pure _
  | monitors | primaryMonitor =>
    refine Act.Keeps.bind ((Act.Keeps.view _).bind fun disposed => ?_) fun _ => .pure _
    split
    · exact .pure _
    · refine hS.layout.bind fun r => ?_
      cases r with
      | error e => exact .pure _
      | ok l => first | exact .pure _ | (simp only; cases l.primary? <;> exact .pure _)
  | stats =>
    refine Act.Keeps.bind ((Act.Keeps.view _).bind fun d => ?_) fun _ => .pure _
    split
    · exact .pure _
    · exact .fault _
  | teardown => exact hS.teardown.bind fun _ => .pure _
  | drop => exact hS.drop.bind fun _ => .pure _
  | dispatch ending => exact (hS.dispatchNext ending).bind fun _ => .pure _
  | closeBackend => exact hS.closeBackend.bind fun _ => .pure _
  | invalidateMonitors => exact (hS.changeDisplay _).bind fun _ => .pure _
  | createWindow | pendingEvents =>
    exact (hS.alter Display.backendPart _).bind fun _ => .pure _
  | destroyWindow _ | post _ | send _ | sleep =>
    exact (hS.change Display.backendPart _).bind fun _ => .pure _

end Keeps

/-- The same setting, where nothing comes before a dispatch or a wait. -/
def unheard (S : Setting σ τ) : Setting σ τ :=
  { S with
    before := fun
      | .dispatch | .sleep => pure (.ok ())
      | p => S.before p }

/-- A call never comes to what precedes a dispatch or a wait of a pump. -/
theorem call_unheard (S : Setting σ τ) (c : Call τ) : S.unheard.call c = S.call c := by
  cases c <;> rfl

end Setting

/-! ## A state with something beside it -/

variable {ρ : Type}

/-- An action on a state that has something beside it. -/
def Act.beside (x : Act σ α) : Act (σ × ρ) α := fun p => ((x p.1).1, (x p.1).2, p.2)

/-- The state that has something beside it. -/
def Lens.first : Lens (σ × ρ) σ := ⟨Prod.fst, fun s p => (s, p.2)⟩

theorem Lens.lawful_first : (first : Lens (σ × ρ) σ).Lawful :=
  ⟨fun _ _ => rfl, fun _ => rfl, fun _ _ _ => rfl⟩

/-- The same setting, with something beside it. -/
def Setting.beside (S : Setting σ τ) : Setting (σ × ρ) τ where
  display := Lens.first.comp S.display
  note n := (S.note n).beside
  before point := (S.before point).beside
  report := S.report.beside
  openSource source := (S.openSource source).beside
  decoder := S.decoder
  run t := (S.run t).beside

theorem Setting.Quiet.beside {S : Setting σ τ} (hS : S.Quiet) :
    (S.beside : Setting (σ × ρ) τ).Quiet where
  lawful := Lens.lawful_first.comp hS.lawful
  note n p := hS.note n p.1
  before point p := hS.before point p.1
  report p := hS.report p.1
  openSource source p := hS.openSource source p.1

/-- The setting leaves alone what is beside it. -/
theorem Setting.keeps_beside (S : Setting σ τ) :
    (S.beside : Setting (σ × ρ) τ).Keeps Prod.snd where
  display _ _ := rfl
  note _ _ := rfl
  before _ _ := rfl
  report _ := rfl
  openSource _ _ := rfl

end DisplayEnv
