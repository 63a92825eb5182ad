import DisplayEnv.Proofs.Display.Frame
import DisplayEnv.Proofs.Display.Mirrors

/-!
# The sources that are opened

Among the calls of a display only those for images open anything: the source of an image that is
looked up on a live display and is not there (`Display.opens?`). A call does nothing else to what
surrounds the display and is kept by the rest of the code there, so it leaves that as the opening
does (`Quiet.call_leaves`).

A program can keep a register of the sources that it opens for its display (`Setting.Registers`):
an opening enters its source, and nothing else that surrounds the display enters anything. A call
then adds to the register exactly what `Display.opens?` says of the display before it.

* `Act.Leaves`: what one run of an action leaves of something, `Act.Keeps` being the case of no
  change.
* `Registers.call`: what a call adds to a register.
* `Setting.registered`: a register can be kept beside every setting.
-/

namespace DisplayEnv

variable {σ τ α β γ : Type}

/-! ## What one run leaves -/

/-- Run from `s`, `x` leaves this of what `f` reads. -/
def Act.Leaves (f : σ → γ) (x : Act σ α) (s : σ) (v : γ) : Prop := f (x s).2 = v

namespace Act.Leaves

variable {f : σ → γ} {x : Act σ α} {s s' : σ} {v : γ}

/-- What comes behind keeps it. -/
theorem bind {g : α → Act σ β} (hx : Leaves f x s v) (hg : ∀ a, Keeps f (g a)) :
    Leaves f (x >>= g) s v := by
  unfold Leaves at hx ⊢
  rw [Act.bind_apply, ← hx]
  cases x s with
  | mk o s' =>
    cases o with
    | done a => exact hg a s'
    | fault c => rfl
    | stalled => rfl

/-- What comes first ends well. -/
theorem behind {g : α → Act σ β} {a : α} (hx : x s = (.done a, s')) (hg : Leaves f (g a) s' v) :
    Leaves f (x >>= g) s v := by
  unfold Leaves at hg ⊢
  rw [Act.bind_apply, hx]
  exact hg

theorem attempt (hx : Leaves f x s v) : Leaves f x.attempt s v := by
  unfold Leaves at hx ⊢
  rw [Act.attempt_apply, ← hx]
  cases x s with
  | mk o s' => cases o <;> rfl

theorem ensuring {last : Act σ Unit} (hx : Leaves f x s v) (hl : Keeps f last) :
    Leaves f (x.ensuring last) s v := by
  refine hx.attempt.bind fun r => ?_
  cases r with
  | ok a => exact hl.bind fun _ => .pure a
  | error c => exact hl.bind fun _ => .fault c

end Act.Leaves

/-- Run from `s`, `x` adds these entries to the register that `f` reads. -/
def Act.Adds (f : σ → List γ) (x : Act σ α) (s : σ) (l : List γ) : Prop := f (x s).2 = f s ++ l

/-! ## What a call opens -/

/-- The image that a call asks for. -/
def Call.image? : Call τ → Option Image
  | .resolveImage i | .image i => some i
  | _ => none

/-- The source that a call opens: that of an image which is asked for on a live display and is not
kept there. -/
def Display.opens? (d : Display τ) (c : Call τ) : Option Source :=
  match c.image? with
  | some i => if d.disposed || (d.images.find? i.uri).isSome then none else i.source
  | none => none

namespace Setting

/-- The same setting without the code before a dispatch or a wait, and with sources that are empty.
-/
def sealed (S : Setting σ τ) : Setting σ τ :=
  { S.unheard with openSource := fun _ => pure (.ok []) }

variable {S : Setting σ τ} {f : σ → γ} {s : σ}

/-- Only the calls for images open anything. -/
theorem call_sealed (S : Setting σ τ) {c : Call τ} (h : c.image? = none) :
    S.sealed.call c = S.call c := by
  cases c <;> first | rfl | cases h

/-- The state behind the opening of an image's source, if there is one to be opened. -/
def afterOpening (S : Setting σ τ) (i : Image) (source : Option Source) (s : σ) : σ :=
  match source with
  | some source => (S.openSource source (Quiet.opened S i s)).2
  | none => s

namespace Quiet

/-- What is behind a cache miss opens the source, and reads it after that. -/
theorem makeImage_leaves (hS : S.Quiet) (keeps : S.sealed.Keeps f) (i : Image) (s : σ) :
    Act.Leaves f (do
      S.note (.loadingImage i.uri)
      match ← S.loadPicture i with
      | .error e => return .error e
      | .ok picture => S.make .createImage (·.createImage picture)) s
      (match i.source with
        | some source => f (S.openSource source (S.note (.loadingImage i.uri) s).2).2
        | none => f s) := by
  have told : (S.note (.loadingImage i.uri) s).1 = .done () :=
    congrArg Prod.fst (hS.note (.loadingImage i.uri) s)
  refine .behind (Prod.ext told rfl) (.bind ?_ fun r => ?_)
  · unfold Setting.loadPicture
    cases i.source with
    | none => exact keeps.note _ s
    | some source => exact .bind rfl fun _ => .ofExcept _
  · cases r with
    | error e => exact .pure _
    | ok picture => exact keeps.make .createImage _

theorem lending_leaves (keeps : S.sealed.Keeps f) (lent : (S.display.get s).lent = [])
    {store : Store} {x : Act σ α} {v : γ}
    (h : Act.Leaves f x (S.display.modify (Quiet.lend store) s) v) :
    Act.Leaves f (S.lending store x) s v := by
  refine .behind rfl ?_
  simp only [lent, List.contains_nil, Bool.false_eq_true, if_false]
  exact .behind rfl (h.ensuring (keeps.changeDisplay _))

/-- A lookup leaves what the making leaves, when it comes to that. -/
theorem resolveIn_leaves {K H : Type} [DecidableEq K] (keeps : S.sealed.Keeps f)
    (m : Lens (Display τ) (Cache K H)) (k : K) {create : Act σ (Except ResourceError H)}
    {v : γ} (h : Act.Leaves f create ((S.display.comp m).modify Cache.countMiss s) v)
    {found : Option H} (looked : ((S.display.comp m).get s).find? k = found) :
    Act.Leaves f (Cache.resolveIn (S.display.comp m) k create) s
      (if found.isSome then f s else v) := by
  refine .behind (Prod.ext (congrArg Outcome.done looked) rfl) ?_
  cases found with
  | some h => exact (keeps.change m _).bind (fun _ => .pure _) s
  | none =>
    refine .behind rfl (h.bind fun r => ?_)
    cases r with
    | error e => exact .pure _
    | ok h => exact (keeps.change m _).bind fun _ => .pure _

theorem resolveImage_leaves (hS : S.Quiet) (keeps : S.sealed.Keeps f)
    (lent : (S.display.get s).lent = []) (i : Image) :
    Act.Leaves f (S.resolveImage i) s
      (f (S.afterOpening i ((S.display.get s).opens? (.resolveImage i)) s)) := by
  have found : (S.images.get (S.display.modify (Quiet.lend .images) s)).find? i.uri =
      (S.display.get s).images.find? i.uri := by
    unfold Setting.images Lens.comp Lens.modify
    simp only [hS.lawful.get_set]
    rfl
  have looked := lending_leaves keeps lent
    (resolveIn_leaves keeps Display.imagesPart i.uri (hS.makeImage_leaves keeps i _) found)
  refine .behind rfl ?_
  unfold Display.opens?
  cases live : (S.display.get s).disposed with
  | true =>
    simp only [live, if_true, Bool.true_or, Call.image?]
    exact Act.Keeps.pure _ s
  | false =>
    have lend : f (S.display.modify (Quiet.lend .images) s) = f s := keeps.display _ s
    have miss : f ((S.display.comp Display.imagesPart).modify Cache.countMiss
        (S.display.modify (Quiet.lend .images) s)) = f s := (keeps.display _ _).trans lend
    rw [lend, miss] at looked
    simp only [live, Call.image?, Bool.false_eq_true, if_false, Bool.false_or]
    cases h : ((S.display.get s).images.find? i.uri).isSome <;> rw [h] at looked
    · cases source : i.source <;> rw [source] at looked <;> exact looked
    · exact looked

/-- **What a call leaves**: what the opening of a source does, if it opens one, and what there was
otherwise. -/
theorem call_leaves (hS : S.Quiet) (keeps : S.sealed.Keeps f)
    (lent : (S.display.get s).lent = []) (c : Call τ) :
    Act.Leaves f (S.call c) s (match c.image? with
      | some i => f (S.afterOpening i ((S.display.get s).opens? c) s)
      | none => f s) := by
  cases h : c.image? with
  | none =>
    rw [← S.call_sealed h]
    exact keeps.call c s
  | some i =>
    cases c <;> cases h
    · exact (hS.resolveImage_leaves keeps lent i).bind fun _ => .pure _
    · refine Act.Leaves.bind ((hS.resolveImage_leaves keeps lent i).bind fun r => ?_)
        fun _ => .pure _
      cases r with
      | ok h => exact .pure _
      | error e => exact (keeps.note _).bind fun _ => .pure _

/-- The opening of a source finds what `f` reads as it was. -/
theorem opened_keeps (keeps : S.sealed.Keeps f) (i : Image) (s : σ) :
    f (Quiet.opened S i s) = f s :=
  (keeps.note _ _).trans ((keeps.display _ _).trans (keeps.display _ s))

end Quiet

/-! ## A register -/

/-- The program keeps a register of the sources that it opens for the display. -/
structure Registers (S : Setting σ τ) (opened : σ → List Source) : Prop extends S.Quiet where
  /-- An opening is entered, however it ends. -/
  opens : ∀ source s, Act.Adds opened (S.openSource source) s [source]
  /-- Nothing else is. -/
  keeps : S.sealed.Keeps opened

/-- **What a call opens**: nothing, or the source of the image that it asks for and does not find. -/
theorem Registers.call {opened : σ → List Source} (hS : S.Registers opened)
    (lent : (S.display.get s).lent = []) (c : Call τ) :
    Act.Adds opened (S.call c) s ((S.display.get s).opens? c).toList := by
  have left := hS.toQuiet.call_leaves hS.keeps lent c
  unfold Act.Adds
  rw [show opened (S.call c s).2 = _ from left]
  cases image : c.image? with
  | none =>
    have nothing : (S.display.get s).opens? c = none := by rw [Display.opens?, image]
    rw [nothing]
    exact (List.append_nil _).symm
  | some i =>
    cases (S.display.get s).opens? c with
    | none => exact (List.append_nil _).symm
    | some source =>
      have entered : opened (S.openSource source (Quiet.opened S i s)).2 = _ := hS.opens source _
      rw [Quiet.opened_keeps hS.keeps] at entered
      exact entered

/-! ## A register beside any state -/

/-- The same setting, with a register of the sources that are opened. -/
def registered (S : Setting σ τ) : Setting (σ × List Source) τ :=
  { S.beside with
    openSource := fun source p =>
      ((S.openSource source p.1).1, (S.openSource source p.1).2, p.2 ++ [source]) }

theorem Quiet.registered (hS : S.Quiet) : S.registered.Registers Prod.snd where
  lawful := hS.beside.lawful
  note := hS.beside.note
  before := hS.beside.before
  report := hS.beside.report
  openSource source p := hS.openSource source p.1
  opens _ _ := rfl
  keeps := {
    display := S.keeps_beside.display
    note := S.keeps_beside.note
    before := fun point _ => by cases point <;> rfl
    report := S.keeps_beside.report
    openSource := fun _ => .pure _ }

end Setting

end DisplayEnv
