import DisplayEnv.Proofs.Display.Frame
import DisplayEnv.Proofs.Display.Loops
import DisplayEnv.Proofs.Events.Alike

/-!
# Two runs in lockstep

Two actions run in *lockstep* when from states that are the same but for tasks that are alike they
come to such states again, making alike calls one after the other on the way. What else is in a
state beside the display is compared by a relation `R`, which sees neither the display nor the log
(`Setting.Indifferent`): what a program reads off the statistics of a pump, or off the log, is not
to be a part of it.

* `Lockstep.bind`, `Lockstep.attempt`: actions put together.
* `Indifferent.call`: a call in both runs.
-/

namespace DisplayEnv

variable {σ τ α β α' β' : Type} {like : τ → τ → Prop}

/-! ## Alike paths -/

/-- The moments at one place of two runs. -/
structure Moment.Alike (like : τ → τ → Prop) (m m' : Moment τ) : Prop where
  before : m.before.Alike like m'.before
  call : m.call.Alike like m'.call
  after : m.after.Alike like m'.after

/-- Alike moments take alike events. -/
theorem Moment.Alike.taken {m m' : Moment τ} (h : m.Alike like m') :
    Option.Rel (Event.Alike like) m.taken? m'.taken? := by
  have call := h.call
  unfold Moment.taken?
  generalize m.call = c at call ⊢
  generalize m'.call = c' at call ⊢
  cases c with
  | dispatch ending =>
    cases c' with
    | dispatch ending' => exact h.before.backend.next.1
    | _ => exact call.elim
  | post e | send e =>
    cases c' with
    | dispatch ending' => exact call.elim
    | _ => exact .none
  | _ =>
    obtain rfl := (show _ = c' from call)
    exact .none

/-- **Alike runs take alike events**, in the same order. -/
theorem taken_alike {t t' : List (Moment τ)} (h : List.Forall₂ (Moment.Alike like) t t') :
    List.Forall₂ (Event.Alike like) (taken t) (taken t') := by
  induction h with
  | nil => exact .nil
  | @cons m m' t t' hm _ ih =>
    have event := hm.taken
    unfold taken at ih ⊢
    rw [List.filterMap_cons, List.filterMap_cons]
    generalize m.taken? = e at event ⊢
    generalize m'.taken? = e' at event ⊢
    cases event with
    | none => exact ih
    | some he => exact .cons he ih

/-! ## Endings -/

/-- The same ending, with values that are related. -/
inductive Outcome.Rel (r : α → β → Prop) : Outcome α → Outcome β → Prop
  | done {a : α} {b : β} (h : r a b) : Rel r (.done a) (.done b)
  | fault (c : Fault) : Rel r (.fault c) (.fault c)
  | stalled : Rel r .stalled .stalled

theorem Outcome.Rel.of_eq {r : α → α → Prop} (hr : ∀ a, r a a) (o : Outcome α) : Rel r o o := by
  cases o with
  | done a => exact .done (hr a)
  | fault c => exact .fault c
  | stalled => exact .stalled

/-- Both end, in whatever way, or neither does. -/
def Outcome.Ended (o : Outcome α) (o' : Outcome β) : Prop := o = .stalled ↔ o' = .stalled

/-! ## Twins and lockstep -/

/-- Two states that are the same but for tasks that are alike, and for what `R` does not see, with
displays between two calls. -/
structure Twins (L : Lens σ (Display τ)) (like : τ → τ → Prop) (R : σ → σ → Prop) (s s' : σ) :
    Prop where
  display : (L.get s).Alike like (L.get s')
  orderly : (L.get s).Orderly
  around : R s s'

/-- Alike calls lead from two states to two others. -/
def Abreast (L : Lens σ (Display τ)) (like : τ → τ → Prop) (s s' s₁ s₁' : σ) : Prop :=
  ∃ t t', Path (fun _ => True) (L.get s) t (L.get s₁) ∧
    Path (fun _ => True) (L.get s') t' (L.get s₁') ∧ List.Forall₂ (Moment.Alike like) t t'

/-- From twins, the actions make alike calls and come to twins, with endings in relation `r`. -/
def Lockstep (L : Lens σ (Display τ)) (like : τ → τ → Prop) (R : σ → σ → Prop)
    (r : Outcome α → Outcome β → Prop) (x : Act σ α) (y : Act σ β) : Prop :=
  ∀ s s', Twins L like R s s' → r (x s).1 (y s').1 ∧ Twins L like R (x s).2 (y s').2 ∧
    Abreast L like s s' (x s).2 (y s').2

variable {L : Lens σ (Display τ)} {R : σ → σ → Prop} {s s' s₁ s₁' s₂ s₂' : σ}

theorem Abreast.of_get (h : L.get s₁ = L.get s)
    (h' : L.get s₁' = L.get s') : Abreast L like s s' s₁ s₁' := by
  refine ⟨[], [], ?_, ?_, .nil⟩
  · rw [h]
    exact .rest _
  · rw [h']
    exact .rest _

theorem Abreast.trans (h : Abreast L like s s' s₁ s₁') (h' : Abreast L like s₁ s₁' s₂ s₂') :
    Abreast L like s s' s₂ s₂' := by
  obtain ⟨t, t', p, p', alike⟩ := h
  obtain ⟨u, u', q, q', alike'⟩ := h'
  exact ⟨t ++ u, t' ++ u', p.append q, p'.append q', List.rel_append alike alike'⟩

namespace Lockstep

variable {q : α → β → Prop} {r : α' → β' → Prop} {x : Act σ α} {y : Act σ β}

/-- Actions that leave the display alone, and what `R` sees. -/
theorem of_get {r : Outcome α → Outcome β → Prop} (hr : ∀ s s', Twins L like R s s' →
      r (x s).1 (y s').1) (hx : ∀ s, L.get (x s).2 = L.get s)
    (hy : ∀ s, L.get (y s).2 = L.get s)
    (around : ∀ s s', R s s' → R (x s).2 (y s').2) : Lockstep L like R r x y := by
  intro s s' h
  refine ⟨hr s s' h, ⟨?_, ?_, around s s' h.around⟩, .of_get (hx s) (hy s')⟩
  · rw [hx, hy]
    exact h.display
  · rw [hx]
    exact h.orderly

theorem pure {a : α} {b : β} (h : q a b) :
    Lockstep L like R (Outcome.Rel q) (Pure.pure a) (Pure.pure b) :=
  of_get (fun _ _ _ => .done h) (fun _ => rfl) (fun _ => rfl) fun _ _ h => h

theorem fault (c : Fault) :
    Lockstep L like R (Outcome.Rel q) (Act.fault c : Act σ α) (Act.fault c : Act σ β) :=
  of_get (fun _ _ _ => .fault c) (fun _ => rfl) (fun _ => rfl) fun _ _ h => h

theorem stall : Lockstep L like R (Outcome.Rel q) (Act.stall : Act σ α) (Act.stall : Act σ β) :=
  of_get (fun _ _ _ => .stalled) (fun _ => rfl) (fun _ => rfl) fun _ _ h => h

/-- Actions one after the other; the endings of the second are compared by any relation in which a
fault of the first, and its not ending, are related to themselves. -/
theorem bind_of {f : α → Act σ α'} {g : β → Act σ β'} {r : Outcome α' → Outcome β' → Prop}
    (hx : Lockstep L like R (Outcome.Rel q) x y) (fault : ∀ c, r (.fault c) (.fault c))
    (stalled : r .stalled .stalled) (hf : ∀ a b, q a b → Lockstep L like R r (f a) (g b)) :
    Lockstep L like R r (x >>= f) (y >>= g) := by
  intro s s' h
  obtain ⟨outcome, twins, abreast⟩ := hx s s' h
  rw [Act.bind_apply, Act.bind_apply]
  generalize x s = a at outcome twins abreast ⊢
  generalize y s' = b at outcome twins abreast ⊢
  obtain ⟨o, s₁⟩ := a
  obtain ⟨o', s₁'⟩ := b
  cases outcome with
  | fault c => exact ⟨fault c, twins, abreast⟩
  | stalled => exact ⟨stalled, twins, abreast⟩
  | done related =>
    obtain ⟨outcome', twins', abreast'⟩ := hf _ _ related s₁ s₁' twins
    exact ⟨outcome', twins', abreast.trans abreast'⟩

theorem bind {f : α → Act σ α'} {g : β → Act σ β'} (hx : Lockstep L like R (Outcome.Rel q) x y)
    (hf : ∀ a b, q a b → Lockstep L like R (Outcome.Rel r) (f a) (g b)) :
    Lockstep L like R (Outcome.Rel r) (x >>= f) (y >>= g) := hx.bind_of .fault .stalled hf

/-- What ends in the same way is the same value when it is attempted. -/
theorem attempt {x y : Act σ α} (h : Lockstep L like R (Outcome.Rel Eq) x y) :
    Lockstep L like R (Outcome.Rel Eq) x.attempt y.attempt := by
  intro s s' twins
  obtain ⟨outcome, after⟩ := h s s' twins
  rw [Act.attempt_apply, Act.attempt_apply]
  generalize x s = a at outcome after ⊢
  generalize y s' = b at outcome after ⊢
  obtain ⟨o, s₁⟩ := a
  obtain ⟨o', s₁'⟩ := b
  cases outcome with
  | fault c => exact ⟨.done rfl, after⟩
  | stalled => exact ⟨.stalled, after⟩
  | done related =>
    cases related
    exact ⟨.done rfl, after⟩

end Lockstep

/-! ## Calls -/

namespace Setting

/-- What happens around the display does not depend on how tasks end: `R` sees neither the display
nor the log, what comes before a dispatch or a wait is the same for twins, and so is what alike
tasks do, however they end. -/
structure Indifferent (S : Setting σ τ) (like : τ → τ → Prop) (R : σ → σ → Prop) : Prop
    extends S.Quiet where
  left : S.unheard.Keeps R
  right : S.unheard.Keeps fun s' s => R s s'
  preceding : ∀ p, p = .dispatch ∨ p = .sleep →
    Lockstep S.display like R (Outcome.Rel Eq) (S.before p) (S.before p)
  run : ∀ t t', like t t' → Lockstep S.display like R Outcome.Ended (S.run t) (S.run t')

variable {S : Setting σ τ}

/-- Only a call that opens a source depends on what that answers. -/
theorem Display.after_opening (opening opening' : Opening) {c : Call τ} (h : ¬ c.Opens)
    (d : Display τ) : d.after opening c = d.after opening' c := by
  cases c with
  | resolveImage _ | image _ => exact absurd trivial h
  | _ => rfl

namespace Indifferent

/-- A call and an alike one keep what `R` sees. -/
theorem around_call (hS : S.Indifferent like R) (c c' : Call τ) (h : R s s') :
    R (S.call c s).2 (S.call c' s').2 := by
  have left : R (S.call c s).2 = R s := by
    rw [← call_unheard]
    exact hS.left.call c s
  have right : R s (S.call c' s').2 = R s s' := by
    rw [← call_unheard]
    exact congrFun (hS.right.call c' s') s
  rw [left, right]
  exact h

/-- **Alike calls lead from twins to twins.** -/
theorem call_twins (hS : S.Indifferent like R) {c c' : Call τ} (hc : c.Alike like c')
    (opens : ¬ c'.Opens) (h : Twins S.display like R s s') :
    Twins S.display like R (S.call c s).2 (S.call c' s').2 ∧
      Abreast S.display like s s' (S.call c s).2 (S.call c' s').2 := by
  obtain ⟨opening, first⟩ := hS.call_after c s
  obtain ⟨opening', second⟩ := hS.call_after c' s'
  have alike : Display.Alike like (S.display.get (S.call c s).2)
      (S.display.get (S.call c' s').2) := by
    rw [first, second, Moment.of_after _ h.orderly.lent, Moment.of_after _ (h.display.lent.trans
      h.orderly.lent), Display.after_opening opening' opening opens]
    exact h.display.after opening hc
  have path : Path (fun _ => True) (S.display.get s) _ _ := .single (c := c) trivial opening _
  have path' : Path (fun _ => True) (S.display.get s') _ _ := .single (c := c') trivial opening' _
  rw [← first] at path
  rw [← second] at path'
  refine ⟨⟨alike, path.orderly h.orderly, hS.around_call c c' h.around⟩, _, _, path, path',
    .cons ⟨h.display, hc, ?_⟩ .nil⟩
  rwa [first, second] at alike

/-- **A call runs in lockstep with itself**, and ends in the same way. -/
theorem call (hS : S.Indifferent like R) {c : Call τ} (events : ¬ c.OnEvents) (opens : ¬ c.Opens) :
    Lockstep S.display like R (Outcome.Rel Eq) (S.call c) (S.call c) := by
  intro s s' h
  have same : c.Alike like c := by
    cases c with
    | post _ | send _ | dispatch _ => exact absurd trivial events
    | _ => exact rfl
  refine ⟨?_, hS.call_twins same opens h⟩
  obtain ⟨opening, -, first⟩ := hS.call_alone c s
  obtain ⟨opening', -, second⟩ := hS.call_alone c s'
  have outcome : (S.call c s').1 = (S.call c s).1 := by
    have first : (S.call c s).1 = ((alone opening).call c (S.display.get s)).1 :=
      congrArg Prod.fst first
    have second : (S.call c s').1 = ((alone opening').call c (S.display.get s')).1 :=
      congrArg Prod.fst second
    rw [first, second, h.display.eq_withEvents]
    exact alone_call_withEvents h.orderly.lent _ _ _ _ events fun h => absurd h opens
  rw [outcome]
  exact .of_eq (fun _ => rfl) _

/-- Putting an event in, or sending one, in lockstep with an alike event. -/
theorem post (hS : S.Indifferent like R) {e e' : Event τ} (he : e.Alike like e') :
    Lockstep S.display like R (Outcome.Rel Eq) (S.call (.post e)) (S.call (.post e')) :=
  fun _ _ h => ⟨.done rfl, hS.call_twins he nofun h⟩

theorem send (hS : S.Indifferent like R) {e e' : Event τ} (he : e.Alike like e') :
    Lockstep S.display like R (Outcome.Rel Eq) (S.call (.send e)) (S.call (.send e')) :=
  fun _ _ h => ⟨.done rfl, hS.call_twins he nofun h⟩

end Indifferent

end Setting

end DisplayEnv
