import DisplayEnv.Proofs.Events.Rounded
import DisplayEnv.Proofs.Events.Unseen
import DisplayEnv.Proofs.Images.Register

/-!
# Actions that pay no heed to the events

A handler may put events in, and wait for one, without taking events or looking at those that wait
(`Heedless`). What it does then does not depend on them. From two states that are the same but for
the events that wait (`Akin`) it ends in the same way, in two such states again, with the same
events put in behind those that waited. For a wait that takes a queue that is not empty, as it is
while a loop's handler runs and the destruction of its root is behind.

* `Blind.call_alone`: a call comes to the same in both states, but for what it leaves waiting.
* `Heedless.parallel`: so does everything that is put together from such calls.
-/

namespace DisplayEnv

variable {σ τ α β : Type}

/-! ## States that are akin -/

/-- Two states whose displays are the same but for the events that wait; what else there is, is in
this relation. -/
structure Akin (L : Lens σ (Display τ)) (R : σ → σ → Prop) (s s' : σ) : Prop where
  display : ∃ queue inbox, L.get s' = (L.get s).withEvents queue inbox
  around : R s s'

/-- A setting whose code does the same around the displays of akin states. The relation does not
regard the display or the log; the sources of images may depend on what it does regard, and on what
was opened before. Nothing comes before a dispatch or a wait. -/
structure Setting.Blind (S : Setting σ τ) (L : Lens σ (Display τ)) (R : σ → σ → Prop) : Prop
    extends S.Quiet where
  shown : S.display = L
  left : S.sealed.Keeps R
  right : S.sealed.Keeps fun s' s => R s s'
  opens : ∀ source s s', R s s' → (S.openSource source s').1 = (S.openSource source s).1 ∧
    R (S.openSource source s).2 (S.openSource source s').2
  still : ∀ point s, point = .dispatch ∨ point = .sleep → S.before point s = (.done (.ok ()), s)

/-- A call that neither takes an event nor counts those that wait. -/
def Call.Heedless : Call τ → Prop
  | .dispatch _ | .pendingEvents => False
  | _ => True

/-- The actions that neither take events nor look at those that wait. -/
inductive Heedless (L : Lens σ (Display τ)) (R : σ → σ → Prop) : {α : Type} → Act σ α → Prop
  /-- Anything that leaves the display alone and does the same in akin states; it may read all of
  the display but the events. -/
  | aside {α : Type} {x : Act σ α} (display : Act.Keeps L.get x)
      (same : ∀ s s', Akin L R s s' → (x s').1 = (x s).1 ∧ R (x s).2 (x s').2) : Heedless L R x
  | bind {α β : Type} {x : Act σ α} {f : α → Act σ β} (hx : Heedless L R x)
      (hf : ∀ a, Heedless L R (f a)) : Heedless L R (x >>= f)
  | attempt {α : Type} {x : Act σ α} (hx : Heedless L R x) : Heedless L R x.attempt
  | call {S : Setting σ τ} (hS : S.Blind L R) {c : Call τ} (heedless : c.Heedless) :
      Heedless L R (S.call c)

/-- These events came behind those that waited. -/
structure Headless.Came (b b' : Headless τ) (posted sent : List (Event τ)) : Prop where
  queue : b'.queue = b.queue ++ posted
  inbox : b'.inbox = b.inbox ++ sent

/-- Akin states between two calls, with events in both queues. -/
structure Amid (L : Lens σ (Display τ)) (R : σ → σ → Prop) (s s' : σ) : Prop
    extends Akin L R s s' where
  orderly : (L.get s).Orderly
  queued : (L.get s).backend.queue ≠ []
  queued' : (L.get s').backend.queue ≠ []

/-- From such states, `x` ends in the same way and leads to such states, and in both the same events
come. -/
def Parallel (L : Lens σ (Display τ)) (R : σ → σ → Prop) (x : Act σ α) : Prop :=
  ∀ s s', Amid L R s s' → (x s').1 = (x s).1 ∧ Amid L R (x s).2 (x s').2 ∧
    ∃ posted sent, (L.get s).backend.Came (L.get (x s).2).backend posted sent ∧
      (L.get s').backend.Came (L.get (x s').2).backend posted sent

variable {L : Lens σ (Display τ)} {R : σ → σ → Prop} {S : Setting σ τ} {s s' : σ}
  {b b' b'' : Headless τ} {posted sent posted' sent' : List (Event τ)}

/-! ## Events that come -/

namespace Headless.Came

theorem rest (b : Headless τ) : b.Came b [] [] :=
  ⟨(List.append_nil _).symm, (List.append_nil _).symm⟩

theorem trans (h : b.Came b' posted sent) (h' : b'.Came b'' posted' sent') :
    b.Came b'' (posted ++ posted') (sent ++ sent') where
  queue := by rw [h'.queue, h.queue, List.append_assoc]
  inbox := by rw [h'.inbox, h.inbox, List.append_assoc]

theorem queued (h : b.Came b' posted sent) (queued : b.queue ≠ []) : b'.queue ≠ [] := by
  rw [h.queue]
  exact List.append_ne_nil_of_left_ne_nil queued _

end Headless.Came

/-- The events that a call puts in, and those that it sends. -/
def Call.puts : Call τ → List (Event τ)
  | .post e => [e]
  | _ => []

def Call.sends : Call τ → List (Event τ)
  | .send e => [e]
  | _ => []

namespace Call.Heedless

variable {c : Call τ} {d : Display τ} {opening : Opening}

/-- The calls that are about events, and pay no heed to those that wait. -/
theorem on_events (hc : c.Heedless) (events : c.OnEvents) :
    (∃ e, c = .post e) ∨ (∃ e, c = .send e) ∨ c = .sleep := by
  cases c with
  | post e => exact .inl ⟨e, rfl⟩
  | send e => exact .inr (.inl ⟨e, rfl⟩)
  | sleep => exact .inr (.inr rfl)
  | dispatch _ | pendingEvents => exact hc.elim
  | _ => exact events.elim

/-- There is nothing to wait for when the queue has events. -/
theorem sleep_of_queued (queued : b.queue ≠ []) : b.sleep = b := by
  unfold Headless.sleep
  rw [if_neg]
  simpa using queued

theorem came (hc : c.Heedless) (opening : Opening) (queued : d.backend.queue ≠ []) :
    d.backend.Came (d.after opening c).backend c.puts c.sends := by
  by_cases events : c.OnEvents
  · obtain ⟨e, rfl⟩ | ⟨e, rfl⟩ | rfl := hc.on_events events
    · exact ⟨rfl, (List.append_nil _).symm⟩
    · exact ⟨(List.append_nil _).symm, rfl⟩
    · show d.backend.Came d.backend.sleep [] []
      rw [sleep_of_queued queued]
      exact .rest _
  · have same : (d.after opening c).backend.events = d.backend.events := d.after_events events
    obtain ⟨queue, inbox⟩ := Prod.mk.inj same
    have nothing : c.puts = [] ∧ c.sends = [] := by
      cases c <;> first | exact ⟨rfl, rfl⟩ | exact absurd trivial events
    rw [nothing.1, nothing.2]
    exact ⟨by rw [queue, List.append_nil], by rw [inbox, List.append_nil]⟩

/-- Such a call leaves the same display, but for the events. -/
theorem after_same (hc : c.Heedless) (opening : Opening) (d : Display τ)
    (queue inbox : List (Event τ)) : ∃ queue' inbox', (d.withEvents queue inbox).after opening c =
      (d.after opening c).withEvents queue' inbox' := by
  by_cases events : c.OnEvents
  · have slept (b : Headless τ) : ∃ queue' inbox', b.sleep = b.withEvents queue' inbox' := by
      unfold Headless.sleep
      split
      · split <;> exact ⟨_, _, rfl⟩
      · exact ⟨_, _, rfl⟩
    obtain ⟨e, rfl⟩ | ⟨e, rfl⟩ | rfl := hc.on_events events
    · exact ⟨_, _, rfl⟩
    · exact ⟨_, _, rfl⟩
    · obtain ⟨queue', inbox', h⟩ := slept (d.backend.withEvents queue inbox)
      obtain ⟨queue'', inbox'', h'⟩ := slept d.backend
      refine ⟨queue', inbox', ?_⟩
      show { d with backend := (d.backend.withEvents queue inbox).sleep } =
        { d with backend := d.backend.sleep.withEvents queue' inbox' }
      rw [h, h']
      rfl
  · exact ⟨queue, inbox, d.after_withEvents queue inbox opening events⟩

/-- Such a call answers the same, whatever waits. -/
theorem answer_same (hc : c.Heedless) (opening : Opening) (lent : d.lent = [])
    (queue inbox : List (Event τ)) :
    ((Setting.alone opening).call c (d.withEvents queue inbox)).1 =
      ((Setting.alone opening).call c d).1 := by
  by_cases events : c.OnEvents
  · obtain ⟨e, rfl⟩ | ⟨e, rfl⟩ | rfl := hc.on_events events <;> rfl
  · exact alone_call_withEvents lent _ _ _ _ events fun _ => rfl

end Call.Heedless

/-! ## Calls -/

namespace Setting.Blind

/-- The states in which the source of an image is opened. -/
theorem opened_around (hS : S.Blind S.display R) (i : Image) (h : R s s') :
    R (Quiet.opened S i s) (Quiet.opened S i s') := by
  have left : R (Quiet.opened S i s) = R s := Quiet.opened_keeps hS.left i s
  rw [left]
  exact (congrFun (Quiet.opened_keeps hS.right i s') s).mpr h

/-- **A call comes to the same in akin states**: to what it comes to on their displays alone, with
one answer of the source that it may open. -/
theorem call_alone (hS : S.Blind S.display R) (c : Call τ) (h : R s s') : ∃ opening : Opening,
    S.display.Mirrors s (S.call c) ((Setting.alone opening).call c) ∧
      S.display.Mirrors s' (S.call c) ((Setting.alone opening).call c) := by
  have opened := fun i => hS.opened_around i h
  -- both displays open the same source, if any, and it answers the same
  obtain ⟨answer, agree⟩ : ∃ answer : SourceAnswer, ∀ i source,
      c = .resolveImage i ∨ c = .image i → i.source = some source →
        S.display.Mirrors (Quiet.opened S i s) (S.openSource source) (Act.ofExcept answer) ∧
        S.display.Mirrors (Quiet.opened S i s') (S.openSource source) (Act.ofExcept answer) := by
    by_cases opens : ∃ i source, (c = .resolveImage i ∨ c = .image i) ∧ i.source = some source
    · obtain ⟨i, source, asks, found⟩ := opens
      obtain ⟨answer, mirrors⟩ := hS.openSource source (Quiet.opened S i s)
      obtain ⟨answer', mirrors'⟩ := hS.openSource source (Quiet.opened S i s')
      obtain rfl : answer' = answer := by
        have first := congrArg Prod.fst mirrors
        have second := congrArg Prod.fst mirrors'
        have same := second.symm.trans ((hS.opens source _ _ (opened i)).1.trans first)
        cases answer <;> cases answer' <;> cases same <;> rfl
      refine ⟨answer', fun i' source' asks' found' => ?_⟩
      obtain rfl := Quiet.asks_unique asks asks'
      obtain rfl : source = source' := Option.some.inj (found.symm.trans found')
      exact ⟨mirrors, mirrors'⟩
    · exact ⟨.ok (.ok []), fun i source asks found => absurd ⟨i, source, asks, found⟩ opens⟩
  exact ⟨⟨S.decoder, answer⟩,
    hS.call_alone_of fun i source asks found => (agree i source asks found).1,
    hS.call_alone_of fun i source asks found => (agree i source asks found).2⟩

/-- What the relation regards is the same after a call. -/
theorem call_around (hS : S.Blind S.display R) (c : Call τ) (h : Akin S.display R s s')
    (lent : (S.display.get s).lent = []) : R (S.call c s).2 (S.call c s').2 := by
  obtain ⟨queue, inbox, same⟩ := h.display
  have opens : (S.display.get s').opens? c = (S.display.get s).opens? c := by
    rw [same]
    rfl
  have left := hS.call_leaves hS.left lent c
  have right := hS.call_leaves hS.right (s := s') (by rw [same]; exact lent) c
  rw [opens] at right
  unfold Act.Leaves at left right
  cases image : c.image? with
  | none =>
    rw [image] at left right
    rw [left]
    exact (congrFun right s).mpr h.around
  | some i =>
    rw [image] at left right
    rw [left]
    refine (congrFun right _).mpr ?_
    cases (S.display.get s).opens? c with
    | none => exact h.around
    | some source => exact (hS.opens source _ _ (hS.opened_around i h.around)).2

/-- **Calls that pay no heed to the events** are parallel. -/
theorem parallel (hS : S.Blind L R) {c : Call τ} (hc : c.Heedless) :
    Parallel L R (S.call c) := by
  obtain rfl := hS.shown
  intro s s' h
  obtain ⟨queue, inbox, same⟩ := h.display
  have lent := h.orderly.lent
  have lent' : (S.display.get s').lent = [] := by rw [same]; exact lent
  obtain ⟨opening, first, second⟩ := hS.call_alone c h.around
  have after : S.display.get (S.call c s).2 = (S.display.get s).after opening c :=
    (congrArg Prod.snd first).trans (Moment.of_after opening lent c)
  have after' : S.display.get (S.call c s').2 = (S.display.get s').after opening c :=
    (congrArg Prod.snd second).trans (Moment.of_after opening lent' c)
  have came := hc.came opening h.queued
  have came' := hc.came opening h.queued'
  rw [← after] at came
  rw [← after'] at came'
  refine ⟨?_, ⟨⟨?_, hS.call_around c h.toAkin lent⟩, ?_, came.queued h.queued,
    came'.queued h.queued'⟩, _, _, came, came'⟩
  · have outcome := hc.answer_same opening lent queue inbox
    rw [← same] at outcome
    exact (congrArg Prod.fst second).trans (outcome.trans (congrArg Prod.fst first).symm)
  · rw [after, after', same]
    exact hc.after_same opening _ queue inbox
  · rw [after]
    exact h.orderly.after c

end Setting.Blind

/-! ## Actions put together -/

namespace Parallel

variable {x : Act σ α}

theorem aside (display : Act.Keeps L.get x)
    (same : ∀ s s', Akin L R s s' → (x s').1 = (x s).1 ∧ R (x s).2 (x s').2) : Parallel L R x := by
  intro s s' h
  obtain ⟨outcome, around⟩ := same s s' h.toAkin
  refine ⟨outcome, ⟨⟨?_, around⟩, ?_, ?_, ?_⟩, [], [], ?_, ?_⟩
  · rw [display, display]
    exact h.display
  · rw [display]
    exact h.orderly
  · rw [display]
    exact h.queued
  · rw [display]
    exact h.queued'
  · rw [display]
    exact .rest _
  · rw [display]
    exact .rest _

theorem bind {f : α → Act σ β} (hx : Parallel L R x) (hf : ∀ a, Parallel L R (f a)) :
    Parallel L R (x >>= f) := by
  intro s s' h
  obtain ⟨outcome, amid, posted, sent, came, came'⟩ := hx s s' h
  rw [Act.bind_apply, Act.bind_apply]
  generalize x s = a at outcome amid came ⊢
  generalize x s' = b at outcome amid came' ⊢
  obtain ⟨o, s₁⟩ := a
  obtain ⟨o', s₁'⟩ := b
  obtain rfl : o' = o := outcome
  cases o' with
  | fault c => exact ⟨rfl, amid, posted, sent, came, came'⟩
  | stalled => exact ⟨rfl, amid, posted, sent, came, came'⟩
  | done a =>
    obtain ⟨outcome, amid', posted', sent', further, further'⟩ := hf a s₁ s₁' amid
    exact ⟨outcome, amid', _, _, came.trans further, came'.trans further'⟩

theorem attempt (hx : Parallel L R x) : Parallel L R x.attempt := by
  intro s s' h
  obtain ⟨outcome, after⟩ := hx s s' h
  rw [Act.attempt_apply, Act.attempt_apply]
  generalize x s = a at outcome after ⊢
  generalize x s' = b at outcome after ⊢
  obtain ⟨o, s₁⟩ := a
  obtain ⟨o', s₁'⟩ := b
  obtain rfl : o' = o := outcome
  cases o' <;> exact ⟨rfl, after⟩

end Parallel

/-- **What pays no heed to the events does not depend on them.** The induction is on how the action
was put together. -/
theorem Heedless.parallel {x : Act σ α} (h : Heedless L R x) : Parallel L R x := by
  induction h with
  | aside display same => exact .aside display same
  | bind _ _ ih ih' => exact ih.bind ih'
  | attempt _ ih => exact ih.attempt
  | call hS heedless => exact hS.parallel heedless

end DisplayEnv
