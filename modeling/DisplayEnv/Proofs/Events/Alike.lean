import DisplayEnv.Proofs.Events.Unseen
import Mathlib.Data.List.Forall2

/-!
# Displays that are the same but for their tasks

Two displays are *alike* when all of one is as in the other, and the events that wait are the same
one by one, except that in the place of a task there may be another one that is like it. What a call
does to a display has nothing to do with what the tasks are, so alike calls lead from alike displays
to alike displays.

* `Display.Alike.after`: every call, made on two alike displays.
-/

namespace DisplayEnv

variable {τ : Type} {like : τ → τ → Prop}

/-! ## What is alike -/

/-- The same event, or two tasks that are alike. -/
inductive Event.Alike (like : τ → τ → Prop) : Event τ → Event τ → Prop
  | task {t t' : τ} (h : like t t') : Alike like (.task t) (.task t')
  | destroy (w : Window) : Alike like (.destroy w) (.destroy w)
  | wake : Alike like .wake .wake

/-- The same call, with an alike event or another ending of the handler. -/
def Call.Alike (like : τ → τ → Prop) : Call τ → Call τ → Prop
  | .post e, .post e' => e.Alike like e'
  | .send e, .send e' => e.Alike like e'
  | .dispatch _, .dispatch _ => True
  | .post _, _ | .send _, _ | .dispatch _, _ => False
  | c, c' => c = c'

/-- All of the backends is the same, but for tasks that are alike. -/
structure Headless.Alike (like : τ → τ → Prop) (b b' : Headless τ) : Prop where
  same : b' = b.withEvents b'.queue b'.inbox
  queue : List.Forall₂ (Event.Alike like) b.queue b'.queue
  inbox : List.Forall₂ (Event.Alike like) b.inbox b'.inbox

/-- All of the displays is the same, but for tasks that are alike. -/
structure Display.Alike (like : τ → τ → Prop) (d d' : Display τ) : Prop where
  same : d' = { d with backend := d'.backend }
  backend : d.backend.Alike like d'.backend

/-! ## Calls keep displays alike -/

namespace Headless.Alike

variable {b b' : Headless τ}

/-- Backends are alike when they are the same one with other, alike events. -/
theorem of_withEvents {q q' i i' : List (Event τ)} (b : Headless τ)
    (queue : List.Forall₂ (Event.Alike like) q q') (inbox : List.Forall₂ (Event.Alike like) i i') :
    Headless.Alike like (b.withEvents q i) (b.withEvents q' i') := ⟨rfl, queue, inbox⟩

theorem isDestroyed (h : b.Alike like b') (w : Window) : b'.isDestroyed w = b.isDestroyed w := by
  rw [h.same]
  rfl

theorem destroyWindow (h : b.Alike like b') (w : Window) :
    (b.destroyWindow w).Alike like (b'.destroyWindow w) := by
  rw [h.same]
  exact of_withEvents (b.destroyWindow w) h.queue h.inbox

theorem post (h : b.Alike like b') {e e' : Event τ} (he : e.Alike like e') :
    (b.post e).Alike like (b'.post e') := by
  rw [h.same]
  exact of_withEvents b (List.rel_append h.queue (.cons he .nil)) h.inbox

theorem send (h : b.Alike like b') {e e' : Event τ} (he : e.Alike like e') :
    (b.send e).Alike like (b'.send e') := by
  rw [h.same]
  exact of_withEvents b h.queue (List.rel_append h.inbox (.cons he .nil))

theorem drain (h : b.Alike like b') : b.drain.Alike like b'.drain := by
  rw [h.same]
  exact of_withEvents b (List.rel_append h.queue h.inbox) .nil

/-- Alike backends give out alike events. -/
theorem next (h : b.Alike like b') : Option.Rel (Event.Alike like) b.next.1 b'.next.1 ∧
    b.next.2.Alike like b'.next.2 := by
  have drained := h.drain
  unfold Headless.next
  generalize b.drain = c at drained ⊢
  generalize b'.drain = c' at drained ⊢
  have queue := drained.queue
  generalize first : c.queue = q at queue
  generalize second : c'.queue = q' at queue
  cases queue with
  | nil => exact ⟨.none, drained⟩
  | cons he rest =>
    refine ⟨.some he, ?_⟩
    show Headless.Alike like { c with queue := _ } { c' with queue := _ }
    rw [drained.same]
    exact of_withEvents c rest drained.inbox

theorem sleep (h : b.Alike like b') : b.sleep.Alike like b'.sleep := by
  have queue := h.queue
  have inbox := h.inbox
  unfold Headless.sleep
  generalize hq : b.queue = q at queue
  generalize hq' : b'.queue = q' at queue
  generalize hi : b.inbox = i at inbox
  generalize hi' : b'.inbox = i' at inbox
  cases queue with
  | cons he rest => exact h
  | nil =>
    cases inbox with
    | nil => exact h
    | cons he rest =>
      show Headless.Alike like { b with queue := _, inbox := _ } { b' with queue := _, inbox := _ }
      rw [h.same]
      exact of_withEvents b (.cons he .nil) rest

end Headless.Alike

namespace Display.Alike

variable {d d' : Display τ}

/-- Alike displays are one display with alike backends. -/
theorem of_backend (d : Display τ) {b b' : Headless τ} (h : b.Alike like b') :
    Display.Alike like { d with backend := b } { d with backend := b' } := ⟨rfl, h⟩

theorem eq_withEvents (h : d.Alike like d') :
    d' = d.withEvents d'.backend.queue d'.backend.inbox := by
  have backend := h.backend.same
  rw [h.same]
  exact congrArg (fun b => { d with backend := b }) backend

theorem disposed (h : d.Alike like d') : d'.disposed = d.disposed := by
  rw [h.same]

theorem lent (h : d.Alike like d') : d'.lent = d.lent := by
  rw [h.same]

/-- Alike backends in place of those of alike displays. -/
theorem with_backend (h : d.Alike like d') {b b' : Headless τ} (hb : b.Alike like b') :
    Display.Alike like { d with backend := b } { d' with backend := b' } := by
  rw [h.same]
  exact of_backend d hb

theorem dispatched (h : d.Alike like d') : d.dispatched.Alike like d'.dispatched := by
  obtain ⟨event, next⟩ := h.backend.next
  unfold Display.dispatched
  generalize d.backend.next.1 = e at event ⊢
  generalize d'.backend.next.1 = e' at event ⊢
  cases event with
  | none => exact h.with_backend next
  | some event =>
    cases event with
    | destroy w => exact h.with_backend (next.destroyWindow w)
    | task _ | wake => exact h.with_backend next

/-- **Alike calls keep displays alike.** -/
theorem after (h : d.Alike like d') (opening : Opening) {c c' : Call τ} (hc : c.Alike like c') :
    (d.after opening c).Alike like (d'.after opening c') := by
  by_cases events : c.OnEvents
  · cases c with
    | post e =>
      cases c' with
      | post e' => exact h.with_backend (h.backend.post hc)
      | _ => exact hc.elim
    | send e =>
      cases c' with
      | send e' => exact h.with_backend (h.backend.send hc)
      | _ => exact hc.elim
    | dispatch ending =>
      cases c' with
      | dispatch ending' => exact h.dispatched
      | _ => exact hc.elim
    | pendingEvents =>
      obtain rfl : .pendingEvents = c' := hc
      exact h.with_backend h.backend.drain
    | sleep =>
      obtain rfl : .sleep = c' := hc
      exact h.with_backend h.backend.sleep
    | _ => exact events.elim
  · obtain rfl : c = c' := by
      cases c with
      | post _ | send _ | pendingEvents | dispatch _ | sleep => exact absurd trivial events
      | _ => exact hc
    have same : (d.after opening c).backend.events = d.backend.events := d.after_events events
    obtain ⟨queue, inbox⟩ := Prod.mk.inj same
    rw [h.eq_withEvents, Display.after_withEvents _ _ _ opening events]
    exact ⟨rfl, rfl, queue ▸ h.backend.queue, inbox ▸ h.backend.inbox⟩

end Display.Alike

end DisplayEnv
