import DisplayEnv.Proofs.Events.Order

/-!
# An event that is waited for

The end of a loop is an event: the destruction of its root, somewhere behind other events that wait.
What matters is its place. It moves forward when an event is dispatched, and nothing moves it back:
an event that is put in goes behind the queue, and the root's destruction is in the queue as soon as
the inbox was emptied once. Two things are said of it here.

* `Headless.Doomed`: the root is gone, or fewer than `q` events stand before its destruction. Every
  call keeps that (`Doomed.after`), and a dispatch leaves fewer (`Doomed.dispatched`).
* `Headless.Queued`: the root is there and its destruction in the queue, with what exactly stands
  before it and behind it. Every call keeps that which neither dispatches an event nor destroys the
  root itself (`Queued.after`), but for what it puts in.

Both are wanted in two forms. Before a dispatch other threads may still send, so the root's
destruction may be in the inbox (`Headless.pending`, `Headless.Standing`); when a handler runs, the
inbox was emptied, and then it matters that it is in the queue.
-/

namespace DisplayEnv

variable {τ : Type}

/-- The event that a call puts in. -/
def Call.entering? : Call τ → Option (Event τ)
  | .post e | .send e => some e
  | _ => none

/-- The events that were put in along a path, in their order. -/
def entered (t : List (Moment τ)) : List (Event τ) := t.filterMap fun m => m.call.entering?

/-- The call of another thread. -/
def Call.IsSend : Call τ → Prop
  | .send _ => True
  | _ => False

/-- A call that neither dispatches an event nor destroys the window itself. -/
def Call.Spares (root : Window) : Call τ → Prop
  | .dispatch _ => False
  | .destroyWindow w => w ≠ root
  | _ => True

namespace Headless

/-- The windows and the events of a backend. -/
def scene (b : Headless τ) : List Window × Nat × List (Event τ) × List (Event τ) :=
  (b.windows, b.nextWindow, b.queue, b.inbox)

/-- The root is gone for good, or its destruction stands in the line with fewer than `q` events
before it. -/
structure Doomed (line : Headless τ → List (Event τ)) (root : Window) (q : Nat)
    (b : Headless τ) : Prop where
  known : root.raw < b.nextWindow
  waits : root ∈ b.windows → ∃ l r, line b = l ++ .destroy root :: r ∧ l.length < q

/-- The root is there, and what waits is `l`, its destruction, `r` and what came since. -/
structure Standing (root : Window) (l r new : List (Event τ)) (b : Headless τ) : Prop where
  live : root ∈ b.windows
  line : b.pending = l ++ .destroy root :: (r ++ new)

/-- The root is there, and the queue has `l`, its destruction, `r` and a part of what came since;
the rest of that is in the inbox. -/
structure Queued (root : Window) (l r new : List (Event τ)) (b : Headless τ) : Prop where
  live : root ∈ b.windows
  line : ∃ x, b.queue = l ++ .destroy root :: (r ++ x) ∧ new = x ++ b.inbox

theorem isDestroyed_iff (b : Headless τ) (w : Window) :
    b.isDestroyed w = true ↔ w ∉ b.windows := by
  simp [isDestroyed]

theorem apart_scene : Apart (@scene τ) where
  allocate b b' n h := by
    obtain ⟨-, -, rfl⟩ := allocate_eq h
    rfl
  giveBack _ _ := rfl
  close b := by
    unfold close
    split <;> rfl

end Headless

variable {root : Window} {q q' : Nat} {l r new : List (Event τ)} {e : Event τ} {d d' : Display τ}
  {b b' : Headless τ} {opening : Opening} {t : List (Moment τ)}

theorem entered_append (t t' : List (Moment τ)) : entered (t ++ t') = entered t ++ entered t' :=
  List.filterMap_append

/-! ## A dispatch -/

/-- The windows that an event leaves. -/
def Event.sparing (windows : List Window) : Event τ → List Window
  | .destroy w => windows.filter (· ≠ w)
  | _ => windows

theorem Headless.next_eq (b : Headless τ) :
    b.next = match b.pending with
      | [] => (none, b.drain)
      | e :: rest => (some e, { b.drain with queue := rest }) := rfl

/-- The first event that waits is dispatched next. -/
theorem Headless.next_of_pending (h : b.pending = e :: l) : b.next.1 = some e := by
  rw [next_eq, h]

/-- What a dispatch does when an event waits. -/
theorem Display.dispatched_scene (h : d.backend.pending = e :: l) :
    d.dispatched.backend.scene = (e.sparing d.backend.windows, d.backend.nextWindow, l, []) := by
  unfold dispatched
  rw [Headless.next_eq, h]
  cases e <;> rfl

/-- What a dispatch does when nothing waits. -/
theorem Display.dispatched_idle (h : d.backend.pending = []) :
    d.dispatched.backend.scene = (d.backend.windows, d.backend.nextWindow, [], []) := by
  unfold dispatched
  rw [Headless.next_eq, h]
  show (d.backend.windows, d.backend.nextWindow, d.backend.pending, ([] : List (Event τ))) = _
  rw [h]

theorem Event.sparing_subset (windows : List Window) (e : Event τ) :
    e.sparing windows ⊆ windows := by
  cases e with
  | destroy w => exact List.filter_sublist.subset
  | task _ | wake => exact List.Subset.refl _

/-- A dispatch adds no window. -/
theorem Display.dispatched_windows (d : Display τ) :
    d.dispatched.backend.windows ⊆ d.backend.windows ∧
      d.dispatched.backend.nextWindow = d.backend.nextWindow := by
  cases h : d.backend.pending with
  | nil =>
    obtain ⟨windows, rest⟩ := Prod.mk.inj (dispatched_idle h)
    exact ⟨windows ▸ List.Subset.refl _, (Prod.mk.inj rest).1⟩
  | cons e l =>
    obtain ⟨windows, rest⟩ := Prod.mk.inj (dispatched_scene h)
    exact ⟨windows ▸ e.sparing_subset _, (Prod.mk.inj rest).1⟩

/-! ## The place of the root's destruction -/

namespace Headless

theorem Doomed.mono {line : Headless τ → List (Event τ)} (h : Doomed line root q b) (le : q ≤ q') :
    Doomed line root q' b where
  known := h.known
  waits live := by
    obtain ⟨l, r, eq, lt⟩ := h.waits live
    exact ⟨l, r, eq, Nat.lt_of_lt_of_le lt le⟩

/-- What is in the queue waits. -/
theorem Doomed.pending (h : Doomed Headless.queue root q b) : Doomed Headless.pending root q b where
  known := h.known
  waits live := by
    obtain ⟨l, r, eq, lt⟩ := h.waits live
    refine ⟨l, r ++ b.inbox, ?_, lt⟩
    rw [Headless.pending, eq, List.append_assoc, List.cons_append]

theorem Doomed.of_scene (h : Doomed Headless.queue root q b) (same : b'.scene = b.scene) :
    Doomed Headless.queue root q b' := by
  obtain ⟨windows, rest⟩ := Prod.mk.inj same
  obtain ⟨known, rest⟩ := Prod.mk.inj rest
  have queue := (Prod.mk.inj rest).1
  exact ⟨known ▸ h.known, by rw [windows, queue]; exact h.waits⟩

/-- **A dispatch brings the root's destruction forward**, or was that. -/
theorem Doomed.dispatched (h : Doomed Headless.pending root (q + 1) d.backend) :
    Doomed Headless.queue root q d.dispatched.backend := by
  cases hp : d.backend.pending with
  | nil =>
    obtain ⟨windows, rest⟩ := Prod.mk.inj (Display.dispatched_idle hp)
    refine ⟨(Prod.mk.inj rest).1 ▸ h.known, fun live => ?_⟩
    obtain ⟨l, r, eq, -⟩ := h.waits (windows ▸ live)
    rw [hp] at eq
    simp at eq
  | cons e rest =>
    obtain ⟨windows, others⟩ := Prod.mk.inj (Display.dispatched_scene hp)
    obtain ⟨known, queue⟩ := Prod.mk.inj others
    refine ⟨known ▸ h.known, fun live => ?_⟩
    rw [windows] at live
    obtain ⟨l, r, eq, lt⟩ := h.waits (e.sparing_subset _ live)
    rw [hp] at eq
    cases l with
    | nil =>
      obtain ⟨rfl, -⟩ := List.cons.inj eq
      simp [Event.sparing] at live
    | cons x l =>
      obtain ⟨-, rfl⟩ := List.cons.inj eq
      exact ⟨l, r, (Prod.mk.inj queue).1, Nat.lt_of_succ_lt_succ lt⟩

/-- **Every call keeps the place of the root's destruction**, or brings it forward. -/
theorem Doomed.after (h : Doomed Headless.queue root q d.backend) (c : Call τ) :
    Doomed Headless.queue root q (d.after opening c).backend := by
  by_cases hc : c.OnBackend
  case neg => exact h.of_scene (d.after_apart apart_scene hc)
  -- events that come go behind the root's destruction
  have behind {b : Headless τ} (x : List (Event τ)) (windows : b.windows = d.backend.windows)
      (known : b.nextWindow = d.backend.nextWindow) (queue : b.queue = d.backend.queue ++ x) :
      Doomed Headless.queue root q b := by
    refine ⟨known ▸ h.known, fun live => ?_⟩
    obtain ⟨l, r, eq, lt⟩ := h.waits (windows ▸ live)
    exact ⟨l, r ++ x, by rw [queue, eq, List.append_assoc, List.cons_append], lt⟩
  cases c with
  | createWindow =>
    refine ⟨Nat.lt_add_right _ h.known, fun live => ?_⟩
    rcases List.mem_cons.mp live with rfl | live
    · exact absurd h.known (Nat.lt_irrefl _)
    · exact h.waits live
  | destroyWindow w => exact ⟨h.known, fun live => h.waits (List.mem_filter.mp live).1⟩
  | post e => exact behind [e] rfl rfl rfl
  | send e => exact behind [] rfl rfl (List.append_nil _).symm
  | pendingEvents => exact behind d.backend.inbox rfl rfl rfl
  | dispatch _ => exact (h.pending.mono (Nat.le_succ q)).dispatched
  | sleep =>
    show Doomed Headless.queue root q d.backend.sleep
    unfold Headless.sleep
    split
    · rename_i empty
      have gone : root ∉ d.backend.windows := fun live => by
        obtain ⟨l, r, eq, -⟩ := h.waits live
        rw [List.isEmpty_iff.mp empty] at eq
        simp at eq
      split <;> exact ⟨h.known, fun live => absurd live gone⟩
    · exact h
  | _ => exact hc.elim

theorem Doomed.path {allowed : Call τ → Prop} (h : Doomed Headless.queue root q d.backend)
    (orderly : d.Orderly) (p : Path allowed d t d') :
    Doomed Headless.queue root q d'.backend :=
  p.invariant (P := fun _ d => Doomed Headless.queue root q d.backend) orderly h
    fun _ _ c _ _ h => h.after c

end Headless

/-! ## Other threads -/

/-- The display after other threads sent some events. -/
def Display.reached (d : Display τ) (sent : List (Event τ)) : Display τ :=
  { d with backend := { d.backend with inbox := d.backend.inbox ++ sent } }

/-- What other threads do is to send events. -/
theorem Path.reached (p : Path Call.IsSend d t d') (orderly : d.Orderly) :
    d' = d.reached (entered t) := by
  refine p.invariant (P := fun t d' => d' = d.reached (entered t)) orderly ?_ ?_
  · simp [entered, Display.reached]
  · rintro t d' c opening hc rfl
    cases c with
    | send e => simp [entered, Call.entering?, Moment.of, Display.reached, Display.after,
        Headless.send, List.append_assoc]
    | _ => exact hc.elim

namespace Headless

theorem Doomed.reached (h : Doomed Headless.pending root q d.backend) (sent : List (Event τ)) :
    Doomed Headless.pending root q (d.reached sent).backend where
  known := h.known
  waits live := by
    obtain ⟨l, r, eq, lt⟩ := h.waits live
    refine ⟨l, r ++ sent, ?_, lt⟩
    show d.backend.queue ++ (d.backend.inbox ++ sent) = _
    rw [← List.append_assoc, ← List.cons_append, ← List.append_assoc]
    exact congrArg (· ++ sent) eq

theorem Standing.reached (h : Standing root l r new d.backend) (sent : List (Event τ)) :
    Standing root l r (new ++ sent) (d.reached sent).backend where
  live := h.live
  line := by
    show d.backend.queue ++ (d.backend.inbox ++ sent) = _
    rw [← List.append_assoc, show d.backend.queue ++ d.backend.inbox = _ from h.line]
    simp

/-! ## What stands before the root's destruction and behind it -/

theorem Queued.standing (h : Queued root l r new b) : Standing root l r new b where
  live := h.live
  line := by
    obtain ⟨x, queue, rfl⟩ := h.line
    rw [Headless.pending, queue]
    simp

/-- A dispatch takes the first event that stands before the root's destruction. -/
theorem Standing.dispatched (h : Standing root (e :: l) r new d.backend)
    (other : e ≠ .destroy root) : Queued root l r new d.dispatched.backend := by
  obtain ⟨windows, rest⟩ := Prod.mk.inj (Display.dispatched_scene h.line)
  obtain ⟨-, rest⟩ := Prod.mk.inj rest
  obtain ⟨queue, inbox⟩ := Prod.mk.inj rest
  refine ⟨?_, new, queue, by rw [inbox, List.append_nil]⟩
  rw [windows]
  cases e with
  | destroy w =>
    refine List.mem_filter.mpr ⟨h.live, ?_⟩
    simpa using fun same : root = w => other (same ▸ rfl)
  | task _ | wake => exact h.live

/-- A dispatch of the root's destruction leaves what stood behind it. -/
theorem Standing.last (h : Standing root [] r new d.backend) :
    root ∉ d.dispatched.backend.windows ∧ d.dispatched.backend.pending = r ++ new := by
  obtain ⟨windows, rest⟩ := Prod.mk.inj (Display.dispatched_scene h.line)
  obtain ⟨-, rest⟩ := Prod.mk.inj rest
  obtain ⟨queue, inbox⟩ := Prod.mk.inj rest
  refine ⟨?_, ?_⟩
  · rw [windows]
    simp [Event.sparing]
  · rw [Headless.pending, queue, inbox, List.append_nil]

/-- **A call that spares the root** leaves what stands before its destruction and behind it, and
puts its own event behind all that. -/
theorem Queued.after (h : Queued root l r new d.backend) {c : Call τ} (spares : c.Spares root)
    (opening : Opening) :
    ∃ new', Queued root l r new' (d.after opening c).backend ∧
      new'.Perm (new ++ c.entering?.toList) := by
  obtain ⟨x, queue, rfl⟩ := h.line
  have nothing {new' : List (Event τ)} {b : Headless τ} (h : Queued root l r new' b)
      (perm : new'.Perm (x ++ d.backend.inbox)) : ∃ new', Queued root l r new' b ∧
        new'.Perm ((x ++ d.backend.inbox) ++ (none : Option (Event τ)).toList) :=
    ⟨new', h, by simpa using perm⟩
  by_cases hc : c.OnBackend
  case neg =>
    have silent : c.entering? = none := by cases c <;> first | rfl | exact absurd trivial hc
    have same : (d.after opening c).backend.scene = d.backend.scene :=
      d.after_apart apart_scene hc
    obtain ⟨windows, rest⟩ := Prod.mk.inj same
    obtain ⟨-, rest⟩ := Prod.mk.inj rest
    obtain ⟨queue', inbox'⟩ := Prod.mk.inj rest
    rw [silent]
    exact nothing ⟨windows ▸ h.live, x, queue'.trans queue, by rw [inbox']⟩ (.refl _)
  cases c with
  | createWindow =>
    exact nothing ⟨List.mem_cons_of_mem _ h.live, x, queue, rfl⟩ (.refl _)
  | destroyWindow w =>
    refine nothing ⟨List.mem_filter.mpr ⟨h.live, ?_⟩, x, queue, rfl⟩ (.refl _)
    simpa using fun same : root = w => spares same.symm
  | post e =>
    refine ⟨x ++ [e] ++ d.backend.inbox, ⟨h.live, x ++ [e], ?_, rfl⟩, ?_⟩
    · show d.backend.queue ++ [e] = _
      rw [queue]
      simp
    · rw [List.append_assoc, List.append_assoc]
      exact List.perm_append_comm.append_left x
  | send e =>
    refine ⟨x ++ (d.backend.inbox ++ [e]), ⟨h.live, x, queue, rfl⟩, ?_⟩
    rw [← List.append_assoc]
    exact .refl _
  | pendingEvents =>
    refine nothing ⟨h.live, x ++ d.backend.inbox, ?_, (List.append_nil _).symm⟩ (.refl _)
    show d.backend.queue ++ d.backend.inbox = _
    rw [queue]
    simp
  | dispatch _ => exact spares.elim
  | sleep =>
    have full : d.backend.sleep = d.backend := by
      unfold Headless.sleep
      rw [if_neg]
      rw [queue]
      simp
    show ∃ new', Queued root l r new' d.backend.sleep ∧ _
    rw [full]
    exact nothing h (.refl _)
  | _ => exact hc.elim

theorem Queued.path {allowed : Call τ → Prop} (h : Queued root l r new d.backend)
    (orderly : d.Orderly) (spares : ∀ c, allowed c → c.Spares root) (p : Path allowed d t d') :
    ∃ new', Queued root l r new' d'.backend ∧ new'.Perm (new ++ entered t) := by
  refine p.invariant (P := fun t d' => ∃ new', Queued root l r new' d'.backend ∧
    new'.Perm (new ++ entered t)) orderly ⟨new, h, by simp [entered]⟩ ?_
  rintro t d' c opening hc ⟨new₁, h₁, perm₁⟩
  obtain ⟨new₂, h₂, perm₂⟩ := h₁.after (spares c hc) opening
  refine ⟨new₂, h₂, ?_⟩
  have one : entered [Moment.of opening c d'] = c.entering?.toList := by
    unfold entered
    cases h : c.entering? <;> simp [Moment.of, h]
  rw [entered_append, one, ← List.append_assoc]
  exact perm₂.trans (perm₁.append_right _)

end Headless

end DisplayEnv
