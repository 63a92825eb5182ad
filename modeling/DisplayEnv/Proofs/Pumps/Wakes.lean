import DisplayEnv.Proofs.Events.Heedless
import DisplayEnv.Proofs.Events.Termination
import DisplayEnv.Proofs.Pumps.Accounts

/-!
# Wakes are transparent

A wake is an event of its own in the queue. A tick that takes one is idle, so the loop waits after
it, although events may be behind it. That delays, drops and reorders nothing: while the destruction
of the root waits, so does something to wait for, and the loop goes on at once.

The theorem compares a loop with one that starts without the wakes. The first goes through the same
events in its own time: a wake is a round in which the second one stands still, and every other
event is a round of both (`Blind.round_work`), because handlers that pay no heed to the events do
not notice what else waits. Handlers may send wakes again, in both loops; those are behind the
destruction of the root and are not taken.

* `Blind.round_wake`, `Blind.round_work`, `Blind.round_last`: one round, of one loop or of both.
* `Blind.serves`: the two loops side by side, by induction on what waits before the destruction.
* `wakes_transparent`: nested loops, with and without the wakes.
-/

namespace DisplayEnv

variable {σ τ : Type} {L : Lens σ (Display τ)} {R : σ → σ → Prop} {S : Setting σ τ}
  {s s' s₁ : σ} {p p' p₁ q : Pump} {root : Window} {e : Event τ}
  {es l m m' x x' : List (Event τ)} {n k : Nat}

/-! ## Rounds and their events -/

namespace Setting

theorem Rounds.append (h : S.Rounds root n p s p₁ s₁) (h' : S.Rounds root k p₁ s₁ p' s') :
    S.Rounds root (n + k) p s p' s' := by
  induction h with
  | rest =>
    rw [Nat.zero_add]
    exact h'
  | next round _ ih =>
    rw [Nat.add_right_comm]
    exact .next round (ih h')

/-- Rounds of a loop, and the events that they took. -/
inductive Serves (S : Setting σ τ) (root : Window) : List (Event τ) → Pump → σ → Pump → σ → Prop
  | rest (p : Pump) (s : σ) : Serves S root [] p s p s
  | next {e : Event τ} {es : List (Event τ)} {p p₁ p' : Pump} {s s₁ s' : σ}
      (event : (S.backend.get s).next.1 = some e) (round : S.Round root p s p₁ s₁)
      (serves : Serves S root es p₁ s₁ p' s') : Serves S root (e :: es) p s p' s'

theorem Serves.rounds (h : S.Serves root es p s p' s') : S.Rounds root es.length p s p' s' := by
  induction h with
  | rest => exact .rest _ _
  | next _ round _ ih => exact .next round ih

theorem Serves.single (event : (S.backend.get s).next.1 = some e) (round : S.Round root p s p' s') :
    S.Serves root [e] p s p' s' :=
  .next event round (.rest p' s')

theorem Serves.append (h : S.Serves root es p s p₁ s₁) (h' : S.Serves root l p₁ s₁ p' s') :
    S.Serves root (es ++ l) p s p' s' := by
  induction h with
  | rest => exact h'
  | next event round _ ih => exact .next event round (ih h')

/-- A nested loop takes these events, one in each of its rounds, and returns. -/
def Nested (S : Setting σ τ) (root : Window) (es : List (Event τ)) (p : Pump) (s : σ) (q : Pump)
    (s' : σ) : Prop :=
  ∃ p₁ s₁, S.Serves root es { p with state := .running } (S.note (.loopRunning root) s).2 p₁ s₁ ∧
    (S.backend.get s₁).isDestroyed root = true ∧ q = { p₁ with state := .stopped } ∧
    s' = (S.note (.loopStopped root p₁.stats) s₁).2

theorem Quiet.runNested_of (hS : S.Quiet) (h : S.Nested root es p s q s') {bound : Nat}
    (enough : es.length ≤ bound) : S.runNested bound root p s = (.done (.ok (), q), s') := by
  obtain ⟨p₁, s₁, serves, gone, stopped, told⟩ := h
  exact hS.runNested_eq_ok_iff.mpr ⟨_, p₁, s₁, enough, serves.rounds, gone, stopped, told⟩

theorem isLive_iff :
    (S.backend.get s).isDestroyed root = false ↔ root ∈ (S.display.get s).backend.windows := by
  rw [← Bool.not_eq_true, isDestroyed_iff, not_not]

/-! ## An event that was taken -/

/-- What is done for an event that was taken. -/
def handling (S : Setting σ τ) : Event τ → Act σ (Except PlatformError Bool)
  | .wake => pure (.ok false)
  | .destroy w => do S.backend.change (·.destroyWindow w); return .ok true
  | .task t => do
    match ← S.run t with
    | .ok () => return .ok true
    | .error e => return .error e

theorem dispatchNext_eq (h : (S.backend.get s).next.1 = some e) :
    S.dispatchNext s = S.handling e (S.afterNext s) := by
  unfold dispatchNext
  rw [Act.bind_apply]
  simp only [Lens.alter, Act.alter_apply, h]
  cases e <;> rfl

/-- The display without the event that was taken, and with an empty inbox. -/
theorem Quiet.get_afterNext_of (hS : S.Quiet) (line : (S.backend.get s).pending = e :: m) :
    S.display.get (S.afterNext s) = (S.display.get s).withEvents m [] := by
  rw [hS.get_afterNext, Headless.next_eq, line]
  rfl

/-- Work is not idle, however it ends. -/
theorem handling_busy (work : e.isWork) {r : Except Fault (Except PlatformError Bool)}
    (h : (S.handling e).attempt s = (.done r, s')) : tickOf r ≠ .idle := by
  cases e with
  | wake => cases work
  | destroy w =>
    cases h
    nofun
  | task t =>
    rw [Act.attempt_apply, handling, Act.bind_apply] at h
    match run : S.run t s with
    | (.done (.ok ()), _) | (.done (.error _), _) | (.fault _, _) =>
      rw [run] at h
      cases h
      nofun
    | (.stalled, _) =>
      rw [run] at h
      cases h

/-- A tick ends when the handler does that it starts. -/
theorem Blind.handling_ends (hS : S.Blind L R) (ends : S.Ends s)
    (next : (S.backend.get s).next.1 = some e) :
    ∃ r s₁, (S.handling e).attempt (S.afterNext s) = (.done r, s₁) := by
  cases e with
  | wake | destroy _ => exact ⟨_, _, rfl⟩
  | task t =>
    have ended := ends s t (hS.still .dispatch s (.inl rfl)) next
    rw [Act.attempt_apply, handling, Act.bind_apply]
    match run : S.run t (S.afterNext s) with
    | (.done (.ok ()), _) | (.done (.error _), _) | (.fault _, _) => exact ⟨_, _, rfl⟩
    | (.stalled, _) =>
      rw [run] at ended
      exact absurd rfl ended

/-- A tick is an attempt to do what its event asks for, when nothing comes before. -/
theorem Blind.tick_of (hS : S.Blind S.display R) (next : (S.backend.get s).next.1 = some e)
    {r : Except Fault (Except PlatformError Bool)}
    (done : (S.handling e).attempt (S.afterNext s) = (.done r, s₁)) (p : Pump) :
    ∃ s', S.tick p s = (.done (tickOf r, p.count (tickOf r)), s') ∧
      S.display.get s' = S.display.get s₁ ∧ R s' = R s₁ ∧ ∀ t, R t s' = R t s₁ := by
  have read : S.readAndDispatch.attempt s = (.done r, s₁) := by
    rw [readAndDispatch_of (hS.still .dispatch s (.inl rfl)), Act.attempt_apply,
      dispatchNext_eq next, ← Act.attempt_apply]
    exact done
  obtain ⟨s', tick, display⟩ := hS.toQuiet.tick_of read p
  exact ⟨s', tick, display, tick_keeps (S := S) hS.left.note read tick,
    congrFun (tick_keeps (S := S) hS.right.note read tick)⟩

end Setting

theorem Display.Orderly.withEvents {d : Display τ} (h : d.Orderly) (queue inbox : List (Event τ)) :
    (d.withEvents queue inbox).Orderly :=
  ⟨h.lent, fun sh => by cases sh <;> exact h.keyed _⟩

theorem Setting.Quiet.get_note (hS : S.Quiet) (note : Notice) (s : σ) :
    S.display.get (S.note note s).2 = S.display.get s :=
  congrArg Prod.snd (hS.note note s)

/-! ## Two loops side by side -/

/-- Akin states in which these events are left, and behind them the same events came. -/
structure Advanced (L : Lens σ (Display τ)) (R : σ → σ → Prop) (m m' : List (Event τ)) (s s' : σ) :
    Prop extends Akin L R s s' where
  orderly : (L.get s).Orderly
  events : ∃ posted,
    (L.get s).backend.queue = m ++ posted ∧ (L.get s').backend.queue = m' ++ posted
  inbox : (L.get s').backend.inbox = (L.get s).backend.inbox

/-- The states after a tick are akin if those after the handler were. -/
theorem Advanced.ticked {t t' : σ} (h : Advanced L R m m' s s') (display : L.get t = L.get s)
    (display' : L.get t' = L.get s') (left : R t = R s) (right : ∀ u, R u t' = R u s') :
    Advanced L R m m' t t' where
  display := by
    rw [display, display']
    exact h.display
  around := by
    rw [left, right]
    exact h.around
  orderly := display ▸ h.orderly
  events := by
    rw [display, display']
    exact h.events
  inbox := by
    rw [display, display']
    exact h.inbox

/-- Both loops have their root, and stand before the same events and the destruction of the root,
the second one without the wakes. -/
structure InStep (L : Lens σ (Display τ)) (R : σ → σ → Prop) (root : Window) (l : List (Event τ))
    (s s' : σ) : Prop extends Akin L R s s' where
  orderly : (L.get s).Orderly
  live : root ∈ (L.get s).backend.windows
  waits : ∃ x x', (L.get s).backend.pending = l ++ .destroy root :: x ∧
    (L.get s').backend.pending = l.filter Event.isWork ++ .destroy root :: x' ∧
    x'.filter Event.isWork = x.filter Event.isWork

/-- Neither loop has its root any more, and the same is left for both, but for wakes. -/
structure Finished (L : Lens σ (Display τ)) (R : σ → σ → Prop) (root : Window) (s s' : σ) : Prop
    extends Akin L R s s' where
  gone : root ∉ (L.get s).backend.windows
  queue : (L.get s').backend.queue.filter Event.isWork =
    (L.get s).backend.queue.filter Event.isWork
  inbox : (L.get s').backend.inbox = (L.get s).backend.inbox

/-- The pumps of the two loops: the second one was idle so many times fewer. -/
structure Pump.Fewer (n : Nat) (p p' : Pump) : Prop where
  dispatched : p'.stats.dispatched = p.stats.dispatched
  failures : p'.stats.failures = p.stats.failures
  idle : p.stats.idle = p'.stats.idle + n

theorem Pump.Fewer.count (h : p.Fewer n p') {t : Tick} (busy : t ≠ .idle) :
    (p.count t).Fewer n (p'.count t) ∧ (p'.count t).stats.idle = p'.stats.idle := by
  obtain ⟨dispatched, failures, idle⟩ := h
  cases t with
  | idle => exact absurd rfl busy
  | dispatched => exact ⟨⟨congrArg (· + 1) dispatched, failures, idle⟩, rfl⟩
  | failed _ => exact ⟨⟨dispatched, congrArg (· + 1) failures, idle⟩, rfl⟩

theorem Pump.Fewer.idled (h : p.Fewer n p') : (p.count .idle).Fewer (n + 1) p' :=
  ⟨h.dispatched, h.failures, congrArg (· + 1) h.idle⟩

theorem Akin.windows (h : Akin L R s s') :
    (L.get s').backend.windows = (L.get s).backend.windows := by
  obtain ⟨queue, inbox, same⟩ := h.display
  rw [same]
  rfl

theorem Advanced.finished (h : Advanced L R m m' s s')
    (same : m'.filter Event.isWork = m.filter Event.isWork)
    (gone : root ∉ (L.get s).backend.windows) : Finished L R root s s' := by
  obtain ⟨posted, queue, queue'⟩ := h.events
  refine ⟨h.toAkin, gone, ?_, h.inbox⟩
  rw [queue, queue', List.filter_append, List.filter_append, same]

theorem Advanced.inStep (h : Advanced L R (l ++ .destroy root :: x)
      (l.filter Event.isWork ++ .destroy root :: x') s s')
    (same : x'.filter Event.isWork = x.filter Event.isWork)
    (live : root ∈ (L.get s).backend.windows) : InStep L R root l s s' := by
  obtain ⟨posted, queue, queue'⟩ := h.events
  refine ⟨h.toAkin, h.orderly, live, x ++ posted ++ (L.get s).backend.inbox,
    x' ++ posted ++ (L.get s).backend.inbox, ?_, ?_, ?_⟩
  · unfold Headless.pending
    rw [queue, List.append_assoc, List.append_assoc, List.append_assoc]
    rfl
  · unfold Headless.pending
    rw [queue', h.inbox, List.append_assoc, List.append_assoc, List.append_assoc]
    rfl
  · simp only [List.filter_append, same]

namespace Setting.Blind

/-- Other displays in both states make no difference to what is around them. -/
theorem set_around (hS : S.Blind S.display R) (d d' : Display τ) (h : R s s') :
    R (S.display.set d s) (S.display.set d' s') := by
  have left : R (S.display.set d s) = R s := hS.left.display d s
  rw [left]
  exact (congrFun (hS.right.display d' s') s).mpr h

/-- An event was taken in both states. -/
theorem afterNext (hS : S.Blind L R) (akin : Akin L R s s') (orderly : (L.get s).Orderly)
    (line : (L.get s).backend.pending = e :: m) (line' : (L.get s').backend.pending = e :: m') :
    Advanced L R m m' (S.afterNext s) (S.afterNext s') := by
  obtain rfl := hS.shown
  have first := hS.get_afterNext_of line
  have second := hS.get_afterNext_of line'
  obtain ⟨queue, inbox, same⟩ := akin.display
  refine ⟨⟨⟨m', [], ?_⟩, hS.set_around _ _ akin.around⟩, ?_, ⟨[], ?_, ?_⟩, ?_⟩
  · rw [first, second, same]
    rfl
  · rw [first]
    exact orderly.withEvents _ _
  · rw [first, List.append_nil]
    rfl
  · rw [second, List.append_nil]
    rfl
  · rw [first, second]
    rfl

/-- What is done for a task or a destruction pays no heed to the events, if the tasks do not. -/
theorem handling_heedless (hS : S.Blind L R) (heedless : ∀ t, Heedless L R (S.run t))
    (work : e.isWork) : Heedless L R (S.handling e) := by
  have silent {α : Type} (a : α) : Heedless L R (pure a : Act σ α) :=
    .aside (.pure a) fun _ _ h => ⟨rfl, h.around⟩
  cases e with
  | wake => cases work
  | destroy w => exact (Heedless.call hS (c := .destroyWindow w) trivial).bind fun _ => silent _
  | task t =>
    refine (heedless t).bind fun r => ?_
    cases r <;> exact silent _

/-- **A task or a destruction is the same round in both loops**, when more waits behind it. -/
theorem tick_work (hS : S.Blind L R) (heedless : ∀ t, Heedless L R (S.run t))
    (akin : Akin L R s s') (orderly : (L.get s).Orderly)
    (line : (L.get s).backend.pending = e :: m) (line' : (L.get s').backend.pending = e :: m')
    (work : e.isWork) (more : m ≠ []) (more' : m' ≠ []) (ends : S.Ends s) (p p' : Pump) :
    ∃ t s₁ s₁', t ≠ .idle ∧ S.tick p s = (.done (t, p.count t), s₁) ∧
      S.tick p' s' = (.done (t, p'.count t), s₁') ∧ Advanced L R m m' s₁ s₁' := by
  obtain rfl := hS.shown
  have next : (S.backend.get s).next.1 = some e := Headless.next_of_pending line
  have next' : (S.backend.get s').next.1 = some e := Headless.next_of_pending line'
  have taken := hS.afterNext akin orderly line line'
  obtain ⟨posted, queue, queue'⟩ := taken.events
  have amid : Amid S.display R (S.afterNext s) (S.afterNext s') :=
    ⟨taken.toAkin, taken.orderly, queue ▸ List.append_ne_nil_of_left_ne_nil more _,
      queue' ▸ List.append_ne_nil_of_left_ne_nil more' _⟩
  obtain ⟨r, s₁, done⟩ := hS.handling_ends ends next
  obtain ⟨outcome, after, posted', sent, came, came'⟩ :=
    (hS.handling_heedless heedless work).attempt.parallel _ _ amid
  rw [done] at outcome after came
  have done' : (S.handling e).attempt (S.afterNext s') =
      (.done r, ((S.handling e).attempt (S.afterNext s')).2) := Prod.ext outcome rfl
  obtain ⟨t, tick, display, left, -⟩ := hS.tick_of next done p
  obtain ⟨t', tick', display', -, right⟩ := hS.tick_of next' done' p'
  refine ⟨_, t, t', handling_busy work done, tick, tick', ?_⟩
  refine .ticked ⟨after.toAkin, after.orderly, ⟨posted ++ posted', ?_, ?_⟩, ?_⟩ display display'
    left right
  · rw [came.queue, queue, List.append_assoc]
  · rw [came'.queue, queue', List.append_assoc]
  · rw [came.inbox, came'.inbox, taken.inbox]

/-- **The destruction of the root** is the last round of both loops. -/
theorem tick_last (hS : S.Blind L R) (akin : Akin L R s s') (orderly : (L.get s).Orderly)
    (line : (L.get s).backend.pending = .destroy root :: m)
    (line' : (L.get s').backend.pending = .destroy root :: m') (p p' : Pump) :
    ∃ s₁ s₁', S.tick p s = (.done (.dispatched, p.count .dispatched), s₁) ∧
      S.tick p' s' = (.done (.dispatched, p'.count .dispatched), s₁') ∧
      Advanced L R m m' s₁ s₁' ∧ root ∉ (L.get s₁).backend.windows := by
  obtain rfl := hS.shown
  have taken := hS.afterNext akin orderly line line'
  have shown (s : σ) : S.display.get (S.backend.modify (·.destroyWindow root) s) =
      (S.display.get s).after .nothing (.destroyWindow root) := hS.lawful.get_set _ _
  have done (s : σ) : (S.handling (.destroy root)).attempt s =
      (.done (.ok (.ok true)), S.backend.modify (·.destroyWindow root) s) := rfl
  have advanced : Advanced S.display R m m'
      (S.backend.modify (·.destroyWindow root) (S.afterNext s))
      (S.backend.modify (·.destroyWindow root) (S.afterNext s')) := by
    refine ⟨⟨?_, hS.set_around _ _ taken.around⟩, ?_, ?_, ?_⟩
    · obtain ⟨queue, inbox, same⟩ := taken.display
      refine ⟨queue, inbox, ?_⟩
      rw [shown, shown, same]
      rfl
    · rw [shown]
      exact taken.orderly.after (.destroyWindow root)
    · rw [shown, shown]
      exact taken.events
    · rw [shown, shown]
      exact taken.inbox
  obtain ⟨t, tick, display, left, -⟩ := hS.tick_of (Headless.next_of_pending line) (done _) p
  obtain ⟨t', tick', display', -, right⟩ :=
    hS.tick_of (Headless.next_of_pending line') (done _) p'
  refine ⟨t, t', tick, tick', advanced.ticked display display' left right, ?_⟩
  rw [display, shown]
  show root ∉ (S.display.get (S.afterNext s)).backend.windows.filter (· ≠ root)
  simp

/-- **A wake is a round of the first loop alone.** It is idle, and the wait after it ends at once,
because events are in the queue. -/
theorem round_wake (hS : S.Blind L R) (h : InStep L R root (.wake :: l) s s') (p : Pump) :
    ∃ s₁, S.Serves root [.wake] p s (p.count .idle) s₁ ∧ InStep L R root l s₁ s' := by
  obtain rfl := hS.shown
  obtain ⟨x, x', line, line', same⟩ := h.waits
  have next : (S.backend.get s).next.1 = some .wake := Headless.next_of_pending line
  obtain ⟨s₁, tick, display, left, -⟩ := hS.tick_of next (r := .ok (.ok false)) rfl p
  rw [hS.get_afterNext_of line] at display
  have slept : (S.backend.get s₁).sleep = S.backend.get s₁ := by
    refine Call.Heedless.sleep_of_queued ?_
    show (S.display.get s₁).backend.queue ≠ []
    rw [display]
    exact List.append_ne_nil_of_right_ne_nil _ (List.cons_ne_nil _ _)
  have wait : S.sleep s₁ = (.done (), s₁) := by
    unfold Setting.sleep
    rw [Act.bind_apply, hS.still .sleep s₁ (.inr rfl)]
    refine Prod.ext rfl ?_
    show S.backend.set (S.backend.get s₁).sleep s₁ = s₁
    rw [slept]
    exact (hS.lawful.comp Display.lawful_backendPart).set_get s₁
  refine ⟨s₁, .single next (.waited (isLive_iff.mpr h.live) tick wait),
    ⟨⟨?_, ?_⟩, ?_, ?_, x, x', ?_, line', same⟩⟩
  · obtain ⟨queue, inbox, same⟩ := h.display
    refine ⟨queue, inbox, ?_⟩
    rw [display, same]
    rfl
  · have around : R (S.afterNext s) = R s := hS.left.display _ s
    rw [left, around]
    exact h.around
  · rw [display]
    exact h.orderly.withEvents _ _
  · rw [display]
    exact h.live
  · rw [display]
    exact List.append_nil _

/-- **A task or a destruction is a round of both loops.** When it takes the root away, both are at
their end. -/
theorem round_work (hS : S.Blind L R) (heedless : ∀ t, Heedless L R (S.run t))
    (h : InStep L R root (e :: l) s s') (work : e.isWork) (ends : S.Ends s) (p p' : Pump) :
    ∃ t s₁ s₁', t ≠ .idle ∧ S.Serves root [e] p s (p.count t) s₁ ∧
      S.Serves root [e] p' s' (p'.count t) s₁' ∧
      (InStep L R root l s₁ s₁' ∨ Finished L R root s₁ s₁') := by
  obtain rfl := hS.shown
  obtain ⟨x, x', line, line', same⟩ := h.waits
  rw [List.cons_append] at line
  rw [List.filter_cons_of_pos work, List.cons_append] at line'
  obtain ⟨t, s₁, s₁', busy, tick, tick', advanced⟩ :=
    hS.tick_work heedless h.toAkin h.orderly line line' work (by simp) (by simp) ends p p'
  refine ⟨t, s₁, s₁', busy, .single (Headless.next_of_pending line) ?_,
    .single (Headless.next_of_pending line') ?_, ?_⟩
  · exact .went (isLive_iff.mpr h.live) tick busy
  · exact .went (isLive_iff.mpr (h.windows ▸ h.live)) tick' busy
  · by_cases live : root ∈ (S.display.get s₁).backend.windows
    · exact .inl (advanced.inStep same live)
    · refine .inr (advanced.finished ?_ live)
      simp only [List.filter_append, List.filter_filter, Bool.and_self, List.filter_cons, same]

/-- The destruction of the root is the last round of both, if they come so far. -/
theorem round_last (hS : S.Blind L R) (h : InStep L R root [] s s') (p p' : Pump) :
    ∃ s₁ s₁', S.Serves root [.destroy root] p s (p.count .dispatched) s₁ ∧
      S.Serves root [.destroy root] p' s' (p'.count .dispatched) s₁' ∧
      Finished L R root s₁ s₁' := by
  obtain rfl := hS.shown
  obtain ⟨x, x', line, line', same⟩ := h.waits
  obtain ⟨s₁, s₁', tick, tick', advanced, gone⟩ :=
    hS.tick_last h.toAkin h.orderly line line' p p'
  refine ⟨s₁, s₁', .single (Headless.next_of_pending line) ?_,
    .single (Headless.next_of_pending line') ?_, advanced.finished same gone⟩
  · exact .went (isLive_iff.mpr h.live) tick nofun
  · exact .went (isLive_iff.mpr (h.windows ▸ h.live)) tick' nofun

/-- **The two loops side by side**: the first takes events up to one with which its root is gone,
and the second takes the same ones without the wakes. The induction is on what stands before the
destruction of the root. -/
theorem serves (hS : S.Blind L R) (heedless : ∀ t, Heedless L R (S.run t))
    (h : InStep L R root l s s') (fewer : p.Fewer n p')
    (ends : ∀ k p₁ s₁, S.Rounds root k p s p₁ s₁ →
      (S.backend.get s₁).isDestroyed root = false → S.Ends s₁) :
    ∃ es e q t q' t', es ++ [e] <+: l ++ [.destroy root] ∧ e.isWork ∧
      S.Serves root (es ++ [e]) p s q t ∧
      S.Serves root ((es ++ [e]).filter Event.isWork) p' s' q' t' ∧
      Finished L R root t t' ∧ q.Fewer (n + es.countP (!·.isWork)) q' ∧
      q'.stats.idle = p'.stats.idle := by
  obtain rfl := hS.shown
  induction l generalizing s s' p p' n with
  | nil =>
    obtain ⟨s₁, s₁', serves, serves', finished⟩ := hS.round_last h p p'
    obtain ⟨fewer, idle⟩ := fewer.count (t := .dispatched) nofun
    exact ⟨[], .destroy root, _, s₁, _, s₁', List.prefix_rfl, rfl, serves, serves', finished,
      fewer, idle⟩
  | cons e l ih =>
    cases work : e.isWork with
    | false =>
      obtain rfl : e = .wake := by cases e <;> first | rfl | cases work
      obtain ⟨s₁, first, h⟩ := hS.round_wake h p
      obtain ⟨es, e, q, t, q', t', front, work', serves, serves', finished, fewer, idle⟩ :=
        ih fewer.idled (fun k p₂ s₂ rounds => ends _ p₂ s₂ (first.rounds.append rounds)) h
      refine ⟨.wake :: es, e, q, t, q', t', List.cons_prefix_cons.mpr ⟨rfl, front⟩, work',
        first.append serves, serves', finished, ?_, idle⟩
      rw [List.countP_cons_of_pos rfl]
      rw [show n + (es.countP (!·.isWork) + 1) = n + 1 + es.countP (!·.isWork) by omega]
      exact fewer
    | true =>
      obtain ⟨t, s₁, s₁', busy, first, first', h | finished⟩ :=
        hS.round_work heedless h work (ends 0 p s (.rest p s) (isLive_iff.mpr h.live)) p p'
      all_goals obtain ⟨fewer, still⟩ := fewer.count busy
      · obtain ⟨es, last, q, u, q', u', front, work', serves, serves', finished, fewer, idle⟩ :=
          ih fewer (fun k p₂ s₂ rounds => ends _ p₂ s₂ (first.rounds.append rounds)) h
        refine ⟨e :: es, last, q, u, q', u', List.cons_prefix_cons.mpr ⟨rfl, front⟩, work',
          first.append serves, ?_, finished, ?_, idle.trans still⟩
        · rw [List.cons_append, List.filter_cons_of_pos work]
          exact first'.append serves'
        · rw [List.countP_cons_of_neg (by simp [work])]
          exact fewer
      · -- the handler destroyed the root itself, or `e` was an earlier destruction of it
        refine ⟨[], e, _, s₁, _, s₁', ⟨l ++ [.destroy root], rfl⟩, work, first, ?_, finished,
          fewer, still⟩
        rw [List.nil_append, List.filter_cons_of_pos work]
        exact first'

end Setting.Blind

/-- States are akin that differ in the log only. -/
theorem Akin.noted (hS : S.Blind L R) (h : Akin L R s s') (note note' : Notice) :
    Akin L R (S.note note s).2 (S.note note' s').2 := by
  obtain rfl := hS.shown
  have shown := hS.get_note
  refine ⟨?_, ?_⟩
  · rw [shown, shown]
    exact h.display
  · have left : R (S.note note s).2 = R s := hS.left.note note s
    rw [left]
    exact (congrFun (hS.right.note note' s') s).mpr h.around

/-- **Wakes are transparent.** A nested loop whose root's destruction waits is compared with one
that starts without the wakes, in the queue and in the inbox. The handlers end, and they may do
anything but take events or look at those that wait; what they do around the display may depend on
anything that `R` relates.

The first loop takes the events up to the first one with which its root is gone, and the second
takes the same ones but for the wakes. Both return. They leave the same display, and the same around
it; the same events wait, but for wakes. As many ticks dispatched and as many failed. None of the
second loop was idle, and of the first one as many as it took wakes. -/
theorem wakes_transparent (σ : Type) (S : Setting σ τ) (L : Lens σ (Display τ))
    (R : σ → σ → Prop) (hS : S.Blind L R) (heedless : ∀ t, Heedless L R (S.run t)) (s s' : σ)
    (orderly : (L.get s).Orderly)
    (without : L.get s' = (L.get s).withEvents ((L.get s).backend.queue.filter Event.isWork)
      ((L.get s).backend.inbox.filter Event.isWork))
    (around : R s s') (root : Window) (live : root ∈ (L.get s).backend.windows)
    (waits : .destroy root ∈ (L.get s).backend.pending) (pump : Pump)
    (ends : ∀ n p' s₁, S.Rounds root n { pump with state := .running }
      (S.note (.loopRunning root) s).2 p' s₁ →
        (S.backend.get s₁).isDestroyed root = false → S.Ends s₁) :
    ∃ es e q t q' t', es ++ [e] <+: (L.get s).backend.pending ∧ e.isWork ∧
      S.Nested root (es ++ [e]) pump s q t ∧
      S.Nested root ((es ++ [e]).filter Event.isWork) pump s' q' t' ∧
      (∀ bound, es.length + 1 ≤ bound →
        S.runNested bound root pump s = (.done (.ok (), q), t) ∧
        S.runNested bound root pump s' = (.done (.ok (), q'), t')) ∧
      Finished L R root t t' ∧
      q'.stats.dispatched = q.stats.dispatched ∧ q'.stats.failures = q.stats.failures ∧
      q'.stats.idle = pump.stats.idle ∧
      q.stats.idle = pump.stats.idle + es.countP (!·.isWork) := by
  obtain rfl := hS.shown
  have shown := hS.get_note
  obtain ⟨l, x, line⟩ := List.append_of_mem waits
  have inStep : InStep S.display R root l (S.note (.loopRunning root) s).2
      (S.note (.loopRunning root) s').2 := by
    refine ⟨Akin.noted hS ⟨⟨_, _, without⟩, around⟩ _ _, ?_, ?_, x, x.filter Event.isWork,
      ?_, ?_, ?_⟩
    · rw [shown]
      exact orderly
    · rw [shown]
      exact live
    · rw [shown]
      exact line
    · rw [shown, without]
      show (S.display.get s).backend.queue.filter Event.isWork ++
        (S.display.get s).backend.inbox.filter Event.isWork = _
      rw [← List.filter_append, show _ ++ _ = _ from line, List.filter_append]
      rfl
    · simp
  obtain ⟨es, e, q, t, q', t', first, work, serves, serves', finished, fewer, idle⟩ :=
    hS.serves heedless inStep (n := 0) ⟨rfl, rfl, rfl⟩ ends
  have nested : S.Nested root (es ++ [e]) pump s { q with state := .stopped } _ :=
    ⟨q, t, serves, (Setting.isDestroyed_iff root t).mpr finished.gone, rfl, rfl⟩
  have nested' : S.Nested root ((es ++ [e]).filter Event.isWork) pump s'
      { q' with state := .stopped } _ :=
    ⟨q', t', serves', (Setting.isDestroyed_iff root t').mpr (finished.windows ▸ finished.gone),
      rfl, rfl⟩
  refine ⟨es, e, _, _, _, _, ?_, work, nested, nested', fun bound enough => ⟨?_, ?_⟩,
    ⟨finished.toAkin.noted hS _ _, ?_, ?_, ?_⟩, fewer.dispatched, fewer.failures, idle, ?_⟩
  · refine first.trans ⟨x, ?_⟩
    rw [line, List.append_assoc]
    rfl
  · exact hS.runNested_of nested (by simpa using enough)
  · refine hS.runNested_of nested' (Nat.le_trans (List.length_filter_le _ _) ?_)
    simpa using enough
  · rw [shown]
    exact finished.gone
  · rw [shown, shown]
    exact finished.queue
  · rw [shown, shown]
    exact finished.inbox
  · have idle' := fewer.idle
    rw [idle, Nat.zero_add] at idle'
    exact idle'

/-! ## Handlers that keep a diary -/

/-- Tasks of a display with a diary beside it, in which each of them enters itself. One gives up,
one puts in and sends more events, and the others destroy a window themselves. -/
def diligent (x : Nat) : Act (Display Nat × List Nat) (Except PlatformError Unit) := do
  Act.change fun s => (s.1, s.2 ++ [x])
  match x with
  | 0 => Act.fault (.raised (some "bad event"))
  | 1 => do
    let _ ← Setting.calm.beside.call (.post (.task 0))
    let _ ← Setting.calm.beside.call (.send .wake)
    return .ok ()
  | _ => do
    let _ ← Setting.calm.beside.call (.destroyWindow ⟨0x1000⟩)
    return .ok ()

/-- A display with a diary, and tasks that may write into it. -/
def Setting.kept (run : Nat → Act (Display Nat × List Nat) (Except PlatformError Unit)) :
    Setting (Display Nat × List Nat) Nat :=
  { (Setting.calm : Setting (Display Nat) Nat).beside with run := run }

/-- The same is in both diaries. -/
def SameDiary (s s' : Display Nat × List Nat) : Prop := s'.2 = s.2

theorem Setting.kept_blind (run : Nat → Act (Display Nat × List Nat) (Except PlatformError Unit)) :
    (Setting.kept run).Blind Lens.first SameDiary := by
  have quiet : (Setting.calm : Setting (Display Nat) Nat).Quiet := Setting.plain_quiet _ _
  have diary (f : List Nat → Display Nat × List Nat → Prop) :
      (Setting.kept run).sealed.Keeps fun s => f s.2 := {
    display := fun _ _ => rfl
    note := fun _ _ => rfl
    before := fun point _ => by cases point <;> rfl
    report := fun _ => rfl
    openSource := fun _ _ => rfl }
  exact {
    lawful := quiet.beside.lawful
    note := quiet.beside.note
    before := quiet.beside.before
    report := quiet.beside.report
    openSource := quiet.beside.openSource
    shown := rfl
    left := diary fun l s' => s'.2 = l
    right := diary fun l s => l = s.2
    opens := fun _ _ _ same => ⟨rfl, same⟩
    still := fun _ _ _ => rfl }

theorem diligent_heedless (x : Nat) : Heedless Lens.first SameDiary (diligent x) := by
  have silent {α : Type} (a : α) : Heedless Lens.first SameDiary (pure a) :=
    .aside (.pure a) fun _ _ h => ⟨rfl, h.around⟩
  have call {c : Call Nat} (hc : c.Heedless) :
      Heedless Lens.first SameDiary (Setting.calm.beside.call c) :=
    .call (Setting.kept_blind fun _ => pure (.ok ())) hc
  refine .bind (.aside (fun _ => rfl) fun _ _ h => ⟨rfl, congrArg (· ++ [x]) h.around⟩) fun _ => ?_
  match x with
  | 0 => exact .aside (fun _ => rfl) fun _ _ h => ⟨rfl, h.around⟩
  | 1 =>
    have post : (Call.post (.task 0) : Call Nat).Heedless := trivial
    have send : (Call.send .wake : Call Nat).Heedless := trivial
    exact (call post).bind fun _ => (call send).bind fun _ => silent _
  | _ + 2 =>
    have destroy : (Call.destroyWindow ⟨0x1000⟩ : Call Nat).Heedless := trivial
    exact (call destroy).bind fun _ => silent _

theorem diligent_ends (x : Nat) (s : Display Nat × List Nat) : (diligent x s).1 ≠ .stalled := by
  match x with
  | 0 | 1 | _ + 2 => exact nofun

/-- A display with two windows, where tasks and the destructions of both wait among wakes; three of
the events are in the queue. -/
def drowsy : List (Call Nat) :=
  [.createWindow, .createWindow, .send .wake, .send (.task 1), .send .wake, .pendingEvents,
    .send (.task 0), .send .wake, .send (.destroy ⟨0x1010⟩), .send .wake, .send (.task 2),
    .send .wake, .send (.destroy ⟨0x1000⟩)]

/-- The third task destroys the root before the destruction that waits, and that is left, with what
the first task put in. -/
theorem wakes_transparent_diligent :
    let d := left .nothing (.new 0 (.new .standard)) drowsy
    let d' := d.withEvents (d.backend.queue.filter Event.isWork)
      (d.backend.inbox.filter Event.isWork)
    ∃ q t q' t',
      (Setting.kept diligent).runNested 10 ⟨0x1000⟩ .new (d, []) = (.done (.ok (), q), t) ∧
      (Setting.kept diligent).runNested 10 ⟨0x1000⟩ .new (d', []) = (.done (.ok (), q'), t') ∧
      q.stats = ⟨3, 4, 1⟩ ∧ q'.stats = ⟨3, 0, 1⟩ ∧ t.2 = [1, 0, 2] ∧ t'.2 = t.2 ∧
      t.1.backend.queue = [.wake, .destroy ⟨0x1000⟩, .task 0, .wake] ∧
      t'.1.backend.queue.filter Event.isWork = [.destroy ⟨0x1000⟩, .task 0] := by
  intro d d'
  have history : History (fun _ => True) .standard
      (moments .nothing (.new 0 (.new .standard)) drowsy) d :=
    ⟨0, .moments _ _ fun _ _ => trivial⟩
  obtain ⟨es, e, q, t, q', t', first, -, -, -, both, finished, dispatched, failures, idle, -⟩ :=
    wakes_transparent _ (Setting.kept diligent) Lens.first SameDiary (Setting.kept_blind diligent)
      diligent_heedless (d, []) (d', []) history.orderly rfl rfl ⟨0x1000⟩
      (by decide) (by decide) .new fun _ _ _ _ _ _ x _ _ => diligent_ends x _
  have short : (es ++ [e]).length ≤ 10 := Nat.le_trans first.length_le (by decide +kernel)
  rw [List.length_append] at short
  obtain ⟨run, run'⟩ := both 10 short
  -- the second loop need not be run: it is known from the first
  have ran : let r := (Setting.kept diligent).runNested 10 ⟨0x1000⟩ .new (d, [])
      r.1 = .done (.ok (), ⟨.stopped, ⟨3, 4, 1⟩⟩) ∧ r.2.2 = [1, 0, 2] ∧
        r.2.1.backend.queue = [.wake, .destroy ⟨0x1000⟩, .task 0, .wake] := by decide +kernel
  rw [run] at ran
  obtain ⟨outcome, diary, queue⟩ := ran
  cases outcome
  obtain ⟨state, ⟨_, _, _⟩⟩ := q'
  cases dispatched
  cases failures
  cases idle
  refine ⟨_, t, _, t', run, run', rfl, rfl, diary, finished.around, queue, ?_⟩
  refine finished.queue.trans ?_
  rw [show (Lens.first.get t).backend.queue = _ from queue]
  rfl

end DisplayEnv
