import DisplayEnv.Proofs.Display.Rounds
import DisplayEnv.Proofs.Events.Awaited

/-!
# What a round does to the events

A round of a loop takes one event. Before it does, other threads may have sent some more; after it
come the calls of the handler that the event starts, or what other threads send while the loop would
wait. Nothing else happens in a setting in which only other threads come before a dispatch and a
wait (`Setting.Heard`).

* `Heard.rounded`: what a round does to the display, as a path of calls (`Rounded`).
* `Heard.round_exists`: a round comes to its end when the handler does that it starts.
* `Rounded.doomed`, `Rounded.standing`, `Rounded.last`: what becomes of the root's destruction and
  of the events around it.
-/

namespace DisplayEnv

variable {σ τ : Type} {S : Setting σ τ} {s s' s'' : σ} {p p' : Pump} {root : Window}
  {allowed : Call τ → Prop} {d d' : Display τ} {t : List (Moment τ)} {n q : Nat}
  {l r new : List (Event τ)} {e : Event τ}

namespace Setting

/-- A quiet setting whose handlers act by calls, where nothing comes before a dispatch or a wait but
what other threads send. -/
structure Heard (S : Setting σ τ) : Prop extends S.Quiet where
  run : ∀ x, Act.ByCalls (fun _ => True) S.display (S.run x)
  answers : ∀ p s, p = .dispatch ∨ p = .sleep → (S.before p s).1 = .done (.ok ())
  sends : ∀ p, p = .dispatch ∨ p = .sleep → Act.ByCalls Call.IsSend S.display (S.before p)

/-- When the next dispatch starts a handler, that handler ends. -/
def Ends (S : Setting σ τ) (s : σ) : Prop :=
  ∀ s₀ x, S.before .dispatch s = (.done (.ok ()), s₀) →
    (S.backend.get s₀).next.1 = some (.task x) → (S.run x (S.afterNext s₀)).1 ≠ .stalled

/-- The next round has to wait for an event: its tick finds nothing and leaves an empty queue. -/
def Waits (S : Setting σ τ) (p : Pump) (s : σ) : Prop :=
  ∃ p' s', S.tick p s = (.done (.idle, p'), s') ∧ (S.backend.get s').queue = []

end Setting

/-- What a round does to a display: other threads send, an event is taken, and then there are the
calls of its handler, or another thread sends during the wait. -/
inductive Rounded (allowed : Call τ → Prop) (d : Display τ) : List (Moment τ) → Display τ → Prop
  | handled {sent t : List (Moment τ)} {d₀ d' : Display τ} {x : τ} (opening : Opening)
      (ending : Outcome (Except PlatformError Unit)) (before : Path Call.IsSend d sent d₀)
      (event : d₀.backend.next.1 = some (.task x)) (handler : Path allowed d₀.dispatched t d') :
      Rounded allowed d (sent ++ .of opening (.dispatch ending) d₀ :: t) d'
  | destroyed {sent : List (Moment τ)} {d₀ : Display τ} {w : Window} (opening : Opening)
      (ending : Outcome (Except PlatformError Unit)) (before : Path Call.IsSend d sent d₀)
      (event : d₀.backend.next.1 = some (.destroy w)) :
      Rounded allowed d (sent ++ [.of opening (.dispatch ending) d₀]) d₀.dispatched
  | waited {sent t : List (Moment τ)} {d₀ d₁ : Display τ} (opening : Opening)
      (ending : Outcome (Except PlatformError Unit)) (before : Path Call.IsSend d sent d₀)
      (event : d₀.backend.next.1 = none ∨ d₀.backend.next.1 = some .wake)
      (later : Path Call.IsSend d₀.dispatched t d₁) :
      Rounded allowed d
        (sent ++ .of opening (.dispatch ending) d₀ :: (t ++ [.of opening .sleep d₁]))
        { d₁ with backend := d₁.backend.sleep }

/-! ## A dispatch -/

namespace Setting

/-- The display without the event that was taken. -/
theorem Quiet.get_afterNext (hS : S.Quiet) (s : σ) :
    S.display.get (S.afterNext s) =
      { S.display.get s with backend := (S.backend.get s).next.2 } := hS.lawful.get_set _ _

/-- A dispatch that finds no task takes the event; it is idle when there was nothing to do. -/
theorem Quiet.dispatchNext_other (hS : S.Quiet)
    (h : ∀ x, (S.backend.get s).next.1 ≠ some (.task x)) :
    ∃ r s', S.dispatchNext.attempt s = (.done r, s') ∧
      S.display.get s' = (S.display.get s).dispatched ∧
      (tickOf r = .idle ↔
        (S.backend.get s).next.1 = none ∨ (S.backend.get s).next.1 = some .wake) := by
  have taken := hS.get_afterNext s
  have backend : (S.display.get s).backend.next.1 = (S.backend.get s).next.1 := rfl
  unfold Setting.dispatchNext Display.dispatched
  rw [Act.attempt_apply, Act.bind_apply]
  simp only [Lens.alter, Act.alter_apply, backend]
  cases he : (S.backend.get s).next.1 with
  | none => exact ⟨_, S.afterNext s, rfl, taken, by simp [tickOf]⟩
  | some e =>
    cases e with
    | task x => exact absurd he (h x)
    | wake => exact ⟨_, S.afterNext s, rfl, taken, by simp [tickOf]⟩
    | destroy w =>
      refine ⟨_, S.backend.modify (·.destroyWindow w) (S.afterNext s), rfl, ?_, by simp [tickOf]⟩
      show S.display.get (S.display.set _ (S.afterNext s)) = _
      rw [hS.lawful.get_set]
      show { S.display.get (S.afterNext s) with
        backend := (S.display.get (S.afterNext s)).backend.destroyWindow w } = _
      rw [taken]
      rfl

/-- A dispatch that starts a handler is not idle, however the handler ends. -/
theorem busy_of_task {x : τ} {r : Except Fault (Except PlatformError Bool)}
    (h : (S.backend.get s).next.1 = some (.task x))
    (run : S.dispatchNext.attempt s = (.done r, s')) :
    tickOf r ≠ .idle ∧ s' = (S.run x (S.afterNext s)).2 := by
  rw [Act.attempt_apply, dispatchNext_apply h, Act.bind_apply] at run
  cases hr : S.run x (S.afterNext s) with
  | mk o s₁ =>
    rw [hr] at run
    cases o with
    | done a => cases a <;> cases run <;> exact ⟨nofun, rfl⟩
    | fault c =>
      cases run
      exact ⟨nofun, rfl⟩
    | stalled => cases run

theorem dispatch_after (opening : Opening) (ending : Outcome (Except PlatformError Unit))
    (d : Display τ) : (Moment.of opening (.dispatch ending) d).after = d.dispatched := by
  show ((Setting.alone opening).call (.dispatch ending) d).2 = _
  rw [call, Act.bind_pure_snd]
  exact alone_dispatchNext ending d

/-- Without a task, a dispatch is the call that takes the event. -/
theorem call_dispatch (h : ∀ t, (S.backend.get s).next.1 ≠ some (.task t))
    (ending : Outcome (Except PlatformError Unit)) :
    (S.call (.dispatch ending) s).2 = (S.dispatchNext.attempt s).2 := by
  rw [call, Act.bind_pure_snd, dispatchNext_endingWith h, Act.attempt_apply]
  cases S.dispatchNext s with
  | mk o s₁ => cases o <;> rfl

/-- The call that takes a task leaves the state that its handler starts in. -/
theorem call_dispatch_task {t : τ} (h : (S.backend.get s).next.1 = some (.task t))
    (ending : Outcome (Except PlatformError Unit)) :
    (S.call (.dispatch ending) s).2 = S.afterNext s := by
  rw [call, Act.bind_pure_snd, dispatchNext_task (S := S.endingWith ending) h]
  rfl

/-- What comes before a dispatch or a wait answers, and sends. -/
theorem Heard.before_apply (hS : S.Heard) {point : Point} (hp : point = .dispatch ∨ point = .sleep)
    (s : σ) : ∃ s' t, S.before point s = (.done (.ok ()), s') ∧
      Path Call.IsSend (S.display.get s) t (S.display.get s') := by
  obtain ⟨t, path⟩ := hS.sends point hp s
  exact ⟨(S.before point s).2, t, Prod.ext (hS.answers point s hp) rfl, path⟩

/-- A wait: other threads may send first, and it takes an event when the queue is empty. -/
theorem Heard.sleep_apply (hS : S.Heard) (s : σ) :
    ∃ s' t d, S.sleep s = (.done (), s') ∧ Path Call.IsSend (S.display.get s) t d ∧
      S.display.get s' = { d with backend := d.backend.sleep } := by
  obtain ⟨s₀, t, before, path⟩ := hS.before_apply (.inr rfl) s
  refine ⟨S.backend.modify (·.sleep) s₀, t, S.display.get s₀, ?_, path, hS.lawful.get_set _ _⟩
  unfold Setting.sleep
  rw [Act.bind_apply, before]
  rfl

theorem readAndDispatch_of (before : S.before .dispatch s = (.done (.ok ()), s')) :
    S.readAndDispatch.attempt s = S.dispatchNext.attempt s' := by
  rw [Act.attempt_apply, Act.attempt_apply, readAndDispatch, Act.bind_apply, before]

/-- A tick is what other threads send, and then a dispatch. -/
theorem Heard.tick_inv (hS : S.Heard) {t : Tick} (tick : S.tick p s = (.done (t, p'), s')) :
    ∃ s₀ sent r s₁, S.before .dispatch s = (.done (.ok ()), s₀) ∧
      Path Call.IsSend (S.display.get s) sent (S.display.get s₀) ∧
      S.dispatchNext.attempt s₀ = (.done r, s₁) ∧ t = tickOf r ∧
      S.display.get s' = S.display.get s₁ := by
  obtain ⟨s₀, sent, before, path⟩ := hS.before_apply (.inl rfl) s
  obtain ⟨r, s₁, read, ht, -, same⟩ := hS.toQuiet.tick_inv tick
  rw [readAndDispatch_of before] at read
  exact ⟨s₀, sent, r, s₁, before, path, read, ht, same⟩

/-- An idle tick found a wake, or nothing. -/
theorem Heard.tick_idle (hS : S.Heard) (tick : S.tick p s = (.done (.idle, p'), s')) :
    ∃ sent d₀, Path Call.IsSend (S.display.get s) sent d₀ ∧
      (d₀.backend.next.1 = none ∨ d₀.backend.next.1 = some .wake) ∧
      S.display.get s' = d₀.dispatched := by
  obtain ⟨s₀, sent, r, s₁, -, path, read, idle, same⟩ := hS.tick_inv tick
  by_cases task : ∃ x, (S.backend.get s₀).next.1 = some (.task x)
  · obtain ⟨x, event⟩ := task
    exact absurd idle.symm (busy_of_task event read).1
  · obtain ⟨r', s₂, dispatch, after, nothing⟩ :=
      hS.toQuiet.dispatchNext_other fun x h => task ⟨x, h⟩
    rw [read] at dispatch
    cases dispatch
    exact ⟨sent, S.display.get s₀, path, nothing.mp idle.symm, same.trans after⟩

/-- A tick that is not idle ran a handler, or destroyed a window. -/
theorem Heard.tick_busy (hS : S.Heard) {t : Tick} (tick : S.tick p s = (.done (t, p'), s'))
    (busy : t ≠ .idle)
    (run : ∀ s₀ x, S.before .dispatch s = (.done (.ok ()), s₀) →
      (S.backend.get s₀).next.1 = some (.task x) → Act.ByCalls allowed S.display (S.run x)) :
    ∃ sent d₀, Path Call.IsSend (S.display.get s) sent d₀ ∧
      ((∃ x t, d₀.backend.next.1 = some (.task x) ∧
          Path allowed d₀.dispatched t (S.display.get s')) ∨
        ∃ w, d₀.backend.next.1 = some (.destroy w) ∧ S.display.get s' = d₀.dispatched) := by
  obtain ⟨s₀, sent, r, s₁, before, path, read, ht, same⟩ := hS.tick_inv tick
  refine ⟨sent, S.display.get s₀, path, ?_⟩
  by_cases task : ∃ x, (S.backend.get s₀).next.1 = some (.task x)
  · obtain ⟨x, event⟩ := task
    obtain ⟨-, rfl⟩ := busy_of_task event read
    obtain ⟨t, handler⟩ := run s₀ x before event (S.afterNext s₀)
    rw [← same, hS.toQuiet.get_afterNext] at handler
    refine .inl ⟨x, t, event, ?_⟩
    unfold Display.dispatched
    rw [show (S.display.get s₀).backend.next.1 = some (.task x) from event]
    exact handler
  · obtain ⟨r', s₂, dispatch, after, nothing⟩ :=
      hS.toQuiet.dispatchNext_other fun x h => task ⟨x, h⟩
    rw [read] at dispatch
    cases dispatch
    rw [ht] at busy
    cases event : (S.backend.get s₀).next.1 with
    | none => exact absurd (nothing.mpr (.inl event)) busy
    | some e =>
      cases e with
      | task x => exact absurd ⟨x, event⟩ task
      | wake => exact absurd (nothing.mpr (.inr event)) busy
      | destroy w => exact .inr ⟨w, event, same.trans after⟩

/-! ## A round -/

/-- **What a round does to the display.** -/
theorem Heard.rounded (hS : S.Heard) (round : S.Round root p s p' s')
    (run : ∀ s₀ x, S.before .dispatch s = (.done (.ok ()), s₀) →
      (S.backend.get s₀).next.1 = some (.task x) → Act.ByCalls allowed S.display (S.run x)) :
    ∃ t, Rounded allowed (S.display.get s) t (S.display.get s') := by
  have any : Opening := .nothing
  cases round with
  | went _ tick busy =>
    obtain ⟨sent, d₀, path, ⟨x, t, event, handler⟩ | ⟨w, event, after⟩⟩ :=
      hS.tick_busy tick busy run
    · exact ⟨_, .handled any .stalled path event handler⟩
    · rw [after]
      exact ⟨_, .destroyed any .stalled path event⟩
  | waited _ tick wait =>
    obtain ⟨sent, d₀, path, event, after⟩ := hS.tick_idle tick
    obtain ⟨s₂, t, d₁, slept, later, after'⟩ := hS.sleep_apply _
    rw [wait] at slept
    cases slept
    rw [after] at later
    rw [after']
    exact ⟨_, .waited any .stalled path event later⟩

/-- **A round comes to its end** when the handler does that it starts. -/
theorem Heard.round_exists (hS : S.Heard) (ends : S.Ends s) (p : Pump)
    (live : (S.backend.get s).isDestroyed root = false) : ∃ p' s', S.Round root p s p' s' := by
  obtain ⟨s₀, sent, before, -⟩ := hS.before_apply (.inl rfl) s
  have quiet := hS.toQuiet
  obtain ⟨r, s₁, read⟩ : ∃ r s₁, S.dispatchNext.attempt s₀ = (.done r, s₁) := by
    by_cases task : ∃ x, (S.backend.get s₀).next.1 = some (.task x)
    · obtain ⟨x, event⟩ := task
      have ended := ends s₀ x before event
      rw [Act.attempt_apply, dispatchNext_apply event, Act.bind_apply]
      cases hr : S.run x (S.afterNext s₀) with
      | mk o s₁ =>
        rw [hr] at ended
        cases o with
        | done a => cases a <;> exact ⟨_, _, rfl⟩
        | fault c => exact ⟨_, _, rfl⟩
        | stalled => exact absurd rfl ended
    · obtain ⟨r, s₁, dispatch, -, -⟩ := quiet.dispatchNext_other fun x h => task ⟨x, h⟩
      exact ⟨r, s₁, dispatch⟩
  rw [← readAndDispatch_of before] at read
  obtain ⟨s₂, tick, -⟩ := quiet.tick_of read p
  by_cases idle : tickOf r = .idle
  · rw [idle] at tick
    obtain ⟨s₃, -, -, wait, -, -⟩ := hS.sleep_apply s₂
    exact ⟨_, s₃, .waited live tick wait⟩
  · exact ⟨_, s₂, .went live tick idle⟩

end Setting

/-! ## What a round comes to -/

theorem Call.IsSend.spares {c : Call τ} (h : c.IsSend) : c.Spares root := by
  cases c with
  | send e => trivial
  | _ => exact h.elim

/-- A round is a path of calls. -/
theorem Rounded.path (h : Rounded allowed d t d') : Path (fun _ => True) d t d' := by
  have dispatch (opening : Opening) (ending : Outcome (Except PlatformError Unit)) (d : Display τ) :
      Path (fun _ => True) d [.of opening (.dispatch ending) d] d.dispatched := by
    rw [← Setting.dispatch_after opening ending]
    exact .single trivial opening d
  cases h with
  | handled opening ending before event handler =>
    exact (before.mono fun _ _ => trivial).append
      ((dispatch opening ending _).append (handler.mono fun _ _ => trivial))
  | destroyed opening ending before event =>
    exact (before.mono fun _ _ => trivial).append (dispatch opening ending _)
  | waited opening ending before event later =>
    exact (before.mono fun _ _ => trivial).append ((dispatch opening ending _).append
      ((later.mono fun _ _ => trivial).append (.single trivial opening _)))

theorem Display.Orderly.dispatched (hd : d.Orderly) : d.dispatched.Orderly := by
  have after : (d.after .nothing (.dispatch .stalled)).Orderly := hd.after _
  exact after

/-- **A round brings the root's destruction forward.** -/
theorem Rounded.doomed (h : Rounded allowed d t d') (orderly : d.Orderly)
    (doomed : Headless.Doomed Headless.pending root (q + 1) d.backend) :
    Headless.Doomed Headless.pending root q d'.backend := by
  have taken {sent : List (Moment τ)} {d₀ : Display τ} (before : Path Call.IsSend d sent d₀) :
      d₀.dispatched.Orderly ∧ Headless.Doomed Headless.queue root q d₀.dispatched.backend := by
    refine ⟨(before.orderly orderly).dispatched, Headless.Doomed.dispatched ?_⟩
    rw [before.reached orderly]
    exact doomed.reached _
  cases h with
  | handled opening ending before event handler =>
    obtain ⟨orderly₀, doomed₀⟩ := taken before
    exact (doomed₀.path orderly₀ handler).pending
  | destroyed opening ending before event => exact (taken before).2.pending
  | @waited _ _ _ d₁ opening ending before event later =>
    obtain ⟨orderly₀, doomed₀⟩ := taken before
    have slept : Headless.Doomed Headless.queue root q (d₁.after opening .sleep).backend :=
      (doomed₀.path orderly₀ later).after .sleep
    exact slept.pending

/-- Without dispatches nothing is taken. -/
theorem Path.taken_eq_nil (h : Path allowed d t d')
    (other : ∀ c, allowed c → ∀ ending, c ≠ .dispatch ending) : taken t = [] := by
  induction h with
  | rest => rfl
  | @call _ t c _ hc opening ih =>
    rw [taken_concat, ih]
    cases c with
    | dispatch ending => exact absurd rfl (other _ hc ending)
    | _ => rfl

theorem Path.taken_sends (h : Path Call.IsSend d t d') : taken t = [] := by
  refine h.taken_eq_nil ?_
  rintro _ hc ending rfl
  exact hc

theorem Path.taken_spares (h : Path (Call.Spares root) d t d') : taken t = [] := by
  refine h.taken_eq_nil ?_
  rintro _ hc ending rfl
  exact hc

theorem taken_append (t t' : List (Moment τ)) : taken (t ++ t') = taken t ++ taken t' :=
  List.filterMap_append

theorem taken_dispatch (opening : Opening) (ending : Outcome (Except PlatformError Unit))
    (d : Display τ) (t : List (Moment τ)) :
    taken (.of opening (.dispatch ending) d :: t) = d.backend.next.1.toList ++ taken t := by
  have one : (Moment.of opening (.dispatch ending) d).taken? = d.backend.next.1 := rfl
  unfold taken
  rw [List.filterMap_cons, one]
  cases d.backend.next.1 <;> rfl

theorem entered_dispatch (opening : Opening) (ending : Outcome (Except PlatformError Unit))
    (d : Display τ) (t : List (Moment τ)) :
    entered (.of opening (.dispatch ending) d :: t) = entered t := rfl

/-- The display and what came by then, when an event is about to be taken. -/
theorem Headless.Standing.path (h : Headless.Standing root l r new d.backend) (orderly : d.Orderly)
    (before : Path Call.IsSend d t d') :
    Headless.Standing root l r (new ++ entered t) d'.backend := by
  rw [before.reached orderly]
  exact h.reached _

/-- **A round takes the first event before the root's destruction**, when its handler spares the
root. What comes meanwhile goes behind all that. -/
theorem Rounded.standing (h : Rounded (Call.Spares root) d t d') (orderly : d.Orderly)
    (standing : Headless.Standing root (e :: l) r new d.backend) (other : e ≠ .destroy root) :
    taken t = [e] ∧ ∃ new', Headless.Standing root l r new' d'.backend ∧
      new'.Perm (new ++ entered t) := by
  have sends : ∀ c : Call τ, c.IsSend → c.Spares root := fun _ h => h.spares
  cases h with
  | @handled sent t d₀ _ x opening ending before event handler =>
    have standing₀ := standing.path orderly before
    have orderly₀ := (before.orderly orderly).dispatched
    obtain ⟨new', queued, perm⟩ := (standing₀.dispatched other).path orderly₀ (fun _ h => h) handler
    refine ⟨?_, new', queued.standing, ?_⟩
    · rw [taken_append, taken_dispatch, before.taken_sends,
        handler.taken_spares, Headless.next_of_pending standing₀.line]
      rfl
    · rw [entered_append, entered_dispatch, ← List.append_assoc]
      exact perm
  | @destroyed sent d₀ w opening ending before event =>
    have standing₀ := standing.path orderly before
    refine ⟨?_, _, (standing₀.dispatched other).standing, ?_⟩
    · rw [taken_append, taken_dispatch, before.taken_sends,
        Headless.next_of_pending standing₀.line]
      rfl
    · rw [entered_append, entered_dispatch]
      simp [entered]
  | @waited sent t d₀ d₁ opening ending before event later =>
    have standing₀ := standing.path orderly before
    have orderly₀ := (before.orderly orderly).dispatched
    obtain ⟨new₁, queued₁, perm₁⟩ := (standing₀.dispatched other).path orderly₀ sends later
    obtain ⟨new', queued, perm⟩ : ∃ new', Headless.Queued root l r new'
        (d₁.after opening .sleep).backend ∧ new'.Perm (new₁ ++ []) :=
      queued₁.after (c := .sleep) trivial opening
    refine ⟨?_, new', queued.standing, ?_⟩
    · rw [taken_append, taken_dispatch, taken_concat, before.taken_sends,
        later.taken_sends, Headless.next_of_pending standing₀.line]
      rfl
    · rw [List.append_nil] at perm
      rw [entered_append, entered_dispatch, entered_append, ← List.append_assoc]
      refine perm.trans (perm₁.trans ?_)
      simp [entered, Moment.of, Call.entering?]

/-- The round that takes the root's destruction leaves what stood behind it. -/
theorem Rounded.last (h : Rounded allowed d t d') (orderly : d.Orderly)
    (standing : Headless.Standing root [] r new d.backend) :
    taken t = [.destroy root] ∧ root ∉ d'.backend.windows ∧
      d'.backend.pending = r ++ (new ++ entered t) := by
  have sends : ∀ c : Call τ, c.IsSend → c.Spares root := fun _ h => h.spares
  have next {sent : List (Moment τ)} {d₀ : Display τ} (before : Path Call.IsSend d sent d₀) :
      d₀.backend.next.1 = some (.destroy root) :=
    Headless.next_of_pending (standing.path orderly before).line
  cases h with
  | handled opening ending before event handler =>
    rw [next before] at event
    cases event
  | @destroyed sent d₀ w opening ending before event =>
    obtain ⟨gone, pending⟩ := (standing.path orderly before).last
    refine ⟨?_, gone, ?_⟩
    · rw [taken_append, taken_dispatch, before.taken_sends, next before]
      rfl
    · rw [pending, entered_append, entered_dispatch]
      simp [entered]
  | waited opening ending before event later =>
    rw [next before] at event
    rcases event with event | event <;> cases event

end DisplayEnv
