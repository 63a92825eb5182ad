import DisplayEnv.Proofs.Display.Rounds
import DisplayEnv.Proofs.Events.Lockstep
import DisplayEnv.Proofs.Events.Rounded

/-!
# A failing handler costs only its own event

A handler may end well, with an error or by giving up, and the loop goes on with the next event. So
two loops whose tasks are alike, which is to say that they do the same and then end in some way, run
in lockstep: what one of them does the other one does too, in the same order, and only the
statistics tell how many of the handlers failed.

* `Indifferent.dispatchNext`: one event, where the endings may differ.
* `Indifferent.loop`: the loop, by induction on its bound.
* `failure_costs_own_event`: both loops of a pump, from any two states that differ in the endings of
  their tasks.
-/

namespace DisplayEnv

variable {σ τ : Type} {like : τ → τ → Prop}

/-! ## Pumps -/

/-- Two pumps that have counted the same ticks, but for which of the handlers failed. -/
structure Pump.Alike (p p' : Pump) : Prop where
  state : p'.state = p.state
  idle : p'.stats.idle = p.stats.idle
  busy : p'.stats.dispatched + p'.stats.failures = p.stats.dispatched + p.stats.failures

namespace Pump.Alike

variable {p p' : Pump}

theorem refl (p : Pump) : p.Alike p := ⟨rfl, rfl, rfl⟩

/-- Alike pumps have counted as many ticks. -/
theorem ticks (h : p.Alike p') : p'.stats.ticks = p.stats.ticks := by
  have idle := h.idle
  have busy := h.busy
  unfold PumpStats.ticks
  omega

theorem with_state (h : p.Alike p') (state : PumpState) :
    Pump.Alike { p with state := state } { p' with state := state } := ⟨rfl, h.idle, h.busy⟩

theorem count (h : p.Alike p') {t t' : Tick} (same : t = .idle ↔ t' = .idle) :
    (p.count t).Alike (p'.count t') := by
  have idle := h.idle
  have busy := h.busy
  cases t <;> cases t' <;> simp at same <;>
    (refine ⟨h.state, ?_, ?_⟩ <;> simp only [Pump.count] <;> omega)

end Pump.Alike

namespace Setting

variable {S : Setting σ τ} {R : σ → σ → Prop} {s s' : σ} {p p' : Pump} {root : Window}

/-! ## Notes -/

/-- The action tells the log something, or does nothing at all. -/
structure Hushed (S : Setting σ τ) (R : σ → σ → Prop) (x : Act σ Unit) : Prop where
  done : ∀ s, (x s).1 = .done ()
  display : ∀ s, S.display.get (x s).2 = S.display.get s
  left : ∀ s, R (x s).2 = R s
  right : ∀ s s', R s (x s').2 = R s s'

theorem Hushed.lockstep {x y : Act σ Unit} (hx : S.Hushed R x) (hy : S.Hushed R y) :
    Lockstep S.display like R (Outcome.Rel Eq) x y := by
  refine .of_get (fun s s' _ => ?_) hx.display hy.display fun s s' h => ?_
  · rw [hx.done, hy.done]
    exact .done rfl
  · rw [hx.left, hy.right]
    exact h

namespace Indifferent

theorem hushed_note (hS : S.Indifferent like R) (n : Notice) : S.Hushed R (S.note n) where
  done s := congrArg Prod.fst (hS.note n s)
  display s := congrArg Prod.snd (hS.note n s)
  left s := hS.left.note n s
  right s s' := congrFun (hS.right.note n s') s

/-- The log of one run may be told what that of the other is not. -/
theorem tell (hS : S.Indifferent like R) (n n' : Option Notice) :
    Lockstep S.display like R (Outcome.Rel Eq)
      (match n with
        | some n => S.note n
        | none => pure ())
      (match n' with
        | some n => S.note n
        | none => pure ()) := by
  have silent : S.Hushed R (pure ()) :=
    ⟨fun _ => rfl, fun _ => rfl, fun _ => rfl, fun _ _ => rfl⟩
  have told (n : Option Notice) : S.Hushed R (match n with
      | some n => S.note n
      | none => pure ()) := by
    cases n with
    | none => exact silent
    | some n => exact hS.hushed_note n
  exact (told n).lockstep (told n')

end Indifferent

/-! ## One event -/

/-- The events that the next dispatch takes. -/
theorem next_alike (h : Twins S.display like R s s') :
    Option.Rel (Event.Alike like) (S.backend.get s).next.1 (S.backend.get s').next.1 :=
  h.display.backend.next.1

/-- What an attempt to dispatch a task comes to: it ends when the handler does, and is not idle. -/
theorem attempt_task {t : τ} (h : (S.backend.get s).next.1 = some (.task t)) :
    (S.dispatchNext.attempt s).2 = (S.run t (S.afterNext s)).2 ∧
      (((S.run t (S.afterNext s)).1 = .stalled ∧ (S.dispatchNext.attempt s).1 = .stalled) ∨
        ((S.run t (S.afterNext s)).1 ≠ .stalled ∧
          ∃ r, (S.dispatchNext.attempt s).1 = .done r ∧ tickOf r ≠ .idle)) := by
  rw [Act.attempt_apply, dispatchNext_apply h, Act.bind_apply]
  cases S.run t (S.afterNext s) with
  | mk o s₁ =>
    match o with
    | .stalled => exact ⟨rfl, .inl ⟨rfl, rfl⟩⟩
    | .fault c => exact ⟨rfl, .inr ⟨nofun, _, rfl, nofun⟩⟩
    | .done (.ok ()) => exact ⟨rfl, .inr ⟨nofun, _, rfl, nofun⟩⟩
    | .done (.error e) => exact ⟨rfl, .inr ⟨nofun, _, rfl, nofun⟩⟩

/-- An attempt to dispatch is one to do what comes before it, and one to dispatch. -/
theorem attempt_readAndDispatch (S : Setting σ τ) :
    S.readAndDispatch.attempt = ((S.before .dispatch).attempt >>= fun
      | .ok (.ok ()) => S.dispatchNext.attempt
      | .ok (.error e) => pure (.ok (.error e))
      | .error c => pure (.error c)) := by
  funext s
  rw [Act.attempt_apply, Setting.readAndDispatch, Act.bind_apply, Act.bind_apply,
    Act.attempt_apply]
  cases S.before .dispatch s with
  | mk o s₁ =>
    cases o with
    | fault _ | stalled => rfl
    | done r => cases r <;> rfl

/-- Two attempts to dispatch that are both idle, or neither is. -/
abbrev Synced := Outcome.Rel fun r r' : Except Fault (Except PlatformError Bool) =>
  tickOf r = .idle ↔ tickOf r' = .idle

namespace Indifferent

/-- Taking the next event, in lockstep. -/
theorem take (hS : S.Indifferent like R) (h : Twins S.display like R s s') :
    Twins S.display like R (S.call (.dispatch .stalled) s).2 (S.call (.dispatch .stalled) s').2 ∧
      Abreast S.display like s s' (S.call (.dispatch .stalled) s).2
        (S.call (.dispatch .stalled) s').2 := hS.call_twins trivial nofun h

/-- Two tasks that are taken: both dispatches stall or are busy, however the handlers end. -/
theorem dispatch_task (hS : S.Indifferent like R) (h : Twins S.display like R s s') {t t' : τ}
    (first : (S.backend.get s).next.1 = some (.task t))
    (second : (S.backend.get s').next.1 = some (.task t')) (alike : like t t') :
    Synced (S.dispatchNext.attempt s).1 (S.dispatchNext.attempt s').1 ∧
      Twins S.display like R (S.dispatchNext.attempt s).2 (S.dispatchNext.attempt s').2 ∧
      Abreast S.display like s s' (S.dispatchNext.attempt s).2 (S.dispatchNext.attempt s').2 := by
  obtain ⟨twins, abreast⟩ := hS.take h
  rw [call_dispatch_task first, call_dispatch_task second] at twins abreast
  obtain ⟨ended, after, further⟩ := hS.run t t' alike _ _ twins
  obtain ⟨left, outcome⟩ := attempt_task first
  obtain ⟨right, outcome'⟩ := attempt_task second
  rw [left, right]
  refine ⟨?_, after, abreast.trans further⟩
  -- a handler that does not end stalls the dispatch, any other one makes it busy
  obtain ⟨stalls, stalled⟩ | ⟨ends, r, done, busy⟩ := outcome
  · obtain ⟨-, stalled'⟩ | ⟨ends', -⟩ := outcome'
    · rw [stalled, stalled']
      exact .stalled
    · exact absurd (ended.mp stalls) ends'
  · obtain ⟨stalls', -⟩ | ⟨-, r', done', busy'⟩ := outcome'
    · exact absurd (ended.mpr stalls') ends
    · rw [done, done']
      exact .done ⟨fun h => absurd h busy, fun h => absurd h busy'⟩

/-- No task is taken: both dispatches end, and are idle if nothing waited. -/
theorem dispatch_other (hS : S.Indifferent like R) (h : Twins S.display like R s s')
    (other : ∀ t, (S.backend.get s).next.1 ≠ some (.task t))
    (other' : ∀ t, (S.backend.get s').next.1 ≠ some (.task t)) :
    Synced (S.dispatchNext.attempt s).1 (S.dispatchNext.attempt s').1 ∧
      Twins S.display like R (S.dispatchNext.attempt s).2 (S.dispatchNext.attempt s').2 ∧
      Abreast S.display like s s' (S.dispatchNext.attempt s).2 (S.dispatchNext.attempt s').2 := by
  have event := next_alike h
  have after := hS.take h
  rw [call_dispatch other, call_dispatch other'] at after
  refine ⟨?_, after⟩
  obtain ⟨r, s₁, run, -, idle⟩ := hS.toQuiet.dispatchNext_other other
  obtain ⟨r', s₁', run', -, idle'⟩ := hS.toQuiet.dispatchNext_other other'
  rw [run, run']
  refine .done (idle.trans (Iff.trans ?_ idle'.symm))
  generalize (S.backend.get s).next.1 = e at event
  generalize (S.backend.get s').next.1 = e' at event
  cases event with
  | none => simp
  | some alike => cases alike <;> simp

/-- **One event in lockstep**: both dispatches are idle or neither is, however the handlers end. -/
theorem dispatchNext (hS : S.Indifferent like R) :
    Lockstep S.display like R Synced S.dispatchNext.attempt S.dispatchNext.attempt := by
  intro s s' h
  have event := next_alike h
  generalize first : (S.backend.get s).next.1 = e at event
  generalize second : (S.backend.get s').next.1 = e' at event
  cases event with
  | none => exact hS.dispatch_other h (by simp [first]) (by simp [second])
  | some alike =>
    cases alike with
    | task alike => exact hS.dispatch_task h first second alike
    | destroy w => exact hS.dispatch_other h (by simp [first]) (by simp [second])
    | wake => exact hS.dispatch_other h (by simp [first]) (by simp [second])

/-! ## The loop -/

theorem readAndDispatch (hS : S.Indifferent like R) :
    Lockstep S.display like R Synced S.readAndDispatch.attempt S.readAndDispatch.attempt := by
  rw [attempt_readAndDispatch]
  refine (hS.preceding .dispatch (.inl rfl)).attempt.bind fun r r' same => ?_
  obtain rfl := same
  cases r with
  | error c => exact .pure Iff.rfl
  | ok r =>
    cases r with
    | error e => exact .pure Iff.rfl
    | ok _ => exact hS.dispatchNext

theorem tick (hS : S.Indifferent like R) (hp : p.Alike p') :
    Lockstep S.display like R
      (Outcome.Rel fun a b => (a.1 = Tick.idle ↔ b.1 = Tick.idle) ∧ a.2.Alike b.2)
      (S.tick p) (S.tick p') := by
  rw [tick_eq, tick_eq]
  refine hS.readAndDispatch.bind fun r r' idle => ?_
  refine (hS.tell (tickNotice? (tickOf r)) (tickNotice? (tickOf r'))).bind fun _ _ _ => ?_
  exact .pure ⟨idle, hp.count idle⟩

theorem sleep (hS : S.Indifferent like R) :
    Lockstep S.display like R (Outcome.Rel Eq) S.sleep S.sleep := by
  refine (hS.preceding .sleep (.inr rfl)).bind fun r r' same => ?_
  obtain rfl := same
  match r with
  | .error e => exact .fault _
  | .ok () => exact fun s s' h => ⟨.done rfl, hS.call_twins (c := .sleep) rfl nofun h⟩

/-- The answers of two loops: they ended in the same way, with alike pumps. -/
abbrev Returned := Outcome.Rel fun a b : Except Fault Unit × Pump => a.1 = b.1 ∧ a.2.Alike b.2

theorem loop (hS : S.Indifferent like R) (root : Window) (n : Nat) (hp : p.Alike p') :
    Lockstep S.display like R Returned (S.loop root n p) (S.loop root n p') := by
  induction n generalizing p p' with
  | zero => exact .stall
  | succ n ih =>
    have gone : Lockstep S.display like R (Outcome.Rel Eq) (S.backend.view (·.isDestroyed root))
        (S.backend.view (·.isDestroyed root)) := by
      refine .of_get (fun s s' h => ?_) (fun _ => rfl) (fun _ => rfl) fun _ _ h => h
      exact .done (h.display.backend.isDestroyed root).symm
    refine gone.bind fun gone gone' same => ?_
    obtain rfl := same
    split
    · exact .pure ⟨rfl, hp⟩
    · refine (hS.tick hp).bind fun a b ⟨idle, hp⟩ => ?_
      obtain ⟨t, p⟩ := a
      obtain ⟨t', p'⟩ := b
      by_cases still : t = .idle
      · simp only [if_pos still, if_pos (idle.mp still)]
        refine hS.sleep.attempt.bind fun r r' same => ?_
        obtain rfl := same
        cases r with
        | ok _ => exact ih hp
        | error c => exact .pure ⟨rfl, hp⟩
      · simp only [if_neg still, if_neg fun h => still (idle.mpr h)]
        exact ih hp

theorem runNested (hS : S.Indifferent like R) (bound : Nat) (root : Window) (hp : p.Alike p') :
    Lockstep S.display like R Returned (S.runNested bound root p) (S.runNested bound root p') := by
  refine (hS.tell (some (.loopRunning root)) (some _)).bind fun _ _ _ => ?_
  refine (hS.loop root _ (hp.with_state .running)).bind fun a b ⟨same, hp⟩ => ?_
  obtain ⟨ended, p⟩ := a
  obtain ⟨ended', p'⟩ := b
  obtain rfl := same
  cases ended with
  | error c => exact .pure ⟨rfl, hp⟩
  | ok _ =>
    exact (hS.tell (some (.loopStopped root p.stats)) (some (.loopStopped root p'.stats))).bind
      fun _ _ _ => .pure ⟨rfl, hp.with_state .stopped⟩

theorem teardown (hS : S.Indifferent like R) :
    Lockstep S.display like R (Outcome.Rel Eq) S.teardown S.teardown := by
  intro s s' h
  obtain ⟨outcome, after⟩ := hS.call (c := .teardown) nofun nofun s s' h
  rw [Setting.call, Act.bind_pure_apply, Act.bind_pure_apply] at outcome after
  refine ⟨?_, after⟩
  generalize (S.teardown s).1 = o at outcome
  generalize (S.teardown s').1 = o' at outcome
  cases o <;> cases o' <;> cases outcome
  case done.done same =>
    cases same
    exact .done rfl
  case fault.fault => exact .fault _
  case stalled.stalled => exact .stalled

theorem runMain (hS : S.Indifferent like R) (bound : Nat) (root : Window) (hp : p.Alike p') :
    Lockstep S.display like R Returned (S.runMain bound root p) (S.runMain bound root p') := by
  refine (hS.runNested bound root hp).bind fun a b ⟨same, hp⟩ => ?_
  obtain ⟨ended, p⟩ := a
  obtain ⟨ended', p'⟩ := b
  obtain rfl := same
  refine hS.teardown.attempt.bind fun r r' same => ?_
  obtain rfl := same
  cases r with
  | ok _ => exact .pure ⟨rfl, hp⟩
  | error c => exact .pure ⟨rfl, hp⟩

end Indifferent

end Setting

variable {S : Setting σ τ} {R : σ → σ → Prop} {s s' : σ} {p p' : Pump}

/-- **A failing handler costs only its own event.** Take any two states whose displays are the same,
but that in place of the waiting tasks of one there are alike tasks in the other: tasks that do the
same from such states, and may end well, with an error or by giving up. Then both loops of a pump,
the nested and the main one, come to the same end in both: one returns if the other does, with the
same fault if there is one, after as many ticks, of which as many were idle. On the way alike calls
are made one after the other, so alike events were taken in the same order, those of the loops
inside handlers too. And both leave displays that are the same but for waiting tasks that are alike,
with the same things around them. -/
theorem failure_costs_own_event (hS : S.Indifferent like R) (twins : Twins S.display like R s s')
    (pumps : p.Alike p') (bound : Nat) (root : Window) :
    ∀ loop : Setting σ τ → Nat → Window → Pump → Act σ (Except Fault Unit × Pump),
      loop = Setting.runNested ∨ loop = Setting.runMain →
      let after := loop S bound root p s
      let after' := loop S bound root p' s'
      ((∃ q, after.1 = .done (.ok (), q)) ↔ ∃ q', after'.1 = .done (.ok (), q')) ∧
        Outcome.Rel (fun a b => a.1 = b.1 ∧ a.2.Alike b.2 ∧ b.2.stats.ticks = a.2.stats.ticks)
          after.1 after'.1 ∧
        (∃ t t', Path (fun _ => True) (S.display.get s) t (S.display.get after.2) ∧
          Path (fun _ => True) (S.display.get s') t' (S.display.get after'.2) ∧
          List.Forall₂ (Moment.Alike like) t t' ∧
          List.Forall₂ (Event.Alike like) (taken t) (taken t')) ∧
        (S.display.get after.2).Alike like (S.display.get after'.2) ∧ R after.2 after'.2 := by
  intro loop which
  have lockstep : Lockstep S.display like R Setting.Indifferent.Returned (loop S bound root p)
      (loop S bound root p') := by
    obtain rfl | rfl := which
    · exact hS.runNested bound root pumps
    · exact hS.runMain bound root pumps
  obtain ⟨outcome, left, t, t', path, path', alike⟩ := lockstep s s' twins
  refine ⟨?_, ?_, ⟨t, t', path, path', alike, taken_alike alike⟩, left.display, left.around⟩
  · generalize (loop S bound root p s).1 = o at outcome
    generalize (loop S bound root p' s').1 = o' at outcome
    cases outcome with
    | fault c => exact ⟨nofun, nofun⟩
    | stalled => exact ⟨nofun, nofun⟩
    | @done a b related =>
      obtain ⟨ended, q⟩ := a
      obtain ⟨ended', q'⟩ := b
      obtain rfl : ended = ended' := related.1
      cases ended with
      | error c => exact ⟨nofun, nofun⟩
      | ok _ => exact ⟨fun _ => ⟨q', rfl⟩, fun _ => ⟨q, rfl⟩⟩
  · generalize (loop S bound root p s).1 = o at outcome ⊢
    generalize (loop S bound root p' s').1 = o' at outcome ⊢
    cases outcome with
    | fault c => exact .fault c
    | stalled => exact .stalled
    | done related => exact .done ⟨related.1, related.2, related.2.ticks⟩

/-! ## Two rounds of chores -/

/-- A task that looks a color up and then ends in this way. -/
structure Chore where
  color : Color
  ending : Outcome (Except PlatformError Unit)

/-- The same color, and endings of which both come or neither does. -/
def Chore.Alike (t t' : Chore) : Prop := t.color = t'.color ∧ t.ending.Ended t'.ending

/-- The end of a chore. -/
def Chore.finish (t : Chore) : Act (Display Chore) (Except PlatformError Unit) := fun d =>
  (t.ending, d)

/-- A display on its own whose tasks are chores. -/
def Setting.chores : Setting (Display Chore) Chore := .plain .empty fun t => do
  let _ ← Setting.calm.call (.resolveColor t.color)
  t.finish

/-- The same, but that a black chore runs a loop of chores until the first window is gone. -/
def Setting.nestedChores : Setting (Display Chore) Chore := .plain .empty fun t =>
  if t.color = .black then do
    let _ ← Setting.chores.runNested 9 ⟨0x1000⟩ .new
    t.finish
  else Setting.chores.run t

/-- A display on its own is indifferent when its tasks run in lockstep. -/
theorem Setting.plain_indifferent {files : Files}
    {run : τ → Act (Display τ) (Except PlatformError Unit)}
    (h : ∀ t t', like t t' → Lockstep .whole like (fun _ _ => True)
      Outcome.Ended (run t) (run t')) :
    (Setting.plain files run).Indifferent like fun _ _ => True where
  toQuiet := Setting.plain_quiet files run
  left := ⟨fun _ _ => rfl, fun _ _ => rfl, fun _ _ => rfl, fun _ => rfl, fun _ _ => rfl⟩
  right := ⟨fun _ _ => rfl, fun _ _ => rfl, fun _ _ => rfl, fun _ => rfl, fun _ _ => rfl⟩
  preceding _ _ := .pure rfl
  run := h

theorem Chore.finish_lockstep {t t' : Chore} (h : t.Alike t') :
    Lockstep .whole Chore.Alike (fun _ _ => True) Outcome.Ended t.finish t'.finish :=
  .of_get (fun _ _ _ => h.2) (fun _ => rfl) (fun _ => rfl) fun _ _ _ => trivial

theorem Setting.chores_indifferent :
    Setting.chores.Indifferent Chore.Alike fun _ _ => True := by
  refine plain_indifferent fun t t' h => ?_
  have calm : (Setting.calm : Setting (Display Chore) Chore).Indifferent Chore.Alike
      fun _ _ => True := plain_indifferent fun _ _ _ => .of_get (fun _ _ _ => Iff.rfl)
        (fun _ => rfl) (fun _ => rfl) fun _ _ _ => trivial
  obtain ⟨color, ending⟩ := t
  obtain rfl : color = t'.color := h.1
  exact (calm.call (c := .resolveColor t'.color) nofun nofun).bind_of (fun _ => ⟨nofun, nofun⟩)
    Iff.rfl fun _ _ _ => Chore.finish_lockstep h

theorem Setting.nestedChores_indifferent :
    Setting.nestedChores.Indifferent Chore.Alike fun _ _ => True := by
  refine plain_indifferent fun t t' h => ?_
  by_cases black : t.color = .black
  · simp only [if_pos black, if_pos (h.1 ▸ black)]
    exact (Setting.chores_indifferent.runNested 9 ⟨0x1000⟩ (.refl _)).bind_of
      (fun _ => ⟨nofun, nofun⟩) Iff.rfl fun _ _ _ => Chore.finish_lockstep h
  · simp only [if_neg black, if_neg (h.1 ▸ black)]
    exact Setting.chores_indifferent.run t t' h

/-- A display with two windows and these four chores before and between their ends. -/
def busy (endings : Fin 4 → Outcome (Except PlatformError Unit)) : Display Chore :=
  left .nothing (.new 0 (.new .standard)) [.createWindow, .createWindow,
    .post (.task ⟨.black, endings 0⟩), .post (.task ⟨.white, endings 1⟩),
    .post (.destroy ⟨0x1000⟩), .send (.task ⟨.rgb 1 2 3, endings 2⟩), .send (.destroy ⟨0x1010⟩),
    .send (.task ⟨.white, endings 3⟩)]

theorem busy_twins (endings endings' : Fin 4 → Outcome (Except PlatformError Unit))
    (h : ∀ i, (endings i).Ended (endings' i)) :
    Twins .whole Chore.Alike (fun _ _ => True) (busy endings) (busy endings') where
  display := by
    refine ⟨rfl, rfl, ?_, ?_⟩
    · exact .cons (.task ⟨rfl, h 0⟩) (.cons (.task ⟨rfl, h 1⟩) (.cons (.destroy _) .nil))
    · exact .cons (.task ⟨rfl, h 2⟩) (.cons (.destroy _) (.cons (.task ⟨rfl, h 3⟩) .nil))
  orderly := by
    have path : Path (fun _ => True) (.new 0 (.new .standard)) _ (busy endings) :=
      .moments _ _ fun _ _ => trivial
    exact path.orderly (Display.new_orderly 0 _)
  around := trivial

/-- Handlers that end well, and handlers of which the first fails, the second gives up in the loop
inside the first, and the third gives up: three ticks each time, and the same colors given back. -/
theorem failure_costs_own_event_nested :
    let well := Setting.nestedChores.runMain 9 ⟨0x1010⟩ .new (busy fun _ => .done (.ok ()))
    let ill := Setting.nestedChores.runMain 9 ⟨0x1010⟩ .new (busy fun i =>
      if i = 0 then .done (.error (.dispatch "bad event"))
      else .fault (.raised (some "handler exploded")))
    well.1 = .done (.ok (), ⟨.stopped, ⟨3, 0, 0⟩⟩) ∧ ill.1 = .done (.ok (), ⟨.stopped, ⟨1, 0, 2⟩⟩) ∧
      well.2.backend.journal = [.color 2, .color 1, .connection] ∧
      well.2.Alike Chore.Alike ill.2 := by
  have kept := failure_costs_own_event Setting.nestedChores_indifferent
    (busy_twins (fun _ => .done (.ok ())) (fun i =>
      if i = 0 then .done (.error (.dispatch "bad event"))
      else .fault (.raised (some "handler exploded"))) fun i => by split <;> simp [Outcome.Ended])
    (.refl .new) 9 ⟨0x1010⟩ Setting.runMain (.inr rfl)
  exact ⟨rfl, rfl, rfl, kept.2.2.2.1⟩

end DisplayEnv
