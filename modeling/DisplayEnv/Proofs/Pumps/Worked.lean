import DisplayEnv.Proofs.Display.Frame
import DisplayEnv.Proofs.Events.Rounded

/-!
# What a program does with its pumps

A program keeps its pumps at numbered places, beside a display. While a pump is at work its place is
empty and the running code has the pump in hand; the handlers that run meanwhile can make pumps and
use those that are at their places, and so on inwards. `Worked` is what such a program does, one
step after the other, with a log of its calls. A tick is the dispatch that it makes of the display,
and behind that is what its handler did.

* `Setting.Pooled`: the pumps are beside the display, and its code leaves them alone.
* `Worked`: a run from a state to a state, with what the running code has in hand.
* `Pooled.tick_other`, `Pooled.tick_task`: what a tick comes to, by the event that it took.
* `Worked.path`, `Worked.answers`: the log is a path of the display, and every tick in it answers what
  became of its event.
-/

namespace DisplayEnv

variable {σ τ : Type}

/-- The pumps of a program. The place of a pump that is at work is empty. -/
abbrev Pumps := List (Option Pump)

/-- The pump that the running code has taken from its place, and the number of that. -/
abbrev Hand := Option (Nat × Pump)

/-- A call of a program. A dispatch is the tick of a pump, which answered this. -/
structure Happening (τ : Type) where
  moment : Moment τ
  tick? : Option (Nat × Tick)

/-- The dispatch of a tick, when a handler that it starts ends in this way. -/
def Moment.dispatch (ending : Outcome (Except PlatformError Unit)) (d : Display τ) : Moment τ :=
  .of .nothing (.dispatch ending) d

/-- A quiet setting of a display whose program keeps its pumps beside it. Nothing that surrounds the
display uses them, but for what comes before a dispatch or a wait. -/
structure Setting.Pooled (S : Setting σ τ) (L : Lens σ (Display τ)) (pumps : Lens σ Pumps) : Prop
    extends S.Quiet where
  shown : S.display = L
  keeps : S.unheard.Keeps pumps.get

/-- The pumps are changed without the display. -/
structure Lens.Beside (pumps : Lens σ Pumps) (L : Lens σ (Display τ)) : Prop where
  lawful : pumps.Lawful
  apart : ∀ l s, L.get (pumps.set l s) = L.get s

/-- What a program does with a display and its pumps, from a state and a hand to a state and a
hand. -/
inductive Worked (L : Lens σ (Display τ)) (pumps : Lens σ Pumps) :
    σ → Hand → List (Happening τ) → σ → Hand → Prop
  | next {s s' s'' : σ} {hand hand' hand'' : Hand} {log log' : List (Happening τ)}
      (first : Worked L pumps s hand log s' hand')
      (second : Worked L pumps s' hand' log' s'' hand'') :
      Worked L pumps s hand (log ++ log') s'' hand''
  /-- Something that has nothing to do with the display or the pumps. -/
  | aside {s s' : σ} (display : L.get s' = L.get s) (pool : pumps.get s' = pumps.get s) :
      Worked L pumps s none [] s' none
  /-- A call that takes no event. -/
  | call {S : Setting σ τ} (hS : S.Pooled L pumps) {c : Call τ}
      (other : ∀ ending, c ≠ .dispatch ending) (s : σ) :
      Worked L pumps s none [⟨⟨L.get s, c, (S.call c s).1, L.get (S.call c s).2⟩, none⟩]
        (S.call c s).2 none
  /-- A new pump. -/
  | made (s : σ) : Worked L pumps s none [] (pumps.modify (· ++ [some .new]) s) none
  /-- A pump is taken from its place. -/
  | taken {s : σ} {i : Nat} {p : Pump} (there : (pumps.get s)[i]? = some (some p)) :
      Worked L pumps s none [] (pumps.modify (·.set i none) s) (some (i, p))
  /-- It is put back. -/
  | back (i : Nat) (p : Pump) (s : σ) :
      Worked L pumps s (some (i, p)) [] (pumps.modify (·.set i (some p)) s) none
  /-- The pump in hand starts or stops. -/
  | turned (i : Nat) (p : Pump) (state : PumpState) (s : σ) :
      Worked L pumps s (some (i, p)) [] s (some (i, { p with state := state }))
  /-- Something that is done with a pump in hand, but not with that one. -/
  | under {s s' : σ} {log : List (Happening τ)} (hand : Hand)
      (inner : Worked L pumps s none log s' none) : Worked L pumps s hand log s' hand
  /-- A tick that takes no task. -/
  | tick {S : Setting σ τ} (hS : S.Pooled L pumps) {s s₁ s' : σ} {log : List (Happening τ)}
      {i : Nat} {p p' : Pump} {r : Tick} (ending : Outcome (Except PlatformError Unit))
      (preceding : Worked L pumps s none log s₁ none)
      (before : S.before .dispatch s = (.done (.ok ()), s₁))
      (event : ∀ t, (L.get s₁).backend.next.1 ≠ some (.task t))
      (tick : S.tick p s = (.done (r, p'), s')) :
      Worked L pumps s (some (i, p)) (log ++ [⟨.dispatch ending (L.get s₁), some (i, r)⟩]) s'
        (some (i, p'))
  /-- A tick that takes a task and runs its handler. -/
  | serve {S : Setting σ τ} (hS : S.Pooled L pumps) {s s₁ s₂ s' : σ}
      {log log' : List (Happening τ)} {i : Nat} {p p' : Pump} {r : Tick} {t : τ}
      {ending : Outcome (Except PlatformError Unit)}
      (preceding : Worked L pumps s none log s₁ none)
      (before : S.before .dispatch s = (.done (.ok ()), s₁))
      (event : (L.get s₁).backend.next.1 = some (.task t))
      (run : S.run t (S.afterNext s₁) = (ending, s₂))
      (handler : Worked L pumps (S.afterNext s₁) none log' s₂ none)
      (tick : S.tick p s = (.done (r, p'), s')) :
      Worked L pumps s (some (i, p))
        (log ++ ⟨.dispatch ending (L.get s₁), some (i, r)⟩ :: log') s' (some (i, p'))

/-- What a tick answers, by the event that it took and how its handler ended. -/
structure Moment.Comes (m : Moment τ) (r : Tick) : Prop where
  dispatched : r = .dispatched ↔ (∃ w, m.taken? = some (.destroy w)) ∨
    ∃ t, m.taken? = some (.task t) ∧ m.call = .dispatch (.done (.ok ()))
  failed : ∀ e, r = .failed (.error e) ↔
    ∃ t, m.taken? = some (.task t) ∧ m.call = .dispatch (.done (.error e))
  gaveUp : ∀ text, r = .failed (.gaveUp text) ↔ ∃ t c, m.taken? = some (.task t) ∧
    m.call = .dispatch (.fault c) ∧ c.text?.getD "unknown panic payload" = text
  idle : r = .idle ↔ m.taken? = none ∨ m.taken? = some .wake

/-- A tick is a dispatch and answers what came of it; what is no tick is no dispatch. -/
def Happening.Answers (x : Happening τ) : Prop :=
  match x.tick? with
  | some (_, r) => (∃ ending, x.moment.call = .dispatch ending) ∧ x.moment.Comes r
  | none => ∀ ending, x.moment.call ≠ .dispatch ending

variable {L : Lens σ (Display τ)} {pumps : Lens σ Pumps} {S : Setting σ τ} {s s₁ s₂ s' : σ}
  {hand hand' : Hand} {log : List (Happening τ)} {p p' : Pump} {r : Tick} {t : τ} {m : Moment τ}
  {ending : Outcome (Except PlatformError Unit)} {d d' : Display τ}

/-! ## What a tick comes to -/

namespace Moment

theorem comes_nothing (h : d.backend.next.1 = none ∨ d.backend.next.1 = some .wake) :
    (dispatch ending d).Comes .idle := by
  have taken : (dispatch ending d).taken? = d.backend.next.1 := rfl
  rcases h with h | h <;> rw [h] at taken <;> constructor <;> simp [taken]

theorem comes_destroy {w : Window} (h : d.backend.next.1 = some (.destroy w)) :
    (dispatch ending d).Comes .dispatched := by
  have taken : (dispatch ending d).taken? = d.backend.next.1 := rfl
  rw [h] at taken
  constructor <;> simp [taken]

theorem comes_task (h : d.backend.next.1 = some (.task t))
    {o : Except Fault (Except PlatformError Bool)}
    (ended : match ending with
      | .done (.ok ()) => o = .ok (.ok true)
      | .done (.error e) => o = .ok (.error e)
      | .fault c => o = .error c
      | .stalled => False) : (dispatch ending d).Comes (Setting.tickOf o) := by
  have taken : (dispatch ending d).taken? = some (.task t) := h
  have call : (dispatch ending d).call = .dispatch ending := rfl
  match ending with
  | .done (.ok ()) | .done (.error e) | .fault c =>
    subst ended
    constructor <;> simp [taken, call, Setting.tickOf, Setting.gaveUpText]
  | .stalled => exact ended.elim

end Moment

/-- A tick leaves what its dispatch did, but for the log. -/
theorem Setting.tick_keeps {γ : Type} {f : σ → γ} (note : ∀ n, Act.Keeps f (S.note n))
    {o : Except Fault (Except PlatformError Bool)} {p : Pump} {r : Tick × Pump} {s' : σ}
    (read : S.readAndDispatch.attempt s = (.done o, s₁)) (tick : S.tick p s = (.done r, s')) :
    f s' = f s₁ := by
  rw [tick_eq, Act.bind_apply, read] at tick
  refine (congrArg (fun o => f o.2) tick).symm.trans ?_
  simp only
  cases tickNotice? (tickOf o) with
  | none => rfl
  | some n => exact ((note n).bind fun _ => .pure _) s₁

namespace Setting.Pooled

/-- A call leaves the pumps alone. -/
theorem call_pool (hS : S.Pooled L pumps) (c : Call τ) (s : σ) :
    pumps.get (S.call c s).2 = pumps.get s := by
  rw [← S.call_unheard]
  exact hS.keeps.call c s

/-- What a tick makes of its dispatch; the log is written to after that. -/
theorem tick_of (hS : S.Pooled L pumps) {o : Except Fault (Except PlatformError Bool)}
    (read : S.readAndDispatch.attempt s = (.done o, s₁)) (p : Pump) :
    ∃ s', S.tick p s = (.done (tickOf o, p.count (tickOf o)), s') ∧ L.get s' = L.get s₁ ∧
      pumps.get s' = pumps.get s₁ := by
  obtain ⟨s', tick, display⟩ := hS.toQuiet.tick_of read p
  exact ⟨s', tick, hS.shown ▸ display, tick_keeps (S := S) hS.keeps.note read tick⟩

/-- **A tick that takes no task** takes its event, and that is all. -/
theorem tick_other (hS : S.Pooled L pumps) (before : S.before .dispatch s = (.done (.ok ()), s₁))
    (event : ∀ t, (L.get s₁).backend.next.1 ≠ some (.task t)) (p : Pump)
    (ending : Outcome (Except PlatformError Unit)) :
    ∃ r s', S.tick p s = (.done (r, p.count r), s') ∧ L.get s' = (L.get s₁).dispatched ∧
      pumps.get s' = pumps.get s₁ ∧ (Moment.dispatch ending (L.get s₁)).Comes r := by
  obtain rfl := hS.shown
  obtain ⟨o, s₂, read, display, idle⟩ := hS.toQuiet.dispatchNext_other event
  obtain ⟨s', tick, display', pool⟩ := hS.tick_of ((readAndDispatch_of before).trans read) p
  have taken : pumps.get (S.dispatchNext.attempt s₁).2 = pumps.get s₁ := by
    rw [← call_dispatch event .stalled]
    exact hS.call_pool _ s₁
  rw [read] at taken
  refine ⟨_, s', tick, display'.trans display, pool.trans taken, ?_⟩
  by_cases nothing : (S.backend.get s₁).next.1 = none ∨ (S.backend.get s₁).next.1 = some .wake
  · rw [idle.mpr nothing]
    exact Moment.comes_nothing nothing
  · obtain ⟨w, found⟩ : ∃ w, (S.backend.get s₁).next.1 = some (.destroy w) := by
      cases next : (S.backend.get s₁).next.1 with
      | none => exact absurd (.inl next) nothing
      | some e =>
        cases e with
        | wake => exact absurd (.inr next) nothing
        | task t => exact absurd next (event t)
        | destroy w => exact ⟨w, rfl⟩
    have done : (S.dispatchNext.attempt s₁).1 = .done (.ok (.ok true)) := by
      unfold dispatchNext
      rw [Act.attempt_apply, Act.bind_apply]
      simp only [Lens.alter, Act.alter_apply, found]
      rfl
    rw [read] at done
    cases done
    exact Moment.comes_destroy found

/-- **A tick that takes a task** ends when the handler does, and answers how. -/
theorem tick_task (hS : S.Pooled L pumps) (before : S.before .dispatch s = (.done (.ok ()), s₁))
    (event : (L.get s₁).backend.next.1 = some (.task t))
    (run : S.run t (S.afterNext s₁) = (ending, s₂)) (p : Pump) :
    (ending = .stalled ∧ (S.tick p s).1 = .stalled) ∨ (ending ≠ .stalled ∧
      ∃ r s', S.tick p s = (.done (r, p.count r), s') ∧ L.get s' = L.get s₂ ∧
        pumps.get s' = pumps.get s₂ ∧ (Moment.dispatch ending (L.get s₁)).Comes r) := by
  obtain rfl := hS.shown
  have read : S.readAndDispatch.attempt s = _ := readAndDispatch_of before
  rw [Act.attempt_apply S.dispatchNext, dispatchNext_apply event, Act.bind_apply, run] at read
  have ended {o : Except Fault (Except PlatformError Bool)}
      (read : S.readAndDispatch.attempt s = (.done o, s₂))
      (comes : (Moment.dispatch ending (S.display.get s₁)).Comes (tickOf o)) :
      ∃ r s', S.tick p s = (.done (r, p.count r), s') ∧ S.display.get s' = S.display.get s₂ ∧
        pumps.get s' = pumps.get s₂ ∧ (Moment.dispatch ending (S.display.get s₁)).Comes r := by
    obtain ⟨s', tick, display, pool⟩ := hS.tick_of read p
    exact ⟨_, s', tick, display, pool, comes⟩
  match ending with
  | .stalled =>
    refine .inl ⟨rfl, ?_⟩
    rw [tick_eq, Act.bind_apply, read]
  | .done (.ok ()) => exact .inr ⟨nofun, ended read (Moment.comes_task event rfl)⟩
  | .done (.error e) => exact .inr ⟨nofun, ended read (Moment.comes_task event rfl)⟩
  | .fault c => exact .inr ⟨nofun, ended read (Moment.comes_task event rfl)⟩

/-- The display that a handler starts with. -/
theorem get_afterNext (hS : S.Pooled L pumps)
    (event : (L.get s).backend.next.1 = some (.task t)) :
    L.get (S.afterNext s) = (L.get s).dispatched := by
  obtain rfl := hS.shown
  obtain ⟨opening, taken⟩ := hS.toQuiet.call_after (.dispatch .stalled) s
  rw [call_dispatch_task event] at taken
  exact taken.trans (dispatch_after opening .stalled _)

end Setting.Pooled

/-! ## The log -/

/-- A dispatch as a path of its own. -/
theorem Path.dispatch (ending : Outcome (Except PlatformError Unit)) (d : Display τ) :
    Path (fun _ => True) d [.dispatch ending d] d.dispatched := by
  rw [← Setting.dispatch_after .nothing ending d]
  exact .single trivial _ d

namespace Worked

/-- **The calls of a program are a path of its display.** -/
theorem path (beside : pumps.Beside L) (h : Worked L pumps s hand log s' hand') :
    Path (fun _ => True) (L.get s) (log.map (·.moment)) (L.get s') := by
  induction h with
  | next _ _ ih ih' =>
    rw [List.map_append]
    exact ih.append ih'
  | aside display _ => exact display ▸ .rest _
  | @call S hS c _ s =>
    obtain rfl := hS.shown
    obtain ⟨opening, same⟩ := hS.toQuiet.moment_eq c s
    have after : S.display.get (S.call c s).2 = _ := congrArg Moment.after same
    rw [List.map_singleton, same, after]
    exact .single trivial opening _
  | made s => exact beside.apart _ s ▸ .rest _
  | @taken s i p _ => exact beside.apart _ s ▸ .rest _
  | back i p s => exact beside.apart _ s ▸ .rest _
  | turned _ _ _ s => exact .rest _
  | under _ _ ih => exact ih
  | @tick S hS s s₁ s' log i p p' r ending _ before event tick ih =>
    obtain ⟨_, _, tick', display, -, -⟩ := hS.tick_other before event p ending
    obtain ⟨-, rfl⟩ := Prod.mk.inj (tick.symm.trans tick')
    rw [List.map_append, display]
    exact ih.append (.dispatch ending _)
  | @serve S hS s s₁ s₂ s' log log' i p p' r t ending _ before event run _ tick ih ih' =>
    obtain ⟨-, stalled⟩ | ⟨-, _, _, tick', display, -, -⟩ := hS.tick_task before event run p
    · rw [tick] at stalled
      cases stalled
    · obtain ⟨-, rfl⟩ := Prod.mk.inj (tick.symm.trans tick')
      rw [hS.get_afterNext event] at ih'
      rw [List.map_append, display]
      exact ih.append ((Path.dispatch ending _).append ih')

end Worked

theorem Moment.Comes.answers (comes : (Moment.dispatch ending d).Comes r) (i : Nat) :
    (⟨.dispatch ending d, some (i, r)⟩ : Happening τ).Answers := by
  have dispatch : (Moment.dispatch ending d).call = .dispatch ending := rfl
  exact ⟨⟨ending, dispatch⟩, comes⟩

namespace Worked

/-- **Every tick answers what became of its event.** -/
theorem answers (h : Worked L pumps s hand log s' hand') : ∀ x ∈ log, x.Answers := by
  induction h with
  | next _ _ ih ih' => exact List.forall_mem_append.mpr ⟨ih, ih'⟩
  | aside | made | taken | back | turned => exact List.forall_mem_nil _
  | call _ other s => exact List.forall_mem_singleton.mpr other
  | under _ _ ih => exact ih
  | @tick S hS s s₁ s' log i p p' r ending _ before event tick ih =>
    obtain ⟨_, _, tick', -, -, comes⟩ := hS.tick_other before event p ending
    rw [tick] at tick'
    cases tick'
    exact List.forall_mem_append.mpr ⟨ih, List.forall_mem_singleton.mpr (comes.answers i)⟩
  | @serve S hS s s₁ s₂ s' log log' i p p' r t ending _ before event run _ tick ih ih' =>
    obtain ⟨-, stalled⟩ | ⟨-, _, _, tick', -, -, comes⟩ := hS.tick_task before event run p
    · rw [tick] at stalled
      cases stalled
    · rw [tick] at tick'
      cases tick'
      exact List.forall_mem_append.mpr ⟨ih, List.forall_mem_cons.mpr ⟨comes.answers i, ih'⟩⟩

end Worked

end DisplayEnv
