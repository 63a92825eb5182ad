import DisplayEnv.Proofs.Display.Mirrors

/-!
# Loops act by calls

What surrounds a display is built from its calls: `ByCalls` is kept by every way of putting actions
together, and a call in a quiet setting has it. So has a tick of a pump, a nested loop and the main
loop, when the handlers that they run have it; a handler may run loops of its own, because those
have it too.

* `byCalls_call`: a call.
* `Handled.dispatchNext_path`: one event; `Handled.runMain`: the main loop and its teardown.
* `History.runMain`: a history goes on through a main loop.
-/

namespace DisplayEnv

variable {σ τ α β : Type} {allowed : Call τ → Prop} {L : Lens σ (Display τ)}

/-! ## Actions put together -/

namespace Act.ByCalls

/-- An action that leaves the display alone makes no calls. -/
theorem of_get_eq {x : Act σ α} (h : ∀ s, L.get (x s).2 = L.get s) : ByCalls allowed L x := by
  intro s
  rw [h s]
  exact ⟨[], .rest _⟩

theorem pure (a : α) : ByCalls allowed L (Pure.pure a) := of_get_eq fun _ => rfl

theorem bind {x : Act σ α} {f : α → Act σ β} (hx : ByCalls allowed L x)
    (hf : ∀ a, ByCalls allowed L (f a)) : ByCalls allowed L (x >>= f) := by
  intro s
  obtain ⟨t, p⟩ := hx s
  rw [Act.bind_apply]
  cases h : x s with
  | mk o s' =>
    rw [h] at p
    cases o with
    | done a =>
      obtain ⟨t', p'⟩ := hf a s'
      exact ⟨t ++ t', p.append p'⟩
    | fault c => exact ⟨t, p⟩
    | stalled => exact ⟨t, p⟩

theorem attempt {x : Act σ α} (hx : ByCalls allowed L x) : ByCalls allowed L x.attempt := by
  intro s
  obtain ⟨t, p⟩ := hx s
  rw [Act.attempt_apply]
  cases h : x s with
  | mk o s' =>
    rw [h] at p
    cases o <;> exact ⟨t, p⟩

/-- An action acts by calls when it does with its answer wrapped up. -/
theorem of_wrapped {x : Act σ α} (f : α → β)
    (h : ByCalls allowed L (x >>= fun a => Pure.pure (f a))) : ByCalls allowed L x := by
  intro s
  obtain ⟨t, p⟩ := h s
  rw [Act.bind_pure_snd] at p
  exact ⟨t, p⟩

theorem discard {x : Act σ α} (hx : ByCalls allowed L x) : ByCalls allowed L (discard x) :=
  hx.bind fun _ => .pure _

theorem each {f : α → Act σ β} (h : ∀ a, ByCalls allowed L (f a)) (l : List α) :
    ByCalls allowed L (Act.each f l) := by
  induction l with
  | nil => exact .pure _
  | cons a l ih => exact (h a).bind fun _ => ih.bind fun _ => .pure _

theorem ofExcept (r : Except Fault α) : ByCalls allowed L (Act.ofExcept r : Act σ α) := by
  cases r with
  | ok a => exact .pure a
  | error c => exact .of_get_eq fun _ => rfl

end Act.ByCalls

namespace Setting

variable {S : Setting σ τ}

/-- A call in a quiet setting is a moment of its display. -/
theorem Quiet.call_after (hS : S.Quiet) (c : Call τ) (s : σ) :
    ∃ opening, S.display.get (S.call c s).2 = (Moment.of opening c (S.display.get s)).after := by
  obtain ⟨opening, -, h⟩ := hS.call_alone c s
  exact ⟨opening, congrArg Prod.snd h⟩

/-- What such a call is to the display. -/
theorem Quiet.moment_eq (hS : S.Quiet) (c : Call τ) (s : σ) : ∃ opening,
    (⟨S.display.get s, c, (S.call c s).1, S.display.get (S.call c s).2⟩ : Moment τ) =
      .of opening c (S.display.get s) := by
  obtain ⟨opening, -, alone⟩ := hS.call_alone c s
  refine ⟨opening, ?_⟩
  unfold Moment.of
  rw [← show _ = (Setting.alone opening).call c _ from alone]

/-- **A call acts by calls**, namely by itself. -/
theorem Quiet.byCalls_call (hS : S.Quiet) {c : Call τ} (hc : allowed c) :
    Act.ByCalls allowed S.display (S.call c) := by
  intro s
  obtain ⟨opening, h⟩ := hS.call_after c s
  rw [h]
  exact ⟨_, .single hc opening _⟩

theorem Quiet.byCalls_note (hS : S.Quiet) (n : Notice) :
    Act.ByCalls allowed S.display (S.note n) :=
  .of_get_eq fun s => congrArg Prod.snd (hS.note n s)

theorem Quiet.byCalls_teardown (hS : S.Quiet) (ht : allowed .teardown) :
    Act.ByCalls allowed S.display S.teardown :=
  .of_wrapped Answer.flag (hS.byCalls_call ht)

theorem Quiet.byCalls_sleep (hS : S.Quiet) (hs : allowed .sleep) :
    Act.ByCalls allowed S.display (S.backend.change (·.sleep)) :=
  .of_wrapped (fun _ => Answer.nothing) (hS.byCalls_call hs)

/-- A display on its own acts by calls when its tasks do. -/
theorem plain_handled {files : Files} {run : τ → Act (Display τ) (Except PlatformError Unit)}
    (h : ∀ t, Act.ByCalls allowed .whole (run t)) : (Setting.plain files run).Handled allowed where
  toQuiet := Setting.plain_quiet files run
  run := h
  beforeDispatch := .pure _
  beforeSleep := .pure _

/-- A display on its own whose tasks do nothing. -/
def calm : Setting (Display τ) τ := .plain .empty fun _ => pure (.ok ())

theorem calm_handled : (calm : Setting (Display τ) τ).Handled allowed :=
  plain_handled fun _ => .pure _

/-! ## One event -/

/-- The state after the next event was taken. -/
def afterNext (S : Setting σ τ) (s : σ) : σ := S.backend.set (S.backend.get s).next.2 s

/-- A dispatch that finds a task runs it from the state without its event. -/
theorem dispatchNext_apply {s : σ} {t : τ} (h : (S.backend.get s).next.1 = some (.task t)) :
    S.dispatchNext s = (S.run t >>= fun r =>
      match r with
      | .ok () => pure (.ok true)
      | .error e => pure (.error e)) (S.afterNext s) := by
  unfold dispatchNext
  rw [Act.bind_apply]
  simp only [Lens.alter, Act.alter_apply, h]
  rfl

theorem dispatchNext_task {s : σ} {t : τ} (h : (S.backend.get s).next.1 = some (.task t)) :
    (S.dispatchNext s).2 = (S.run t (S.afterNext s)).2 := by
  rw [dispatchNext_apply h, Act.bind_apply]
  cases S.run t (S.afterNext s) with
  | mk o s' =>
    cases o with
    | done r => cases r <;> rfl
    | fault c => rfl
    | stalled => rfl

/-- Without a task, a dispatch does not depend on how handlers are run. -/
theorem dispatchNext_endingWith {s : σ} (h : ∀ t, (S.backend.get s).next.1 ≠ some (.task t))
    (ending : Outcome (Except PlatformError Unit)) :
    (S.endingWith ending).dispatchNext s = S.dispatchNext s := by
  unfold dispatchNext
  rw [Act.bind_apply, Act.bind_apply]
  simp only [Lens.alter, Act.alter_apply, endingWith_backend]
  cases h' : (S.backend.get s).next.1 with
  | none => rfl
  | some e =>
    cases e with
    | task t => exact absurd h' (h t)
    | destroy w => rfl
    | wake => rfl

/-- **A dispatch is the call that takes the event**, and after it the calls of the handler. -/
theorem Handled.dispatchNext_path (hS : S.Handled allowed)
    (hd : ∀ ending, allowed (.dispatch ending)) (s : σ) :
    ∃ ending opening t, Path allowed (S.display.get s)
      (.of opening (.dispatch ending) (S.display.get s) :: t)
      (S.display.get (S.dispatchNext s).2) := by
  by_cases h : ∃ t, (S.backend.get s).next.1 = some (.task t)
  · obtain ⟨task, h⟩ := h
    let run := S.run task (S.afterNext s)
    obtain ⟨opening, taken⟩ := hS.call_after (.dispatch run.1) s
    rw [call, Act.bind_pure_snd, dispatchNext_task (S := S.endingWith _) h] at taken
    obtain ⟨t, p⟩ := hS.run task (S.afterNext s)
    rw [dispatchNext_task h]
    exact ⟨_, opening, t, (Path.single (hd run.1) opening _).append (taken ▸ p)⟩
  · obtain ⟨opening, taken⟩ := hS.call_after (.dispatch .stalled) s
    rw [call, Act.bind_pure_snd, dispatchNext_endingWith fun t ht => h ⟨t, ht⟩] at taken
    rw [taken]
    exact ⟨_, opening, [], .single (hd _) opening _⟩

theorem Handled.dispatchNext (hS : S.Handled allowed) (hd : ∀ ending, allowed (.dispatch ending)) :
    Act.ByCalls allowed S.display S.dispatchNext := by
  intro s
  obtain ⟨_, _, t, p⟩ := hS.dispatchNext_path hd s
  exact ⟨_, p⟩

theorem Handled.readAndDispatch (hS : S.Handled allowed)
    (hd : ∀ ending, allowed (.dispatch ending)) :
    Act.ByCalls allowed S.display S.readAndDispatch := by
  refine hS.beforeDispatch.bind fun r => ?_
  cases r with
  | error e => exact .pure _
  | ok _ => exact hS.dispatchNext hd

theorem Handled.tick (hS : S.Handled allowed) (hd : ∀ ending, allowed (.dispatch ending))
    (p : Pump) : Act.ByCalls allowed S.display (S.tick p) := by
  refine (hS.readAndDispatch hd).attempt.bind fun r => ?_
  simp only
  split
  · exact (hS.byCalls_note _).bind fun _ => .pure _
  · exact .pure _

/-! ## The loop -/

theorem Handled.sleep (hS : S.Handled allowed) (hs : allowed .sleep) :
    Act.ByCalls allowed S.display S.sleep := by
  refine hS.beforeSleep.bind fun r => ?_
  cases r with
  | error e => exact .of_get_eq fun _ => rfl
  | ok _ => exact hS.byCalls_sleep hs

theorem Handled.loop (hS : S.Handled allowed) (hd : ∀ ending, allowed (.dispatch ending))
    (hs : allowed .sleep) (root : Window) (n : Nat) (p : Pump) :
    Act.ByCalls allowed S.display (S.loop root n p) := by
  induction n generalizing p with
  | zero => exact .of_get_eq fun _ => rfl
  | succ n ih =>
    have gone : Act.ByCalls allowed S.display (S.backend.view (·.isDestroyed root)) :=
      .of_get_eq fun _ => rfl
    refine gone.bind fun gone => ?_
    split
    · exact .pure _
    · refine (hS.tick hd p).bind fun r => ?_
      simp only
      split
      · refine (hS.sleep hs).attempt.bind fun r => ?_
        cases r with
        | ok _ => exact ih _
        | error c => exact .pure _
      · exact ih _

theorem Handled.runNested (hS : S.Handled allowed) (hd : ∀ ending, allowed (.dispatch ending))
    (hs : allowed .sleep) (bound : Nat) (root : Window) (p : Pump) :
    Act.ByCalls allowed S.display (S.runNested bound root p) := by
  refine (hS.byCalls_note _).bind fun _ => (hS.loop hd hs root _ _).bind fun r => ?_
  obtain ⟨ended, p⟩ := r
  cases ended with
  | error c => exact .pure _
  | ok _ => exact (hS.byCalls_note _).bind fun _ => .pure _

/-- **The main loop acts by calls**, the teardown at its end included. -/
theorem Handled.runMain (hS : S.Handled allowed) (hd : ∀ ending, allowed (.dispatch ending))
    (hs : allowed .sleep) (ht : allowed .teardown) (bound : Nat) (root : Window) (p : Pump) :
    Act.ByCalls allowed S.display (S.runMain bound root p) := by
  refine (hS.runNested hd hs bound root p).bind fun r => ?_
  refine (hS.byCalls_teardown ht).attempt.bind fun r => ?_
  cases r <;> exact .pure _

end Setting

/-- **A history goes on through a main loop** whose handlers act by a display's own calls. -/
theorem History.runMain {S : Setting σ τ} (hS : S.Handled Call.Own) {config : HeadlessConfig}
    {t : List (Moment τ)} {s : σ} (h : History Call.Own config t (S.display.get s)) (bound : Nat)
    (root : Window) (p : Pump) :
    ∃ t', History Call.Own config (t ++ t') (S.display.get (S.runMain bound root p s).2) := by
  obtain ⟨t', p'⟩ := hS.runMain (fun _ => trivial) trivial trivial bound root p s
  exact ⟨t', h.append p'⟩

end DisplayEnv
