import DisplayEnv.Proofs.Display.Rounds
import DisplayEnv.Proofs.Events.Rounded
import DisplayEnv.Proofs.Probe.LookedUp

/-!
# The loop of the probe ends

While the probe's loop runs, a second thread sends one task and the end of the root window, and a
schedule says how much of that arrives before each look at the queue and before each wait. The two
events are dispatched in their order, whatever the schedule: a round that finds nothing has used up
an entry of the schedule, and when there is no entry left everything arrives.

* `Waiting`: the state of a loop that has so many of the two events still before it.
* `gives_loop`: the loop, by induction on the events and the schedule together.
* `gives_runLoop`: the counts that are printed.
-/

namespace DisplayEnv.Probe

variable {s s' : Stand} {root : Window} {rest : List (Event Task)}
  {h : HeadlessConfig} {line : List (Event Task)} {layout : Option Layout} {fonts : List Font}
  {colors : List Color} {d : Display Task}

/-- The display of a probe, whatever events wait. -/
def Busy (h : HeadlessConfig) (layout : Option Layout) (fonts : List Font) (colors : List Color)
    (d : Display Task) : Prop := Going h d.backend.pending layout fonts colors d

/-- The display looks the same to the probe when only windows and events are different. -/
theorem Going.of_backend (going : Going h line layout fonts colors d) {b : Headless Task}
    (config : b.config = d.backend.config) (closed : b.closed = d.backend.closed) :
    Busy h layout fonts colors { d with backend := b } :=
  ⟨going.live, going.lent, closed.trans going.opened, config.trans going.config, rfl,
    going.layout, going.fonts, going.colors, going.images⟩

/-- A loop with a root window, and with these events before it, some of which have not arrived. -/
structure Waiting (h : HeadlessConfig) (layout : Option Layout) (fonts : List Font)
    (colors : List Color) (root : Window) (rest : List (Event Task)) (s : Stand) : Prop where
  going : Busy h layout fonts colors s.display
  root : root ∈ s.display.backend.windows
  line : s.display.backend.pending ++ s.unsent = rest

/-! ## What arrives -/

/-- What the second thread sends goes into the inbox. -/
theorem receive_display (s : Stand) : (receive s).display = { s.display with
    backend := { s.display.backend with
      inbox := s.display.backend.inbox ++
        s.unsent.take (s.schedule.head?.getD s.unsent.length) } } := by
  unfold receive
  simp only
  generalize s.unsent.take _ = l
  generalize s.display = d
  induction l generalizing d with
  | nil => simp
  | cons e l ih =>
    rw [List.foldl_cons, ih]
    simp [Headless.send]

/-- What arrives is no longer to come. -/
theorem Waiting.later (waiting : Waiting h layout fonts colors root rest s) :
    Waiting h layout fonts colors root rest (receive s) := by
  obtain ⟨going, live, line⟩ := waiting
  refine ⟨?_, ?_, ?_⟩ <;> rw [receive_display]
  · exact going.of_backend rfl rfl
  · exact live
  · rw [← line]
    unfold receive Headless.pending
    simp [List.append_assoc, List.take_append_drop]

/-- When the schedule is over, everything arrives. -/
theorem receive_unsent (empty : s.schedule = []) : (receive s).unsent = [] := by
  unfold receive
  simp [empty]

/-! ## One round -/

/-- A tick that has nothing to tell the log. -/
theorem tick_of_dispatch {r : Except Fault (Except PlatformError Bool)} {p : Pump}
    (dispatch : setting.dispatchNext.attempt (receive s) = (.done r, s'))
    (silent : Setting.tickNotice? (Setting.tickOf r) = none) :
    setting.tick p s = (.done (Setting.tickOf r, p.count (Setting.tickOf r)), s') := by
  have read : setting.readAndDispatch.attempt s = (.done r, s') :=
    (Setting.readAndDispatch_of rfl).trans dispatch
  unfold Setting.tick
  rw [Act.bind_apply, read]
  simp only [silent]
  rfl

/-- A state with this backend. -/
def withBackend (s : Stand) (b : Headless Task) : Stand :=
  { s with display := { s.display with backend := b } }

theorem alter_next {b : Headless Task} {e : Option (Event Task)}
    (next : s.display.backend.next = (e, b)) :
    setting.backend.alter (·.next) s = (.done e, withBackend s b) := by
  show (Outcome.done s.display.backend.next.1, withBackend s s.display.backend.next.2) = _
  rw [next]

/-- A task that is dispatched tells the log about itself. -/
theorem dispatch_task {b : Headless Task}
    (next : s.display.backend.next = (some (.task .tell), b)) :
    setting.dispatchNext.attempt s = (.done (.ok (.ok true)),
      { withBackend s b with out := s.out ++ [.notice .probeDispatched] }) := by
  unfold Setting.dispatchNext
  rw [Act.attempt_apply, Act.bind_apply, alter_next next]
  rfl

theorem dispatch_destroy {b : Headless Task} {w : Window}
    (next : s.display.backend.next = (some (.destroy w), b)) :
    setting.dispatchNext.attempt s =
      (.done (.ok (.ok true)), withBackend s (b.destroyWindow w)) := by
  unfold Setting.dispatchNext
  rw [Act.attempt_apply, Act.bind_apply, alter_next next]
  rfl

theorem dispatch_nothing {b : Headless Task} (next : s.display.backend.next = (none, b)) :
    setting.dispatchNext.attempt s = (.done (.ok (.ok false)), withBackend s b) := by
  unfold Setting.dispatchNext
  rw [Act.attempt_apply, Act.bind_apply, alter_next next]
  rfl

theorem next_of_cons {b : Headless Task} {e : Event Task} {l : List (Event Task)}
    (waits : b.pending = e :: l) : b.next = (some e, { b.drain with queue := l }) := by
  rw [Headless.next_eq, waits]

theorem next_of_nil {b : Headless Task} (waits : b.pending = []) : b.next = (none, b.drain) := by
  rw [Headless.next_eq, waits]

/-- A wait lets more arrive, and takes an event when the queue is empty. -/
theorem sleep_eq (s : Stand) : setting.sleep s =
    (.done (), withBackend (receive s) (receive s).display.backend.sleep) := rfl

theorem pending_sleep (b : Headless Task) : b.sleep.pending = b.pending := by
  unfold Headless.sleep
  split
  · rename_i empty
    rw [List.isEmpty_iff] at empty
    split
    · rfl
    · rename_i e l inbox
      simp [Headless.pending, empty, inbox]
  · rfl

theorem sleep_same (b : Headless Task) :
    b.sleep.windows = b.windows ∧ b.sleep.config = b.config ∧ b.sleep.closed = b.closed := by
  unfold Headless.sleep
  split
  · split <;> exact ⟨rfl, rfl, rfl⟩
  · exact ⟨rfl, rfl, rfl⟩

/-- **A round that dispatches the task.** -/
theorem Waiting.task (waiting : Waiting h layout fonts colors root (.task .tell :: rest) s)
    (arrived : (receive s).display.backend.pending ≠ []) (p : Pump) :
    ∃ s', setting.tick p s = (.done (.dispatched, p.count .dispatched), s') ∧
      Waiting h layout fonts colors root rest s' ∧ said s'.out = said s.out ∧
      s'.schedule = s.schedule.drop 1 := by
  obtain ⟨going, live, line⟩ := waiting.later
  obtain ⟨e, l, waits⟩ := List.exists_cons_of_ne_nil arrived
  rw [waits] at line
  obtain ⟨rfl, behind⟩ := List.cons.inj line
  refine ⟨_, tick_of_dispatch (dispatch_task (next_of_cons waits)) rfl, ⟨?_, ?_, ?_⟩, ?_, rfl⟩
  · exact going.of_backend rfl rfl
  · exact live
  · rw [← behind]
    show l ++ [] ++ _ = _
    rw [List.append_nil]
    rfl
  · exact (said_append _ _).trans (List.append_nil _)

/-- **The last round**, which dispatches the end of the root. -/
theorem Waiting.destroyed (waiting : Waiting h layout fonts colors root [.destroy root] s)
    (arrived : (receive s).display.backend.pending ≠ []) (p : Pump) :
    ∃ s', setting.tick p s = (.done (.dispatched, p.count .dispatched), s') ∧
      Busy h layout fonts colors s'.display ∧
      (setting.backend.get s').isDestroyed root = true ∧ said s'.out = said s.out := by
  obtain ⟨going, live, line⟩ := waiting.later
  obtain ⟨e, l, waits⟩ := List.exists_cons_of_ne_nil arrived
  rw [waits] at line
  obtain ⟨rfl, -⟩ := List.cons.inj line
  refine ⟨_, tick_of_dispatch (dispatch_destroy (next_of_cons waits)) rfl, ?_, ?_, rfl⟩
  · exact going.of_backend rfl rfl
  · show (!List.contains (List.filter (· ≠ root) _) root) = true
    simp

/-- **A round that finds nothing** uses up a part of the schedule. -/
theorem Waiting.idle (waiting : Waiting h layout fonts colors root rest s) (more : rest ≠ [])
    (nothing : (receive s).display.backend.pending = []) (p : Pump) :
    ∃ s₁ s₂, setting.tick p s = (.done (.idle, p.count .idle), s₁) ∧
      setting.sleep s₁ = (.done (), s₂) ∧ Waiting h layout fonts colors root rest s₂ ∧
      said s₂.out = said s.out ∧ s₂.schedule.length < s.schedule.length := by
  have later := waiting.later
  have scheduled : s.schedule ≠ [] := by
    intro empty
    apply more
    rw [← later.line, nothing, receive_unsent empty]
    rfl
  have missed : Waiting h layout fonts colors root rest
      (withBackend (receive s) (receive s).display.backend.drain) := by
    refine ⟨later.going.of_backend rfl rfl, later.root, ?_⟩
    rw [← later.line]
    show (receive s).display.backend.pending ++ [] ++ _ = _
    rw [List.append_nil]
    rfl
  obtain ⟨going, live, line⟩ := missed.later
  refine ⟨_, _, tick_of_dispatch (dispatch_nothing (next_of_nil nothing)) rfl, sleep_eq _,
    ⟨?_, ?_, ?_⟩, rfl, ?_⟩
  · obtain ⟨-, config, closed⟩ := sleep_same (receive
      (withBackend (receive s) (receive s).display.backend.drain)).display.backend
    exact going.of_backend config closed
  · obtain ⟨windows, -⟩ := sleep_same (receive
      (withBackend (receive s) (receive s).display.backend.drain)).display.backend
    exact windows ▸ live
  · rw [← line]
    exact congrArg (· ++ _) (pending_sleep _)
  · show ((s.schedule.drop 1).drop 1).length < _
    have := List.length_pos_iff.mpr scheduled
    simp only [List.length_drop]
    omega

/-! ## The loop -/

theorem isDestroyed_live (waiting : Waiting h layout fonts colors root rest s) :
    (setting.backend.get s).isDestroyed root = false := by
  show (!s.display.backend.windows.contains root) = false
  simp [waiting.root]

/-- **The loop ends**, and has dispatched what there was to dispatch. -/
theorem gives_loop {n k : Nat} {p : Pump}
    (waiting : Waiting h layout fonts colors root
      (List.replicate k (.task .tell) ++ [.destroy root]) s)
    (bound : s.schedule.length + k + 1 < n) :
    ∃ idle, Gives (setting.loop root n p) s
      (.ok (), { p with stats := ⟨p.stats.dispatched + k + 1, idle, p.stats.failures⟩ }) []
      (Busy h layout fonts colors) := by
  unfold Gives
  simp only [List.append_nil]
  induction n generalizing k p s with
  | zero => exact absurd bound (Nat.not_lt_zero _)
  | succ n ih =>
    rw [Setting.loop_succ, isDestroyed_live waiting]
    simp only [Bool.false_eq_true, if_false]
    by_cases nothing : (receive s).display.backend.pending = []
    · obtain ⟨s₁, s₂, tick, sleep, waiting', same, shorter⟩ :=
        waiting.idle (List.append_ne_nil_of_right_ne_nil _ (List.cons_ne_nil _ _)) nothing p
      simp only [tick, sleep, if_true]
      obtain ⟨idle, s', run, going, said⟩ := ih (p := p.count .idle) waiting' (by omega)
      exact ⟨idle, s', run, going, said.trans same⟩
    · cases k with
      | zero =>
        obtain ⟨s₁, tick, going, gone, same⟩ := waiting.destroyed nothing p
        obtain ⟨n, rfl⟩ : ∃ n', n = n' + 1 := ⟨n - 1, by omega⟩
        simp only [tick, reduceCtorEq, if_false]
        rw [Setting.loop_succ, if_pos gone]
        exact ⟨_, s₁, rfl, going, same⟩
      | succ k =>
        obtain ⟨s₁, tick, waiting', same, schedule⟩ := waiting.task nothing p
        simp only [tick, reduceCtorEq, if_false]
        have shorter : s₁.schedule.length ≤ s.schedule.length := by
          rw [schedule, List.length_drop]
          exact Nat.sub_le _ _
        obtain ⟨idle, s', run, going, said⟩ := ih (p := p.count .dispatched) waiting' (by omega)
        refine ⟨idle, s', ?_, going, said.trans same⟩
        rw [run]
        simp only [Pump.count]
        rw [show p.stats.dispatched + 1 + k + 1 = p.stats.dispatched + (k + 1) + 1 by omega]

/-- **The loop of the probe** dispatches both events, and nothing fails. -/
theorem gives_runLoop (going : Going h [] layout fonts colors s.display) :
    ∃ idle, Gives (runLoop setting) s () [.loop ⟨2, idle, 0⟩] (Busy h layout fonts colors) := by
  let root := s.display.backend.createWindow.1
  let start : Stand :=
    { withBackend s s.display.backend.createWindow.2 with unsent := [.task .tell, .destroy root] }
  let told : Stand := { start with out := start.out ++ [.notice (.loopRunning root)] }
  have waiting : Waiting h layout fonts colors root
      (List.replicate 1 (.task .tell) ++ [.destroy root]) told := by
    refine ⟨going.of_backend rfl rfl, List.mem_cons_self, ?_⟩
    show s.display.backend.pending ++ _ = _
    rw [going.line]
    rfl
  obtain ⟨idle, ended⟩ := gives_loop (n := told.schedule.length + 5)
    (p := { Pump.new with state := .running }) waiting (by omega)
  have nested : Gives (setting.runNested (start.schedule.length + 4) root .new) start
      (.ok (), ⟨.stopped, ⟨2, idle, 0⟩⟩) [] (Busy h layout fonts colors) := by
    unfold Setting.runNested
    refine .after told rfl ((said_append _ _).trans (List.append_nil _)) ?_
    refine ended.seq fun s' h => ?_
    exact (gives_note (.loopStopped root ⟨2, idle, 0⟩) h).seq fun _ h => .pure _ h
  refine ⟨idle, ?_⟩
  unfold runLoop
  refine .after (withBackend s s.display.backend.createWindow.2) rfl rfl ?_
  refine .after start rfl rfl ?_
  refine .after start rfl rfl ?_
  refine nested.seq fun s' h => ?_
  exact gives_put (.loop ⟨2, idle, 0⟩) h

end DisplayEnv.Probe
