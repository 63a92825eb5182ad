import DisplayEnv.Proofs.Display.MainLoop
import DisplayEnv.Proofs.Probe.Argument

/-!
# The whole run

A run without an argument, from the file at the default path to the end of its display. What it
prints was counted line by line; here the display is followed as well. The program does to its
display what some calls do, events that the second thread sends included, so what is known of every
history of a display holds of the probe's, and nothing is left of it in the end.

* `byCalls_explore`: the program acts by calls on its display, whichever way it ends.
* `session_torn_down`: the display of a run that gets through.
* `Marked`: which monitor gets the mark.
* `whole_run`: the run, for every configuration and every schedule.
-/

namespace DisplayEnv.Probe

variable {α β : Type} {allowed : Call Task → Prop}

/-! ## What arrives, as calls -/

/-- Events of another thread are calls of it. -/
theorem path_sends (events : List (Event Task)) (d : Display Task) :
    ∃ t, Path Call.Own d t
      (events.foldl (fun d e => { d with backend := d.backend.send e }) d) := by
  induction events generalizing d with
  | nil => exact ⟨[], .rest d⟩
  | cons e events ih =>
    have sent : Path Call.Own d [.of .nothing (.send e) d]
        { d with backend := d.backend.send e } := .single trivial _ d
    obtain ⟨t, p⟩ := ih { d with backend := d.backend.send e }
    exact ⟨_, sent.append p⟩

theorem byCalls_receive : Act.ByCalls Call.Own displayPart (Act.change receive) :=
  fun s => path_sends (s.unsent.take (s.schedule.head?.getD s.unsent.length)) s.display

/-- The code around the probe's display acts by calls: its task tells the log, and what the second
thread sends may arrive before a dispatch and before a wait. -/
theorem setting_handled : setting.Handled Call.Own where
  toQuiet := setting_quiet
  run
    | .tell => .of_get_eq fun _ => rfl
  beforeDispatch := byCalls_receive.bind fun _ => .pure _
  beforeSleep := byCalls_receive.bind fun _ => .pure _

/-! ## The program, as calls -/

theorem byCalls_andThen {x : Act Stand (Except DisplayError α)}
    {f : α → Act Stand (Except DisplayError β)} (hx : Act.ByCalls allowed displayPart x)
    (hf : ∀ a, Act.ByCalls allowed displayPart (f a)) :
    Act.ByCalls allowed displayPart (andThen x f) := by
  refine hx.bind fun r => ?_
  cases r with
  | ok a => exact hf a
  | error e => exact .pure _

theorem byCalls_onResources {x : Act Stand (Except ResourceError α)}
    (hx : Act.ByCalls allowed displayPart x) :
    Act.ByCalls allowed displayPart (onResources x) := by
  refine hx.bind fun r => ?_
  cases r <;> exact .pure _

/-- What comes out leaves the display alone. -/
theorem byCalls_put (l : Line) : Act.ByCalls allowed displayPart (put l) := .of_get_eq fun _ => rfl

theorem byCalls_call (c : Call Task) (own : c.Own) :
    Act.ByCalls Call.Own displayPart (setting.call c) := setting_quiet.byCalls_call own

theorem byCalls_showFonts (fonts : List Font) :
    Act.ByCalls Call.Own displayPart (showFonts setting fonts) := by
  induction fonts with
  | nil => exact .pure _
  | cons f fonts ih =>
    refine byCalls_andThen (byCalls_onResources ?_) fun extent => (byCalls_put _).bind fun _ => ih
    exact .of_wrapped Answer.extent (byCalls_call (.textExtent f sample) trivial)

theorem byCalls_resolveColor (c : Color) :
    Act.ByCalls Call.Own displayPart (setting.resolveColor c) :=
  .of_wrapped Answer.color (byCalls_call (.resolveColor c) trivial)

theorem byCalls_showConstants : Act.ByCalls Call.Own displayPart showConstants := by
  refine (Act.ByCalls.each (fun _ => byCalls_put _) _).discard.bind fun _ => ?_
  refine (Act.ByCalls.each (fun name => ?_) _).discard
  exact (Act.ByCalls.each (fun _ => byCalls_put _) _).discard.bind fun _ => byCalls_put _

theorem byCalls_runLoop : Act.ByCalls Call.Own displayPart (runLoop setting) := by
  have created : Act.ByCalls Call.Own displayPart (setting.backend.alter (·.createWindow)) :=
    .of_wrapped Answer.window (byCalls_call .createWindow trivial)
  refine created.bind fun root => ?_
  refine Act.ByCalls.bind (.of_get_eq fun _ => rfl) fun _ => ?_
  refine Act.ByCalls.bind (.of_get_eq fun _ => rfl) fun bound => ?_
  refine (setting_handled.runNested (fun _ => trivial) trivial _ root .new).bind fun ended => ?_
  exact (Act.ByCalls.ofExcept ended.1).bind fun _ => byCalls_put _

/-- **The program acts by calls** on its display, whichever way it ends. -/
theorem byCalls_explore (id : Nat) : Act.ByCalls Call.Own displayPart (explore setting id) := by
  have primary := Act.ByCalls.of_wrapped Answer.monitor (byCalls_call .primaryMonitor trivial)
  have monitors := Act.ByCalls.of_wrapped Answer.monitors (byCalls_call .monitors trivial)
  have stats := Act.ByCalls.of_wrapped Answer.stats (byCalls_call .stats trivial)
  have teardown := Act.ByCalls.of_wrapped Answer.flag (byCalls_call .teardown trivial)
  have detach : Act.ByCalls Call.Own displayPart (registryPart.alter (·.detach mainThread)) :=
    .of_get_eq fun _ => rfl
  refine Act.ByCalls.bind (.of_get_eq fun _ => rfl) fun registry => ?_
  refine (byCalls_put _).bind fun _ => ?_
  refine byCalls_andThen primary fun primary => byCalls_andThen monitors fun monitors => ?_
  refine (Act.ByCalls.each (fun _ => byCalls_put _) monitors).discard.bind fun _ => ?_
  refine byCalls_andThen (byCalls_showFonts sampleFonts) fun _ => ?_
  refine byCalls_andThen (byCalls_onResources (byCalls_resolveColor .black)) fun _ => ?_
  refine byCalls_andThen (byCalls_onResources (byCalls_resolveColor .white)) fun _ => ?_
  refine byCalls_showConstants.bind fun _ => byCalls_runLoop.bind fun _ => ?_
  refine stats.bind fun stats => (Act.ByCalls.ofExcept stats.total).bind fun total => ?_
  refine (Act.ByCalls.ofExcept total.text).bind fun text => (byCalls_put _).bind fun _ => ?_
  refine teardown.discard.bind fun _ => detach.bind fun detached => ?_
  cases detached with
  | some id => exact (byCalls_put _).bind fun _ => .pure _
  | none => exact .pure _

/-! ## The display in the end -/

variable {v : Invocation} {s : Stand} {h : HeadlessConfig}

/-- Whatever the program came to, its display has a history. -/
theorem session_history {r : Except DisplayError Unit} (ended : session v = some (r, s)) :
    ∃ t, History Call.Own v.standing.1.headless t s.display := by
  obtain ⟨t, p⟩ := byCalls_explore 1 (.opened v)
  refine ⟨t, 1, ?_⟩
  have run : main v (.start v) = explore setting 1 (.opened v) := by
    unfold main andThen
    rw [Act.bind_apply, current_start]
  unfold session at ended
  rw [run] at ended
  split at ended
  · rename_i explored
    rw [explored] at p
    simp only [Option.some.injEq, Prod.mk.injEq] at ended
    rw [← ended.2]
    exact p
  · cases ended

/-- **Nothing is left of the display** of a run that got through. -/
theorem session_torn_down (monitors : v.standing.1.headless.monitors ≠ []) :
    ∃ idle s, session v = some (.ok (), s) ∧ s.display.Ended ∧
      said s.out = printed v.standing.1.headless idle := by
  obtain ⟨idle, s, run, ⟨_, _, _, d, -, torn⟩, lines⟩ := session_ended monitors
  obtain ⟨t, history⟩ := session_history run
  refine ⟨idle, s, run, history.ended ?_, lines⟩
  rw [torn]
  rfl

/-! ## The mark -/

/-- The place of the first monitor that is flagged, or of the first when none is. -/
def Marked (l : List MonitorConfig) (place : Nat) : Prop :=
  l.findIdx? (·.primary) = some place ∨ (∀ m ∈ l, m.primary = false) ∧ place = 0

theorem marked_primaryPlace (h : HeadlessConfig) : Marked h.monitors (primaryPlace h) := by
  unfold Marked primaryPlace
  cases found : h.monitors.findIdx? (·.primary) with
  | some place => exact .inl rfl
  | none => exact .inr ⟨List.findIdx?_eq_none_iff.mp found, rfl⟩

theorem primaryPlace_lt (monitors : h.monitors ≠ []) : primaryPlace h < h.monitors.length := by
  rcases marked_primaryPlace h with found | ⟨-, first⟩
  · exact (List.findIdx?_eq_some_iff_getElem.mp found).1
  · rw [first]
    exact List.length_pos_iff.mpr monitors

/-! ## The run -/

/-- A display that is left behind is no success, and the complaints are not changed by it. -/
theorem leaveBehind_failed (f : Filter) (s : Stand) (err : List String) :
    (leaveBehind f s err).code ≠ some 0 ∧ (leaveBehind f s err).err = err := by
  unfold leaveBehind
  simp only
  split <;> exact ⟨nofun, rfl⟩

/-- **The whole run of the probe**, without an argument and with any configuration at the default
path, however the events of the second thread fall between the steps of the loop. With a monitor the
program succeeds and leaves a display that was torn down, with nothing live. It prints the line of
the display, a line for each monitor in order with the numbers from one on, of which one has the
mark, then the fonts, the constants, a loop that dispatched both events without a failure, and the
caches with five parts that were made and found never. Without a monitor the program fails, and
tells that there is none. -/
theorem whole_run {files : Files} {env : Environment} {c : DisplayConfig}
    (placed : DisplayConfig.tryLoad files (DisplayConfig.defaultPath env) = .ok c)
    (logFilter : Option String) (schedule : List Nat) :
    let v := Invocation.ofFiles files env [] logFilter schedule
    (c.headless.monitors ≠ [] → ∃ place idle s,
      session v = some (.ok (), s) ∧ s.display.Ended ∧ (run v).code = some 0 ∧
      place < c.headless.monitors.length ∧ Marked c.headless.monitors place ∧
      said (run v).out = .text "display #1 on headless (main: true)" ::
        (c.headless.monitors.mapIdx (fun i m => .text ("monitor " ++ toString (i + 1) ++ ": " ++
            m.bounds.debugText ++ " work " ++ (m.workArea.getD m.bounds).debugText ++
            if i = place then " *" else "")) ++
          sampleFonts.map (fontLine c.headless) ++ constantNames.map constantLine ++
          [.loop ⟨2, idle, 0⟩, .text "cache: entries=5, hits=0, misses=5, rate=0.0%"])) ∧
    (c.headless.monitors = [] → ∃ s complaints,
      session v = some (.error .noMonitors, s) ∧ (run v).code ≠ some 0 ∧
      said (run v).out = [.text "display #1 on headless (main: true)"] ∧
      (run v).err = complaints ++ (Failure.display .noMonitors).report) := by
  intro v
  have used : v.standing.1 = c := by
    show (DisplayConfig.load files (DisplayConfig.defaultPath env)).1 = c
    rw [DisplayConfig.load_eq, placed]
  have filter : filterConfig v = .ok v.standing.1 := rfl
  rw [← used]
  refine ⟨fun monitors => ?_, fun monitors => ?_⟩
  · obtain ⟨idle, s, ended, torn, lines⟩ := session_torn_down monitors
    have ran : run v = ⟨some 0, shown (filterOf v v.standing.1).1 s.out,
        (filterOf v v.standing.1).2⟩ := by
      unfold run
      simp only [filter, ended]
    refine ⟨primaryPlace v.standing.1.headless, idle, s, ended, torn, by rw [ran],
      primaryPlace_lt monitors, marked_primaryPlace _, ?_⟩
    rw [ran, said_shown, lines]
    simp only [printed, measures, List.append_assoc]
    rfl
  · obtain ⟨s, ended, lines⟩ := session_refused monitors
    have ran : run v = leaveBehind (filterOf v v.standing.1).1 s
        ((filterOf v v.standing.1).2 ++ (Failure.display .noMonitors).report) := by
      unfold run
      simp only [filter, ended]
    obtain ⟨failed, err⟩ := leaveBehind_failed (filterOf v v.standing.1).1 s
      ((filterOf v v.standing.1).2 ++ (Failure.display .noMonitors).report)
    rw [ran]
    exact ⟨s, _, ended, failed, (said_leaveBehind _ _ _).trans lines, err⟩

/-- A configuration without a monitor. -/
def blank : DisplayConfig :=
  { DisplayConfig.standard with headless := { HeadlessConfig.standard with monitors := [] } }

/-- Two monitors of which the second has the mark, with one event before the first wait and one
before the second look; and no monitor. -/
theorem whole_run_tall :
    DisplayConfig.tryLoad (alone tall) (DisplayConfig.defaultPath pointed) = .ok tall ∧
      DisplayConfig.tryLoad (alone blank) (DisplayConfig.defaultPath pointed) = .ok blank ∧
      Marked tall.headless.monitors 1 ∧
      (∃ s, session (.ofFiles (alone tall) pointed [] none [0, 1, 1]) = some (.ok (), s) ∧
        s.display.Ended) ∧
      (∃ s, session (.ofFiles (alone blank) pointed [] none []) =
        some (.error .noMonitors, s)) := by
  obtain ⟨_, _, s, ended, torn, -⟩ :=
    (whole_run (tryLoad_pointed tall) none [0, 1, 1]).1 (by decide)
  obtain ⟨s', _, refused, -⟩ := (whole_run (tryLoad_pointed blank) none []).2 rfl
  exact ⟨tryLoad_pointed tall, tryLoad_pointed blank, .inl rfl, ⟨s, ended, torn⟩, s', refused⟩

end DisplayEnv.Probe
