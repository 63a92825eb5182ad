import DisplayEnv.Proofs.Probe.Ends

/-!
# The whole run of the probe

What the probe prints between the line of its display and the counts depends on the settings of the
headless backend that its display was made with: `measures` are the lines of the monitors, with a
mark at the first flagged one or else at the first, and the lines of the fonts. With a monitor the
probe gets through; without one it ends at once. Either way what is said is the same for every
filter, and for every schedule but for the idle rounds of the loop.

* `measures`, `printed`: what is said, as functions of the settings.
* `gives_explore`, `gives_refused`: the two ways through the program.
* `said_run`: what a run says.
-/

namespace DisplayEnv.Probe

variable {s : Stand} {P : Display Task → Prop} {h : HeadlessConfig} {layout : Option Layout}
  {fonts : List Font} {colors : List Color} {d : Display Task} {v : Invocation}

/-! ## What there is to measure -/

/-- The place of the primary monitor in the settings. -/
def primaryPlace (h : HeadlessConfig) : Nat := (h.monitors.findIdx? (·.primary)).getD 0

/-- The line of the monitor at a place of the settings. -/
def monitorText (h : HeadlessConfig) (i : Nat) (m : MonitorConfig) : String :=
  "monitor " ++ toString (i + 1) ++ ": " ++ m.bounds.debugText ++ " work " ++
    (m.workArea.getD m.bounds).debugText ++ (if i = primaryPlace h then " *" else "")

/-- The lines of the monitors and of the fonts. -/
def measures (h : HeadlessConfig) : List Line :=
  h.monitors.mapIdx (fun i m => .text (monitorText h i m)) ++ sampleFonts.map (fontLine h)

/-- Numbering a list does not change where the first of a kind stands. -/
theorem findIdx?_mapIdx {α β : Type} {p : β → Bool} {q : α → Bool} (l : List α) {f : Nat → α → β}
    (same : ∀ i a, p (f i a) = q a) : (l.mapIdx f).findIdx? p = l.findIdx? q := by
  induction l generalizing f with
  | nil => rfl
  | cons a l ih =>
    rw [List.mapIdx_cons, List.findIdx?_cons, List.findIdx?_cons, same,
      ih fun i a => same (i + 1) a]

theorem flaggedIndex?_report (h : HeadlessConfig) :
    Layout.flaggedIndex? h.report = h.monitors.findIdx? (·.primary) :=
  findIdx?_mapIdx h.monitors fun _ _ => rfl

/-- The layout of the backend's report, its primary monitor, and the lines of all monitors. -/
theorem layout_of_report (monitors : h.monitors ≠ []) : ∃ l m, Layout.ofReport h.report = .ok l ∧
    l.primary? = some m ∧ (l.monitors.map fun m' => Line.text (monitorLine m m')) =
      h.monitors.mapIdx fun i m' => .text (monitorText h i m') := by
  have report : h.report ≠ [] := by
    unfold HeadlessConfig.report
    rwa [ne_eq, List.mapIdx_eq_nil_iff]
  have inside : primaryPlace h < h.report.length := by
    have inside := Layout.index_lt report
    rwa [flaggedIndex?_report] at inside
  have place : primaryPlace h = (Layout.flaggedIndex? h.report).getD 0 := by
    rw [flaggedIndex?_report]
    rfl
  refine ⟨_, _, Layout.ofReport_eq_ok_iff.mpr ⟨report, rfl⟩,
    (?_ : _ = some { h.report[primaryPlace h] with primary := true }), ?_⟩
  · show (Layout.flagOnly _ _)[_]? = _
    rw [← place]
    simp [Layout.flagOnly, inside]
  · show (Layout.flagOnly _ _).map _ = _
    refine List.ext_getElem (by simp [Layout.flagOnly, HeadlessConfig.report]) fun i _ _ => ?_
    simp [Layout.flagOnly, HeadlessConfig.report, monitorLine, monitorText]

/-! ## The parts behind the monitors -/

theorem modest_sampleFonts : ∀ f ∈ sampleFonts, Modest f := by
  unfold Modest
  decide

/-- The line of the caches when each part was made once and found never. -/
def cacheLine : Line := .text "cache: entries=5, hits=0, misses=5, rate=0.0%"

/-- The counts of a cache that was looked into once for each key. -/
theorem Once.stats {K H : Type} {keys : List K} {c : Cache K H} (once : Once keys c) :
    c.stats = ⟨keys.length, 0, keys.length⟩ := by
  unfold Cache.stats Cache.size
  rw [once.hits, once.misses, ← once.entries, List.length_map]

/-- The counts of the display's caches. -/
theorem gives_stats (busy : Busy h layout fonts colors s.display) :
    ∃ scratch, Gives setting.stats s ⟨⟨colors.length, 0, colors.length⟩,
      ⟨fonts.length, 0, fonts.length⟩, ⟨0, 0, 0⟩, scratch⟩ [] (Busy h layout fonts colors) := by
  refine ⟨s.display.scratch.isSome, s, ?_, busy, (List.append_nil _).symm⟩
  show (if s.display.lent.isEmpty = true then pure s.display.stats else _ : Act Stand _) s = _
  rw [busy.lent, Display.stats, busy.colors.stats, busy.fonts.stats, busy.images.stats]
  rfl

/-- The display that is left when everything was given back. -/
def Ended (h : HeadlessConfig) (d : Display Task) : Prop :=
  ∃ layout fonts colors d', Busy h layout fonts colors d' ∧ d = d'.tornDown

theorem gives_teardown (busy : Busy h layout fonts colors s.display) :
    Gives setting.teardown s true [] (Ended h) := by
  refine gives_of_mirrors (y := (Setting.alone .nothing).teardown) setting_quiet.teardown
    setting_keeps.teardown ?_ ⟨_, _, _, _, busy, rfl⟩
  rw [alone_teardown busy.lent, if_neg (by simp [busy.live])]

theorem gives_ofExcept {α : Type} {a : α} (hP : P s.display) :
    Gives (Act.ofExcept (.ok a)) s a [] P := .pure a hP

theorem gives_detach (hP : P s.display) :
    ∃ id, Gives (registryPart.alter (·.detach mainThread)) s id [] P :=
  ⟨_, _, rfl, hP, (List.append_nil _).symm⟩

/-! ## The program from its display on -/

/-- The line of the display. -/
def header : Line := .text "display #1 on headless (main: true)"

/-- All lines of a run that gets through, when its loop had so many idle rounds. -/
def printed (h : HeadlessConfig) (idle : Nat) : List Line :=
  header :: (measures h ++ (constantNames.map constantLine ++ [.loop ⟨2, idle, 0⟩, cacheLine]))

/-- **The way through the program**: the monitors, what is looked up, the loop, the caches and the
teardown. -/
theorem gives_explore (monitors : h.monitors ≠ []) (registered : s.registry.main = .ok ⟨1, 1⟩)
    (going : Going h [] none [] [] s.display) :
    ∃ idle, Gives (explore setting 1) s (.ok ()) (printed h idle) (Ended h) := by
  obtain ⟨l, m, found, primary, lines⟩ := layout_of_report monitors
  unfold explore printed measures
  simp only [List.append_assoc, ← lines]
  refine (Gives.view (·.registry) going).seq_exists fun s₁ h₁ => ?_
  simp only [registered]
  refine (gives_print "display #1 on headless (main: true)" h₁).bind_exists fun s₂ h₂ => ?_
  refine (gives_primaryMonitor h₂ found primary).andThen_exists fun s₃ h₃ => ?_
  refine (gives_monitors h₃).andThen_exists fun s₄ h₄ => ?_
  refine (gives_prints _ _ h₄).discard.bind_exists fun s₅ h₅ => ?_
  refine (gives_showFonts h₅ modest_sampleFonts (by decide) (by simp)).andThen_exists
    fun s₆ h₆ => ?_
  obtain ⟨black, resolved⟩ := gives_resolveColor h₆ (c := .black) (by simp)
  refine resolved.onResources.andThen_exists fun s₇ h₇ => ?_
  obtain ⟨white, resolved⟩ := gives_resolveColor h₇ (c := .white) (by decide)
  refine resolved.onResources.andThen_exists fun s₈ h₈ => ?_
  refine (gives_showConstants h₈).bind_exists fun s₉ h₉ => ?_
  obtain ⟨idle, loop⟩ := gives_runLoop h₉
  refine ⟨idle, loop.bind fun s₁₀ h₁₀ => ?_⟩
  obtain ⟨scratch, stats⟩ := gives_stats h₁₀
  refine stats.seq fun s₁₁ h₁₁ => ?_
  refine (gives_ofExcept (a := CacheStats.mk 5 0 5) h₁₁).seq fun s₁₂ h₁₂ => ?_
  refine (gives_ofExcept (a := "entries=5, hits=0, misses=5, rate=0.0%") h₁₂).seq fun s₁₃ h₁₃ => ?_
  refine (gives_print _ h₁₃).bind_silent fun s₁₄ h₁₄ => ?_
  refine (gives_teardown h₁₄).discard.seq fun s₁₅ h₁₅ => ?_
  obtain ⟨detached, gone⟩ := gives_detach h₁₅
  refine gone.seq fun s₁₆ h₁₆ => ?_
  cases detached with
  | none => exact .pure _ h₁₆
  | some id => exact (gives_note _ h₁₆).seq fun _ h => .pure _ h

/-- **Without a monitor** nothing but the line of the display comes out. -/
theorem gives_refused (monitors : h.monitors = []) (registered : s.registry.main = .ok ⟨1, 1⟩)
    (going : Going h [] none [] [] s.display) :
    Gives (explore setting 1) s (.error .noMonitors) [header] (Going h [] none [] []) := by
  have empty : h.report = [] := by
    unfold HeadlessConfig.report
    rw [monitors, List.mapIdx_nil]
  unfold explore
  refine (Gives.view (·.registry) going).seq fun s₁ h₁ => ?_
  simp only [registered]
  refine (gives_print "display #1 on headless (main: true)" h₁).bind_silent fun s₂ h₂ => ?_
  exact (gives_noMonitors h₂ empty).andThen_error

/-- The state with the display of the program's thread. -/
def Stand.opened (v : Invocation) : Stand where
  display := .new 1 (.new v.standing.1.headless)
  registry := (Registry.empty 1).enter mainThread 1
  out := v.standing.2.map .notice ++
    [.notice (.displayCreated 1 .headless), .notice (.mainDesignated 1 mainThread)]
  unsent := []
  schedule := v.schedule

theorem each_note (l : List Notice) (s : Stand) : Act.each note l s =
    (.done (l.map fun _ => ()), { s with out := s.out ++ l.map .notice }) := by
  induction l generalizing s with
  | nil => rw [List.map_nil, List.map_nil, List.append_nil]; rfl
  | cons n l ih =>
    show (Act.each note l >>= fun done => pure (() :: done) : Act Stand _)
      { s with out := s.out ++ [.notice n] } = _
    rw [Act.bind_apply, ih]
    simp

/-- The display of the program's thread is the first one. -/
theorem current_start (v : Invocation) :
    Registry.current registryPart note mainThread (openDisplay v) (.start v) =
      (.done (.ok 1), .opened v) := by
  unfold Registry.current
  rw [Act.bind_apply]
  show (openDisplay v >>= _ : Act Stand _) (.start v) = _
  have opened : openDisplay v (.start v) = (.done (.ok 1), { Stand.opened v with
      registry := .empty 1
      out := v.standing.2.map .notice ++ [.notice (.displayCreated 1 .headless)] }) := by
    show ((Act.each note v.standing.2 >>= fun _ => pure ()) >>= _ : Act Stand _) _ = _
    rw [Act.bind_apply, Act.bind_apply, each_note]
    rfl
  rw [Act.bind_apply, opened]
  show (Outcome.done _, _) = _
  unfold Stand.opened
  simp only [List.append_assoc, List.singleton_append]
  rfl

/-- What the program does is what `explore` does with the display of its thread. -/
theorem session_of_explore {r : Except DisplayError Unit} {lines : List Line}
    (gives : Gives (explore setting 1) (.opened v) r lines P) :
    ∃ s, session v = some (r, s) ∧ P s.display ∧ said s.out = lines := by
  obtain ⟨s, run, left, printed⟩ := gives
  have unsaid : said (Stand.opened v).out = [] := by
    show said (v.standing.2.map .notice ++ _) = []
    rw [said_append, said, List.filter_eq_nil_iff.mpr (by simp [isNotice])]
    rfl
  refine ⟨s, ?_, left, printed.trans (congrArg (· ++ lines) unsaid)⟩
  unfold session main andThen
  rw [Act.bind_apply, current_start]
  simp only [run]

theorem session_ended (monitors : v.standing.1.headless.monitors ≠ []) :
    ∃ idle s, session v = some (.ok (), s) ∧ Ended v.standing.1.headless s.display ∧
      said s.out = printed v.standing.1.headless idle := by
  obtain ⟨idle, gives⟩ := gives_explore (s := .opened v) monitors rfl
    (going_new _)
  exact ⟨idle, session_of_explore gives⟩

theorem session_refused (monitors : v.standing.1.headless.monitors = []) :
    ∃ s, session v = some (.error .noMonitors, s) ∧ said s.out = [header] := by
  obtain ⟨s, run, -, printed⟩ := session_of_explore (gives_refused (s := .opened v) monitors rfl
    (going_new _))
  exact ⟨s, run, printed⟩

/-! ## Runs -/

/-- A display that is left behind says nothing more. -/
theorem said_leaveBehind (f : Filter) (s : Stand) (err : List String) :
    said (leaveBehind f s err).out = said s.out := by
  have silent : said (setting.drop { s with out := [] }).2.out = [] :=
    setting_keeps.drop { s with out := [] }
  unfold leaveBehind
  simp only
  split
  · exact said_shown f s.out
  · show said (shown f s.out ++ shown f _) = _
    rw [said_append, said_shown, said_shown, silent, List.append_nil]

/-- **What a run says** comes from the configuration at the default path alone, whatever was named:
everything there is when it has a monitor, and the line of the display when it has none. -/
theorem said_run {c : DisplayConfig} (filter : filterConfig v = .ok c) :
    (v.standing.1.headless.monitors ≠ [] → ∃ idle, (run v).code = some 0 ∧
      said (run v).out = printed v.standing.1.headless idle) ∧
    (v.standing.1.headless.monitors = [] → said (run v).out = [header]) := by
  constructor
  · intro monitors
    obtain ⟨idle, s, ended, -, printed⟩ := session_ended monitors
    refine ⟨idle, ?_⟩
    unfold run
    simp only [filter, ended]
    exact ⟨trivial, (said_shown _ _).trans printed⟩
  · intro monitors
    obtain ⟨s, ended, printed⟩ := session_refused monitors
    unfold run
    simp only [filter, ended]
    exact (said_leaveBehind _ _ _).trans printed

end DisplayEnv.Probe
