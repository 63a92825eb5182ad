import DisplayEnv.Proofs.Config.RoundTrip
import DisplayEnv.Proofs.Probe.Session

/-!
# The configuration that is named as an argument

The configuration named as an argument settles which notices are shown and nothing else: the display
of the program's thread is made with the configuration at the default path. So what a run says is
what it says without an argument. It is what it would say with the named configuration at the
default path exactly when the one that is there has a monitor and gives the same measures.

* `spoken`: what a run says, but for the idle rounds of the loop, which depend on timing.
* `argument_only_filters`: what the argument does, for every tree of files.
* `argument_ignored`: files with which the measures are not those of the named configuration.
-/

namespace DisplayEnv.Probe

variable {v : Invocation} {c : DisplayConfig}

/-- A line without the idle rounds. -/
def timeless : Line → Line
  | .loop stats => .loop { stats with idle := 0 }
  | l => l

/-- What a run says, whatever its schedule. -/
def spoken (v : Invocation) : List Line := (said (run v).out).map timeless

theorem timeless_printed (h : HeadlessConfig) (idle : Nat) :
    (printed h idle).map timeless = printed h 0 := by
  have measured : (measures h).map timeless = measures h := by
    refine (List.map_congr_left fun l hl => ?_).trans (List.map_id _)
    rcases List.mem_append.mp hl with hl | hl
    · obtain ⟨i, inside, rfl⟩ := List.mem_mapIdx.mp hl
      rfl
    · obtain ⟨f, -, rfl⟩ := List.mem_map.mp hl
      rfl
  unfold printed
  rw [List.map_cons, List.map_append, measured]
  rfl

/-- What is said with these settings of the headless backend. -/
def answer (h : HeadlessConfig) : List Line :=
  if h.monitors = [] then [header] else printed h 0

/-- A run that has a configuration for its filter says what its default path settles. -/
theorem spoken_eq (filter : filterConfig v = .ok c) : spoken v = answer v.standing.1.headless := by
  obtain ⟨ended, refused⟩ := said_run filter
  unfold spoken answer
  split_ifs with monitors
  · rw [refused monitors]
    rfl
  · obtain ⟨idle, -, all⟩ := ended monitors
    rw [all, timeless_printed]

/-- Everything that is said but the measures is the same for all settings with a monitor. -/
theorem answer_eq_iff {h h' : HeadlessConfig} (monitors : h'.monitors ≠ []) :
    answer h = answer h' ↔ h.monitors ≠ [] ∧ measures h = measures h' := by
  unfold answer
  rw [if_neg monitors]
  split_ifs with refused
  · exact ⟨fun same => by simp [printed] at same, fun both => absurd refused both.1⟩
  · unfold printed
    rw [List.cons_inj_right, List.append_cancel_right_eq]
    exact (and_iff_right refused).symm

/-! ## A file that is named -/

/-- A tree with nothing but a configuration in its working directory. -/
def alone (c : DisplayConfig) : Files :=
  ⟨["work"], [(["work", "c.json"], .file c.pretty.toUTF8.toList), (["work"], .directory)]⟩

/-- A user's directory that is the working directory. -/
def home : Environment := ⟨[("HOME", ".".toUTF8.toList)], ""⟩

/-- The same with the configuration's path, from the root, in its variable. -/
def pointed : Environment := home.set "DK_DISPLAY_CONFIG" "/work/c.json".toUTF8.toList

theorem tryLoad_alone (c : DisplayConfig) : DisplayConfig.tryLoad (alone c) "c.json" = .ok c := by
  have path : "c.json".splitOn "/" = ["c.json"] := by
    rw [splitOn_slash]
    rfl
  have start : (alone c).start "c.json" = ["work"] := if_neg (by decide +kernel)
  refine DisplayConfig.tryLoad_of_read ?_
  simp only [Files.read, Files.stat, Files.locate, path, start]
  rfl

theorem defaultPath_pointed : DisplayConfig.defaultPath pointed = "/work/c.json" := by
  have text : pointed.text? "DK_DISPLAY_CONFIG" = some "/work/c.json" := by
    show String.fromUTF8? ⟨"/work/c.json".toUTF8.toList.toArray⟩ = _
    rw [toArray_toList, fromUTF8?_toUTF8]
  simp only [DisplayConfig.defaultPath, text]

theorem tryLoad_pointed (c : DisplayConfig) :
    DisplayConfig.tryLoad (alone c) (DisplayConfig.defaultPath pointed) = .ok c := by
  have path : "/work/c.json".splitOn "/" = ["", "work", "c.json"] := by
    rw [splitOn_slash]
    rfl
  have start : (alone c).start "/work/c.json" = [] := if_pos (by decide +kernel)
  rw [defaultPath_pointed]
  refine DisplayConfig.tryLoad_of_read ?_
  simp only [Files.read, Files.stat, Files.locate, path, start]
  rfl

theorem load_home (c : DisplayConfig) :
    DisplayConfig.load (alone c) (DisplayConfig.defaultPath home) = (.standard, []) := by
  have place : DisplayConfig.defaultPath home = "./.dk_display/display.json" := by
    have user : home.text? "HOME" = some "." := by
      show String.fromUTF8? ⟨".".toUTF8.toList.toArray⟩ = _
      rw [toArray_toList, fromUTF8?_toUTF8]
    have profile : home.text? "USERPROFILE" = none := rfl
    have unset : home.text? "DK_DISPLAY_CONFIG" = none := rfl
    simp only [DisplayConfig.defaultPath, Environment.userDirectory, user, profile, unset]
    decide +kernel
  have path : "./.dk_display/display.json".splitOn "/" = [".", ".dk_display", "display.json"] := by
    rw [splitOn_slash]
    rfl
  have start : (alone c).start "./.dk_display/display.json" = ["work"] := if_neg (by decide +kernel)
  have absent : Files.exists? (alone c) "./.dk_display/display.json" = false := by
    simp only [Files.exists?, Files.stat, Files.locate, path, start]
    rfl
  unfold DisplayConfig.load
  rw [place, absent]
  rfl

/-! ## What the argument does -/

/-- **The argument only filters.** A run with a configuration named as an argument says what the run
without an argument says. It says what a run says that has this configuration at its default path
exactly if the configuration that is used instead has a monitor and gives the same measures. -/
theorem argument_only_filters {files files' : Files} {env env' : Environment} {path : String}
    {more : List String} {c : DisplayConfig} (named : DisplayConfig.tryLoad files path = .ok c)
    (placed : DisplayConfig.tryLoad files' (DisplayConfig.defaultPath env') = .ok c)
    (monitors : c.headless.monitors ≠ []) (logFilter logFilter' : Option String)
    (schedule schedule' : List Nat) :
    spoken (.ofFiles files env (path :: more) logFilter schedule) =
        spoken (.ofFiles files env [] logFilter' schedule') ∧
      (spoken (.ofFiles files env (path :: more) logFilter schedule) =
          spoken (.ofFiles files' env' [] logFilter' schedule') ↔
        (DisplayConfig.load files (DisplayConfig.defaultPath env)).1.headless.monitors ≠ [] ∧
        measures (DisplayConfig.load files (DisplayConfig.defaultPath env)).1.headless =
          measures c.headless) := by
  have used : (DisplayConfig.load files' (DisplayConfig.defaultPath env')).1 = c := by
    rw [DisplayConfig.load_eq, placed]
  have with_argument := spoken_eq (v := .ofFiles files env (path :: more) logFilter schedule)
    (c := c) named
  have without := spoken_eq (v := .ofFiles files env [] logFilter' schedule') rfl
  have at_default := spoken_eq (v := .ofFiles files' env' [] logFilter' schedule') rfl
  refine ⟨with_argument.trans without.symm, ?_⟩
  rw [with_argument, at_default]
  show answer _ = answer (DisplayConfig.load files' _).1.headless ↔ _
  rw [used]
  exact answer_eq_iff monitors

/-- With the standard settings in the file that is named the argument makes no difference. -/
theorem argument_only_filters_standard :
    let c : DisplayConfig := { DisplayConfig.standard with logFilter := "debug" }
    DisplayConfig.tryLoad (alone c) "c.json" = .ok c ∧
      spoken (.ofFiles (alone c) home ["c.json"] none []) =
        spoken (.ofFiles (alone c) pointed [] none [3]) := by
  intro c
  refine ⟨tryLoad_alone c, (argument_only_filters (tryLoad_alone c) (tryLoad_pointed c) (by decide)
    none none [] [3]).2.mpr ?_⟩
  rw [load_home]
  exact ⟨by decide, rfl⟩

/-- Two monitors, and half as many dots again to an inch. -/
def tall : DisplayConfig :=
  { DisplayConfig.standard with headless := { HeadlessConfig.standard with
      monitors := [⟨⟨0, 0, 1920, 1080⟩, none, false⟩, ⟨⟨1920, 0, 2560, 1440⟩, none, true⟩]
      dpi := 144 } }

/-- **The named configuration is ignored.** It is loaded and has monitors, but the run measures what
the standard configuration has, for nothing is at the default path. -/
theorem argument_ignored :
    DisplayConfig.tryLoad (alone tall) "c.json" = .ok tall ∧ tall.headless.monitors ≠ [] ∧
      DisplayConfig.tryLoad (alone tall) (DisplayConfig.defaultPath pointed) = .ok tall ∧
      spoken (.ofFiles (alone tall) home ["c.json"] none []) = answer .standard ∧
      spoken (.ofFiles (alone tall) home ["c.json"] none []) ≠
        spoken (.ofFiles (alone tall) pointed [] none []) := by
  have monitors : tall.headless.monitors ≠ [] := by decide
  have ignored : spoken (.ofFiles (alone tall) home ["c.json"] none []) = answer .standard := by
    rw [spoken_eq (v := .ofFiles (alone tall) home ["c.json"] none []) (tryLoad_alone tall)]
    show answer (DisplayConfig.load (alone tall) (DisplayConfig.defaultPath home)).1.headless = _
    rw [load_home]
    rfl
  have counted : spoken (.ofFiles (alone tall) pointed [] none []) = answer tall.headless := by
    rw [spoken_eq (v := .ofFiles (alone tall) pointed [] none []) rfl]
    show answer (DisplayConfig.load (alone tall) (DisplayConfig.defaultPath pointed)).1.headless = _
    rw [DisplayConfig.load_eq, tryLoad_pointed]
  refine ⟨tryLoad_alone tall, monitors, tryLoad_pointed tall, ignored, fun same => ?_⟩
  rw [ignored, counted, answer_eq_iff monitors] at same
  -- four lines are not five
  have lines := congrArg List.length same.2
  simp [measures, tall, HeadlessConfig.standard, HeadlessConfig.defaultMonitors] at lines

end DisplayEnv.Probe
