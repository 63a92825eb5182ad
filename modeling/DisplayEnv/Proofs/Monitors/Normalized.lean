import DisplayEnv.Proofs.Display.Contents
import DisplayEnv.Proofs.Events.Unseen
import DisplayEnv.Proofs.Monitors.Layouts

/-!
# Reports are normalized

`Layout.Normalizes` says what the layout of a report is to be, without saying how it is found: the
monitors of the report in their order, with the flag at one index, and that is where the first flag
of the report is, or the first monitor when there is none (`Layout.Chosen`). There is at most one
such layout, `Layout.ofReport` finds it, and it is its own layout.

A display keeps the layout of the one report that its backend makes of its settings, through every
history, and answers its monitors.

* `Layout.ofReport_eq_ok_iff_normalizes`: what a report gives.
* `Layout.Normalizes.again`: a layout that is normalized again.
* `History.layout_kept`: what a display keeps.
* `monitors_normalized`: all reports, and the monitors of a display with any settings.
-/

namespace DisplayEnv

/-- The monitor without a flag. -/
def Monitor.unflagged (m : Monitor) : Monitor := { m with primary := false }

/-- A monitor is told by what it is without its flag, and by its flag. -/
theorem Monitor.eq_of_unflagged {m m' : Monitor} (same : m.unflagged = m'.unflagged)
    (flag : m.primary = true ↔ m'.primary = true) : m = m' := by
  obtain ⟨id, bounds, workArea, primary⟩ := m
  obtain ⟨id', bounds', workArea', primary'⟩ := m'
  obtain ⟨rfl, rfl, rfl, -⟩ := Monitor.mk.inj same
  obtain rfl : primary = primary' := Bool.eq_iff_iff.mpr flag
  rfl

/-- So are some monitors in a row. -/
theorem Monitor.eq_of_map_unflagged {ms ms' : List Monitor}
    (same : ms.map Monitor.unflagged = ms'.map Monitor.unflagged)
    (flag : ∀ i (_ : i < ms.length) (_ : i < ms'.length),
      ms[i].primary = true ↔ ms'[i].primary = true) : ms = ms' := by
  have length : ms.length = ms'.length := by simpa using congrArg List.length same
  refine List.ext_getElem length fun i inside inside' => eq_of_unflagged ?_ (flag i inside inside')
  rw [← List.getElem_map Monitor.unflagged (h := by rwa [List.length_map]),
    ← List.getElem_map Monitor.unflagged (h := by rwa [List.length_map])]
  exact List.getElem_of_eq same _

namespace Layout

variable {report : List Monitor} {l : Layout} {index : Nat}

/-! ## What a layout is to be -/

/-- The index at which the first flag of a report is, or that of the first monitor when the report
has no flag. -/
inductive Chosen (report : List Monitor) : Nat → Prop
  | flagged {before after : List Monitor} {m : Monitor} (split : report = before ++ m :: after)
      (flag : m.primary = true) (none_before : ∀ m ∈ before, m.primary = false) :
      Chosen report before.length
  | unflagged (none : ∀ m ∈ report, m.primary = false) : Chosen report 0

/-- The layout has the monitors of the report in their order, and the flag at its index only. -/
structure Normalizes (l : Layout) (report : List Monitor) : Prop where
  kept : l.monitors.map Monitor.unflagged = report.map Monitor.unflagged
  chosen : Chosen report l.primaryIndex
  inside : l.primaryIndex < l.monitors.length
  flagged : ∀ i (_ : i < l.monitors.length), l.monitors[i].primary = true ↔ i = l.primaryIndex

/-! ## The index -/

theorem chosen_of_getElem (inside : index < report.length) (flag : report[index].primary = true)
    (none_before : ∀ i (h : i < index), report[i].primary = false) : Chosen report index := by
  have split : report = report.take index ++ report[index] :: report.drop (index + 1) := by
    rw [List.getElem_cons_drop, List.take_append_drop]
  have length : (report.take index).length = index := List.length_take_of_le inside.le
  refine length ▸ Chosen.flagged split flag fun m mem => ?_
  obtain ⟨i, before, rfl⟩ := List.mem_iff_getElem.mp mem
  rw [List.getElem_take]
  exact none_before i (length ▸ before)

theorem chosen_iff : Chosen report index ↔ index = (flaggedIndex? report).getD 0 := by
  unfold flaggedIndex?
  constructor
  · rintro (⟨rfl, flag, none_before⟩ | none)
    · have skipped := List.findIdx?_eq_none_iff.mpr none_before
      rw [List.findIdx?_append, skipped, List.findIdx?_cons, if_pos flag]
      exact (Nat.zero_add _).symm
    · rw [List.findIdx?_eq_none_iff.mpr none, Option.getD_none]
  · rintro rfl
    cases found : report.findIdx? (·.primary) with
    | none => exact .unflagged (List.findIdx?_eq_none_iff.mp found)
    | some i =>
      obtain ⟨inside, flag, first⟩ := List.findIdx?_eq_some_iff_getElem.mp found
      exact chosen_of_getElem inside flag fun j before => by simpa using first j before

/-! ## The layout -/

theorem map_unflagged_flagOnly (report : List Monitor) (index : Nat) :
    (flagOnly report index).map Monitor.unflagged = report.map Monitor.unflagged := by
  refine List.ext_getElem (by simp [flagOnly]) fun i _ _ => ?_
  simp [flagOnly, Monitor.unflagged]

theorem Normalizes.length (h : l.Normalizes report) : l.monitors.length = report.length := by
  have same := congrArg List.length h.kept
  rwa [List.length_map, List.length_map] at same

/-- What does not read the flags is the same of the report. -/
theorem Normalizes.map_eq {α : Type} (h : l.Normalizes report) (f : Monitor → α)
    (blind : ∀ m, f m.unflagged = f m) : l.monitors.map f = report.map f := by
  have same := congrArg (List.map f) h.kept
  simpa [List.map_map, Function.comp_def, blind] using same

/-- **A report gives the layout that it is to have**, and no other one. -/
theorem ofReport_eq_ok_iff_normalizes : ofReport report = .ok l ↔ l.Normalizes report := by
  rw [ofReport_eq_ok_iff]
  constructor
  · rintro ⟨some_monitor, rfl⟩
    refine ⟨map_unflagged_flagOnly _ _, chosen_iff.mpr rfl, ?_, fun i h => ?_⟩
    · show _ < (flagOnly _ _).length
      rw [flagOnly, List.length_mapIdx]
      exact index_lt some_monitor
    · simp [flagOnly]
  · intro h
    have index : l.primaryIndex = (flaggedIndex? report).getD 0 := chosen_iff.mp h.chosen
    refine ⟨?_, ?_⟩
    · rintro rfl
      exact absurd h.inside (by rw [h.length]; exact Nat.not_lt_zero _)
    · rw [← index]
      refine congrArg (Layout.mk · l.primaryIndex) ?_
      have same := h.kept.trans (map_unflagged_flagOnly report l.primaryIndex).symm
      refine Monitor.eq_of_map_unflagged same fun i inside _ => ?_
      rw [h.flagged i inside]
      simp [flagOnly]

/-- A layout is its own layout. -/
theorem Normalizes.again (h : l.Normalizes report) : l.Normalizes l.monitors := by
  refine ⟨rfl, ?_, h.inside, h.flagged⟩
  refine chosen_of_getElem h.inside ((h.flagged _ h.inside).mpr rfl) fun i before => ?_
  rw [← Bool.not_eq_true, h.flagged]
  exact before.ne

/-- Exactly one monitor has the flag. -/
theorem Normalizes.count (h : l.Normalizes report) : l.monitors.countP (·.primary) = 1 := by
  have single := Single.of_ofReport (ofReport_eq_ok_iff_normalizes.mpr h)
  obtain ⟨m, -, flagged⟩ := single.exists_primary
  rw [List.countP_eq_length_filter, flagged, List.length_singleton]

end Layout

/-! ## The monitors of a display -/

variable {σ τ : Type} {config : HeadlessConfig} {t : List (Moment τ)} {d : Display τ}

/-- The monitors are numbered from one in the order of the settings. Each has the bounds that are
set for it, and for its work area the one that is set or else its bounds. One has the flag. -/
structure HeadlessConfig.Shows (config : HeadlessConfig) (monitors : List Monitor) : Prop where
  ids : monitors.map (·.id) = List.range' 1 config.monitors.length
  bounds : monitors.map (·.bounds) = config.monitors.map (·.bounds)
  workAreas : monitors.map (·.workArea) = config.monitors.map fun m => m.workArea.getD m.bounds
  primary : monitors.countP (·.primary) = 1

theorem HeadlessConfig.report_eq_nil_iff : config.report = [] ↔ config.monitors = [] := by
  unfold report
  exact List.mapIdx_eq_nil_iff

/-- What is read off a monitor of the report without its number is read off its settings. -/
theorem HeadlessConfig.map_report {α : Type} {f : Monitor → α} {g : MonitorConfig → α}
    (same : ∀ id m, f ⟨id, m.bounds, m.workArea.getD m.bounds, m.primary⟩ = g m) :
    config.report.map f = config.monitors.map g := by
  refine List.ext_getElem (by simp [report]) fun i _ _ => ?_
  simp [report, same]

/-- The layout of the backend's report shows its settings. -/
theorem Layout.Normalizes.shows {l : Layout} (h : l.Normalizes config.report) :
    config.Shows l.monitors where
  ids := by
    rw [h.map_eq (·.id) fun _ => rfl]
    refine List.ext_getElem (by simp [HeadlessConfig.report]) fun i _ _ => ?_
    simp [HeadlessConfig.report, Nat.add_comm]
  bounds := (h.map_eq (·.bounds) fun _ => rfl).trans (config.map_report fun _ _ => rfl)
  workAreas := (h.map_eq (·.workArea) fun _ => rfl).trans (config.map_report fun _ _ => rfl)
  primary := h.count

namespace Display

variable (d) (opening : Opening)

theorem resolve_layout (sh : Shelf) (k : sh.Key) (make : Making τ sh.Handle) :
    (d.resolve sh k make).2.layout = d.layout := by
  have outcome := d.resolves sh k make
  generalize d.resolve sh k make = r at outcome ⊢
  cases outcome with
  | ended _ => rfl
  | found _ _ | made _ _ _ | refused _ _ _ | gaveUp _ _ _ => cases sh <;> rfl

theorem resolveScratch_layout : d.resolveScratch.2.layout = d.layout := by
  have outcome := d.resolvesScratch
  generalize d.resolveScratch = r at outcome ⊢
  cases outcome <;> rfl

theorem release_layout (sh : Shelf) (k : sh.Key) : (d.release sh k).2.layout = d.layout := by
  unfold release
  split
  · cases sh <;> rfl
  · rfl

/-- What a call leaves of the layout: what was there, or nothing, or the layout of the backend's
report. -/
theorem after_layout (c : Call τ) : (d.after opening c).layout = d.layout ∨
    (d.after opening c).layout = none ∨
      ∃ l, (d.after opening c).layout = some l ∧
        Layout.ofReport d.backend.config.report = .ok l := by
  cases c with
  | resolveColor _ | resolveFont _ | resolveImage _ | image _ => exact .inl (d.resolve_layout _ _ _)
  | releaseColor _ | releaseFont _ | releaseImage _ => exact .inl (d.release_layout _ _)
  | scratchGc => exact .inl d.resolveScratch_layout
  | textExtent f _ =>
    refine .inl ?_
    show (d.measured f).layout = d.layout
    have once : (d.resolveFont f).2.layout = d.layout := d.resolve_layout _ _ _
    rcases d.measured_eq f with same | same
    · rw [same, once]
    · rw [same, resolveScratch_layout, once]
  | monitors | primaryMonitor =>
    show d.enumerated.layout = _ ∨ d.enumerated.layout = _ ∨ ∃ l, d.enumerated.layout = _ ∧ _
    unfold enumerated
    split
    · exact .inl rfl
    · split
      · exact .inl rfl
      · split
        · exact .inl rfl
        · rename_i l normal
          exact .inr (.inr ⟨l, rfl, normal⟩)
  | teardown | drop =>
    unfold after
    simp only
    split
    · exact .inl rfl
    · exact .inr (.inl rfl)
  | dispatch _ =>
    refine .inl ?_
    show d.dispatched.layout = d.layout
    unfold dispatched
    split <;> rfl
  | invalidateMonitors => exact .inr (.inl rfl)
  | releaseAllColors | releaseAllFonts | releaseAllImages | stats | createWindow | destroyWindow _
  | post _ | send _ | pendingEvents | sleep | closeBackend => exact .inl rfl

end Display

/-- **The layout that is kept is that of the settings**, throughout every history. -/
theorem History.layout_kept (h : History (fun _ => True) config t d) :
    d.backend.config = config ∧
      ∀ l, d.layout = some l → Layout.ofReport config.report = .ok l := by
  refine h.invariant (P := fun _ d => d.backend.config = config ∧
    ∀ l, d.layout = some l → Layout.ofReport config.report = .ok l) (fun id => ⟨rfl, nofun⟩) ?_
  rintro t d c opening - - ⟨rfl, kept⟩ -
  refine ⟨d.after_config opening c, fun l now => ?_⟩
  rcases d.after_layout opening c with same | gone | ⟨l', found, normal⟩
  · exact kept l (same.symm.trans now)
  · cases gone.symm.trans now
  · obtain rfl : l' = l := Option.some.inj (found.symm.trans now)
    exact normal

/-- A display answers the monitors of that layout until it is torn down. -/
theorem History.monitors_answer (h : History (fun _ => True) config t d) {l : Layout}
    (normal : Layout.ofReport config.report = .ok l) (opening : Opening) :
    ((Setting.alone opening).monitors d).1 =
      .done (if d.disposed then .error .disposed else .ok l.monitors) := by
  obtain ⟨settings, kept⟩ := h.layout_kept
  rw [alone_monitors_fst, alone_layout_fst, settings]
  cases d.disposed with
  | true => rfl
  | false =>
    cases found : d.layout with
    | none =>
      simp only [normal]
      rfl
    | some l' =>
      obtain rfl : l = l' := Except.ok.inj (normal.symm.trans (kept l' found))
      rfl

/-- **Reports are normalized.** A report is refused if and only if it is empty. Any other one gives
the one layout that normalizes it, with its monitors in their order and the only flag at the index
that is kept, where the first flag of the report is or else its first monitor; that layout is its own
layout. So a display over any settings with a monitor, after every history, shows the monitors of
the settings until it is torn down. -/
theorem monitors_normalized :
    (∀ report : List Monitor,
      (∀ e, Layout.ofReport report = .error e ↔ report = [] ∧ e = .noMonitors) ∧
      (∀ l, Layout.ofReport report = .ok l ↔ l.Normalizes report) ∧
      ∀ l, Layout.ofReport report = .ok l → Layout.ofReport l.monitors = .ok l) ∧
    ∀ (σ τ : Type) (S : Setting σ τ) (s : σ) (config : HeadlessConfig) (t : List (Moment τ)),
      S.Quiet → History (fun _ => True) config t (S.display.get s) → config.monitors ≠ [] →
        ∃ monitors, config.Shows monitors ∧ (S.monitors s).1 =
          .done (if (S.display.get s).disposed then .error .disposed else .ok monitors) := by
  refine ⟨fun report => ⟨fun e => ⟨Layout.ofReport_eq_error, ?_⟩, fun l => ?_, fun l h => ?_⟩, ?_⟩
  · rintro ⟨rfl, rfl⟩
    rfl
  · exact Layout.ofReport_eq_ok_iff_normalizes
  · rw [Layout.ofReport_eq_ok_iff_normalizes] at h ⊢
    exact h.again
  · intro σ τ S s config t quiet history some_monitor
    have reported : config.report ≠ [] :=
      fun h => some_monitor (HeadlessConfig.report_eq_nil_iff.mp h)
    have normal := Layout.ofReport_eq_ok_iff.mpr ⟨reported, rfl⟩
    refine ⟨_, (Layout.ofReport_eq_ok_iff_normalizes.mp normal).shows, ?_⟩
    rw [← history.monitors_answer normal .nothing]
    exact congrArg Prod.fst quiet.monitors

/-- Three monitors, of which two have a flag and one a work area. -/
def threeMonitors : HeadlessConfig where
  monitors := [⟨⟨0, 0, 640, 480⟩, none, false⟩, ⟨⟨640, 0, 640, 480⟩, some ⟨640, 0, 640, 460⟩, true⟩,
    ⟨⟨1280, -90, 640, 480⟩, none, true⟩]
  dpi := 96
  idleWaitMs := 0

/-- The monitors are asked for again after an invalidation, and the second of three has the flag. -/
theorem monitors_normalized_again :
    let S : Setting (Display Nat) Nat := .plain .empty fun _ => pure (.ok ())
    let d := left .nothing (.new 0 (.new threeMonitors))
      [.monitors, .resolveColor .black, .invalidateMonitors, .primaryMonitor]
    (∃ monitors, threeMonitors.Shows monitors ∧ (S.monitors d).1 = .done (.ok monitors)) ∧
      ∃ l, Layout.ofReport threeMonitors.report = .ok l ∧ l.primaryIndex = 1 ∧
        Layout.ofReport l.monitors = .ok l := by
  intro S d
  obtain ⟨reports, displays⟩ := monitors_normalized
  have history : History (fun _ => True) threeMonitors _ d :=
    ⟨0, .moments .nothing (.new 0 (.new threeMonitors)) fun _ _ => trivial⟩
  refine ⟨displays _ _ S d _ _ (Setting.plain_quiet _ _) history nofun, ?_⟩
  exact ⟨_, rfl, rfl, (reports threeMonitors.report).2.2 _ rfl⟩

end DisplayEnv
