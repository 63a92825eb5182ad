import DisplayEnv.Monitor

/-!
# The layout of a report

A report that is not empty gives a layout: its monitors in their order, with the flag at one of them
only. `Layout.Single` says that of a layout, and it is all that anything else here knows of one: the
index is inside the list, and the monitor there is the only one with a flag.

* `ofReport_eq_ok_iff`: which reports give a layout, and which one.
* `Single.of_ofReport`: the layout of a report has a single primary monitor.
-/

namespace DisplayEnv.Layout

variable {report : List Monitor} {l : Layout}

/-- The monitor at the index of the layout is there, and no other one has a flag. -/
structure Single (l : Layout) : Prop where
  inside : l.primaryIndex < l.monitors.length
  flagged : l.monitors.filter (·.primary) = l.primary?.toList

/-- The primary monitor is the single one with a flag. -/
theorem Single.exists_primary (h : l.Single) :
    ∃ m, l.primary? = some m ∧ l.monitors.filter (·.primary) = [m] := by
  have found : l.primary? = some (l.monitors.get ⟨_, h.inside⟩) := List.getElem?_eq_getElem h.inside
  exact ⟨_, found, by rw [h.flagged, found, Option.toList_some]⟩

/-- **A report gives a layout unless it is empty.** -/
theorem ofReport_eq_ok_iff : ofReport report = .ok l ↔
    report ≠ [] ∧ l = ⟨flagOnly report ((flaggedIndex? report).getD 0),
      (flaggedIndex? report).getD 0⟩ := by
  unfold ofReport
  cases report with
  | nil => simp
  | cons m rest => simp [eq_comm]

/-- Only the empty report is refused. -/
theorem ofReport_eq_error {e : DisplayError} (h : ofReport report = .error e) :
    report = [] ∧ e = .noMonitors := by
  cases report with
  | nil => exact ⟨rfl, (Except.error.inj h).symm⟩
  | cons m rest => cases h

/-- What has a flag is the monitor at the index. -/
theorem filter_flagOnly (report : List Monitor) (index : Nat) :
    (flagOnly report index).filter (·.primary) = (flagOnly report index)[index]?.toList := by
  unfold flagOnly
  induction report generalizing index with
  | nil => rfl
  | cons m rest ih =>
    cases index with
    | zero =>
      -- behind the first monitor none has a flag
      have others : ∀ a ∈ rest.mapIdx fun i m => ({ m with primary := i + 1 == 0 } : Monitor),
          ¬ a.primary = true := by
        intro a ha
        obtain ⟨i, hi, rfl⟩ := List.mem_mapIdx.mp ha
        exact nofun
      rw [List.mapIdx_cons, List.filter_cons_of_pos rfl, List.filter_eq_nil_iff.mpr others]
      rfl
    | succ index => simpa [List.mapIdx_cons] using ih index

/-- The index of a report that is not empty is inside it. -/
theorem index_lt (h : report ≠ []) : (flaggedIndex? report).getD 0 < report.length := by
  unfold flaggedIndex?
  cases found : report.findIdx? (·.primary) with
  | none => exact List.length_pos_iff.mpr h
  | some i => exact (List.findIdx?_eq_some_iff_getElem.mp found).1

/-- **The layout of a report has a single primary monitor.** -/
theorem Single.of_ofReport (h : ofReport report = .ok l) : l.Single := by
  obtain ⟨some_monitor, rfl⟩ := ofReport_eq_ok_iff.mp h
  refine ⟨?_, filter_flagOnly _ _⟩
  show _ < (flagOnly _ _).length
  rw [flagOnly, List.length_mapIdx]
  exact index_lt some_monitor

end DisplayEnv.Layout
