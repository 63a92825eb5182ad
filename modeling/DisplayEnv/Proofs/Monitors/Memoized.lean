import DisplayEnv.Proofs.Monitors.Inquiries

/-!
# One report for all queries between two invalidations

What a display remembers is nothing, or the layout of one report (`Sound`), and every query keeps it
so. A stretch of queries without an invalidation starts with nothing remembered: the platform is
asked for each of them until it reports a monitor, and from there on all are answered from the
layout of that report (`Memoized`). The two queries for monitors look at the same layout, so at any
moment they agree (`Agree`).

* `Inquiries.memoized`: a stretch, by induction on its queries.
* `Inquiries.sound`: every run, by induction on it.
* `monitors_memoized`: both for every stretch of a run, over any platform.
-/

namespace DisplayEnv

variable {σ τ : Type}

/-- What the queries of a stretch come to, and what is remembered after them: the platform failed
all of them, or it failed some, the next one got the report, and nothing was asked for the rest. -/
inductive Memoized : List (Inquiry σ) → Option Layout → Prop
  | missed {tried : List (Inquiry σ)} (missed : ∀ i ∈ tried, i.Missed) : Memoized tried none
  | found {tried rest : List (Inquiry σ)} {first : Inquiry σ} {report : List Monitor} {l : Layout}
      (missed : ∀ i ∈ tried, i.Missed) (asked : first.asked = [.done (.ok report)])
      (normal : Layout.ofReport report = .ok l) (kept : ∀ i ∈ rest, i.asked = [])
      (answered : ∀ i ∈ first :: rest, i.outcome = .done (i.query.answer (.ok l))) :
      Memoized (tried ++ first :: rest) (some l)

/-- The answers of the query for all monitors and of the query for the primary one, from the same
state: the primary monitor is the only one with the flag, and errors are the same. -/
inductive Agree : Outcome Answer → Outcome Answer → Prop
  | found (monitors : List Monitor) (primary : Monitor)
      (flagged : monitors.filter (·.primary) = [primary]) :
      Agree (.done (.monitors (.ok monitors))) (.done (.monitor (.ok primary)))
  | failed (e : DisplayError) : Agree (.done (.monitors (.error e))) (.done (.monitor (.error e)))
  | gaveUp (c : Fault) : Agree (.fault c) (.fault c)
  | stalled : Agree .stalled .stalled

/-- A live display remembers nothing, or a layout with a single primary monitor. -/
structure Sound (memory : Option Layout × Nat × Bool) : Prop where
  live : memory.2.2 = false
  single : ∀ l, memory.1 = some l → l.Single

variable {S : Setting σ τ} {s s' : σ} {t l r : List (Inquiry σ)} {i : Inquiry σ} {n : Nat}

/-! ## One stretch -/

/-- One more query in a stretch. -/
theorem Memoized.concat (hS : S.Aloof) {q : Query} (hq : q ≠ .invalidate)
    (live : (S.display.get s).disposed = false) (h : Memoized t (S.display.get s).layout) :
    Memoized (t ++ [.of S q s]) (S.display.get (Inquiry.of S q s).after).layout := by
  cases memory : (S.display.get s).layout with
  | none =>
    rw [memory] at h
    cases h with
    | missed missed =>
      have fresh : S.memory s = (none, (S.display.get s).layouts, false) := by
        rw [← memory, ← live]
        rfl
      obtain ⟨again, after⟩ | ⟨report, l, asked, normal, answered, after⟩ :=
        Inquiry.of_asked hS hq fresh
      · rw [(Prod.mk.inj after).1]
        refine .missed fun i hi => ?_
        obtain hi | hi := List.mem_append.mp hi
        · exact missed i hi
        · rw [List.mem_singleton.mp hi]
          exact again
      · rw [(Prod.mk.inj after).1]
        refine .found missed asked normal (fun i hi => absurd hi List.not_mem_nil) fun i hi => ?_
        rw [List.mem_singleton.mp hi]
        exact answered
  | some l =>
    rw [memory] at h
    have kept : S.memory s = (some l, (S.display.get s).layouts, false) := by
      rw [← memory, ← live]
      rfl
    rw [Inquiry.of_kept hq kept]
    cases h with
    | @found tried rest first report _ missed asked normal unasked answered =>
      simp only [memory]
      rw [List.append_assoc, List.cons_append]
      refine .found missed asked normal (fun i hi => ?_) fun i hi => ?_
      · obtain hi | hi := List.mem_append.mp hi
        · exact unasked i hi
        · rw [List.mem_singleton.mp hi]
      · obtain rfl | hi := List.mem_cons.mp hi
        · exact answered i List.mem_cons_self
        obtain hi | hi := List.mem_append.mp hi
        · exact answered i (List.mem_cons_of_mem _ hi)
        · rw [List.mem_singleton.mp hi]

/-! ## Every run -/

/-- Every query keeps what is remembered sound. -/
theorem Sound.after (hS : S.Aloof) (h : Sound (S.memory s)) (q : Query) :
    Sound (S.memory (Inquiry.of S q s).after) := by
  by_cases hq : q = .invalidate
  · rw [hq, (Inquiry.of_invalidate hS).2.2]
    exact ⟨h.live, nofun⟩
  cases layout : (S.display.get s).layout with
  | none =>
    have fresh : S.memory s = (none, (S.display.get s).layouts, false) := by
      rw [← layout, ← h.live]
      rfl
    obtain ⟨-, after⟩ | ⟨report, l, -, normal, -, after⟩ := Inquiry.of_asked hS hq fresh
    · rw [after]
      exact ⟨rfl, nofun⟩
    · rw [after]
      refine ⟨rfl, fun l' same => ?_⟩
      rw [← Option.some.inj same]
      exact .of_ofReport normal
  | some l =>
    have kept : S.memory s = (some l, (S.display.get s).layouts, false) := by
      rw [← layout, ← h.live]
      rfl
    rw [Inquiry.of_kept hq kept]
    exact h

/-- **A run keeps what is remembered sound.** -/
theorem Inquiries.sound (hS : S.Aloof) (run : Inquiries S s t s') (h : Sound (S.memory s)) :
    Sound (S.memory s') := by
  induction run with
  | rest => exact h
  | ask _ q ih => exact ih.after hS q
  | meanwhile _ same ih =>
    rw [same]
    exact ih

/-- **The queries of a stretch**, when nothing is remembered before it. -/
theorem Inquiries.memoized (hS : S.Aloof) (run : Inquiries S s t s') (h : Sound (S.memory s))
    (fresh : (S.display.get s).layout = none) (stretch : ∀ i ∈ t, i.query ≠ .invalidate) :
    Memoized t (S.display.get s').layout := by
  induction run with
  | rest =>
    rw [fresh]
    exact .missed fun i hi => absurd hi List.not_mem_nil
  | ask run q ih =>
    have before := ih fun i hi => stretch i (List.mem_append_left _ hi)
    exact before.concat hS (stretch _ (List.mem_append_right _ List.mem_cons_self))
      (run.sound hS h).live
  | meanwhile _ same ih =>
    rw [(Prod.mk.inj same).1]
    exact ih stretch

/-- Nothing is remembered where a run ends with an invalidation. -/
theorem Inquiries.forgotten (hS : S.Aloof) (run : Inquiries S s t s')
    (fresh : (S.display.get s).layout = none) (h : ∀ i ∈ t.getLast?, i.query = .invalidate) :
    (S.display.get s').layout = none := by
  induction run with
  | rest => exact fresh
  | ask run q =>
    rw [List.getLast?_concat] at h
    obtain rfl : q = .invalidate := h _ rfl
    exact (Prod.mk.inj (Inquiry.of_invalidate hS).2.2).1
  | meanwhile _ same ih => exact (Prod.mk.inj same).1.trans (ih h)

/-- A run goes on with a query that comes to `i`. -/
theorem Inquiries.ask_of (run : Inquiries S s t s') (h : Inquiry.of S i.query s' = i) :
    Inquiries S s (t ++ [i]) i.after := by
  have asked := run.ask i.query
  rwa [h] at asked

/-- Every inquiry of a run is the call, from the state before it. -/
theorem Inquiries.call_eq (run : Inquiries S s t s') :
    ∀ i ∈ t, S.call i.query.call i.before = (i.outcome, i.after) := by
  induction run with
  | rest => exact fun i hi => absurd hi List.not_mem_nil
  | ask _ q ih =>
    intro i hi
    obtain hi | hi := List.mem_append.mp hi
    · exact ih i hi
    · rw [List.mem_singleton.mp hi]
      exact Inquiry.call_of S q _
  | meanwhile _ _ ih => exact ih

/-- The layout that is looked up has a single primary monitor. -/
theorem Sound.looked {l : Layout} (hS : S.Aloof) (h : Sound (S.memory s))
    (found : (S.layout s).1 = .done (.ok l)) : l.Single := by
  cases layout : (S.display.get s).layout with
  | some kept =>
    rw [Setting.layout_kept layout] at found
    obtain rfl : kept = l := by simpa using found
    exact h.single kept layout
  | none =>
    have same : (S.recorded.layout (s, [])).1 = .done (.ok l) :=
      (congrArg Prod.fst (S.layout_recorded (s, []))).trans found
    obtain ⟨-, missed | ⟨report, l', -, normal, answered, -⟩⟩ := hS.layout_asked layout []
    · rw [same] at missed
      generalize (S.enumerate s).1 = e at missed
      nomatch missed.1
    · obtain rfl : l' = l := by simpa [same] using answered.symm
      exact .of_ofReport normal

/-- **The two queries agree**, whatever is remembered. -/
theorem Sound.agree (hS : S.Aloof) (h : Sound (S.memory s)) :
    Agree (S.call .monitors s).1 (S.call .primaryMonitor s).1 ∧
      (S.call .monitors s).2 = (S.call .primaryMonitor s).2 := by
  have monitors : S.call .monitors s = _ := S.call_query (q := .monitors) nofun h.live
  have primary : S.call .primaryMonitor s = _ := S.call_query (q := .primaryMonitor) nofun h.live
  rw [monitors, primary]
  refine ⟨?_, rfl⟩
  cases found : (S.layout s).1 with
  | fault c => exact .gaveUp c
  | stalled => exact .stalled
  | done r =>
    cases r with
    | error e => exact .failed e
    | ok l =>
      obtain ⟨m, at_index, flagged⟩ := (h.looked hS found).exists_primary
      simp only [Outcome.map, Query.answer, at_index]
      exact .found l.monitors m flagged

/-! ## Whole runs -/

/-- **Monitors are remembered.** Take any queries about the monitors of a live display that
remembers none at first, over a platform that answers anything. Each of them is the call itself,
with a record of what the platform was asked for it. In every stretch of them that starts the run or
comes after an invalidation, and has no invalidation inside, the platform is asked for each query
until it reports a monitor, and not again; the failed queries leave nothing behind, and all others
are answered from the layout of that report. Wherever the run ends, the primary monitor that is
remembered is the only one with the flag, and the two queries for monitors agree. -/
theorem monitors_memoized (hS : S.Aloof) (live : (S.display.get s).disposed = false)
    (fresh : (S.display.get s).layout = none) (run : Inquiries S s t s') :
    (∀ i ∈ t, S.call i.query.call i.before = (i.outcome, i.after)) ∧
      (∀ l stretch r, t = l ++ stretch ++ r → (∀ i ∈ l.getLast?, i.query = .invalidate) →
        (∀ i ∈ stretch, i.query ≠ .invalidate) →
        ∃ s₁ s₂, Inquiries S s l s₁ ∧ Inquiries S s₁ stretch s₂ ∧ Inquiries S s₂ r s' ∧
          (S.display.get s₁).layout = none ∧ Memoized stretch (S.display.get s₂).layout) ∧
      (∀ l, (S.display.get s').layout = some l → l.Single) ∧
      Agree (S.call .monitors s').1 (S.call .primaryMonitor s').1 ∧
      (S.call .monitors s').2 = (S.call .primaryMonitor s').2 := by
  have sound : Sound (S.memory s) := ⟨live, fun l h => absurd (fresh.symm.trans h) nofun⟩
  refine ⟨run.call_eq, fun l stretch r parts invalidated queries => ?_,
    (run.sound hS sound).single, (run.sound hS sound).agree hS⟩
  rw [parts] at run
  obtain ⟨s₂, front, back⟩ := run.of_append
  obtain ⟨s₁, first, second⟩ := front.of_append
  have forgotten := first.forgotten hS fresh invalidated
  exact ⟨s₁, s₂, first, second, back, forgotten,
    second.memoized hS (first.sound hS sound) forgotten queries⟩

/-! ## A platform that answers by a script -/

/-- A display whose platform answers enumerations by a script: each takes the next answer. -/
def Setting.scripted :
    Setting (Display Empty × List (Except PlatformError (List Monitor))) Empty where
  display := .first
  note _ := pure ()
  before
    | .monitors => fun p =>
      match p.2 with
      | .error e :: script => (.done (.error e), p.1, script)
      | _ => (.done (.ok ()), p)
    | _ => pure (.ok ())
  report := fun p =>
    match p.2 with
    | .ok report :: script => (.done report, p.1, script)
    | _ => (.done [], p)
  openSource _ := pure (.ok [])
  decoder := Picture.decode
  run := nofun

theorem Setting.aloof_scripted : scripted.Aloof where
  lawful := Lens.lawful_first
  told _ _ := rfl
  note _ _ := rfl
  before p := by
    obtain ⟨d, script⟩ := p
    match script with
    | [] | .error e :: script | .ok report :: script => rfl
  report p := by
    obtain ⟨d, script⟩ := p
    match script with
    | [] | .error e :: script | .ok report :: script => rfl

/-- A platform that first is lost, then reports two monitors without a flag, and one after an
invalidation. The second query gets the report and the third is answered without another one. -/
theorem monitors_memoized_scripted :
    let lost := PlatformError.connection "lost"
    let left : Monitor := ⟨1, ⟨0, 0, 640, 480⟩, ⟨0, 0, 640, 460⟩, false⟩
    let right : Monitor := ⟨2, ⟨640, 0, 640, 480⟩, ⟨640, 0, 640, 480⟩, false⟩
    let script := [.error lost, .ok [left, right], .ok [right]]
    ∃ t s', Inquiries Setting.scripted (Display.new 0 default, script) t s' ∧
      t.map (·.query) = [.monitors, .primaryMonitor, .monitors, .invalidate, .monitors] ∧
      t.map (·.asked) =
        [[.done (.error lost)], [.done (.ok [left, right])], [], [], [.done (.ok [right])]] ∧
      t.map (·.outcome) = [.done (.monitors (.error (.platform lost))),
        .done (.monitor (.ok { left with primary := true })),
        .done (.monitors (.ok [{ left with primary := true }, right])), .done .nothing,
        .done (.monitors (.ok [{ right with primary := true }]))] ∧
      ∃ s₁ s₂, Inquiries Setting.scripted s₁ (t.take 3) s₂ ∧
        Memoized (t.take 3) (Setting.scripted.display.get s₂).layout := by
  intro lost left right script
  let empty : Display Empty := Display.new 0 default
  let both : Layout := ⟨[{ left with primary := true }, right], 0⟩
  let one : Layout := ⟨[{ right with primary := true }], 0⟩
  let full : Display Empty := { empty with layout := some both, layouts := 1 }
  let missed : Inquiry (Display Empty × _) := ⟨(empty, script), .monitors,
    .done (.monitors (.error (.platform lost))), [.done (.error lost)], (empty, script.drop 1)⟩
  let found : Inquiry (Display Empty × _) := ⟨(empty, script.drop 1), .primaryMonitor,
    .done (.monitor (.ok { left with primary := true })), [.done (.ok [left, right])],
    (full, script.drop 2)⟩
  let kept : Inquiry (Display Empty × _) := ⟨(full, script.drop 2), .monitors,
    .done (.monitors (.ok [{ left with primary := true }, right])), [], (full, script.drop 2)⟩
  let forgotten : Inquiry (Display Empty × _) := ⟨(full, script.drop 2), .invalidate,
    .done .nothing, [], ({ full with layout := none }, script.drop 2)⟩
  let again : Inquiry (Display Empty × _) := ⟨({ full with layout := none }, script.drop 2),
    .monitors, .done (.monitors (.ok [{ right with primary := true }])), [.done (.ok [right])],
    ({ full with layout := some one, layouts := 2 }, [])⟩
  have run : Inquiries Setting.scripted (empty, script) [missed, found, kept, forgotten, again] _ :=
    (((((Inquiries.rest _).ask_of (i := missed) rfl).ask_of (i := found) rfl).ask_of (i := kept)
      rfl).ask_of (i := forgotten) rfl).ask_of (i := again) rfl
  have remembered := monitors_memoized Setting.aloof_scripted rfl rfl run
  obtain ⟨s₁, s₂, -, stretch, -, -, memoized⟩ := remembered.2.1 [] [missed, found, kept]
    [forgotten, again] rfl (by simp) (by simp [missed, found, kept])
  exact ⟨_, _, run, rfl, rfl, rfl, s₁, s₂, stretch, memoized⟩

end DisplayEnv
