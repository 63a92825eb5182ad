import DisplayEnv.Proofs.Display.Frame
import DisplayEnv.Proofs.Display.Mirrors
import DisplayEnv.Proofs.Monitors.Layouts

/-!
# Looking the layout up

A display asks the platform for its monitors when it remembers none, and remembers the layout of the
answer. The platform may answer anything, and another thing each time: a setting is *aloof* when
neither the enumeration nor the log changes what the display remembers (`Setting.Aloof`), and that
is all that is asked of it.

`Setting.recorded` is the same setting with a record of what every enumeration came to.

* `layout_kept`, `Aloof.layout_asked`: a lookup with a memory, and without one.
* `layout_recorded`: the record changes nothing about a lookup.
-/

namespace DisplayEnv

variable {σ τ α ρ : Type}

/-- What an enumeration of the monitors came to. -/
abbrev Enumeration := Outcome (Except PlatformError (List Monitor))

/-! ## A record of the enumerations -/

/-- What is recorded when code comes before an enumeration: that it kept the enumeration from being
made. -/
def refusalRecord : Outcome (Except PlatformError Unit) → List Enumeration
  | .done (.ok ()) => []
  | .done (.error e) => [.done (.error e)]
  | .fault c => [.fault c]
  | .stalled => [.stalled]

namespace Setting

/-- The same setting, with a record of what every enumeration came to. -/
def recorded (S : Setting σ τ) : Setting (σ × List Enumeration) τ where
  display := Lens.first.comp S.display
  note n := (S.note n).beside
  before point := fun p =>
    let r := S.before point p.1
    (r.1, r.2, if point = .monitors then p.2 ++ refusalRecord r.1 else p.2)
  report := fun p => let r := S.report p.1; (r.1, r.2, p.2 ++ [r.1.map .ok])
  openSource source := (S.openSource source).beside
  decoder := S.decoder
  run t := (S.run t).beside

/-- An enumeration is a report, unless what comes before refuses it. -/
theorem enumerate_apply (S : Setting σ τ) (s : σ) : S.enumerate s =
    match S.before .monitors s with
    | (.done (.ok ()), s₁) => ((S.report s₁).1.map .ok, (S.report s₁).2)
    | (.done (.error e), s₁) => (.done (.error e), s₁)
    | (.fault c, s₁) => (.fault c, s₁)
    | (.stalled, s₁) => (.stalled, s₁) := by
  unfold enumerate
  rw [Act.bind_apply]
  cases S.before .monitors s with
  | mk o s₁ =>
    match o with
    | .fault _ | .stalled | .done (.error _) => rfl
    | .done (.ok ()) => exact Act.bind_pure_apply S.report _ s₁

/-- **The record has what each enumeration came to**, and nothing else is different. -/
theorem enumerate_recorded (S : Setting σ τ) (s : σ) (es : List Enumeration) :
    S.recorded.enumerate (s, es) =
      ((S.enumerate s).1, (S.enumerate s).2, es ++ [(S.enumerate s).1]) := by
  have before : S.recorded.before .monitors (s, es) = ((S.before .monitors s).1,
      (S.before .monitors s).2, es ++ refusalRecord (S.before .monitors s).1) := rfl
  rw [enumerate_apply, enumerate_apply, before]
  cases S.before .monitors s with
  | mk o s₁ =>
    match o with
    | .fault _ | .stalled | .done (.error _) => rfl
    | .done (.ok ()) =>
      simp only [refusalRecord, List.append_nil]
      rfl

/-! ## Settings that leave the memory alone -/

/-- What a display remembers of its monitors, and whether it was torn down. -/
def memory (S : Setting σ τ) (s : σ) : Option Layout × Nat × Bool :=
  ((S.display.get s).layout, (S.display.get s).layouts, (S.display.get s).disposed)

/-- Neither the log nor an enumeration changes what the display remembers, and writing to the log
always ends. What an enumeration answers, and what else it changes, is not restricted. -/
structure Aloof (S : Setting σ τ) : Prop where
  lawful : S.display.Lawful
  told : ∀ n s, (S.note n s).1 = .done ()
  note : ∀ n, Act.Keeps S.memory (S.note n)
  before : Act.Keeps S.memory (S.before .monitors)
  report : Act.Keeps S.memory S.report

theorem Aloof.recorded {S : Setting σ τ} (hS : S.Aloof) : S.recorded.Aloof where
  lawful := Lens.lawful_first.comp hS.lawful
  told n p := hS.told n p.1
  note n p := hS.note n p.1
  before p := hS.before p.1
  report p := hS.report p.1

theorem Aloof.enumerate {S : Setting σ τ} (hS : S.Aloof) : Act.Keeps S.memory S.enumerate := by
  refine Act.Keeps.bind hS.before fun r => ?_
  cases r with
  | error e => exact .pure _
  | ok _ => exact Act.Keeps.bind hS.report fun _ => .pure _

/-! ## The layout, as a display looks it up -/

/-- What a display does with the layout of a report: it tells the log, and remembers the layout. -/
def remember (S : Setting σ τ) (report : List Monitor) (l : Layout) :
    Act σ (Except DisplayError Layout) := do
  if (Layout.flaggedIndex? report).isNone then S.note .noPrimaryMonitor
  S.note (.monitorsEnumerated l.monitors.length l.primaryIndex)
  S.display.change fun d => { d with layout := some l, layouts := d.layouts + 1 }
  return .ok l

variable {S : Setting σ τ} {s : σ} {l : Layout}

/-- A layout that is remembered is answered, and nothing is asked. -/
theorem layout_kept (h : (S.display.get s).layout = some l) : S.layout s = (.done (.ok l), s) := by
  unfold layout
  simp only [Act.bind_apply, Lens.view, Act.view_apply, h]
  rfl

/-- Without a memory the platform is asked, and what it answers decides. -/
theorem layout_asked (h : (S.display.get s).layout = none) : S.layout s =
    match S.enumerate s with
    | (.done (.error e), s₁) => (.done (.error (.platform e)), s₁)
    | (.done (.ok report), s₁) =>
      match Layout.ofReport report with
      | .error e => (.done (.error e), s₁)
      | .ok l => S.remember report l s₁
    | (.fault c, s₁) => (.fault c, s₁)
    | (.stalled, s₁) => (.stalled, s₁) := by
  unfold layout
  rw [Act.bind_apply]
  simp only [Lens.view, Act.view_apply, h]
  rw [Act.bind_apply]
  cases S.enumerate s with
  | mk o s₁ =>
    cases o with
    | fault _ | stalled => rfl
    | done r =>
      cases r with
      | error e => rfl
      | ok report =>
        simp only
        cases Layout.ofReport report <;> rfl

/-- What is beside the state stays when a layout is remembered. -/
theorem remember_keeps_record (report : List Monitor) (l : Layout) :
    Act.Keeps (Prod.snd : σ × List Enumeration → _) (S.recorded.remember report l) := by
  have noted (n : Notice) : Act.Keeps (Prod.snd : σ × List Enumeration → _) (S.recorded.note n) :=
    fun _ => rfl
  have rest := (noted (.monitorsEnumerated l.monitors.length l.primaryIndex)).bind fun _ =>
    Act.Keeps.bind (fun _ => rfl : Act.Keeps Prod.snd (S.recorded.display.change fun d =>
      { d with layout := some l, layouts := d.layouts + 1 })) fun _ =>
      Act.Keeps.pure (Except.ok l : Except DisplayError Layout)
  unfold remember
  split
  · exact (noted _).bind fun _ => rest
  · exact rest

theorem Aloof.remember_apply (hS : S.Aloof) (report : List Monitor) (l : Layout) (s : σ) :
    (S.remember report l s).1 = .done (.ok l) ∧ S.memory (S.remember report l s).2 =
      (some l, (S.display.get s).layouts + 1, (S.display.get s).disposed) := by
  have noted (n : Notice) (s : σ) : S.note n s = (.done (), (S.note n s).2) :=
    Prod.ext (hS.told n s) rfl
  -- the second note and the change, after the first note or without it
  have rest (s₁ : σ) (same : S.memory s₁ = S.memory s) : ∃ s', (do
      S.note (.monitorsEnumerated l.monitors.length l.primaryIndex)
      S.display.change fun d => { d with layout := some l, layouts := d.layouts + 1 }
      return .ok l : Act σ (Except DisplayError Layout)) s₁ = (.done (.ok l), s') ∧
      S.memory s' = (some l, (S.display.get s).layouts + 1, (S.display.get s).disposed) := by
    rw [Act.bind_apply, noted]
    refine ⟨_, rfl, ?_⟩
    have kept := (hS.note (.monitorsEnumerated l.monitors.length l.primaryIndex) s₁).trans same
    obtain ⟨-, kept⟩ := Prod.mk.inj kept
    obtain ⟨layouts, disposed⟩ := Prod.mk.inj kept
    simp only [memory, Lens.modify, hS.lawful.get_set, layouts, disposed]
  obtain ⟨s', run, kept⟩ : ∃ s', S.remember report l s = (.done (.ok l), s') ∧
      S.memory s' = (some l, (S.display.get s).layouts + 1, (S.display.get s).disposed) := by
    unfold remember
    split
    · rw [Act.bind_apply, noted]
      exact rest _ (hS.note .noPrimaryMonitor s)
    · exact rest s rfl
  rw [run]
  exact ⟨rfl, kept⟩

end Setting

/-- What a lookup of the layout ends with when an enumeration gives none. -/
inductive Enumeration.Fails : Enumeration → Outcome (Except DisplayError Layout) → Prop
  | refused (e : PlatformError) : Fails (.done (.error e)) (.done (.error (.platform e)))
  | empty : Fails (.done (.ok [])) (.done (.error .noMonitors))
  | gaveUp (c : Fault) : Fails (.fault c) (.fault c)
  | stalled : Fails .stalled .stalled

namespace Setting

variable {S : Setting σ τ} {s : σ} {l : Layout}

/-- **A lookup without a memory** is one enumeration. Either it fails, and nothing is remembered, or
it reports monitors, and their layout is. -/
theorem Aloof.layout_asked (hS : S.Aloof) (fresh : (S.display.get s).layout = none)
    (es : List Enumeration) : (S.recorded.layout (s, es)).2.2 = es ++ [(S.enumerate s).1] ∧
    ((Enumeration.Fails (S.enumerate s).1 (S.recorded.layout (s, es)).1 ∧
        S.memory (S.recorded.layout (s, es)).2.1 = S.memory s) ∨
      ∃ report l, (S.enumerate s).1 = .done (.ok report) ∧ Layout.ofReport report = .ok l ∧
        (S.recorded.layout (s, es)).1 = .done (.ok l) ∧ S.memory (S.recorded.layout (s, es)).2.1 =
          (some l, (S.display.get s).layouts + 1, (S.display.get s).disposed)) := by
  have fresh' : (S.recorded.display.get (s, es)).layout = none := fresh
  have kept := hS.enumerate s
  rw [Setting.layout_asked fresh', enumerate_recorded]
  cases run : S.enumerate s with
  | mk o s₁ =>
    rw [run] at kept
    match o with
    | .fault c => exact ⟨rfl, .inl ⟨.gaveUp c, kept⟩⟩
    | .stalled => exact ⟨rfl, .inl ⟨.stalled, kept⟩⟩
    | .done (.error e) => exact ⟨rfl, .inl ⟨.refused e, kept⟩⟩
    | .done (.ok report) =>
      simp only
      cases layout : Layout.ofReport report with
      | error e =>
        obtain ⟨rfl, rfl⟩ := Layout.ofReport_eq_error layout
        exact ⟨rfl, .inl ⟨.empty, kept⟩⟩
      | ok l =>
        obtain ⟨answered, remembered⟩ := hS.recorded.remember_apply report l
          (s₁, es ++ [.done (.ok report)])
        obtain ⟨-, same⟩ := Prod.mk.inj kept
        obtain ⟨layouts, disposed⟩ := Prod.mk.inj same
        refine ⟨remember_keeps_record report l _, .inr ⟨report, l, rfl, layout, answered, ?_⟩⟩
        rw [← layouts, ← disposed]
        exact remembered

/-- The record changes nothing about a lookup. -/
theorem layout_recorded (S : Setting σ τ) (p : σ × List Enumeration) :
    Lens.first.Mirrors p S.recorded.layout S.layout := by
  have note (n : Notice) (p : σ × List Enumeration) :
      Lens.first.Mirrors p (S.recorded.note n) (S.note n) := rfl
  refine Lens.Mirrors.bind (x := S.recorded.display.view (·.layout))
    (y := S.display.view (·.layout)) rfl fun found p => ?_
  cases found with
  | some l => exact .pure _
  | none =>
    refine Lens.Mirrors.bind (x := S.recorded.enumerate) (y := S.enumerate) ?_ fun r p => ?_
    · unfold Lens.Mirrors
      rw [enumerate_recorded]
      rfl
    · cases r with
      | error e => exact .pure _
      | ok report =>
        simp only
        cases Layout.ofReport report with
        | error e => exact .pure _
        | ok l =>
          have rest (p : σ × List Enumeration) :=
            (note (.monitorsEnumerated l.monitors.length l.primaryIndex) p).bind fun _ p =>
              Lens.Mirrors.bind (L := Lens.first) (s := p)
                (x := S.recorded.display.change fun d =>
                  { d with layout := some l, layouts := d.layouts + 1 })
                (y := S.display.change fun d =>
                  { d with layout := some l, layouts := d.layouts + 1 }) rfl fun _ _ =>
                .pure (Except.ok l : Except DisplayError Layout)
          simp only
          split
          · exact (note _ p).bind fun _ p => rest p
          · exact rest p

end Setting

end DisplayEnv
