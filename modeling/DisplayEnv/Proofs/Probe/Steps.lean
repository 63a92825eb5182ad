import DisplayEnv.Probe
import DisplayEnv.Proofs.Display.Frame
import DisplayEnv.Proofs.Display.Mirrors
import DisplayEnv.Proofs.Events.Lockstep

/-!
# The steps of the probe

What the probe prints does not depend on the notices between the lines. `said` is what comes out
without them, and `Gives x s a lines P` says of a step that from `s` it answers `a`, prints `lines`
and leaves a display with the property `P`. Steps are put together by `Gives.bind` and
`Gives.andThen`, and an operation of the display gives what it gives on the display alone.

* `said_shown`: no filter keeps anything back of what is said.
* `gives_of_mirrors`: an operation of the display.
-/

namespace DisplayEnv.Probe

variable {α β : Type} {s : Stand} {a : α} {b : β} {lines more : List Line}
  {P Q : Display Task → Prop}

/-! ## What is said -/

/-- What comes out but for the notices. -/
def said (out : List Line) : List Line := out.filter (!isNotice ·)

theorem said_append (l r : List Line) : said (l ++ r) = said l ++ said r := List.filter_append ..

/-- A filter shows all that is said. -/
theorem said_shown (f : Filter) (out : List Line) : said (shown f out) = said out := by
  unfold said shown
  rw [List.filter_filter]
  refine List.filter_congr fun l _ => ?_
  cases l <;> simp [isNotice]

/-! ## Steps -/

/-- From `s`, the step answers `a`, prints `lines` and leaves a display with the property `P`. -/
def Gives (x : Act Stand α) (s : Stand) (a : α) (lines : List Line) (P : Display Task → Prop) :
    Prop := ∃ s', x s = (.done a, s') ∧ P s'.display ∧ said s'.out = said s.out ++ lines

namespace Gives

theorem pure (a : α) (h : P s.display) : Gives (Pure.pure a) s a [] P :=
  ⟨s, rfl, h, (List.append_nil _).symm⟩

theorem view (f : Stand → α) (h : P s.display) : Gives (Act.view f) s (f s) [] P :=
  ⟨s, rfl, h, (List.append_nil _).symm⟩

/-- A step that is known, before another one. -/
theorem step {x : Act Stand α} {f : α → Act Stand β} {s' : Stand} (run : x s = (.done a, s'))
    (printed : said s'.out = said s.out ++ lines) (hf : Gives (f a) s' b more Q) :
    Gives (x >>= f) s b (lines ++ more) Q := by
  obtain ⟨s'', run', h', printed'⟩ := hf
  refine ⟨s'', ?_, h', ?_⟩
  · rw [Act.bind_apply, run]
    exact run'
  · rw [printed', printed, List.append_assoc]

/-- A step that is known and says nothing, before another one. -/
theorem after {x : Act Stand α} {f : α → Act Stand β} (s' : Stand) (run : x s = (.done a, s'))
    (silent : said s'.out = said s.out) (hf : Gives (f a) s' b lines P) :
    Gives (x >>= f) s b lines P := step run (silent.trans (List.append_nil _).symm) hf

theorem bind {x : Act Stand α} {f : α → Act Stand β} (hx : Gives x s a lines P)
    (hf : ∀ s', P s'.display → Gives (f a) s' b more Q) :
    Gives (x >>= f) s b (lines ++ more) Q := by
  obtain ⟨s', run, h, printed⟩ := hx
  exact step run printed (hf s' h)

/-- A step before another one that prints nothing. -/
theorem bind_silent {x : Act Stand α} {f : α → Act Stand β} (hx : Gives x s a lines P)
    (hf : ∀ s', P s'.display → Gives (f a) s' b [] Q) : Gives (x >>= f) s b lines Q := by
  have both := hx.bind hf
  rwa [List.append_nil] at both

/-- What is printed later may turn out only then. -/
theorem bind_exists {ι : Type} {x : Act Stand α} {f : α → Act Stand β} {more : ι → List Line}
    (hx : Gives x s a lines P) (hf : ∀ s', P s'.display → ∃ i, Gives (f a) s' b (more i) Q) :
    ∃ i, Gives (x >>= f) s b (lines ++ more i) Q := by
  obtain ⟨s', run, h, printed⟩ := hx
  obtain ⟨i, rest⟩ := hf s' h
  exact ⟨i, step run printed rest⟩

/-- A step that prints nothing, before another one. -/
theorem seq {x : Act Stand α} {f : α → Act Stand β} (hx : Gives x s a [] P)
    (hf : ∀ s', P s'.display → Gives (f a) s' b lines Q) : Gives (x >>= f) s b lines Q := hx.bind hf

theorem seq_exists {ι : Type} {x : Act Stand α} {f : α → Act Stand β} {more : ι → List Line}
    (hx : Gives x s a [] P) (hf : ∀ s', P s'.display → ∃ i, Gives (f a) s' b (more i) Q) :
    ∃ i, Gives (x >>= f) s b (more i) Q := hx.bind_exists hf

theorem map {x : Act Stand α} (hx : Gives x s a lines P) (f : α → β) :
    Gives (x >>= fun a => Pure.pure (f a)) s (f a) lines P := hx.bind_silent fun _ h => pure _ h

theorem discard {x : Act Stand α} (hx : Gives x s a lines P) : Gives (discard x) s () lines P :=
  hx.map fun _ => ()

theorem andThen {x : Act Stand (Except DisplayError α)}
    {f : α → Act Stand (Except DisplayError β)} {r : Except DisplayError β}
    (hx : Gives x s (.ok a) lines P) (hf : ∀ s', P s'.display → Gives (f a) s' r more Q) :
    Gives (Probe.andThen x f) s r (lines ++ more) Q := hx.bind hf

theorem andThen_exists {ι : Type} {x : Act Stand (Except DisplayError α)}
    {f : α → Act Stand (Except DisplayError β)} {r : Except DisplayError β} {more : ι → List Line}
    (hx : Gives x s (.ok a) lines P) (hf : ∀ s', P s'.display → ∃ i, Gives (f a) s' r (more i) Q) :
    ∃ i, Gives (Probe.andThen x f) s r (lines ++ more i) Q := hx.bind_exists hf

/-- An action that fails is the end. -/
theorem andThen_error {x : Act Stand (Except DisplayError α)}
    {f : α → Act Stand (Except DisplayError β)} {e : DisplayError}
    (hx : Gives x s (.error e) lines P) : Gives (Probe.andThen x f) s (.error e) lines P :=
  hx.bind_silent fun _ h => pure _ h

theorem onResources {x : Act Stand (Except ResourceError α)} (hx : Gives x s (.ok a) lines P) :
    Gives (Probe.onResources x) s (.ok a) lines P := hx.bind_silent fun _ h => pure _ h

end Gives

theorem gives_put (l : Line) (h : P s.display) : Gives (put l) s () (said [l]) P :=
  ⟨_, rfl, h, said_append _ _⟩

theorem gives_note (n : Notice) (h : P s.display) : Gives (note n) s () [] P :=
  gives_put (.notice n) h

theorem gives_print (t : String) (h : P s.display) : Gives (print t) s () [.text t] P :=
  gives_put (.text t) h

/-- The same step for each of a list, with a line of its own or with none. -/
theorem gives_each {γ : Type} {f : γ → Act Stand α} {g : γ → α} {line : γ → List Line}
    (step : ∀ c s, P s.display → Gives (f c) s (g c) (line c) P) (l : List γ) (h : P s.display) :
    Gives (Act.each f l) s (l.map g) (l.flatMap line) P := by
  induction l generalizing s with
  | nil => exact .pure _ h
  | cons c l ih =>
    rw [List.flatMap_cons]
    exact (step c s h).bind fun s' h' => (ih h').map (g c :: ·)

/-- Texts one after the other. -/
theorem gives_prints {γ : Type} (text : γ → String) (l : List γ) (h : P s.display) :
    Gives (Act.each (fun c => print (text c)) l) s (l.map fun _ => ())
      (l.map fun c => .text (text c)) P := by
  have each := gives_each (g := fun _ => ()) (fun c _ h => gives_print (text c) h) l h
  rwa [← List.map_eq_flatMap] at each

/-- Notices one after the other. -/
theorem gives_notes (l : List Notice) (h : P s.display) :
    Gives (Act.each note l) s (l.map fun _ => ()) [] P := by
  have each := gives_each (f := note) (g := fun _ => ()) (fun n _ h => gives_note n h) l h
  rwa [List.flatMap_eq_nil_iff.mpr fun _ _ => rfl] at each

/-! ## Operations of the display -/

/-- The code around the probe's display leaves it alone. -/
theorem setting_quiet : setting.Quiet where
  lawful := ⟨fun _ _ => rfl, fun _ => rfl, fun _ _ _ => rfl⟩
  note _ _ := rfl
  before p s dispatch sleep := by
    cases p with
    | dispatch => exact absurd rfl dispatch
    | sleep => exact absurd rfl sleep
    | _ => rfl
  report _ := rfl
  openSource source _ := ⟨.ok (source.opened .empty), rfl⟩

/-- And it says nothing. -/
theorem setting_keeps : setting.unheard.Keeps fun s => said s.out where
  display _ _ := rfl
  note n s := (said_append s.out [.notice n]).trans (List.append_nil _)
  before p s := by cases p <;> rfl
  report _ := rfl
  openSource _ _ := rfl

/-- An operation gives what it gives on the display alone. -/
theorem gives_of_mirrors {x : Act Stand α} {y : Act (Display Task) α} {d : Display Task}
    (mirrors : setting.display.Mirrors s x y) (keeps : Act.Keeps (fun s => said s.out) x)
    (run : y s.display = (.done a, d)) (h : P d) : Gives x s a [] P := by
  have alone : ((x s).1, (x s).2.display) = (.done a, d) := mirrors.trans run
  obtain ⟨outcome, display⟩ := Prod.mk.inj alone
  exact ⟨(x s).2, Prod.ext outcome rfl, display ▸ h, (keeps s).trans (List.append_nil _).symm⟩

end DisplayEnv.Probe
