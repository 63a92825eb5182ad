import Mathlib.Data.List.Induction
import DisplayEnv.Pump

/-!
# Calls on a display, and histories of them

A display lives on one thread, and nothing else runs while one of its operations does, so whatever
uses it (the program itself, an event handler, a loop inside a handler) does to it what some calls
do one after the other. A `Call` is one operation of a display or of its event queue; `Setting.call`
performs it. A `History` is a list of calls on a fresh display, each with the display before and
after and with its outcome, failures and faults included.

* What a call finds around the display is reduced to what loading an image needs, the decoder and
  the answer of the source: `Setting.alone` is a display with nothing around it but these two.
* `Call.dispatch` takes an event and starts its handler. What the handler does are the calls that
  follow it in the history, and its ending is part of the call.
* Another thread reaches a display only through `Call.send`, which may stand anywhere in a history.

`Quiet` says that the code around a display leaves it alone, `ByCalls` that an action does to it
what some calls do. `Mirrors.lean` shows that calls in a quiet setting are calls on a display alone,
and `Loops.lean` that a loop whose handlers act by calls acts by calls.
-/

namespace DisplayEnv

variable {σ δ τ α β γ : Type}

/-! ## One call -/

/-- An operation of a display, of its backend's windows and of its backend's events. -/
inductive Call (τ : Type) where
  | resolveColor (c : Color)
  | releaseColor (c : Color)
  | releaseAllColors
  | resolveFont (f : Font)
  | releaseFont (f : Font)
  | releaseAllFonts
  | resolveImage (i : Image)
  | image (i : Image)
  | releaseImage (i : Image)
  | releaseAllImages
  | scratchGc
  | textExtent (f : Font) (text : String)
  | monitors
  | primaryMonitor
  | invalidateMonitors
  | stats
  | teardown
  | drop
  | createWindow
  | destroyWindow (w : Window)
  | post (e : Event τ)
  | send (e : Event τ)
  | pendingEvents
  /-- Take an event; a handler that it starts will end in this way. -/
  | dispatch (ending : Outcome (Except PlatformError Unit))
  | sleep
  /-- Close the backend's connection past the display. -/
  | closeBackend

/-- A call that does not go past the display to its connection. -/
def Call.Own : Call τ → Prop
  | .closeBackend => False
  | _ => True

/-- What a call answers. -/
inductive Answer where
  | color (r : Except ResourceError NativeColor)
  | font (r : Except ResourceError NativeFont)
  | image (r : Except ResourceError NativeImage)
  | image? (h : Option NativeImage)
  | gc (r : Except ResourceError NativeGc)
  | extent (r : Except ResourceError (Nat × Nat))
  | monitors (r : Except DisplayError (List Monitor))
  | monitor (r : Except DisplayError Monitor)
  | stats (s : DisplayStats)
  | flag (b : Bool)
  | count (n : Nat)
  | window (w : Window)
  | dispatched (r : Except PlatformError Bool)
  | nothing

/-- The same setting, with handlers that do nothing and end in this way. -/
def Setting.endingWith (S : Setting σ τ) (ending : Outcome (Except PlatformError Unit)) :
    Setting σ τ :=
  { S with run := fun _ => fun s => (ending, s) }

@[simp] theorem Setting.endingWith_backend (S : Setting σ τ)
    (ending : Outcome (Except PlatformError Unit)) :
    (S.endingWith ending).backend = S.backend := rfl

/-- Perform a call. -/
def Setting.call (S : Setting σ τ) : Call τ → Act σ Answer
  | .resolveColor c => return .color (← S.resolveColor c)
  | .releaseColor c => return .flag (← S.releaseColor c)
  | .releaseAllColors => return .count (← S.releaseAllColors)
  | .resolveFont f => return .font (← S.resolveFont f)
  | .releaseFont f => return .flag (← S.releaseFont f)
  | .releaseAllFonts => return .count (← S.releaseAllFonts)
  | .resolveImage i => return .image (← S.resolveImage i)
  | .image i => return .image? (← S.image? i)
  | .releaseImage i => return .flag (← S.releaseImage i)
  | .releaseAllImages => return .count (← S.releaseAllImages)
  | .scratchGc => return .gc (← S.scratchGc)
  | .textExtent f text => return .extent (← S.textExtent f text)
  | .monitors => return .monitors (← S.monitors)
  | .primaryMonitor => return .monitor (← S.primaryMonitor)
  | .invalidateMonitors => do S.invalidateMonitors; return .nothing
  | .stats => return .stats (← S.stats)
  | .teardown => return .flag (← S.teardown)
  | .drop => do S.drop; return .nothing
  | .createWindow => return .window (← S.backend.alter (·.createWindow))
  | .destroyWindow w => do S.backend.change (·.destroyWindow w); return .nothing
  | .post e => do S.backend.change (·.post e); return .nothing
  | .send e => do S.backend.change (·.send e); return .nothing
  | .pendingEvents => return .count (← S.backend.alter (·.pendingEvents))
  | .dispatch ending => return .dispatched (← (S.endingWith ending).dispatchNext)
  | .sleep => do S.backend.change (·.sleep); return .nothing
  | .closeBackend => do S.closeBackend; return .nothing

/-- The same ending, with its value wrapped up. -/
def Outcome.map (f : α → β) : Outcome α → Outcome β
  | .done a => .done (f a)
  | .fault c => .fault c
  | .stalled => .stalled

theorem Outcome.map_eq_done {f : α → β} {o : Outcome α} {b : β} (h : o.map f = .done b) :
    ∃ a, o = .done a ∧ f a = b := by
  cases o with
  | done a => exact ⟨a, rfl, Outcome.done.inj h⟩
  | fault c => cases h
  | stalled => cases h

theorem Outcome.map_map (f : α → β) (g : β → γ) (o : Outcome α) :
    (o.map f).map g = o.map fun a => g (f a) := by
  cases o <;> rfl

/-- An action whose answer is wrapped up. -/
theorem Act.bind_pure_apply (x : Act σ α) (f : α → β) (s : σ) :
    (x >>= fun a => pure (f a)) s = ((x s).1.map f, (x s).2) := by
  rw [Act.bind_apply]
  cases x s with
  | mk o s' => cases o <;> rfl

theorem Act.bind_pure_snd (x : Act σ α) (f : α → β) (s : σ) :
    ((x >>= fun a => pure (f a)) s).2 = (x s).2 := congrArg Prod.snd (bind_pure_apply x f s)

/-- What opening an image's source can come to: deliveries, a refusal, or code that gives up. -/
abbrev SourceAnswer := Except Fault (Except FileError (List Delivery))

/-- What a call finds around a display when it loads an image. -/
structure Opening where
  decoder : Decoder
  answer : SourceAnswer

/-- A source that has nothing to deliver. -/
def Opening.nothing : Opening := ⟨Picture.decode, .ok (.ok [])⟩

/-- A display with nothing around it but what `opening` says about images. -/
def Setting.alone (opening : Opening) : Setting (Display τ) τ :=
  { Setting.plain .empty fun _ => pure (.ok ()) with
    openSource := fun _ => Act.ofExcept opening.answer
    decoder := opening.decoder }

/-! ## Histories -/

/-- A call in a history. -/
structure Moment (τ : Type) where
  before : Display τ
  call : Call τ
  outcome : Outcome Answer
  after : Display τ

/-- The moment of a call on `d`. -/
def Moment.of (opening : Opening) (c : Call τ) (d : Display τ) : Moment τ :=
  ⟨d, c, ((Setting.alone opening).call c d).1, ((Setting.alone opening).call c d).2⟩

/-- Calls of an allowed sort, one after the other, from a display to a display. -/
inductive Path (allowed : Call τ → Prop) : Display τ → List (Moment τ) → Display τ → Prop
  | rest (d : Display τ) : Path allowed d [] d
  | call {d d' : Display τ} {t : List (Moment τ)} {c : Call τ} (h : Path allowed d t d')
      (hc : allowed c) (opening : Opening) :
      Path allowed d (t ++ [.of opening c d']) (Moment.of opening c d').after

/-- Calls of an allowed sort on a fresh display of a headless backend. -/
def History (allowed : Call τ → Prop) (config : HeadlessConfig) (t : List (Moment τ))
    (d : Display τ) : Prop :=
  ∃ id, Path allowed (.new id (.new config)) t d

/-- The moments of some calls, when every source that is opened answers the same. -/
def moments (opening : Opening) (d : Display τ) : List (Call τ) → List (Moment τ)
  | [] => []
  | c :: cs => .of opening c d :: moments opening (Moment.of opening c d).after cs

/-- The display that some calls leave. -/
def left (opening : Opening) (d : Display τ) : List (Call τ) → Display τ
  | [] => d
  | c :: cs => left opening (Moment.of opening c d).after cs

variable {allowed : Call τ → Prop}

theorem Path.append {d d' d'' : Display τ} {t t' : List (Moment τ)} (h : Path allowed d t d')
    (h' : Path allowed d' t' d'') : Path allowed d (t ++ t') d'' := by
  induction h' with
  | rest => simpa using h
  | call _ hc opening ih =>
    rw [← List.append_assoc]
    exact ih.call hc opening

/-- A path of calls of one sort is a path of calls of every wider sort. -/
theorem Path.mono {wider : Call τ → Prop} {d d' : Display τ} {t : List (Moment τ)}
    (h : Path allowed d t d') (le : ∀ c, allowed c → wider c) : Path wider d t d' := by
  induction h with
  | rest => exact .rest _
  | call _ hc opening ih => exact ih.call (le _ hc) opening

/-- One call is a path. -/
theorem Path.single {c : Call τ} (hc : allowed c) (opening : Opening) (d : Display τ) :
    Path allowed d [.of opening c d] (Moment.of opening c d).after :=
  (Path.rest d).call hc opening

theorem Path.moments (opening : Opening) (d : Display τ) {cs : List (Call τ)}
    (h : ∀ c ∈ cs, allowed c) : Path allowed d (moments opening d cs) (left opening d cs) := by
  induction cs generalizing d with
  | nil => exact .rest d
  | cons c cs ih =>
    obtain ⟨hc, hcs⟩ := List.forall_mem_cons.mp h
    exact (Path.single hc opening d).append (ih _ hcs)

/-- The last call of a path. -/
theorem Path.of_concat {d d' : Display τ} {t : List (Moment τ)} {m : Moment τ}
    (h : Path allowed d (t ++ [m]) d') :
    Path allowed d t m.before ∧ allowed m.call ∧ (∃ opening, m = .of opening m.call m.before) ∧
      m.after = d' := by
  generalize ht : t ++ [m] = t' at h
  cases h with
  | rest => simp at ht
  | call p hc opening =>
    obtain ⟨rfl, last⟩ := List.append_inj' ht rfl
    obtain rfl := List.singleton_inj.mp last
    exact ⟨p, hc, ⟨opening, rfl⟩, rfl⟩

theorem Path.of_nil {d d' : Display τ} (h : Path allowed d [] d') : d = d' := by
  generalize ht : ([] : List (Moment τ)) = t at h
  cases h with
  | rest => rfl
  | call _ _ _ => simp at ht

/-- A path of two parts is a path to somewhere, and a path from there. -/
theorem Path.of_append {d d' : Display τ} {t t' : List (Moment τ)}
    (h : Path allowed d (t ++ t') d') : ∃ d₁, Path allowed d t d₁ ∧ Path allowed d₁ t' d' := by
  induction t' using List.reverseRecOn generalizing d' with
  | nil => exact ⟨d', by simpa using h, .rest d'⟩
  | append_singleton t' m ih =>
    rw [← List.append_assoc] at h
    obtain ⟨p, hc, ⟨opening, hm⟩, rfl⟩ := h.of_concat
    obtain ⟨d₁, first, second⟩ := ih p
    refine ⟨d₁, first, ?_⟩
    have := second.call hc opening
    rwa [← hm] at this

/-- A call inside a path: the path before it, the call, the path with it, and the path behind it. -/
theorem Path.at_moment {d d' : Display τ} {l r : List (Moment τ)} {m : Moment τ}
    (h : Path allowed d (l ++ m :: r) d') :
    Path allowed d l m.before ∧ (∃ opening, m = .of opening m.call m.before) ∧
      Path allowed d (l ++ [m]) m.after ∧ Path allowed m.after r d' := by
  rw [List.append_cons] at h
  obtain ⟨d₁, first, second⟩ := h.of_append
  obtain ⟨p, -, hm, rfl⟩ := first.of_concat
  exact ⟨p, hm, first, second⟩

theorem History.at_moment {config : HeadlessConfig} {d : Display τ} {l r : List (Moment τ)}
    {m : Moment τ} (h : History allowed config (l ++ m :: r) d) :
    History allowed config l m.before ∧ (∃ opening, m = .of opening m.call m.before) ∧
      History allowed config (l ++ [m]) m.after ∧ Path allowed m.after r d := by
  obtain ⟨id, p⟩ := h
  obtain ⟨before, of, after, behind⟩ := p.at_moment
  exact ⟨⟨id, before⟩, of, ⟨id, after⟩, behind⟩

theorem History.mono {config : HeadlessConfig} {wider : Call τ → Prop} {t : List (Moment τ)}
    {d : Display τ} (h : History allowed config t d) (le : ∀ c, allowed c → wider c) :
    History wider config t d :=
  let ⟨id, p⟩ := h
  ⟨id, p.mono le⟩

theorem History.append {config : HeadlessConfig} {t t' : List (Moment τ)} {d d' : Display τ}
    (h : History allowed config t d) (h' : Path allowed d t' d') :
    History allowed config (t ++ t') d' :=
  let ⟨id, p⟩ := h
  ⟨id, p.append h'⟩

/-! ## Code around a display -/

/-- From `s`, `x` ends as `y` does on the part that `L` shows, and leaves it as `y` does. -/
def Lens.Mirrors (L : Lens σ δ) (s : σ) (x : Act σ α) (y : Act δ α) : Prop :=
  ((x s).1, L.get (x s).2) = y (L.get s)

/-- The code around a display leaves it alone: nothing refuses a native call, the monitors are the
backend's own, and the sources of images neither use the display nor go on for ever. What runs
before a dispatch and before a wait is not restricted here; that is where other threads come in. -/
structure Setting.Quiet (S : Setting σ τ) : Prop where
  lawful : S.display.Lawful
  note : ∀ n s, S.display.Mirrors s (S.note n) (pure ())
  before : ∀ p s, p ≠ .dispatch → p ≠ .sleep →
    S.display.Mirrors s (S.before p) (pure (.ok ()))
  report : ∀ s, S.display.Mirrors s S.report (Act.view (·.backend.config.report))
  openSource : ∀ source s, ∃ answer : SourceAnswer,
    S.display.Mirrors s (S.openSource source) (Act.ofExcept answer)

/-- Wherever it starts, `x` does to the display what some allowed calls do. -/
def Act.ByCalls (allowed : Call τ → Prop) (L : Lens σ (Display τ)) (x : Act σ α) : Prop :=
  ∀ s, ∃ t, Path allowed (L.get s) t (L.get (x s).2)

/-- A quiet setting whose handlers act by calls; so does what runs before a dispatch or a wait. -/
structure Setting.Handled (allowed : Call τ → Prop) (S : Setting σ τ) : Prop extends S.Quiet where
  run : ∀ t, Act.ByCalls allowed S.display (S.run t)
  beforeDispatch : Act.ByCalls allowed S.display (S.before .dispatch)
  beforeSleep : Act.ByCalls allowed S.display (S.before .sleep)

end DisplayEnv
