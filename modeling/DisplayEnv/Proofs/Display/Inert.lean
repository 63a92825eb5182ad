import DisplayEnv.Proofs.Display.Apart
import DisplayEnv.Proofs.Display.Conservation

/-!
# A display that was torn down is inert

A teardown is final. A display that was torn down keeps nothing, refuses every resource and every
monitor, and has nothing left to release, so no call changes anything but the windows and the
events of its backend; and a call that changes no more than that leaves the display torn down.
Nothing is made on the way to a refusal: no native call is tried, no monitor is enumerated, and no
source of an image is opened.

* `Display.Inert` is what a torn-down display looks like; `History.inert` that it does,
  whichever call tore it down and whatever was called before and after.
* `Inert.after`: a call leaves an inert display as it is, apart from windows and events.
* `Call.refusal?` is what a call answers then, `Inert.alone_refused` that it does.
* `Inert.call_answering`: none of the code around the display is asked for anything.
* `torn_down_is_inert` puts this together for every sequence of calls after a teardown, those of
  event handlers that are still run included.
-/

namespace DisplayEnv

variable {σ τ α : Type}

/-- The display without the windows and the events of its backend. -/
def Display.eventless (d : Display τ) : Display τ :=
  { d with backend := { d.backend with queue := [], inbox := [], windows := [], nextWindow := 0 } }

/-- Nothing is kept, nothing is lent out, and the connection is closed. -/
structure Display.Inert (d : Display τ) : Prop where
  disposed : d.disposed = true
  lent : d.lent = []
  empty : ∀ sh : Shelf, (sh.part.get d).entries = []
  scratch : d.scratch = none
  layout : d.layout = none
  closed : d.backend.closed = true

/-- What a call answers on a display that was torn down and has these statistics. The windows and
the events of the backend answer as always. -/
def Call.refusal? (stats : DisplayStats) : Call τ → Option Answer
  | .resolveColor _ => some (.color (.error .disposed))
  | .resolveFont _ => some (.font (.error .disposed))
  | .resolveImage _ => some (.image (.error .disposed))
  | .image _ => some (.image? none)
  | .scratchGc => some (.gc (.error .disposed))
  | .textExtent _ _ => some (.extent (.error .disposed))
  | .monitors => some (.monitors (.error .disposed))
  | .primaryMonitor => some (.monitor (.error .disposed))
  | .releaseColor _ | .releaseFont _ | .releaseImage _ | .teardown => some (.flag false)
  | .releaseAllColors | .releaseAllFonts | .releaseAllImages => some (.count 0)
  | .stats => some (.stats stats)
  | .invalidateMonitors | .drop | .closeBackend => some .nothing
  | .createWindow | .destroyWindow _ | .post _ | .send _ | .pendingEvents | .dispatch _ | .sleep =>
    none

/-- The same setting, when what the display asks for is answered otherwise. -/
def Setting.answering (S : Setting σ τ) (before : Point → Act σ (Except PlatformError Unit))
    (report : Act σ (List Monitor))
    (openSource : Source → Act σ (Except FileError (List Delivery))) : Setting σ τ :=
  { S with before, report, openSource }

/-- **Every call is refused**, changes nothing of the display, and asks for nothing: neither for
leave to make a native call, nor for the monitors, nor for the source of an image. -/
structure Setting.Refuses (S : Setting σ τ) (stats : DisplayStats) (s : σ) : Prop where
  refused : ∀ c a, c.refusal? stats = some a →
    (S.call c s).1 = .done a ∧ S.display.get (S.call c s).2 = S.display.get s
  unasked : ∀ c before report openSource,
    (S.answering before report openSource).call c s = S.call c s

/-- **What stays of a display `d`** that was torn down: `d'` is torn down as well, counts what `d`
counts and keeps as little, and its backend has given out and taken back the same handles. -/
structure Display.Rests (d d' : Display τ) : Prop where
  disposed : d'.disposed = true
  stats : d'.stats = d.stats
  empty : d'.stats.colors.entries = 0 ∧ d'.stats.fonts.entries = 0 ∧
    d'.stats.images.entries = 0 ∧ d'.stats.scratchGc = false
  journal : d'.backend.journal = d.backend.journal
  live : d'.backend.live = d.backend.live
  nextId : d'.backend.nextId = d.backend.nextId

variable {d d' : Display τ} {opening : Opening}

namespace Display

/-! ## What a call leaves -/

theorem Inert.of_eventless (h : d.Inert) (same : d'.eventless = d.eventless) : d'.Inert := by
  have part (sh : Shelf) : sh.part.get d' = sh.part.get d := by
    have := congrArg sh.part.get same
    cases sh <;> exact this
  constructor
  case disposed => exact (congrArg Display.disposed same).trans h.disposed
  case lent => exact (congrArg Display.lent same).trans h.lent
  case empty => exact fun sh => by rw [part sh]; exact h.empty sh
  case scratch => exact (congrArg Display.scratch same).trans h.scratch
  case layout => exact (congrArg Display.layout same).trans h.layout
  case closed => exact (congrArg (·.backend.closed) same).trans h.closed

theorem Inert.rests (h : d.Inert) (same : d'.eventless = d.eventless) : d.Rests d' := by
  have stats : d'.stats = d.stats := by
    show d'.eventless.stats = d.eventless.stats
    rw [same]
  have size (sh : Shelf) : (sh.part.get d).size = 0 := List.length_eq_zero_iff.mpr (h.empty sh)
  have scratch : d.scratch.isSome = false := by simp [h.scratch]
  constructor
  case disposed => exact (h.of_eventless same).disposed
  case stats => exact stats
  case empty =>
    rw [stats]
    exact ⟨size .colors, size .fonts, size .images, scratch⟩
  case journal => exact congrArg (·.backend.journal) same
  case live => exact congrArg (·.backend.live) same
  case nextId => exact congrArg (·.backend.nextId) same

theorem Inert.find? (h : d.Inert) (sh : Shelf) (k : sh.Key) : (sh.part.get d).find? k = none := by
  rw [Cache.find?, h.empty sh]
  rfl

theorem Inert.resolve (h : d.Inert) (sh : Shelf) (k : sh.Key) (make : Making τ sh.Handle) :
    d.resolve sh k make = (.done (.error .disposed), d) := by
  rw [Display.resolve, if_pos h.disposed]

theorem Inert.resolveScratch (h : d.Inert) :
    d.resolveScratch = (.done (.error .disposed), d) := by
  rw [Display.resolveScratch, if_pos h.disposed]

theorem Inert.measured (h : d.Inert) (f : Font) : d.measured f = d := by
  rw [Display.measured, Display.resolveFont, h.resolve]

theorem Inert.release (h : d.Inert) (sh : Shelf) (k : sh.Key) : d.release sh k = (false, d) := by
  rw [Display.release, h.find? sh k]

theorem Inert.handles (h : d.Inert) (sh : Shelf) : (sh.part.get d).handles = [] := by
  rw [Cache.handles, h.empty sh, List.map_nil]

/-- With nothing to give back, a release of everything writes back what it read. -/
theorem Inert.releaseAll (h : d.Inert) (sh : Shelf) : d.releaseAll sh = d := by
  have clear : (sh.part.get d).clear = sh.part.get d := by rw [Cache.clear, ← h.empty sh]
  have same : sh.part.modify Cache.clear d = d := by
    rw [Lens.modify, clear]
    cases sh <;> rfl
  rw [Display.releaseAll, same, shelved, h.handles, List.map_nil, Headless.giveBack_nil]

theorem Inert.enumerated (h : d.Inert) : d.enumerated = d := by
  rw [Display.enumerated, if_pos h.disposed]

theorem Inert.closeBackend (h : d.Inert) : { d with backend := d.backend.close.2 } = d := by
  rw [Headless.close, if_pos h.closed]

theorem eventless_dispatched (d : Display τ) : d.dispatched.eventless = d.eventless := by
  unfold dispatched Headless.next
  split <;> cases d.backend.drain.queue <;> rfl

theorem eventless_sleep (d : Display τ) :
    { d with backend := d.backend.sleep }.eventless = d.eventless := by
  unfold Headless.sleep
  split
  · split <;> rfl
  · rfl

/-- A call that is not about windows and events leaves a torn-down display exactly as it was. -/
theorem Inert.after_eq (h : d.Inert) {c : Call τ} (hc : ¬ c.OnBackend) :
    d.after opening c = d := by
  cases c with
  | resolveColor _ | resolveFont _ | resolveImage _ | image _ =>
    exact congrArg Prod.snd (h.resolve _ _ _)
  | releaseColor _ | releaseFont _ | releaseImage _ => exact congrArg Prod.snd (h.release _ _)
  | releaseAllColors | releaseAllFonts | releaseAllImages => exact h.releaseAll _
  | scratchGc => exact congrArg Prod.snd h.resolveScratch
  | textExtent f _ => exact h.measured f
  | monitors | primaryMonitor => exact h.enumerated
  | invalidateMonitors => rw [Display.after, ← h.layout]
  | stats => rfl
  | teardown | drop => rw [Display.after, if_pos h.disposed]
  | closeBackend => exact h.closeBackend
  | createWindow | destroyWindow _ | post _ | send _ | pendingEvents | dispatch _ | sleep =>
    exact absurd trivial hc

/-- **A call leaves a torn-down display as it was**, apart from windows and events. -/
theorem Inert.after (h : d.Inert) (opening : Opening) (c : Call τ) :
    (d.after opening c).eventless = d.eventless := by
  by_cases hc : c.OnBackend
  · cases c with
    | dispatch _ => exact d.eventless_dispatched
    | sleep => exact d.eventless_sleep
    | createWindow | destroyWindow _ | post _ | send _ | pendingEvents => rfl
    | _ => exact hc.elim
  · rw [h.after_eq hc]

/-! ## What a call answers -/

/-- **A call on a torn-down display is refused**, when the display is alone. -/
theorem Inert.alone_refused (h : d.Inert) {c : Call τ} {a : Answer}
    (hc : c.refusal? d.stats = some a) :
    (Setting.alone opening).call c d = (.done a, d) := by
  have lent := h.lent
  have answer {β : Type} {x : Act (Display τ) β} {b : β} (f : β → Answer)
      (run : x d = (.done b, d)) : (x >>= fun b => pure (f b)) d = (.done (f b), d) := by
    rw [Act.bind_pure_apply, run]
    rfl
  have released {x : Act (Display τ) Bool} {sh : Shelf} {k : sh.Key}
      (run : x d = (.done (d.release sh k).1, (d.release sh k).2)) : x d = (.done false, d) := by
    rw [run, h.release]
  have allReleased {x : Act (Display τ) Nat} {sh : Shelf}
      (run : x d = (.done (sh.part.get d).handles.length, d.releaseAll sh)) :
      x d = (.done 0, d) := by
    rw [run, h.handles, h.releaseAll, List.length_nil]
  cases c <;> cases hc
  case resolveColor c => exact answer .color ((alone_resolveColor lent c).trans (h.resolve ..))
  case resolveFont f => exact answer .font ((alone_resolveFont lent f).trans (h.resolve ..))
  case resolveImage i => exact answer .image ((alone_resolveImage lent i).trans (h.resolve ..))
  case image i =>
    refine answer .image? ((alone_image? lent i).trans ?_)
    rw [resolveImage, h.resolve]
    rfl
  case scratchGc => exact answer .gc ((alone_scratchGc lent).trans h.resolveScratch)
  case textExtent f text =>
    refine answer .extent ((alone_textExtent_apply lent f text).trans ?_)
    rw [resolveFont, h.resolve]
  case releaseColor c => exact answer .flag (released (alone_release lent .colors c))
  case releaseFont f => exact answer .flag (released (alone_release lent .fonts f))
  case releaseImage i => exact answer .flag (released (alone_release lent .images i.uri))
  case releaseAllColors => exact answer .count (allReleased (alone_releaseAll opening lent .colors))
  case releaseAllFonts => exact answer .count (allReleased (alone_releaseAll opening lent .fonts))
  case releaseAllImages => exact answer .count (allReleased (alone_releaseAll opening lent .images))
  case monitors =>
    refine answer .monitors ?_
    show (if d.disposed = true then _ else _ : Act (Display τ) _) d = _
    rw [if_pos h.disposed]
    rfl
  case primaryMonitor =>
    refine answer .monitor ?_
    show (if d.disposed = true then _ else _ : Act (Display τ) _) d = _
    rw [if_pos h.disposed]
    rfl
  case stats => exact answer .stats (alone_stats lent)
  case teardown =>
    refine answer .flag ((alone_teardown lent).trans ?_)
    rw [if_pos h.disposed]
  case drop =>
    have run : (Setting.alone opening).drop d = (.done (), d) := by
      rw [alone_drop lent, if_pos h.disposed]
    exact answer (fun _ => .nothing) run
  case closeBackend =>
    have run : (Setting.alone opening).closeBackend d = (.done (), d) := by
      rw [alone_closeBackend, h.closeBackend]
    exact answer (fun _ => .nothing) run
  case invalidateMonitors =>
    show (Outcome.done Answer.nothing, { d with layout := none }) = _
    rw [← h.layout]

end Display

namespace Setting

variable {S : Setting σ τ} {s : σ}

theorem ifLive_disposed (ended : (S.display.get s).disposed = true)
    (x : Act σ (Except ResourceError α)) : S.ifLive x s = (.done (.error .disposed), s) := by
  show (if (S.display.get s).disposed = true then _ else _ : Act σ _) s = _
  rw [if_pos ended]
  rfl

theorem monitors_disposed (ended : (S.display.get s).disposed = true) :
    S.monitors s = (.done (.error .disposed), s) ∧
      S.primaryMonitor s = (.done (.error .disposed), s) := by
  constructor
  all_goals
    show (if (S.display.get s).disposed = true then _ else _ : Act σ _) s = _
    rw [if_pos ended]
    rfl

/-- **A torn-down display asks for nothing**: a call comes to the same whatever the code around the
display would answer. -/
theorem call_answering (ended : (S.display.get s).disposed = true) (c : Call τ)
    (before : Point → Act σ (Except PlatformError Unit)) (report : Act σ (List Monitor))
    (openSource : Source → Act σ (Except FileError (List Delivery))) :
    (S.answering before report openSource).call c s = S.call c s := by
  have ended' : ((S.answering before report openSource).display.get s).disposed = true := ended
  -- both sides are cut off by the same check, before anything is asked for
  have live {α β : Type} (x y : Act σ (Except ResourceError α))
      (f g : Except ResourceError α → Act σ β)
      (same : f (.error .disposed) = g (.error .disposed)) :
      ((S.answering before report openSource).ifLive x >>= f) s = (S.ifLive y >>= g) s := by
    rw [Act.bind_apply, Act.bind_apply, ifLive_disposed ended', ifLive_disposed ended]
    exact congrFun same s
  cases c with
  | resolveColor _ | resolveFont _ | resolveImage _ | scratchGc => exact live _ _ _ _ rfl
  | image i =>
    have same : (S.answering before report openSource).image? i s = S.image? i s :=
      live _ _ _ _ rfl
    rw [call, call, Act.bind_apply, Act.bind_apply, same]
  | textExtent f text =>
    have same : (S.answering before report openSource).textExtent f text s =
      S.textExtent f text s := live _ _ _ _ rfl
    rw [call, call, Act.bind_apply, Act.bind_apply, same]
  | monitors =>
    rw [call, call, Act.bind_apply, Act.bind_apply, (monitors_disposed ended').1,
      (monitors_disposed ended).1]
  | primaryMonitor =>
    rw [call, call, Act.bind_apply, Act.bind_apply, (monitors_disposed ended').2,
      (monitors_disposed ended).2]
  | _ => rfl

/-- **Every call on a torn-down display is refused**, in every quiet setting. -/
theorem Quiet.refuses (hS : S.Quiet) (h : (S.display.get s).Inert) :
    S.Refuses (S.display.get s).stats s where
  refused c a hc := by
    obtain ⟨opening, -, alone⟩ := hS.call_alone c s
    rw [Lens.Mirrors, h.alone_refused hc] at alone
    exact Prod.mk.inj alone
  unasked c _ _ _ := call_answering h.disposed c _ _ _

end Setting

/-! ## Teardowns and what follows them -/

/-- A call for the end of a display. -/
def Call.EndsDisplay (c : Call τ) : Prop := c = .teardown ∨ c = .drop

/-- A teardown leaves a display inert. -/
theorem Display.Orderly.tornDown_inert (hd : d.Orderly) : d.tornDown.Inert where
  disposed := rfl
  lent := hd.lent
  empty sh := by cases sh <;> rfl
  scratch := rfl
  layout := rfl
  closed := Headless.closed_close _

/-- A call on a living display tears it down, or leaves it living when it does not ask for that. -/
theorem Display.Orderly.living_after (hd : d.Orderly) (living : d.disposed = false)
    (opening : Opening) (c : Call τ) :
    (d.after opening c).Inert ∨ ((d.after opening c).disposed = false ∧ ¬ c.EndsDisplay) := by
  by_cases ends : c.EndsDisplay
  · left
    have after : d.after opening c = d.tornDown := by
      rcases ends with rfl | rfl <;> simp [Display.after, living]
    exact after ▸ hd.tornDown_inert
  · by_cases own : c.Own
    · have step := hd.changes opening own
      generalize d.after opening c = d' at step
      cases step with
      | makes h _ => exact .inr ⟨h.disposed.trans living, ends⟩
      | returns h => exact .inr ⟨h.disposed.trans living, ends⟩
      | ends _ => exact .inl hd.tornDown_inert
    · obtain rfl : c = .closeBackend := by
        cases c <;> first | rfl | exact absurd trivial own
      exact .inr ⟨living, ends⟩

variable {config : HeadlessConfig} {t : List (Moment τ)}

/-- **A display that was torn down is inert**, whatever was called before and after. -/
theorem History.inert (h : History (fun _ => True) config t d)
    (torn : ∃ m ∈ t, m.call.EndsDisplay) : d.Inert := by
  have all : d.Inert ∨ (d.disposed = false ∧ ∀ m ∈ t, ¬ m.call.EndsDisplay) := by
    refine h.invariant (P := fun t d => d.Inert ∨ (d.disposed = false ∧
      ∀ m ∈ t, ¬ m.call.EndsDisplay)) (fun id => .inr ⟨rfl, by simp⟩) ?_
    rintro t d c opening h - (inert | ⟨living, before⟩) -
    · exact .inl (inert.of_eventless (inert.after opening c))
    · rcases h.orderly.living_after living opening c with inert | ⟨living, last⟩
      · exact .inl inert
      · exact .inr ⟨living, List.forall_mem_append.mpr
          ⟨before, List.forall_mem_singleton.mpr last⟩⟩
  obtain ⟨m, hm, ends⟩ := torn
  exact all.resolve_right fun ⟨_, never⟩ => never m hm ends

/-- What follows a teardown leaves the display as it was, apart from windows and events. -/
theorem Display.Inert.along (h : d.Inert) (p : Path (fun _ => True) d t d') :
    d'.eventless = d.eventless := by
  have orderly : d.Orderly := ⟨h.lent, fun sh => by
    rw [Cache.Keyed, h.empty sh]
    exact .nil⟩
  exact p.invariant (P := fun _ d' => d'.eventless = d.eventless) orderly rfl
    fun _ _ c opening _ same => ((h.of_eventless same).after opening c).trans same

/-- **A display that was torn down stays torn down**, and every call on it is refused, after every
sequence of calls. What a setting does to it by calls, such as its handlers, its ticks and its
loops, is such a sequence. -/
theorem torn_down_is_inert (config : HeadlessConfig) (t t' : List (Moment τ)) (d d' : Display τ)
    (h : History (fun _ => True) config t d) (torn : ∃ m ∈ t, m.call.EndsDisplay)
    (p : Path (fun _ => True) d t' d') :
    d.Rests d' ∧ ∀ (σ : Type) (S : Setting σ τ) (s : σ), S.display.get s = d' → S.Quiet →
      S.Refuses d.stats s ∧
      (∀ {α : Type} (x : Act σ α), x.ByCalls (fun _ => True) S.display →
        d.Rests (S.display.get (x s).2) ∧ S.Refuses d.stats (x s).2) ∧
      (S.Handled (fun _ => True) → ∀ bound root pump,
        d.Rests (S.display.get (S.runMain bound root pump s).2) ∧
        S.Refuses d.stats (S.runMain bound root pump s).2) := by
  have inert := h.inert torn
  refine ⟨inert.rests (inert.along p), ?_⟩
  rintro σ S s rfl hS
  have here {s' : σ} {t'' : List (Moment τ)}
      (p' : Path (fun _ => True) d t'' (S.display.get s')) :
      d.Rests (S.display.get s') ∧ S.Refuses d.stats s' := by
    have same := inert.along p'
    have rests := inert.rests same
    exact ⟨rests, rests.stats ▸ hS.refuses (inert.of_eventless same)⟩
  have calls {α : Type} (x : Act σ α) (hx : x.ByCalls (fun _ => True) S.display) :
      d.Rests (S.display.get (x s).2) ∧ S.Refuses d.stats (x s).2 := by
    obtain ⟨t'', p'⟩ := hx s
    exact here (p.append p')
  exact ⟨(here p).2, calls, fun hH bound root pump =>
    calls _ (hH.runMain (fun _ => trivial) trivial trivial bound root pump)⟩

/-- Tasks that go on using their display: they ask for a color, and run a main loop of their own. -/
def tireless : Nat → Act (Display Nat) (Except PlatformError Unit)
  | 0 => do let _ ← Setting.calm.call (.resolveColor .white); return .ok ()
  | _ => do let _ ← Setting.calm.runMain 2 ⟨0⟩ .new; return .ok ()

theorem tireless_byCalls (x : Nat) : Act.ByCalls (fun _ => True) .whole (tireless x) := by
  have calm : (Setting.calm : Setting (Display Nat) Nat).Handled (fun _ => True) :=
    Setting.calm_handled
  match x with
  | 0 => exact (calm.byCalls_call (c := .resolveColor .white) trivial).bind fun _ => .pure _
  | _ + 1 =>
    exact (calm.runMain (fun _ => trivial) trivial trivial 2 ⟨0⟩ .new).bind fun _ => .pure _

/-- A display with a color and a window and with tasks that wait, torn down before they run. -/
def abandoned : List (Call Nat) :=
  [.resolveColor .black, .createWindow, .post (.task 0), .post (.task 1), .send (.task 0),
    .send (.destroy ⟨0x1000⟩), .teardown]

theorem torn_down_is_inert_abandoned :
    let S : Setting (Display Nat) Nat := .plain .empty tireless
    let d := left .nothing (.new 0 (.new .standard)) abandoned
    let s := (S.runMain 9 ⟨0x1000⟩ .new d).2
    d.Rests s ∧ s.backend.journal = [.color 1, .connection] ∧ s.backend.pending = [] ∧
      (S.call (.resolveImage (.file "logo")) s).1 = .done (.image (.error .disposed)) ∧
      (S.call .releaseAllColors s).1 = .done (.count 0) := by
  intro S d s
  obtain ⟨-, later⟩ := torn_down_is_inert .standard
    (moments .nothing (.new 0 (.new .standard)) abandoned) [] d d
    ⟨0, .moments _ _ (by simp)⟩ ⟨_, List.mem_of_getElem? (i := 6) rfl, .inl rfl⟩ (.rest d)
  obtain ⟨-, -, pumped⟩ := later _ S d rfl (Setting.plain_quiet _ _)
  obtain ⟨rests, refuses⟩ := pumped (Setting.plain_handled tireless_byCalls) 9 ⟨0x1000⟩ .new
  exact ⟨rests, rests.journal, rfl, (refuses.refused _ _ rfl).1, (refuses.refused _ _ rfl).1⟩

end DisplayEnv
