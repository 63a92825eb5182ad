import DisplayEnv.Proofs.Display.Beside

/-!
# The caches of a display do not interfere

The resources of a display are of three kinds: colors, images, and fonts with the measuring of texts
and the scratch context. A run of calls is compared with the same run from which all calls about the
other kinds are left out. Every call that stays is answered as before, but for the numbers of
handles, and finds and leaves the same counts.

The argument: the two displays stay beside each other (`Beside`), by a renaming that grows with the
run. A call that both runs have keeps the renaming. A call that only the first run has may take
numbers of its own, so that everything the displays make later is renamed by more; the numbers that
the second display gave out keep their names.

* `Call.shelf?`: the kind that a call is about. The teardown and the closing of the connection are
  about none, and stay.
* `Beside.answers`, `Beside.after`: a call that both runs have.
* `Beside.aside`: a call that only the first run has.
* `Path.performed`, `performed_path`: the runs that are compared are all histories.
* `caches_independent`: whole runs.
-/

namespace DisplayEnv

variable {τ : Type} {f g : Nat → Nat} {K : Shelf} {d d' e : Display τ} {opening : Opening}
  {c : Call τ}

/-! ## Kinds -/

/-- The kind of resources that a call is about. -/
def Call.shelf? : Call τ → Option Shelf
  | .resolveColor _ | .releaseColor _ | .releaseAllColors => some .colors
  | .resolveFont _ | .releaseFont _ | .releaseAllFonts | .scratchGc | .textExtent .. => some .fonts
  | .resolveImage _ | .image _ | .releaseImage _ | .releaseAllImages => some .images
  | .monitors | .primaryMonitor | .invalidateMonitors | .stats | .teardown | .drop
  | .createWindow | .destroyWindow _ | .post _ | .send _ | .pendingEvents | .dispatch _ | .sleep
  | .closeBackend => none

/-- The call is not about another kind. -/
def Shelf.keeps (K : Shelf) (c : Call τ) : Bool := c.shelf?.all (· = K)

/-- The statistics as far as they are about one kind. -/
def DisplayStats.toward (K : Shelf) (s : DisplayStats) : DisplayStats :=
  match K with
  | .colors => ⟨s.colors, .zero, .zero, false⟩
  | .fonts => ⟨.zero, s.fonts, .zero, s.scratchGc⟩
  | .images => ⟨.zero, .zero, s.images, false⟩

/-- The answer as far as it is about one kind. -/
def Answer.toward (K : Shelf) : Answer → Answer
  | .stats s => .stats (s.toward K)
  | a => a

/-- The handle that a call came to. -/
def handed? : Outcome Answer → Option Handle
  | .done a => a.handle?
  | .fault _ | .stalled => none

theorem handed?_toward (o : Outcome Answer) : handed? (o.map (Answer.toward K)) = handed? o := by
  cases o with
  | done a => cases a <;> rfl
  | fault c => rfl
  | stalled => rfl

theorem handed?_renamed (o : Outcome Answer) :
    handed? (o.map (Answer.renamed f)) = (handed? o).map (Handle.renamed f) := by
  cases o with
  | done a => exact a.handle?_renamed
  | fault c => rfl
  | stalled => rfl

theorem Shelf.eq_of_keeps {sh : Shelf} (kept : K.keeps c = true) (kind : c.shelf? = some sh) :
    sh = K := by
  simpa [keeps, kind] using kept

/-! ## A call that both runs have -/

namespace Beside

/-- **What a call leaves** that is not about another kind. -/
theorem after (h : Beside K f d d') (lent : d.lent = []) (lent' : d'.lent = [])
    (kept : K.keeps c = true) : Beside K f (d.after opening c) (d'.after opening c) := by
  have kind {sh : Shelf} (about : c.shelf? = some sh) : sh = K := Shelf.eq_of_keeps kept about
  have ended : Beside K f (if d.disposed then d else d.tornDown)
      (if d'.disposed then d' else d'.tornDown) := by
    rw [h.disposed]
    split
    · exact h
    · exact h.tornDown
  cases c with
  | resolveColor c =>
    obtain rfl := kind rfl
    exact (h.resolve c (Making.uniform_color c)).2
  | resolveFont font =>
    obtain rfl := kind rfl
    exact (h.resolve font (Making.uniform_font font)).2
  | resolveImage i | image i =>
    obtain rfl := kind rfl
    exact (h.resolve i.uri (Making.uniform_image opening i)).2
  | releaseColor c =>
    obtain rfl := kind rfl
    exact (h.release c).2
  | releaseFont font =>
    obtain rfl := kind rfl
    exact (h.release font).2
  | releaseImage i =>
    obtain rfl := kind rfl
    exact (h.release i.uri).2
  | releaseAllColors | releaseAllFonts | releaseAllImages =>
    obtain rfl := kind rfl
    exact h.releaseAll
  | scratchGc =>
    obtain rfl := kind rfl
    exact h.resolveScratch.2
  | textExtent font text =>
    obtain rfl := kind rfl
    exact (h.textExtent lent lent' opening font text).2
  | monitors | primaryMonitor => exact h.enumerated
  | teardown | drop => exact ended
  | invalidateMonitors =>
    refine h.moved ?_ (by cases K <;> rfl) (by cases K <;> rfl) rfl rfl rfl rfl
    exact congrArg (fun d : Display τ => { d with layout := none }) h.bare
  | stats => exact h
  | createWindow =>
    exact h.onBackend (congrArg (·.createWindow.2) h.backend) rfl rfl
  | destroyWindow w => exact h.onBackend (congrArg (·.destroyWindow w) h.backend) rfl rfl
  | post e => exact h.onBackend (congrArg (·.post e) h.backend) rfl rfl
  | send e => exact h.onBackend (congrArg (·.send e) h.backend) rfl rfl
  | pendingEvents => exact h.onBackend (congrArg (·.drain) h.backend) rfl rfl
  | dispatch ending => exact h.dispatched
  | sleep =>
    refine h.onBackend ?_ d.backend.nextId_sleep d'.backend.nextId_sleep
    rw [Headless.sleep_bare, Headless.sleep_bare, h.backend]
  | closeBackend =>
    refine h.onBackend ?_ d.backend.nextId_close d'.backend.nextId_close
    rw [Headless.close_bare, h.backend, ← Headless.close_bare]

/-- An ending that is the other one with a renamed handle is answered alike. -/
theorem answered {α : Type} {o o' : Outcome α} {rename : α → α} {wrap : α → Answer}
    (same : o = o'.map rename)
    (law : ∀ a, (wrap (rename a)).toward K = ((wrap a).toward K).renamed f) :
    (o.map wrap).map (Answer.toward K) =
      ((o'.map wrap).map (Answer.toward K)).map (Answer.renamed f) := by
  subst same
  cases o' with
  | done a => exact congrArg Outcome.done (law a)
  | fault c => rfl
  | stalled => rfl

/-- And so is the same ending, when there is no handle in it. -/
theorem answered_same {α : Type} {o o' : Outcome α} {wrap : α → Answer} (same : o = o')
    (law : ∀ a, (wrap a).toward K = ((wrap a).toward K).renamed f) :
    (o.map wrap).map (Answer.toward K) =
      ((o'.map wrap).map (Answer.toward K)).map (Answer.renamed f) := by
  subst same
  cases o with
  | done a => exact congrArg Outcome.done (law a)
  | fault c => rfl
  | stalled => rfl

/-- The counts of the kind, which is all that its statistics are about. -/
theorem toward_stats (h : Beside K f d d') : d.stats.toward K = d'.stats.toward K := by
  have counts : (K.part.get d).stats = (K.part.get d').stats := by
    rw [h.cache, Cache.stats_mapped]
  cases K with
  | colors => exact congrArg (fun s => DisplayStats.mk s .zero .zero false) counts
  | images => exact congrArg (fun s => DisplayStats.mk .zero .zero s false) counts
  | fonts =>
    have scratch : d.scratch.isSome = d'.scratch.isSome := by
      rw [h.scratch rfl, Option.isSome_map]
    show DisplayStats.mk .zero d.fonts.stats .zero d.scratch.isSome = _
    rw [scratch]
    exact congrArg (fun s => DisplayStats.mk .zero s .zero d'.scratch.isSome) counts

/-- What a dispatch answers depends on the event and on how its handler ends. -/
theorem dispatchNext_fst (h : Beside K f d d') (opening : Opening)
    (ending : Outcome (Except PlatformError Unit)) :
    (((Setting.alone opening).endingWith ending).dispatchNext d).1 =
      (((Setting.alone opening).endingWith ending).dispatchNext d').1 := by
  have front (d : Display τ) :
      ((Setting.alone opening).endingWith ending).backend.get d = d.backend := rfl
  unfold Setting.dispatchNext
  rw [Act.bind_apply, Act.bind_apply]
  simp only [Lens.alter, Act.alter_apply, front, h.next_fst]
  cases d'.backend.next.1 with
  | none => rfl
  | some e =>
    cases e with
    | wake => rfl
    | destroy w => rfl
    | task t =>
      cases ending with
      | done r => cases r <;> rfl
      | fault c => rfl
      | stalled => rfl

/-- **What a call answers** that is not about another kind. -/
theorem answers (h : Beside K f d d') (lent : d.lent = []) (lent' : d'.lent = [])
    (kept : K.keeps c = true) (opening : Opening) :
    ((Setting.alone opening).call c d).1.map (Answer.toward K) =
      (((Setting.alone opening).call c d').1.map (Answer.toward K)).map (Answer.renamed f) := by
  have kind {sh : Shelf} (about : c.shelf? = some sh) : sh = K := Shelf.eq_of_keeps kept about
  have released {k : K.Key} {x x' : Outcome Bool × Display τ}
      (run : x = (.done (d.release K k).1, (d.release K k).2))
      (run' : x' = (.done (d'.release K k).1, (d'.release K k).2)) : x.1 = x'.1 := by
    rw [run, run', (h.release k).1]
  have releasedAll {x x' : Outcome Nat × Display τ}
      (run : x = (.done (K.part.get d).handles.length, d.releaseAll K))
      (run' : x' = (.done (K.part.get d').handles.length, d'.releaseAll K)) : x.1 = x'.1 := by
    rw [run, run', h.length_handles]
  cases c <;> simp only [Setting.call, Act.bind_pure_apply]
  case resolveColor c =>
    obtain rfl := kind rfl
    rw [alone_resolveColor lent, alone_resolveColor lent']
    exact answered (h.resolve c (Making.uniform_color c)).1 fun _ => rfl
  case resolveFont font =>
    obtain rfl := kind rfl
    rw [alone_resolveFont lent, alone_resolveFont lent']
    exact answered (h.resolve font (Making.uniform_font font)).1 fun _ => rfl
  case resolveImage i =>
    obtain rfl := kind rfl
    rw [alone_resolveImage lent, alone_resolveImage lent']
    exact answered (h.resolve i.uri (Making.uniform_image opening i)).1 fun _ => rfl
  case image i =>
    obtain rfl := kind rfl
    have same : (d.resolveImage opening i).1.map Except.toOption =
        ((d'.resolveImage opening i).1.map Except.toOption).map
          (Option.map (Shelf.images.rename f)) := by
      have same : (d.resolveImage opening i).1 = (d'.resolveImage opening i).1.map _ :=
        (h.resolve i.uri (Making.uniform_image opening i)).1
      rw [same]
      cases (d'.resolveImage opening i).1 with
      | done r => cases r <;> rfl
      | fault c => rfl
      | stalled => rfl
    rw [alone_image? lent, alone_image? lent']
    exact answered same fun _ => rfl
  case releaseColor c =>
    obtain rfl := kind rfl
    exact answered_same (released (alone_release lent .colors c)
      (alone_release lent' .colors c)) fun _ => rfl
  case releaseFont font =>
    obtain rfl := kind rfl
    exact answered_same (released (alone_release lent .fonts font)
      (alone_release lent' .fonts font)) fun _ => rfl
  case releaseImage i =>
    obtain rfl := kind rfl
    exact answered_same (released (alone_release lent .images i.uri)
      (alone_release lent' .images i.uri)) fun _ => rfl
  case releaseAllColors =>
    obtain rfl := kind rfl
    exact answered_same (releasedAll (alone_releaseAll opening lent .colors)
      (alone_releaseAll opening lent' .colors)) fun _ => rfl
  case releaseAllFonts =>
    obtain rfl := kind rfl
    exact answered_same (releasedAll (alone_releaseAll opening lent .fonts)
      (alone_releaseAll opening lent' .fonts)) fun _ => rfl
  case releaseAllImages =>
    obtain rfl := kind rfl
    exact answered_same (releasedAll (alone_releaseAll opening lent .images)
      (alone_releaseAll opening lent' .images)) fun _ => rfl
  case scratchGc =>
    obtain rfl := kind rfl
    rw [alone_scratchGc lent, alone_scratchGc lent']
    exact answered h.resolveScratch.1 fun _ => rfl
  case textExtent font text =>
    obtain rfl := kind rfl
    exact answered_same (h.textExtent lent lent' opening font text).1 fun _ => rfl
  case monitors =>
    refine answered_same ?_ fun _ => rfl
    simp only [alone_monitors_fst, alone_layout_fst, h.disposed, h.layout, h.config]
  case primaryMonitor =>
    refine answered_same ?_ fun _ => rfl
    simp only [alone_primaryMonitor_fst, alone_layout_fst, h.disposed, h.layout, h.config]
  case stats =>
    rw [alone_stats lent, alone_stats lent']
    exact congrArg (fun s => Outcome.done (Answer.stats s)) h.toward_stats
  case teardown =>
    refine answered_same ?_ fun _ => rfl
    rw [alone_teardown lent, alone_teardown lent', h.disposed]
    split <;> rfl
  case drop =>
    refine answered_same ?_ fun _ => rfl
    rw [alone_drop lent, alone_drop lent']
  case closeBackend =>
    refine answered_same ?_ fun _ => rfl
    rw [alone_closeBackend, alone_closeBackend]
  case createWindow =>
    have same : d.backend.bare.createWindow.1 = d'.backend.bare.createWindow.1 := by
      rw [h.backend]
    exact answered_same (congrArg Outcome.done same) fun _ => rfl
  case pendingEvents =>
    have same : d.backend.bare.pendingEvents.1 = d'.backend.bare.pendingEvents.1 := by
      rw [h.backend]
    exact answered_same (congrArg Outcome.done same) fun _ => rfl
  case dispatch ending =>
    exact answered_same (h.dispatchNext_fst opening ending) fun _ => rfl
  all_goals rfl

end Beside

/-! ## A call that only the first run has -/

/-- From `d` to `e`, one cache stays as it is (with the scratch context, if it is the one of fonts),
and so does all that is not a resource. -/
structure Spared (K : Shelf) (d e : Display τ) : Prop where
  bare : e.bare = d.bare
  cache : K.part.get e = K.part.get d
  scratch : K = .fonts → e.scratch = d.scratch

namespace Spared

theorem refl (K : Shelf) (d : Display τ) : Spared K d d := ⟨rfl, rfl, fun _ => rfl⟩

theorem trans {d₁ d₂ d₃ : Display τ} (h : Spared K d₁ d₂) (h' : Spared K d₂ d₃) :
    Spared K d₁ d₃ where
  bare := h'.bare.trans h.bare
  cache := h'.cache.trans h.cache
  scratch fonts := (h'.scratch fonts).trans (h.scratch fonts)

/-- A change of another cache, and of the backend's account of handles. -/
theorem modify {sh : Shelf} (other : sh ≠ K) (u : Cache sh.Key sh.Handle → Cache sh.Key sh.Handle)
    {b : Headless τ} (bare : b.bare = d.backend.bare) :
    Spared K d { sh.part.modify u d with backend := b } where
  bare := by
    cases sh <;> exact congrArg (fun b => { d.bare with backend := b }) bare
  cache := by
    cases sh <;> cases K <;> first | rfl | exact absurd rfl other
  scratch _ := by
    cases sh <;> rfl

theorem resolve {sh : Shelf} (other : sh ≠ K) (k : sh.Key) {make : Making τ sh.Handle}
    (uniform : Making.Uniform sh make) : Spared K d (d.resolve sh k make).2 := by
  have counted (u : Cache sh.Key sh.Handle → Cache sh.Key sh.Handle) :
      Spared K d (sh.part.modify u d) := by
    have modified := modify (d := d) other u rfl
    cases sh <;> exact modified
  have outcome := d.resolves sh k make
  generalize d.resolve sh k make = r at outcome ⊢
  cases outcome with
  | ended _ => exact refl K d
  | found _ _ | refused _ _ _ | gaveUp _ _ _ => exact counted _
  | @made h b _ _ made =>
    refine modify other _ ?_
    rw [uniform] at made
    cases plan : make d.backend.bare with
    | error c =>
      rw [plan] at made
      cases made
    | ok r =>
      rw [plan] at made
      cases r with
      | error e => cases made
      | ok r =>
        cases made
        rfl

theorem release {sh : Shelf} (other : sh ≠ K) (k : sh.Key) : Spared K d (d.release sh k).2 := by
  unfold Display.release
  split
  · exact modify other _ rfl
  · exact refl K d

theorem resolveScratch (other : K ≠ .fonts) : Spared K d d.resolveScratch.2 := by
  have outcome := d.resolvesScratch
  generalize d.resolveScratch = r at outcome ⊢
  cases outcome with
  | ended _ | found _ _ | refused _ _ _ => exact refl K d
  | @made gc b _ _ made =>
    have bare : b.bare = d.backend.bare := by
      obtain ⟨-, -, rfl⟩ := Headless.allocate_eq (Headless.createGc_allocates made)
      rfl
    refine ⟨?_, ?_, fun fonts => absurd fonts other⟩
    · exact congrArg (fun b => { d.bare with backend := b }) bare
    · cases K <;> rfl

theorem measured (other : K ≠ .fonts) (font : Font) : Spared K d (d.measured font) := by
  have made : Spared K d (d.resolveFont font).2 :=
    resolve other.symm font (Making.uniform_font font)
  rcases d.measured_eq font with once | twice
  · rw [once]
    exact made
  · rw [twice]
    exact made.trans (resolveScratch other)

/-- **A call about another kind** leaves this one as it is. -/
theorem after (opening : Opening) (deleted : K.keeps c = false) :
    Spared K d (d.after opening c) := by
  have other {sh : Shelf} (about : c.shelf? = some sh) : sh ≠ K := by
    simpa [Shelf.keeps, about] using deleted
  cases c with
  | resolveColor c =>
    exact resolve (other rfl) c (Making.uniform_color c)
  | resolveFont font =>
    exact resolve (other rfl) font (Making.uniform_font font)
  | resolveImage i | image i => exact resolve (other rfl) i.uri (Making.uniform_image opening i)
  | releaseColor _ | releaseFont _ | releaseImage _ => exact release (other rfl) _
  | releaseAllColors | releaseAllFonts | releaseAllImages => exact modify (other rfl) _ rfl
  | scratchGc => exact resolveScratch (other rfl).symm
  | textExtent font _ => exact measured (other rfl).symm font
  | monitors | primaryMonitor | invalidateMonitors | stats | teardown | drop | createWindow
  | destroyWindow _ | post _ | send _ | pendingEvents | dispatch _ | sleep | closeBackend =>
    cases deleted

end Spared

/-- **What only the first run does** for another kind leaves the displays beside each other; what is
made later has higher numbers. -/
theorem Beside.aside (h : Beside K f d d') (orderly : d'.Orderly) (distinct : d'.Distinct)
    (spared : Spared K d e) (grows : d.backend.nextId ≤ e.backend.nextId) :
    ∃ g, (∀ n < d'.backend.nextId, g n = f n) ∧ Beside K g e d' := by
  obtain ⟨g, agree, numbers⟩ := h.numbers.ahead grows
  refine ⟨g, agree, ?_⟩
  constructor
  case bare => exact spared.bare.trans h.bare
  case cache =>
    rw [spared.cache, h.cache]
    -- every number in the cache is one that was given out
    have same : ∀ p ∈ (K.part.get d').entries,
        Prod.map id (K.rename f) p = Prod.map id (K.rename g) p := by
      rintro ⟨k, y⟩ hp
      have kept : d'.handle? (.shelved K k) = some (.shelved K y) := by
        rw [Display.handle?, (Cache.mem_entries_iff (orderly.keyed K)).mp hp]
        rfl
      have below := distinct.below _ _ kept
      exact congrArg (Prod.mk k) (K.rename_congr (agree _ below)).symm
    unfold Cache.mapped
    rw [List.map_congr_left same]
  case scratch =>
    intro fonts
    rw [spared.scratch fonts, h.scratch fonts]
    cases kept : d'.scratch with
    | none => rfl
    | some gc =>
      have below := distinct.below .scratch (.gc gc) (by rw [Display.handle?, kept]; rfl)
      exact congrArg (fun n => some (NativeGc.mk n)) (agree _ below).symm
  case numbers => exact numbers

/-! ## Numbers in an answer -/

theorem Answer.renamed_congr {a : Answer} (agree : ∀ h ∈ a.handle?, g h.number = f h.number) :
    a.renamed g = a.renamed f := by
  cases a with
  | color r =>
    cases r with
    | error e => rfl
    | ok h => exact congrArg (fun h => color (.ok h)) (Shelf.colors.rename_congr (agree _ rfl))
  | font r =>
    cases r with
    | error e => rfl
    | ok h => exact congrArg (fun h => font (.ok h)) (Shelf.fonts.rename_congr (agree _ rfl))
  | image r =>
    cases r with
    | error e => rfl
    | ok h => exact congrArg (fun h => image (.ok h)) (Shelf.images.rename_congr (agree _ rfl))
  | image? h =>
    cases h with
    | none => rfl
    | some h => exact congrArg (fun h => image? (some h)) (Shelf.images.rename_congr (agree _ rfl))
  | gc r =>
    cases r with
    | error e => rfl
    | ok h => exact congrArg (fun n => gc (.ok ⟨n⟩)) (agree _ rfl)
  | _ => rfl

theorem renamed_congr {o : Outcome Answer} (agree : ∀ h ∈ handed? o, g h.number = f h.number) :
    o.map (Answer.renamed g) = o.map (Answer.renamed f) := by
  cases o with
  | done a => exact congrArg Outcome.done (Answer.renamed_congr agree)
  | fault c => rfl
  | stalled => rfl

/-- Only a call for a handle comes to one. -/
theorem descriptor?_of_handed {h : Handle}
    (given : handed? ((Setting.alone opening).call c d).1 = some h) :
    ∃ a, c.descriptor? = some a := by
  cases run : ((Setting.alone opening).call c d).1 with
  | fault e | stalled =>
    rw [run] at given
    cases given
  | done answer =>
    rw [run] at given
    cases c <;> simp only [Setting.call, Act.bind_pure_apply] at run <;>
      obtain ⟨r, -, rfl⟩ := Outcome.map_eq_done run <;>
      first | exact ⟨_, rfl⟩ | cases given

/-- The number that a call comes to was given out by then. -/
theorem handed_lt (lent : d.lent = []) (distinct : (d.after opening c).Distinct) {h : Handle}
    (given : handed? ((Setting.alone opening).call c d).1 = some h) :
    h.number < (d.after opening c).backend.nextId := by
  obtain ⟨a, asked⟩ := descriptor?_of_handed given
  cases run : ((Setting.alone opening).call c d).1 with
  | done answer =>
    rw [run] at given
    exact distinct.below a h (alone_hands lent asked run given).2
  | fault c =>
    rw [run] at given
    cases given
  | stalled =>
    rw [run] at given
    cases given

/-! ## Whole runs -/

/-- A call, and what opening an image's source answers if the call opens one. -/
structure Request (τ : Type) where
  call : Call τ
  opening : Opening

/-- The moments of some requests. -/
def performed (d : Display τ) : List (Request τ) → List (Moment τ)
  | [] => []
  | r :: rs => .of r.opening r.call d :: performed (Moment.of r.opening r.call d).after rs

/-- What a moment shows of one kind: the answer, and the counts of the cache afterwards. -/
def Moment.seen (K : Shelf) (m : Moment τ) : Outcome Answer × CacheStats :=
  (m.outcome.map (Answer.toward K), (K.part.get m.after).stats)

/-- **Two runs**, one with and one without the calls about other kinds, show the same of a kind, by
one renaming that agrees with the first one on the numbers that were given out. -/
theorem Beside.run (h : Beside K f d d') (orderly : d.Orderly) (orderly' : d'.Orderly)
    (distinct : d'.Distinct) (rs : List (Request τ)) :
    ∃ g, StrictMono g ∧ (∀ n < d'.backend.nextId, g n = f n) ∧
      ((performed d rs).filter (K.keeps ·.call)).map (Moment.seen K) =
        (performed d' (rs.filter (K.keeps ·.call))).map fun m =>
          ((m.seen K).1.map (Answer.renamed g), (m.seen K).2) := by
  induction rs generalizing f d d' with
  | nil => exact ⟨f, h.numbers.order, fun _ _ => rfl, rfl⟩
  | cons r rs ih =>
    obtain ⟨c, opening⟩ := r
    have left := Moment.of_after opening orderly.lent c
    cases kept : K.keeps c with
    | false =>
      have grows := (d.turns_after opening c).nextId_le
      obtain ⟨f', agree, beside⟩ := h.aside orderly' distinct (.after opening kept) grows
      obtain ⟨g, order, agree', same⟩ := ih beside (orderly.after c) orderly' distinct
      refine ⟨g, order, fun n hn => (agree' n hn).trans (agree n hn), ?_⟩
      rw [performed, left, List.filter_cons_of_neg (by simpa [Moment.of] using kept),
        List.filter_cons_of_neg (by simpa using kept)]
      exact same
    | true =>
      have left' := Moment.of_after opening orderly'.lent c
      have turns := d'.turns_after opening c
      have beside : Beside K f (d.after opening c) (d'.after opening c) :=
        h.after orderly.lent orderly'.lent kept
      have answered := h.answers orderly.lent orderly'.lent kept opening
      obtain ⟨g, order, agree, same⟩ := ih beside (orderly.after c) (orderly'.after c)
        (distinct.turns turns)
      refine ⟨g, order, fun n hn => agree n (Nat.lt_of_lt_of_le hn turns.nextId_le), ?_⟩
      have told : ∀ y ∈ handed? (((Setting.alone opening).call c d').1.map (Answer.toward K)),
          g y.number = f y.number := by
        intro y hy
        rw [handed?_toward] at hy
        exact agree _ (handed_lt orderly'.lent (distinct.turns turns) hy)
      have head : (Moment.of opening c d).seen K =
          (((Moment.of opening c d').seen K).1.map (Answer.renamed g),
            ((Moment.of opening c d').seen K).2) := by
        refine Prod.ext ?_ ?_
        · exact answered.trans (renamed_congr told).symm
        · simp only [Moment.seen, left, left', beside.cache, Cache.stats_mapped]
      rw [performed, left, List.filter_cons_of_pos (by simpa [Moment.of] using kept),
        List.filter_cons_of_pos (by simpa using kept), performed, left', List.map_cons,
        List.map_cons, same, head]

/-- The moments of some requests are a path. -/
theorem performed_path (d : Display τ) (rs : List (Request τ)) :
    ∃ d', Path (fun _ => True) d (performed d rs) d' := by
  induction rs generalizing d with
  | nil => exact ⟨d, .rest d⟩
  | cons r rs ih =>
    obtain ⟨d', p⟩ := ih (Moment.of r.opening r.call d).after
    exact ⟨d', (Path.single trivial r.opening d).append p⟩

/-- **Every history** is made of the moments of some requests. -/
theorem Path.performed {allowed : Call τ → Prop} {t : List (Moment τ)} (p : Path allowed d t d') :
    ∃ rs, t = DisplayEnv.performed d rs := by
  induction t generalizing d with
  | nil => exact ⟨[], rfl⟩
  | cons m t ih =>
    rw [← List.nil_append (m :: t)] at p
    obtain ⟨first, ⟨opening, of⟩, -, later⟩ := p.at_moment
    obtain rfl := first.of_nil
    obtain ⟨rs, rfl⟩ := ih later
    exact ⟨⟨m.call, opening⟩ :: rs, by rw [DisplayEnv.performed, ← of]⟩

/-- A call about another kind, wherever it is made. -/
theorem spared_of_performed {rs : List (Request τ)} {m : Moment τ} (orderly : d.Orderly)
    (hm : m ∈ performed d rs) (deleted : K.keeps m.call = false) : Spared K m.before m.after := by
  obtain ⟨d', path⟩ := performed_path d rs
  obtain ⟨l, r, split⟩ := List.append_of_mem hm
  rw [split] at path
  obtain ⟨before, ⟨opening, of⟩, -, -⟩ := path.at_moment
  have left := Moment.of_after opening (before.orderly orderly).lent m.call
  have spared : Spared K m.before (m.before.after opening m.call) := .after opening deleted
  rwa [← left, ← of] at spared

/-- **The caches of a display do not interfere.** Take any requests of a fresh display, and leave
out those about other kinds of resources. Every call that stays has the same outcome, but for the
numbers of handles, and the same counts after it; two calls return the same handle in one run when
they do in the other; and a call that is left out does not change the counts. -/
theorem caches_independent (config : HeadlessConfig) (id : Nat) (K : Shelf)
    (rs : List (Request τ)) :
    let all := performed (.new id (.new config)) rs
    let kept := all.filter (K.keeps ·.call)
    let thinned := performed (.new id (.new config)) (rs.filter (K.keeps ·.call))
    (∃ f, StrictMono f ∧ kept.map (Moment.seen K) =
      thinned.map fun m => ((m.seen K).1.map (Answer.renamed f), (m.seen K).2)) ∧
    (∀ k l : Nat, kept[k]?.bind (handed? ·.outcome) = kept[l]?.bind (handed? ·.outcome) ↔
      thinned[k]?.bind (handed? ·.outcome) = thinned[l]?.bind (handed? ·.outcome)) ∧
    ∀ m ∈ all, K.keeps m.call = false →
      (K.part.get m.after).stats = (K.part.get m.before).stats := by
  intro all kept thinned
  have history : History (fun _ => True) config [] (.new id (.new config) : Display τ) :=
    ⟨id, .rest _⟩
  obtain ⟨f, order, -, same⟩ := (Beside.new K (.new id (.new config))).run history.orderly
    history.orderly history.distinct rs
  refine ⟨⟨f, order, same⟩, ?_, ?_⟩
  · have handed : kept.map (handed? ·.outcome) =
        thinned.map fun m => (handed? m.outcome).map (Handle.renamed f) := by
      have := congrArg (List.map fun s : Outcome Answer × CacheStats => handed? s.1) same
      simpa [Function.comp_def, Moment.seen, handed?_toward, handed?_renamed] using this
    have handles (k : Nat) : kept[k]?.bind (handed? ·.outcome) =
        (thinned[k]?.bind (handed? ·.outcome)).map (Handle.renamed f) := by
      have at_k := congrArg (fun t : List (Option Handle) => t[k]?.bind fun h => h) handed
      simpa [Option.map_bind, Option.bind_map, Function.comp_def] using at_k
    intro k l
    rw [handles, handles]
    exact (Option.map_injective (Handle.renamed_injective order.injective)).eq_iff
  · intro m hm deleted
    rw [(spared_of_performed history.orderly hm deleted).cache]

end DisplayEnv
