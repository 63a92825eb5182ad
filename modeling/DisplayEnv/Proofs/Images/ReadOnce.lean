import DisplayEnv.Proofs.Display.Identity
import DisplayEnv.Proofs.Images.Register

/-!
# Images are read lazily, and once for each miss

An `Occasion` is a call that a program makes on its display, with the states before and after it, and
`Occasions` are some of them one after the other, with whatever else the program does in between, as
long as that leaves the display and the register of opened sources alone. A dispatch is the call that
takes the event; what its handler does are the occasions behind it (`Occasions.dispatchNext`).

* `Occasions.path`: the occasions of a quiet setting are a path of its display.
* `Occasions.register`: what is entered in the register, call by call.
* `Occasion.hit`, `Path.still_kept`: an image that is kept is answered without its source, and it is
  kept until it is released.
* `images_read_once`: the law of a whole run.
-/

namespace DisplayEnv

variable {σ τ : Type}

/-- A call in a run, with the states before and after it. -/
structure Occasion (σ τ : Type) where
  before : σ
  call : Call τ
  outcome : Outcome Answer
  after : σ

namespace Occasion

/-- The occasion of a call from a state. -/
def of (S : Setting σ τ) (c : Call τ) (s : σ) : Occasion σ τ :=
  ⟨s, c, (S.call c s).1, (S.call c s).2⟩

/-- What the occasion is to the display. -/
def moment (S : Setting σ τ) (o : Occasion σ τ) : Moment τ :=
  ⟨S.display.get o.before, o.call, o.outcome, S.display.get o.after⟩

/-- The source that is opened on the occasion. -/
def opens? (S : Setting σ τ) (o : Occasion σ τ) : Option Source :=
  (S.display.get o.before).opens? o.call

end Occasion

/-- Calls one after the other. Between two of them anything else may happen that leaves the display
and the register alone. -/
inductive Occasions (S : Setting σ τ) (opened : σ → List Source) :
    σ → List (Occasion σ τ) → σ → Prop
  | rest (s : σ) : Occasions S opened s [] s
  | call {s s' : σ} {t : List (Occasion σ τ)} (h : Occasions S opened s t s') (c : Call τ) :
      Occasions S opened s (t ++ [.of S c s']) (Occasion.of S c s').after
  | meanwhile {s s' s'' : σ} {t : List (Occasion σ τ)} (h : Occasions S opened s t s')
      (display : S.display.get s'' = S.display.get s') (register : opened s'' = opened s') :
      Occasions S opened s t s''

variable {S : Setting σ τ} {opened : σ → List Source} {s s' : σ} {t t' : List (Occasion σ τ)}
  {o : Occasion σ τ} {d d' : Display τ} {opening : Opening} {c : Call τ} {uri : String}
  {h : NativeImage} {i : Image}

namespace Occasions

theorem append (run : Occasions S opened s t s') {s'' : σ} (run' : Occasions S opened s' t' s'') :
    Occasions S opened s (t ++ t') s'' := by
  induction run' with
  | rest => simpa using run
  | call _ c ih =>
    rw [← List.append_assoc]
    exact ih.call c
  | meanwhile _ display register ih => exact ih.meanwhile display register

/-- **A dispatch** is the call that takes the event, and behind it the calls of the handler. -/
theorem dispatchNext {task : τ} (run : Occasions S opened s t s')
    (found : (S.backend.get s').next.1 = some (.task task))
    (handled : Occasions S opened (S.afterNext s') t' (S.run task (S.afterNext s')).2)
    (ending : Outcome (Except PlatformError Unit)) :
    Occasions S opened s (t ++ .of S (.dispatch ending) s' :: t') (S.dispatchNext s').2 := by
  have taken : (Occasion.of S (.dispatch ending) s').after = S.afterNext s' := by
    show (S.call (.dispatch ending) s').2 = _
    rw [Setting.call, Act.bind_pure_snd, Setting.dispatchNext_task (S := S.endingWith ending) found]
    rfl
  rw [List.append_cons, Setting.dispatchNext_task found]
  exact (run.call _).append (taken.symm ▸ handled)

theorem mem (run : Occasions S opened s t s') (ho : o ∈ t) : o = .of S o.call o.before := by
  induction run with
  | rest => cases ho
  | call _ c ih =>
    rcases List.mem_append.mp ho with ho | ho
    · exact ih ho
    · obtain rfl := List.mem_singleton.mp ho
      rfl
  | meanwhile _ _ _ ih => exact ih ho

/-- Seen from the display, the occasions are its calls. -/
theorem path (hS : S.Quiet) (run : Occasions S opened s t s') :
    Path (fun _ => True) (S.display.get s) (t.map (·.moment S)) (S.display.get s') := by
  induction run with
  | rest => exact .rest _
  | @call s' t _ c ih =>
    obtain ⟨opening, same⟩ := hS.moment_eq c s'
    have goes := ih.call (c := c) trivial opening
    rw [← show (Occasion.of S c s').moment S = _ from same] at goes
    rw [List.map_append]
    exact goes
  | meanwhile _ display _ ih => exact display ▸ ih

/-- **What is entered in the register**: the source of every image that is asked for on a live
display and is not kept there. -/
theorem register (hS : S.Registers opened) (orderly : (S.display.get s).Orderly)
    (run : Occasions S opened s t s') : opened s' = opened s ++ t.filterMap (·.opens? S) := by
  induction run with
  | rest => simp
  | @call s' t run c ih =>
    have lent := ((run.path hS.toQuiet).orderly orderly).lent
    have added : opened (S.call c s').2 = _ := hS.call lent c
    show opened (S.call c s').2 = _
    rw [added, ih, List.filterMap_append, List.append_assoc]
    rfl
  | meanwhile _ _ register ih => exact register.trans ih

end Occasions

/-! ## Images that are kept -/

/-- Looking an image up that is kept. -/
theorem alone_hit (opening : Opening) (lent : d.lent = []) (live : d.disposed = false)
    (asked : c.image? = some i) (found : d.images.find? i.uri = some h) :
    (Moment.of opening c d).Hands (.shelved .images i.uri) (.shelved .images h) ∧
      (Moment.of opening c d).after.images.find? i.uri = some h := by
  have resolved : d.resolveImage opening i =
      (.done (.ok h), Shelf.images.part.modify .countHit d) := by
    have outcome := d.resolves .images i.uri (Making.image opening i)
    show d.resolve .images i.uri _ = _
    generalize d.resolve .images i.uri (Making.image opening i) = r at outcome ⊢
    cases outcome with
    | found _ found' =>
      obtain rfl : h = _ := Option.some.inj (found.symm.trans found')
      rfl
    | ended ended => exact absurd (live.symm.trans ended) nofun
    | made _ absent _ | refused _ absent _ | gaveUp _ absent _ =>
      exact absurd (found.symm.trans absent) nofun
  have after : (Moment.of opening c d).after = Shelf.images.part.modify .countHit d := by
    rw [Moment.of_after opening lent]
    cases c <;> cases asked <;> exact congrArg Prod.snd resolved
  refine ⟨⟨?_, ?_⟩, ?_⟩
  · cases c <;> cases asked <;> rfl
  · cases c <;> cases asked
    · refine ⟨.image (.ok h), ?_, rfl⟩
      show ((Setting.alone opening).call (.resolveImage i) d).1 = _
      rw [Setting.call, Act.bind_pure_apply, alone_resolveImage lent, resolved]
      rfl
    · refine ⟨.image? (some h), ?_, rfl⟩
      show ((Setting.alone opening).call (.image i) d).1 = _
      rw [Setting.call, Act.bind_pure_apply, alone_image? lent, resolved]
      rfl
  · rw [after]
    exact found

/-- **An image that is kept** stays what it is over any calls, until it is released or the display is
torn down. -/
theorem Path.still_kept {t : List (Moment τ)} (p : Path (fun _ => True) d t d') (orderly : d.Orderly)
    (distinct : d.Distinct) (kept : d.images.find? uri = some h)
    (unreleased : ∀ m ∈ t, ¬ m.call.Drops (.shelved .images uri)) (live : d'.disposed = false) :
    d'.images.find? uri = some h := by
  have entered : d.handle? (.shelved .images uri) = some (.shelved .images h) :=
    congrArg (Option.map (Handle.shelved .images)) kept
  obtain ⟨-, -, fate⟩ := p.fate orderly distinct entered
  cases fate with
  | kept still _ =>
    obtain ⟨h', found, same⟩ := Option.map_eq_some_iff.mp still
    cases same
    exact found
  | lost _ why =>
    rcases why with ⟨m, hm, removes⟩ | ended
    · exact absurd removes.1 (unreleased m hm)
    · exact absurd (live.symm.trans ended) nofun

/-- A release answers whether there was a handle. -/
theorem Display.release_fst (d : Display τ) (sh : Shelf) (k : sh.Key) :
    (d.release sh k).1 = ((sh.part.get d).find? k).isSome := by
  unfold release
  cases (sh.part.get d).find? k <;> rfl

/-- What was to be released is not kept. -/
theorem Display.Turns.gone {a : Descriptor} (turns : d.Turns opening c d') (drops : c.Drops a) :
    d'.handle? a = none := by
  cases turns with
  | gains _ _ never => exact absurd drops (never a)
  | drops gone _ _ => exact gone a drops
  | ends never => exact absurd drops (never a)

/-! ## Whole runs -/

/-- **What a run has to do with its images**, from a state to a state. -/
structure ReadOnce (S : Setting σ τ) (opened : σ → List Source) (s : σ) (t : List (Occasion σ τ))
    (s' : σ) : Prop where
  /-- A source was opened once for each call that asked for an image with this source on a live
  display, while none was kept for its uri. -/
  counted : ∀ source, (opened s').count source =
    (opened s).count source + t.countP fun o => o.opens? S = some source
  /-- An image that is kept is answered, and nothing is opened for it. -/
  hits : ∀ o ∈ t, ∀ i h, o.call.image? = some i → (S.display.get o.before).disposed = false →
    (S.images.get o.before).find? i.uri = some h →
    (o.moment S).Hands (.shelved .images i.uri) (.shelved .images h) ∧
      opened o.after = opened o.before
  /-- An image that was made has the size of the picture that its own source delivered. -/
  makes : ∀ o ∈ t, ∀ i h, o.call.image? = some i → (S.images.get o.before).find? i.uri = none →
    (o.moment S).Hands (.shelved .images i.uri) (.shelved .images h) →
    opened o.after = opened o.before ++ i.source.toList ∧
      ∃ picture, S.Delivers i picture o.before ∧ h.width = picture.width ∧
        h.height = picture.height
  /-- An image that was answered is answered again to every call for its uri, whatever source that
  brings, until the uri or everything is released or the display is torn down. -/
  keeps : ∀ l o mid o' r uri h i, t = l ++ o :: (mid ++ o' :: r) →
    (o.moment S).Hands (.shelved .images uri) (.shelved .images h) →
    o'.call.image? = some i → i.uri = uri →
    (∀ x ∈ mid, ¬ x.call.Drops (.shelved .images uri)) →
    (S.display.get o'.before).disposed = false →
    (o'.moment S).Hands (.shelved .images uri) (.shelved .images h) ∧
      opened o'.after = opened o'.before
  /-- A release lets go of the image of its uri, whichever descriptor it brings. -/
  releases : ∀ o ∈ t, ∀ uri, o.call.Drops (.shelved .images uri) →
    (S.images.get o.after).find? uri = none
  /-- It answers whether there was one. -/
  answers : ∀ o ∈ t, ∀ i, o.call = .releaseImage i →
    o.outcome = .done (.flag ((S.images.get o.before).find? i.uri).isSome)

namespace Occasions

variable {config : HeadlessConfig}

/-- An occasion of a run is a call on its display, with histories up to it and behind it. -/
theorem at_occasion (hS : S.Quiet) {l r : List (Occasion σ τ)}
    (run : Occasions S opened s (l ++ o :: r) s')
    (fresh : History (fun _ => True) config [] (S.display.get s)) :
    History (fun _ => True) config (l.map (·.moment S)) (S.display.get o.before) ∧
      (∃ opening, o.moment S = .of opening o.call (S.display.get o.before)) ∧
      History (fun _ => True) config ((l ++ [o]).map (·.moment S)) (S.display.get o.after) ∧
      Path (fun _ => True) (S.display.get o.after) (r.map (·.moment S)) (S.display.get s') := by
  have history := fresh.append (run.path hS)
  rw [List.nil_append, List.map_append, List.map_cons] at history
  rw [List.map_append]
  exact history.at_moment

/-- An occasion of a run finds nothing lent out, and is a call on the display. -/
theorem inside (hS : S.Quiet) (run : Occasions S opened s t s')
    (fresh : History (fun _ => True) config [] (S.display.get s)) (ho : o ∈ t) :
    (S.display.get o.before).lent = [] ∧
      ∃ opening, o.moment S = .of opening o.call (S.display.get o.before) := by
  obtain ⟨l, r, rfl⟩ := List.append_of_mem ho
  obtain ⟨before, of, -, -⟩ := run.at_occasion hS fresh
  exact ⟨before.orderly.lent, of⟩

theorem opened_after (hS : S.Registers opened) (run : Occasions S opened s t s')
    (fresh : History (fun _ => True) config [] (S.display.get s)) (ho : o ∈ t) :
    opened o.after = opened o.before ++ (o.opens? S).toList := by
  obtain ⟨lent, -⟩ := run.inside hS.toQuiet fresh ho
  have added : opened (S.call o.call o.before).2 = _ := hS.call lent o.call
  rw [run.mem ho]
  exact added

/-- **A hit** is answered with what is kept, and opens nothing. -/
theorem hit (hS : S.Registers opened) (run : Occasions S opened s t s')
    (fresh : History (fun _ => True) config [] (S.display.get s)) (ho : o ∈ t)
    (asked : o.call.image? = some i) (live : (S.display.get o.before).disposed = false)
    (found : (S.images.get o.before).find? i.uri = some h) :
    (o.moment S).Hands (.shelved .images i.uri) (.shelved .images h) ∧
      opened o.after = opened o.before := by
  obtain ⟨lent, opening, of⟩ := run.inside hS.toQuiet fresh ho
  obtain ⟨hands, -⟩ := alone_hit opening lent live asked found
  refine ⟨of ▸ hands, ?_⟩
  have nothing : o.opens? S = none := by
    unfold Occasion.opens? Display.opens?
    rw [asked]
    exact if_pos (by rw [show (S.display.get o.before).images.find? i.uri = _ from found]; simp)
  rw [run.opened_after hS fresh ho, nothing]
  exact List.append_nil _

end Occasions

/-- **Images are read lazily, and once for each miss**, in every run of calls on a fresh display
whose program keeps a register of the sources that it opens. -/
theorem images_read_once (hS : S.Registers opened) {config : HeadlessConfig} {id : Nat}
    (fresh : S.display.get s = .new id (.new config)) (run : Occasions S opened s t s') :
    ReadOnce S opened s t s' := by
  have start : History (fun _ => True) config [] (S.display.get s) := ⟨id, fresh ▸ .rest _⟩
  constructor
  case counted =>
    intro source
    rw [run.register hS start.orderly, List.count_append, List.count_filterMap]
    exact congrArg _ (List.countP_congr fun o _ => by simp)
  case hits =>
    intro o ho i h asked live found
    exact run.hit hS start ho asked live found
  case makes =>
    intro o ho i h asked absent hands
    obtain ⟨lent, opening, of⟩ := run.inside hS.toQuiet start ho
    have live : (S.display.get o.before).disposed = false := (hands.kept lent of).1
    obtain ⟨-, answer, answered, given⟩ := hands
    refine ⟨?_, ?_⟩
    · have misses : o.opens? S = i.source := by
        unfold Occasion.opens? Display.opens?
        rw [asked]
        refine if_neg ?_
        rw [show (S.display.get o.before).images.find? i.uri = _ from absent]
        simpa using live
      rw [run.opened_after hS start ho, misses]
    · have call : o.call = .resolveImage i ∨ o.call = .image i := by
        cases hc : o.call <;> rw [hc] at asked <;> cases asked <;> simp
      have outcome : (S.call o.call o.before).1 = .done answer := by
        rw [← answered]
        exact congrArg Occasion.outcome (run.mem ho).symm
      exact hS.delivered lent (Setting.resolveImage_of_call call outcome given) absent
  case keeps =>
    rintro l o mid o' r uri h i split hands asked rfl unreleased live
    subst split
    obtain ⟨before, ⟨opening, of⟩, after, later⟩ := run.at_occasion hS.toQuiet start
    obtain ⟨-, kept, -⟩ := hands.kept before.orderly.lent of
    obtain ⟨h', found, same⟩ := Option.map_eq_some_iff.mp kept
    cases same
    rw [List.map_append, List.map_cons] at later
    obtain ⟨between, -, -, -⟩ := later.at_moment
    refine run.hit hS start (by simp) asked live ?_
    refine between.still_kept after.orderly after.distinct found (fun m hm => ?_) live
    obtain ⟨x, hx, rfl⟩ := List.mem_map.mp hm
    exact unreleased x hx
  case releases =>
    intro o ho uri drops
    obtain ⟨lent, opening, of⟩ := run.inside hS.toQuiet start ho
    have after : S.display.get o.after = (S.display.get o.before).after opening o.call :=
      (congrArg Moment.after of).trans (Moment.of_after opening lent o.call)
    have gone := ((S.display.get o.before).turns_after opening o.call).gone drops
    rw [← after] at gone
    exact Option.map_eq_none_iff.mp gone
  case answers =>
    intro o ho i asked
    obtain ⟨lent, opening, of⟩ := run.inside hS.toQuiet start ho
    have outcome : o.outcome = _ := congrArg Moment.outcome of
    rw [outcome, asked]
    show ((Setting.alone opening).call (.releaseImage i) (S.display.get o.before)).1 = _
    rw [Setting.call, Act.bind_pure_apply]
    refine (congrArg (fun r => r.1.map Answer.flag) (alone_release lent .images i.uri)).trans ?_
    exact congrArg (fun b => Outcome.done (Answer.flag b)) (Display.release_fst _ .images i.uri)

namespace Setting

/-- The occasions of some calls. -/
def occasions (S : Setting σ τ) (s : σ) : List (Call τ) → List (Occasion σ τ)
  | [] => []
  | c :: cs => .of S c s :: S.occasions (S.call c s).2 cs

/-- The state that some calls leave. -/
def settled (S : Setting σ τ) (s : σ) : List (Call τ) → σ
  | [] => s
  | c :: cs => S.settled (S.call c s).2 cs

end Setting

/-- Calls that are made one after the other are occasions. -/
theorem Occasions.of_calls (S : Setting σ τ) (opened : σ → List Source) (s : σ)
    (cs : List (Call τ)) : Occasions S opened s (S.occasions s cs) (S.settled s cs) := by
  induction cs generalizing s with
  | nil => exact .rest s
  | cons c cs ih => exact ((Occasions.rest s).call c).append (ih _)

/-- Calls for one uri with three descriptors: a good one, one without a source, and one with bytes
that are no picture. The second and the third call find what the first one made; after the release
the bad source is opened in vain, twice, and then the good one again. -/
def logoCalls : List (Call Nat) :=
  [.resolveImage dot, .image ⟨"logo", none⟩, .resolveImage blot, .releaseImage ⟨"logo", none⟩,
    .resolveImage blot, .image blot, .resolveImage dot]

theorem images_read_once_logo :
    let S : Setting (Display Nat × List Source) Nat :=
      (Setting.plain .empty fun _ => pure (.ok ())).registered
    let s := (.new 0 (.new .standard), [])
    ReadOnce S Prod.snd s (S.occasions s logoCalls) (S.settled s logoCalls) ∧
      (S.settled s logoCalls).2 =
        dot.source.toList ++ blot.source.toList ++ blot.source.toList ++ dot.source.toList := by
  intro S s
  refine ⟨images_read_once (Setting.plain_quiet _ _).registered rfl (.of_calls S _ s _), ?_⟩
  decide +kernel

end DisplayEnv
