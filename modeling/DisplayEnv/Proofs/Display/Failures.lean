import DisplayEnv.Proofs.Display.Changes

/-!
# What a failed call leaves

A call for a resource can fail at many points: the display was torn down, an image has no source,
the source is refused or breaks off, its bytes are no picture, the backend refuses to make a handle,
or a text has its font and no scratch context to be measured on. Every one of them is before the
first store to a cache, to the scratch slot and to the backend.

`Display.Fails` lists what is left then, in four cases, and `Display.call_failed` says that there
are no others. What is said of failures is read off the cases:

* `Fails.uncounted`: all but the counts of the caches is as it was.
* `Fails.counted`: at most one count changes, by one.
* `Fails.eq_of_disposed`: after a teardown not even a count changes.
-/

namespace DisplayEnv

variable {τ α : Type}

/-- The descriptor that a call looks up in a cache, to have its handle. -/
def Call.looksUp? : Call τ → Option ((sh : Shelf) × sh.Key)
  | .resolveColor c => some ⟨.colors, c⟩
  | .resolveFont f | .textExtent f _ => some ⟨.fonts, f⟩
  | .resolveImage i | .image i => some ⟨.images, i.uri⟩
  | _ => none

/-- The error that a call for a resource answers. -/
def Answer.error? : Answer → Option ResourceError
  | .color (.error e) | .font (.error e) | .image (.error e) | .gc (.error e)
  | .extent (.error e) => some e
  | _ => none

/-- A call for a resource failed, whether it says why or not. -/
def Answer.Failed (a : Answer) : Prop := a.error?.isSome ∨ a = .image? none

/-- A making does not fail for the reason that the display was torn down. -/
def Making.Undisposed {H : Type} (make : Making τ H) : Prop :=
  ∀ b e, make b = .ok (.error e) → e ≠ .disposed

namespace Display

/-- The display without the counts of its caches. -/
def uncounted (d : Display τ) : Display τ :=
  { d with
    colors := d.colors.resetStats
    fonts := d.fonts.resetStats
    images := d.images.resetStats }

/-- The counts of a cache: lookups that found a handle, and lookups that did not. -/
def counters (d : Display τ) (sh : Shelf) : Nat × Nat :=
  ((sh.part.get d).hits, (sh.part.get d).misses)

/-- No handle is kept for a descriptor. -/
def Lacks (d : Display τ) (sh : Shelf) (k : sh.Key) : Prop := (sh.part.get d).find? k = none

/-- What a failed call has counted: nothing, a miss, or a hit. -/
inductive Counted (d : Display τ) (c : Call τ) (d' : Display τ) : Prop
  /-- Nothing was looked up. -/
  | none (why : d.disposed = true ∨ c = .scratchGc)
      (same : ∀ sh, d'.counters sh = d.counters sh)
  /-- No handle was found, and none could be made. -/
  | miss {sh : Shelf} {k : sh.Key} (addressed : c.looksUp? = some ⟨sh, k⟩)
      (absent : d.Lacks sh k)
      (one : d'.counters sh = ((d.counters sh).1, (d.counters sh).2 + 1))
      (others : ∀ other, other ≠ sh → d'.counters other = d.counters other)
  /-- A font was found for a text, and no scratch context could be made to measure it on. -/
  | hit {f : Font} {text : String} (measuring : c = .textExtent f text)
      (found : ¬ d.Lacks .fonts f) (without : d.scratch = none)
      (one : d'.counters .fonts = ((d.counters .fonts).1 + 1, (d.counters .fonts).2))
      (others : ∀ other, other ≠ .fonts → d'.counters other = d.counters other)

/-- How a call fails: what it answers, and the display that it leaves. -/
inductive Fails (d : Display τ) (c : Call τ) : ResourceError → Display τ → Prop
  | disposed (ended : d.disposed = true) : Fails d c .disposed d
  | missed {sh : Shelf} {k : sh.Key} {e : ResourceError} (live : d.disposed = false)
      (addressed : c.looksUp? = some ⟨sh, k⟩) (absent : d.Lacks sh k) (why : e ≠ .disposed) :
      Fails d c e (sh.part.modify .countMiss d)
  | noScratch {e : ResourceError} (live : d.disposed = false) (asked : c = .scratchGc)
      (why : e ≠ .disposed) : Fails d c e d
  | unmeasured {f : Font} {text : String} {e : ResourceError} (live : d.disposed = false)
      (measuring : c = .textExtent f text) (found : ¬ d.Lacks .fonts f)
      (without : d.scratch = none) (why : e ≠ .disposed) :
      Fails d c e (fontsPart.modify .countHit d)

end Display

variable {d d' : Display τ} {c : Call τ} {opening : Opening} {e : ResourceError}

/-! ## What a failure leaves -/

namespace Display

theorem uncounted_modify (d : Display τ) (sh : Shelf)
    {u : Cache sh.Key sh.Handle → Cache sh.Key sh.Handle}
    (hu : (u (sh.part.get d)).resetStats = (sh.part.get d).resetStats) :
    (sh.part.modify u d).uncounted = d.uncounted := by
  cases sh with
  | colors => exact congrArg (fun c => { d.uncounted with colors := c }) hu
  | fonts => exact congrArg (fun c => { d.uncounted with fonts := c }) hu
  | images => exact congrArg (fun c => { d.uncounted with images := c }) hu

theorem counters_modify_ne (d : Display τ) (sh : Shelf) {other : Shelf} (h : other ≠ sh)
    (u : Cache sh.Key sh.Handle → Cache sh.Key sh.Handle) :
    (sh.part.modify u d).counters other = d.counters other := by
  cases sh <;> cases other <;> first | rfl | exact absurd rfl h

/-- **A failure changes nothing but counts.** -/
theorem Fails.uncounted (h : d.Fails c e d') : d'.uncounted = d.uncounted := by
  cases h with
  | disposed _ | noScratch _ _ _ => rfl
  | missed _ _ _ _ => exact d.uncounted_modify _ rfl
  | unmeasured _ _ _ _ _ => exact d.uncounted_modify .fonts rfl

/-- At most one count changes, by one. -/
theorem Fails.counted (h : d.Fails c e d') : d.Counted c d' := by
  cases h with
  | disposed ended => exact .none (.inl ended) fun _ => rfl
  | noScratch _ asked _ => exact .none (.inr asked) fun _ => rfl
  | @missed sh _ _ _ addressed absent _ =>
    exact .miss addressed absent (by cases sh <;> rfl) fun _ h => d.counters_modify_ne sh h _
  | unmeasured _ measuring found without _ =>
    exact .hit measuring found without rfl fun _ h => d.counters_modify_ne .fonts h _

/-- After a teardown not even a count changes. -/
theorem Fails.eq_of_disposed (h : d.Fails c e d') (ended : e = .disposed ∨ d.disposed = true) :
    d' = d := by
  cases h with
  | disposed _ | noScratch _ _ _ => rfl
  | missed live _ _ why | unmeasured live _ _ _ why =>
    rcases ended with rfl | ended
    · exact absurd rfl why
    · rw [live] at ended
      cases ended

/-! ## Each operation -/

theorem resolve_failed {sh : Shelf} {k : sh.Key} {make : Making τ sh.Handle}
    (hm : make.Undisposed) (addressed : c.looksUp? = some ⟨sh, k⟩)
    (h : d.resolve sh k make = (.done (.error e), d')) : d.Fails c e d' := by
  have outcome := d.resolves sh k make
  rw [h] at outcome
  cases outcome with
  | ended ended => exact .disposed ended
  | refused live absent refused => exact .missed live addressed absent (hm _ _ refused)

end Display

theorem Making.native_undisposed {H : Type}
    (create : Headless τ → Except PlatformError (H × Headless τ)) :
    (Making.native create).Undisposed := by
  intro b e h
  unfold Making.native at h
  split at h <;> cases h
  exact nofun

theorem Picture.ofBytesBy_undisposed {decoder : Decoder} {uri : String} {bytes : List UInt8}
    (h : Picture.ofBytesBy decoder uri bytes = .ok (.error e)) : e ≠ .disposed := by
  unfold Picture.ofBytesBy at h
  split at h
  · cases h
    exact nofun
  · rename_i width height rgba _
    cases hp : Picture.make (UInt32.ofNat width) (UInt32.ofNat height) rgba with
    | error c =>
      rw [hp] at h
      cases h
    | ok r =>
      rw [hp] at h
      cases r with
      | ok picture => cases h
      | error e =>
        cases h
        exact nofun

theorem Picture.ofOpeningBy_undisposed {decoder : Decoder} {uri : String}
    {r : Except FileError (List Delivery)}
    (h : Picture.ofOpeningBy decoder uri r = .ok (.error e)) : e ≠ .disposed := by
  unfold Picture.ofOpeningBy at h
  split at h
  · cases h
    exact nofun
  · split at h
    · cases h
      exact nofun
    · exact Picture.ofBytesBy_undisposed h

theorem Making.image_undisposed (opening : Opening) (i : Image) :
    (Making.image opening i : Making τ _).Undisposed := by
  intro b e h
  unfold Making.image at h
  split at h
  · cases h
    exact nofun
  · split at h
    · cases h
    · split at h
      · cases h
      · rename_i loaded
        cases h
        exact Picture.ofOpeningBy_undisposed loaded
      · exact Making.native_undisposed _ b e h

/-- Only a closed connection refuses a drawing context. -/
theorem Headless.closed_of_createGc {b : Headless τ} {p : PlatformError}
    (h : b.createGc = .error p) : b.closed = true := by
  unfold createGc allocate at h
  split at h
  · assumption
  · cases h

namespace Display

theorem resolveScratch_failed (h : d.resolveScratch = (.done (.error e), d')) :
    d' = d ∧ ((d.disposed = true ∧ e = .disposed) ∨
      (d.disposed = false ∧ d.scratch = none ∧ d.backend.closed = true ∧ e ≠ .disposed)) := by
  have outcome := d.resolvesScratch
  rw [h] at outcome
  cases outcome with
  | ended ended => exact ⟨rfl, .inl ⟨ended, rfl⟩⟩
  | refused live absent refused =>
    exact ⟨rfl, .inr ⟨live, absent, Headless.closed_of_createGc refused, nofun⟩⟩

/-- A font that was just made came over an open connection, and so would the scratch context: the
second half of a measuring can only fail when the font was found. -/
theorem unmeasured_failed {f : Font} {text : String} {font : NativeFont} {d₁ : Display τ}
    (first : d.resolveFont f = (.done (.ok font), d₁))
    (second : d₁.resolveScratch = (.done (.error e), d')) :
    d.Fails (.textExtent f text) e d' := by
  obtain ⟨rfl, why⟩ := resolveScratch_failed second
  have outcome : d.Resolves .fonts f (Making.native (·.createFont f)) (.done (.ok font), d') := by
    rw [← first]
    exact d.resolves .fonts f _
  cases outcome with
  | found live found =>
    rcases why with ⟨ended, -⟩ | ⟨-, without, -, why⟩
    · exact absurd (live.symm.trans ended) nofun
    · exact .unmeasured live rfl (by rw [Lacks, found]; exact nofun) without why
  | made live _ made =>
    obtain ⟨opened, -, rfl⟩ := Headless.allocate_eq (createFont_allocates f _ _ _ made)
    rcases why with ⟨ended, -⟩ | ⟨-, -, closed, -⟩
    · exact absurd (live.symm.trans ended) nofun
    · exact absurd (opened.symm.trans closed) nofun

end Display

theorem alone_textExtent_failed (hl : d.lent = []) {f : Font} {text : String}
    (h : (Setting.alone opening).textExtent f text d = (.done (.error e), d')) :
    d.Fails (.textExtent f text) e d' := by
  rw [alone_textExtent_apply hl] at h
  split at h
  · rename_i first
    split at h
    · split at h <;> cases h
    · rename_i second
      cases h
      exact Display.unmeasured_failed first second
    · cases h
    · cases h
  · rename_i first
    cases h
    exact Display.resolve_failed (Making.native_undisposed _) rfl first
  · cases h
  · cases h

/-! ## Every call -/

/-- A call that answers how its operation ended fails when the operation does. -/
theorem failed_of_map {f : Except ResourceError α → Answer} {a : Answer}
    {r : Outcome (Except ResourceError α) × Display τ} (ok : ∀ x, ¬ (f (.ok x)).Failed)
    (error : ∀ e e', (f (.error e)).error? = some e' → e' = e)
    (h : (r.1.map f, r.2) = (.done a, d')) (failed : a.Failed) :
    ∃ e, r = (.done (.error e), d') ∧ ∀ e', a.error? = some e' → e' = e := by
  obtain ⟨o, d₁⟩ := r
  obtain ⟨x, rfl, rfl⟩ := Outcome.map_eq_done (congrArg Prod.fst h)
  obtain rfl : d₁ = d' := congrArg Prod.snd h
  cases x with
  | ok x => exact absurd failed (ok x)
  | error e => exact ⟨e, rfl, error e⟩

/-- **Every failure is one of the four.** -/
theorem Display.call_failed (hl : d.lent = []) {a : Answer}
    (h : (Setting.alone opening).call c d = (.done a, d')) (failed : a.Failed) :
    ∃ e, d.Fails c e d' ∧ ∀ e', a.error? = some e' → e' = e := by
  -- the calls that are not for a resource have answers that are never failures
  have other {β : Type} {o : Outcome β} {f : β → Answer} {d₁ : Display τ}
      (h : (o.map f, d₁) = (.done a, d')) (never : ∀ b, ¬ (f b).Failed) :
      ∃ e, d.Fails c e d' ∧ ∀ e', a.error? = some e' → e' = e := by
    obtain ⟨b, -, rfl⟩ := Outcome.map_eq_done (congrArg Prod.fst h)
    exact absurd failed (never b)
  have resolved {sh : Shelf} {k : sh.Key} {make : Making τ sh.Handle}
      {f : Except ResourceError sh.Handle → Answer} (hm : make.Undisposed)
      (addressed : c.looksUp? = some ⟨sh, k⟩)
      (h : ((d.resolve sh k make).1.map f, (d.resolve sh k make).2) = (.done a, d'))
      (ok : ∀ x, ¬ (f (.ok x)).Failed)
      (error : ∀ e e', (f (.error e)).error? = some e' → e' = e) :
      ∃ e, d.Fails c e d' ∧ ∀ e', a.error? = some e' → e' = e := by
    obtain ⟨e, h, same⟩ := failed_of_map ok error h failed
    exact ⟨e, resolve_failed hm addressed h, same⟩
  cases c <;> rw [Setting.call, Act.bind_pure_apply] at h
  case resolveColor c =>
    rw [alone_resolveColor hl] at h
    exact resolved (Making.native_undisposed _) rfl h (by simp [Answer.Failed, Answer.error?])
      (by simp [Answer.error?])
  case resolveFont f =>
    rw [alone_resolveFont hl] at h
    exact resolved (Making.native_undisposed _) rfl h (by simp [Answer.Failed, Answer.error?])
      (by simp [Answer.error?])
  case resolveImage i =>
    rw [alone_resolveImage hl] at h
    exact resolved (Making.image_undisposed _ _) rfl h (by simp [Answer.Failed, Answer.error?])
      (by simp [Answer.error?])
  case image i =>
    rw [alone_image? hl, Outcome.map_map] at h
    exact resolved (Making.image_undisposed _ _) rfl h
      (by simp [Answer.Failed, Answer.error?, Except.toOption]) (by simp [Answer.error?])
  case scratchGc =>
    rw [alone_scratchGc hl] at h
    obtain ⟨e, h, same⟩ := failed_of_map (by simp [Answer.Failed, Answer.error?])
      (by simp [Answer.error?]) h failed
    obtain ⟨rfl, ⟨ended, rfl⟩ | ⟨live, -, -, why⟩⟩ := resolveScratch_failed h
    · exact ⟨_, .disposed ended, same⟩
    · exact ⟨e, .noScratch live rfl why, same⟩
  case textExtent f text =>
    obtain ⟨e, h, same⟩ := failed_of_map (by simp [Answer.Failed, Answer.error?])
      (by simp [Answer.error?]) h failed
    exact ⟨e, alone_textExtent_failed hl h, same⟩
  all_goals exact other h (by simp [Answer.Failed, Answer.error?])

end DisplayEnv
