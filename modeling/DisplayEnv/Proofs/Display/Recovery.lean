import DisplayEnv.Proofs.Display.Conservation
import DisplayEnv.Proofs.Display.Failures

/-!
# A failure is harmless, and can be made good

A failed call changes nothing but a count (`Failures.lean`), whatever was done to the display before
it and whatever surrounds the display. So an image that could not be had is still missing, until it
is looked up again; and when its source is good by then and the display is open, it is made, with a
number that no handle ever had.

* `Lacks.after`: a missing handle is missing until its descriptor is looked up.
* `History.own`: a display whose connection is open was never closed past the display, so its
  handles are conserved and the next number is a fresh one.
* `failure_harmless`: what a failure leaves, and that it can be made good.
-/

namespace DisplayEnv

variable {σ τ : Type}

/-- The source of an image answers with a picture that a native image can be made from. -/
def Setting.Delivers (S : Setting σ τ) (i : Image) (picture : Picture) (s : σ) : Prop :=
  picture.width ≠ 0 ∧ picture.height ≠ 0 ∧
    ∃ source r, i.source = some source ∧
      (S.openSource source (Quiet.opened S i s)).1 = .done r ∧
      Picture.ofOpeningBy S.decoder i.uri r = .ok (.ok picture)

/-- While the display is open, an image of this uri with a good source resolves, to a handle that
was never given out before. -/
def Setting.Recovers (S : Setting σ τ) (uri : String) (s : σ) : Prop :=
  (S.display.get s).disposed = false → (S.backend.get s).closed = false →
    ∀ i picture, i.uri = uri → S.Delivers i picture s →
      ∃ h : NativeImage, (S.call (.resolveImage i) s).1 = .done (.image (.ok h)) ∧
        h.width = picture.width ∧ h.height = picture.height ∧
        ∀ n ∈ (S.display.get s).held ++ (S.backend.get s).returned.map Released.number, n < h.id

variable {d d' : Display τ} {c : Call τ} {opening : Opening}

/-! ## What is missing stays missing -/

namespace Display

theorem Lacks.modify {sh other : Shelf} {k : sh.Key} (h : d.Lacks sh k)
    {u : Cache other.Key other.Handle → Cache other.Key other.Handle}
    (hu : ∀ j : other.Key, (⟨other, j⟩ : (sh : Shelf) × sh.Key) = ⟨sh, k⟩ → d.Lacks other j →
      (u (other.part.get d)).find? j = none) (b : Headless τ) :
    ({ other.part.modify u d with backend := b } : Display τ).Lacks sh k := by
  cases sh <;> cases other <;> first | exact h | exact hu k rfl h

/-- An operation that leaves the caches alone. -/
theorem Lacks.of_eq {sh : Shelf} {k : sh.Key} (h : d.Lacks sh k)
    (same : sh.part.get d' = sh.part.get d) : d'.Lacks sh k := by
  rw [Lacks, same]
  exact h

theorem Lacks.resolve {sh other : Shelf} {k : sh.Key} (h : d.Lacks sh k) {j : other.Key}
    (apart : (⟨other, j⟩ : (sh : Shelf) × sh.Key) ≠ ⟨sh, k⟩) (make : Making τ other.Handle) :
    (d.resolve other j make).2.Lacks sh k := by
  have counted (u : Cache other.Key other.Handle → Cache other.Key other.Handle)
      (hu : ∀ c i, (u c).find? i = c.find? i) : (other.part.modify u d).Lacks sh k :=
    h.modify (fun i _ h => (hu _ i).trans h) (other.part.modify u d).backend
  have outcome := d.resolves other j make
  generalize d.resolve other j make = r at outcome ⊢
  cases outcome with
  | ended _ => exact h
  | found _ _ => exact counted .countHit Cache.find?_countHit
  | made _ _ _ =>
    refine h.modify (fun i hi h => ?_) _
    rw [Cache.find?_insert, if_neg]
    · exact h
    · rintro rfl
      exact apart hi
  | refused _ _ _ | gaveUp _ _ _ => exact counted .countMiss Cache.find?_countMiss

theorem Lacks.release {sh other : Shelf} {k : sh.Key} (h : d.Lacks sh k) (j : other.Key) :
    (d.release other j).2.Lacks sh k := by
  unfold Display.release
  split
  · refine h.modify (fun i _ h => ?_) _
    rw [Cache.find?_erase]
    split
    · rfl
    · exact h
  · exact h

theorem Lacks.resolveScratch {sh : Shelf} {k : sh.Key} (h : d.Lacks sh k) :
    d.resolveScratch.2.Lacks sh k := by
  have outcome := d.resolvesScratch
  generalize d.resolveScratch = r at outcome ⊢
  cases outcome with
  | ended _ | found _ _ | refused _ _ _ => exact h
  | made _ _ _ => exact h.of_eq (by cases sh <;> rfl)

/-- **A missing handle stays missing** until its descriptor is looked up. -/
theorem Lacks.after {sh : Shelf} {k : sh.Key} (h : d.Lacks sh k) (opening : Opening)
    (apart : c.looksUp? ≠ some ⟨sh, k⟩) : (d.after opening c).Lacks sh k := by
  have cleared (other : Shelf) : (d.releaseAll other).Lacks sh k := h.modify (fun _ _ _ => rfl) _
  cases c with
  | resolveColor _ | resolveFont _ | resolveImage _ | image _ =>
    exact h.resolve (fun e => apart (congrArg some e)) _
  | releaseColor _ | releaseFont _ | releaseImage _ => exact h.release _
  | releaseAllColors | releaseAllFonts | releaseAllImages => exact cleared _
  | scratchGc => exact h.resolveScratch
  | textExtent f _ =>
    have first : (d.resolveFont f).2.Lacks sh k := h.resolve (fun e => apart (congrArg some e)) _
    show (d.measured f).Lacks sh k
    rcases d.measured_eq f with once | twice
    · rwa [once]
    · rw [twice]
      exact first.resolveScratch
  | monitors | primaryMonitor =>
    show d.enumerated.Lacks sh k
    rcases d.enumerated_eq with same | ⟨l, kept⟩
    · rwa [same]
    · rw [kept]
      exact h.of_eq (by cases sh <;> rfl)
  | teardown | drop =>
    unfold Display.after
    simp only
    split
    · exact h
    · cases sh <;> rfl
  | dispatch _ =>
    show d.dispatched.Lacks sh k
    unfold dispatched
    split <;> exact h.of_eq (by cases sh <;> rfl)
  | invalidateMonitors | stats | createWindow | destroyWindow _ | post _ | send _ | pendingEvents
  | sleep | closeBackend => exact h.of_eq (by cases sh <;> rfl)

/-! ## Displays that are not closed -/

/-- A display that was torn down, and a connection that was closed, stay so. -/
theorem Orderly.ended_after (hd : d.Orderly) (opening : Opening) (c : Call τ) :
    (d.disposed = true → (d.after opening c).disposed = true) ∧
      (d.backend.closed = true → (d.after opening c).backend.closed = true) := by
  by_cases own : c.Own
  · have step := hd.changes opening own
    generalize d.after opening c = d' at step
    cases step with
    | makes h _ => exact ⟨h.disposed.trans, h.closed.trans⟩
    | returns h => exact ⟨h.disposed.trans, fun closed => by rw [h.backend]; exact closed⟩
    | ends _ => exact ⟨fun _ => rfl, fun _ => Headless.closed_close _⟩
  · obtain rfl : c = .closeBackend := by
      cases c <;> first | rfl | exact absurd trivial own
    exact ⟨fun h => h, fun _ => Headless.closed_close _⟩

end Display

variable {S : Setting σ τ} {s : σ} {config : HeadlessConfig} {t : List (Moment τ)}

/-- Whoever closes a connection, an open one was closed by nobody. -/
theorem History.own (h : History (fun _ => True) config t d) (opened : d.backend.closed = false) :
    History Call.Own config t d := by
  obtain ⟨id, p⟩ := h
  refine ⟨id, ?_⟩
  have fresh := Display.new_orderly (τ := τ) id (.new config)
  induction p with
  | rest => exact .rest _
  | @call d t c p _ opening ih =>
    have hd := p.orderly fresh
    rw [Moment.of_after opening hd.lent] at opened
    have before : d.backend.closed = false := by
      cases hc : d.backend.closed with
      | false => rfl
      | true => exact (((hd.ended_after opening c).2 hc).symm.trans opened)
    refine (ih before).call ?_ opening
    cases c with
    | closeBackend => exact absurd ((Headless.closed_close _).symm.trans opened) nofun
    | _ => trivial

/-! ## A later call with a better source -/

theorem Making.image_of {decoder : Decoder} {i : Image} {source : Source}
    {r : Except FileError (List Delivery)} {picture : Picture} (hs : i.source = some source)
    (hp : Picture.ofOpeningBy decoder i.uri r = .ok (.ok picture)) :
    (Making.image ⟨decoder, .ok r⟩ i : Making τ _) = Making.native (·.createImage picture) := by
  funext b
  simp only [Making.image, hs, hp]

theorem Headless.createImage_eq {b : Headless τ} {picture : Picture} (opened : b.closed = false)
    (wide : picture.width ≠ 0) (high : picture.height ≠ 0) :
    b.createImage picture = .ok (⟨b.nextId, picture.width, picture.height⟩,
      { b with nextId := b.nextId + 1, live := b.nextId :: b.live }) := by
  unfold createImage allocate
  rw [if_neg (by simp [wide, high]), if_neg (by simp [opened])]
  rfl

theorem Display.resolveImage_lacking {decoder : Decoder} {i : Image} {source : Source}
    {r : Except FileError (List Delivery)} {picture : Picture} (missing : d.Lacks .images i.uri)
    (live : d.disposed = false) (opened : d.backend.closed = false)
    (hs : i.source = some source) (hp : Picture.ofOpeningBy decoder i.uri r = .ok (.ok picture))
    (wide : picture.width ≠ 0) (high : picture.height ≠ 0) :
    (d.resolveImage ⟨decoder, .ok r⟩ i).1 =
      .done (.ok ⟨d.backend.nextId, picture.width, picture.height⟩) := by
  have made : (Making.image ⟨decoder, .ok r⟩ i : Making τ _) d.backend = _ :=
    congrFun (Making.image_of hs hp) d.backend
  rw [Making.native, Headless.createImage_eq opened wide high] at made
  unfold Lacks at missing
  simp only [resolveImage, resolve, live, Bool.false_eq_true, if_false, missing, made]

/-- A missing image is made when its source is good. -/
theorem Setting.Quiet.recovers (hS : S.Quiet) {uri : String}
    (h : History (fun _ => True) config t (S.display.get s))
    (missing : (S.display.get s).Lacks .images uri) : S.Recovers uri s := by
  rintro live opened i picture rfl ⟨wide, high, source, r, hs, hr, hp⟩
  have delivered : S.display.Mirrors (Quiet.opened S i s) (S.openSource source)
      (Act.ofExcept (.ok r)) := by
    obtain ⟨answer, m⟩ := hS.openSource source (Quiet.opened S i s)
    have first : (Act.ofExcept answer (S.display.get (Quiet.opened S i s))).1 = .done r :=
      (congrArg Prod.fst m).symm.trans hr
    cases answer with
    | error c => cases first
    | ok r' =>
      cases first
      exact m
  have alone := hS.resolveImage_of (Quiet.loadPicture_of fun source' hs' => by
    obtain rfl : source = source' := Option.some.inj (hs.symm.trans hs')
    exact delivered)
  have answer : (S.resolveImage i s).1 = ((Setting.alone ⟨S.decoder, .ok r⟩).resolveImage i
    (S.display.get s)).1 := congrArg Prod.fst alone
  rw [alone_resolveImage h.orderly.lent,
    Display.resolveImage_lacking missing live opened hs hp wide high] at answer
  let made : NativeImage := ⟨(S.backend.get s).nextId, picture.width, picture.height⟩
  refine ⟨made, ?_, rfl, rfl,
    fun n hn => (Balanced.of_history (h.own opened)).conserved.lt_nextId hn⟩
  rw [Setting.call, Act.bind_pure_apply, answer]
  rfl

/-- A missing image is still missing at the end of a path that does not look it up. A display that
was torn down on the way, or before it, is not open. -/
theorem Setting.Quiet.recovers_later (hS : S.Quiet) {uri : String} {s'' : σ}
    {t' : List (Moment τ)} (h : History (fun _ => True) config t d)
    (missing : d.Lacks .images uri ∨ d.disposed = true)
    (p : Path (fun c => c.looksUp? ≠ some ⟨.images, uri⟩) d t' (S.display.get s'')) :
    S.Recovers uri s'' := by
  rcases missing with missing | ended
  · have still : (S.display.get s'').Lacks .images uri :=
      p.invariant (P := fun _ d => d.Lacks .images uri) h.orderly missing
        fun _ _ _ opening apart missing => missing.after opening apart
    exact hS.recovers (h.append (p.mono fun _ _ => trivial)) still
  · have still : (S.display.get s'').Orderly ∧ (S.display.get s'').disposed = true :=
      p.invariant (P := fun _ d => d.Orderly ∧ d.disposed = true) h.orderly ⟨h.orderly, ended⟩
        fun _ _ c opening _ ⟨hd, ended⟩ => ⟨hd.after c, (hd.ended_after opening c).1 ended⟩
    exact fun live => absurd (live.symm.trans still.2) nofun

/-- **A failure is harmless**, whatever was done to the display before and whatever surrounds it. It
changes nothing but the counts, and of those at most one, by one, and none after a teardown. An
image that could not be had can be had later, when its source is good and the display is open. -/
theorem failure_harmless (config : HeadlessConfig) (t : List (Moment τ)) (S : Setting σ τ)
    (hS : S.Quiet) (s s' : σ) (h : History (fun _ => True) config t (S.display.get s))
    (c : Call τ) (a : Answer) (run : S.call c s = (.done a, s')) (failed : a.Failed) :
    (S.display.get s').uncounted = (S.display.get s).uncounted ∧
      (S.display.get s).Counted c (S.display.get s') ∧
      (a.error? = some .disposed ∨ (S.display.get s).disposed = true →
        S.display.get s' = S.display.get s) ∧
      ∀ uri, c.looksUp? = some ⟨.images, uri⟩ → ∀ t' s'',
        Path (fun c => c.looksUp? ≠ some ⟨.images, uri⟩) (S.display.get s') t'
          (S.display.get s'') → S.Recovers uri s'' := by
  obtain ⟨opening, -, alone⟩ := hS.call_alone c s
  rw [Lens.Mirrors, run] at alone
  obtain ⟨e, fails, same⟩ := Display.call_failed h.orderly.lent alone.symm failed
  refine ⟨fails.uncounted, fails.counted, fun ended => ?_, fun uri addressed t' s'' p => ?_⟩
  · exact fails.eq_of_disposed (ended.imp_left fun told => (same _ told).symm)
  · have after : (Moment.of opening c (S.display.get s)).after = S.display.get s' :=
      (congrArg Prod.snd alone).symm
    have h' := h.append (Path.single trivial opening (S.display.get s) (c := c))
    rw [after] at h'
    refine hS.recovers_later h' ?_ p
    generalize S.display.get s' = d' at fails
    cases fails with
    | disposed ended => exact .inr ended
    | missed _ addressed' absent _ =>
      cases addressed.symm.trans addressed'
      exact .inl absent
    | noScratch _ asked _ =>
      cases asked
      cases addressed
    | unmeasured _ measuring _ _ _ =>
      cases measuring
      cases addressed

/-- An image whose bytes are no picture. -/
def blot : Image := ⟨"logo", some (.memory [1, 2, 3])⟩

/-- The same image with the bytes of one gray dot. -/
def dot : Image := ⟨"logo", some (.memory [80, 53, 32, 49, 32, 49, 32, 50, 53, 53, 10, 7])⟩

/-- A display with a color, before and after it failed to load an image. -/
def blotted : Display Nat × Display Nat :=
  let d := left .nothing (.new 0 (.new .standard)) [.resolveColor .black]
  (d, ((Setting.plain .empty fun _ => pure (.ok ())).call (.resolveImage blot) d).2)

theorem failure_harmless_blotted :
    let S : Setting (Display Nat) Nat := Setting.plain .empty fun _ => pure (.ok ())
    (S.call (.resolveImage blot) blotted.1).1 =
        .done (.image (.error (.decode "logo" .unknownFormat))) ∧
      blotted.2.uncounted = blotted.1.uncounted ∧
      blotted.1.Counted (.resolveImage blot) blotted.2 ∧
      ∃ h : NativeImage, h.width = 1 ∧ h.height = 1 ∧ 2 < h.id ∧
        (S.call (.resolveImage dot) (left .nothing blotted.2 [.scratchGc])).1 =
          .done (.image (.ok h)) := by
  intro S
  obtain ⟨same, counted, -, later⟩ := failure_harmless .standard _ S (Setting.plain_quiet _ _)
    blotted.1 blotted.2 ⟨0, .moments .nothing _ (by simp)⟩ (.resolveImage blot)
    (.image (.error (.decode "logo" .unknownFormat))) rfl (.inl rfl)
  obtain ⟨h, made, width, height, fresh⟩ := later "logo" rfl _
    (left .nothing blotted.2 [.scratchGc])
    (.moments .nothing _ (by simp [Call.looksUp?])) rfl rfl dot ⟨1, 1, [7, 7, 7, 255]⟩ rfl
    ⟨by decide, by decide, _, _, rfl, rfl, by decide +kernel⟩
  exact ⟨rfl, same, counted, h, width, height, fresh 2 (by decide), made⟩

end DisplayEnv
