import DisplayEnv.Proofs.Renumbering
import DisplayEnv.Proofs.Display.Identity
import DisplayEnv.Proofs.Events.Awaited
import DisplayEnv.Proofs.Events.Unseen

/-!
# One cache of two displays

The caches of a display have the backend in common: one counter numbers all handles. So a display
that was also used for other resources has other numbers in a cache than one that was not. It
differs in nothing else, as far as that cache goes, and the operations on the cache keep it that
way.

* `Shelf.rename`, `Handle.renamed`, `Answer.renamed`: handles under other numbers.
* `Making.Uniform`: a native constructor looks at the counter only to number what it makes.
* `Beside`: two displays that agree on one cache, and on all that is not a resource, up to a
  renaming. There is one lemma for each operation: `Beside.resolve`, `Beside.release`,
  `Beside.releaseAll`, `Beside.resolveScratch`, `Beside.textExtent`, `Beside.tornDown`,
  `Beside.enumerated`, `Beside.onBackend`, `Beside.dispatched`.
-/

namespace DisplayEnv

variable {τ : Type} {f g : Nat → Nat}

/-! ## Handles under other numbers -/

def NativeGc.renamed (f : Nat → Nat) (h : NativeGc) : NativeGc := ⟨f h.id⟩

/-- The same handle with another number. -/
def Shelf.rename (f : Nat → Nat) : (sh : Shelf) → sh.Handle → sh.Handle
  | .colors, h => ⟨f h.id, h.r, h.g, h.b⟩
  | .fonts, h => ⟨f h.id, h.height, h.name, h.size, h.bold, h.italic⟩
  | .images, h => ⟨f h.id, h.width, h.height⟩

def Handle.renamed (f : Nat → Nat) : Handle → Handle
  | .shelved sh h => .shelved sh (sh.rename f h)
  | .gc h => .gc (h.renamed f)

/-- The answer with other numbers for the handles in it. -/
def Answer.renamed (f : Nat → Nat) : Answer → Answer
  | .color r => .color (r.map (Shelf.colors.rename f))
  | .font r => .font (r.map (Shelf.fonts.rename f))
  | .image r => .image (r.map (Shelf.images.rename f))
  | .image? h => .image? (h.map (Shelf.images.rename f))
  | .gc r => .gc (r.map (·.renamed f))
  | .extent r => .extent r
  | .monitors r => .monitors r
  | .monitor r => .monitor r
  | .stats s => .stats s
  | .flag b => .flag b
  | .count n => .count n
  | .window w => .window w
  | .dispatched r => .dispatched r
  | .nothing => .nothing

theorem Shelf.rename_injective (hf : f.Injective) (sh : Shelf) :
    (sh.rename f).Injective := by
  intro a b same
  cases sh <;> cases a <;> cases b <;> simp_all [rename, hf.eq_iff]

theorem Shelf.rename_congr (sh : Shelf) {h : sh.Handle}
    (agree : g (sh.released h).number = f (sh.released h).number) :
    sh.rename g h = sh.rename f h := by
  cases sh <;> simp_all [rename, released, Released.number]

/-- The numbering of a renamed handle. -/
theorem Shelf.rename_const (sh : Shelf) (n : Nat) (h : sh.Handle) :
    sh.rename f (sh.rename (fun _ => n) h) = sh.rename (fun _ => f n) h := by
  cases sh <;> rfl

theorem Handle.renamed_injective (hf : f.Injective) : (Handle.renamed f).Injective := by
  intro a b same
  cases a with
  | gc a =>
    cases b with
    | gc b =>
      cases a
      cases b
      simpa [renamed, NativeGc.renamed, hf.eq_iff] using same
    | shelved sh b => cases same
  | shelved sh a =>
    cases b with
    | gc b => cases same
    | shelved sh' b =>
      obtain ⟨rfl, same⟩ := Handle.shelved.inj same
      rw [sh.rename_injective hf (eq_of_heq same)]

theorem Answer.handle?_renamed (a : Answer) :
    (a.renamed f).handle? = a.handle?.map (Handle.renamed f) := by
  cases a with
  | color r | font r | image r | gc r => cases r <;> rfl
  | image? h => cases h <;> rfl
  | _ => rfl

/-! ## Caches with other handles -/

namespace Cache

variable {K H : Type}

/-- The cache with its handles changed. -/
def mapped (r : H → H) (c : Cache K H) : Cache K H :=
  { c with entries := c.entries.map (Prod.map id r) }

variable (r : H → H) (c : Cache K H)

theorem find?_mapped [DecidableEq K] (k : K) : (c.mapped r).find? k = (c.find? k).map r :=
  lookup_map_value r c.entries k

theorem countHit_mapped : (c.mapped r).countHit = c.countHit.mapped r := rfl

theorem countMiss_mapped : (c.mapped r).countMiss = c.countMiss.mapped r := rfl

theorem insert_mapped (k : K) (h : H) : (c.mapped r).insert k (r h) = (c.insert k h).mapped r := rfl

theorem erase_mapped [DecidableEq K] (k : K) : (c.mapped r).erase k = (c.erase k).mapped r := by
  simp only [erase, mapped, filter_map_value]

theorem clear_mapped : (c.mapped r).clear = c.clear.mapped r := rfl

theorem stats_mapped : (c.mapped r).stats = c.stats := by
  simp [stats, size, mapped]

theorem length_handles_mapped : (c.mapped r).handles.length = c.handles.length := by
  simp [handles, mapped]

end Cache

/-! ## What is apart from the resources -/

/-- The backend without its account of handles. -/
def Headless.bare (b : Headless τ) : Headless τ := { b with nextId := 0, live := [], journal := [] }

/-- The display without its resources. -/
def Display.bare (d : Display τ) : Display τ :=
  { d with
    backend := d.backend.bare
    colors := .empty
    fonts := .empty
    images := .empty
    scratch := none }

/-- The backend after it gave out its next number. -/
def Headless.numbered (b : Headless τ) : Headless τ :=
  { b with nextId := b.nextId + 1, live := b.nextId :: b.live }

/-- What is made depends on the counter of the backend only for its number. -/
def Making.Uniform (sh : Shelf) (make : Making τ sh.Handle) : Prop :=
  ∀ b, make b =
    (make b.bare).map (Except.map fun r => (sh.rename (fun _ => b.nextId) r.1, b.numbered))

namespace Headless

variable (b : Headless τ)

theorem allocate_bare :
    b.allocate = b.bare.allocate.map fun _ => (b.nextId, b.numbered) := by
  unfold allocate
  show _ = Except.map _ (if b.closed = true then _ else _)
  split <;> rfl

theorem createColor_bare (red green blue : UInt8) : b.createColor red green blue =
    (b.bare.createColor red green blue).map fun r =>
      (Shelf.colors.rename (fun _ => b.nextId) r.1, b.numbered) := by
  unfold createColor
  rw [allocate_bare]
  cases b.bare.allocate <;> rfl

theorem createFont_bare (font : Font) : b.createFont font =
    (b.bare.createFont font).map fun r =>
      (Shelf.fonts.rename (fun _ => b.nextId) r.1, b.numbered) := by
  have pixels : b.bare.pixels? font.size = b.pixels? font.size := rfl
  unfold createFont
  rw [pixels]
  split
  · rfl
  · cases b.pixels? font.size with
    | none => rfl
    | some height =>
      simp only
      rw [allocate_bare]
      cases b.bare.allocate <;> rfl

theorem createImage_bare (p : Picture) : b.createImage p =
    (b.bare.createImage p).map fun r =>
      (Shelf.images.rename (fun _ => b.nextId) r.1, b.numbered) := by
  unfold createImage
  split
  · rfl
  · rw [allocate_bare]
    cases b.bare.allocate <;> rfl

theorem createGc_bare :
    b.createGc = b.bare.createGc.map fun _ => (⟨b.nextId⟩, b.numbered) := by
  unfold createGc
  rw [allocate_bare]
  cases b.bare.allocate <;> rfl

theorem close_bare : b.close.2.bare = b.bare.close.2.bare := by
  have same : b.bare.closed = b.closed := rfl
  unfold close
  rw [same]
  split <;> rfl

theorem next_bare : b.next.1 = b.bare.next.1 ∧ b.next.2.bare = b.bare.next.2 := by
  have same : b.bare.pending = b.pending := rfl
  rw [next_eq, next_eq, same]
  cases b.pending <;> exact ⟨rfl, rfl⟩

theorem sleep_bare : b.sleep.bare = b.bare.sleep := by
  have queue : b.bare.queue = b.queue := rfl
  have inbox : b.bare.inbox = b.inbox := rfl
  unfold sleep
  rw [queue, inbox]
  split
  · cases b.inbox <;> rfl
  · rfl

end Headless

theorem Making.uniform_native (sh : Shelf)
    {create : Headless τ → Except PlatformError (sh.Handle × Headless τ)}
    (h : ∀ b, create b = (create b.bare).map fun r =>
      (sh.rename (fun _ => b.nextId) r.1, b.numbered)) :
    Making.Uniform sh (Making.native create) := by
  intro b
  unfold Making.native
  rw [h]
  cases create b.bare <;> rfl

theorem Making.uniform_color (c : Color) :
    Making.Uniform .colors (Making.native fun b : Headless τ => b.createColor c.r c.g c.b) :=
  Making.uniform_native .colors fun b => b.createColor_bare c.r c.g c.b

theorem Making.uniform_font (font : Font) :
    Making.Uniform .fonts (Making.native fun b : Headless τ => b.createFont font) :=
  Making.uniform_native .fonts fun b => b.createFont_bare font

theorem Making.uniform_image (opening : Opening) (i : Image) :
    Making.Uniform .images (Making.image opening i : Making τ _) := by
  intro b
  unfold Making.image
  cases i.source with
  | none => rfl
  | some source =>
    cases opening.answer with
    | error c => rfl
    | ok r =>
      simp only
      cases Picture.ofOpeningBy opening.decoder i.uri r with
      | error c => rfl
      | ok p =>
        cases p with
        | error e => rfl
        | ok picture =>
          exact Making.uniform_native .images (fun b => b.createImage_bare picture) b

/-! ## Two displays -/

/-- The two displays agree on one cache (and on the scratch context, if it is the one of fonts) up
to the numbers of its handles, and on all that is not a resource. What they make next gets
corresponding numbers. -/
structure Beside (K : Shelf) (f : Nat → Nat) (d d' : Display τ) : Prop where
  bare : d.bare = d'.bare
  cache : K.part.get d = (K.part.get d').mapped (K.rename f)
  scratch : K = .fonts → d.scratch = d'.scratch.map (·.renamed f)
  numbers : Renumbers f d.backend.nextId d'.backend.nextId

namespace Beside

variable {K : Shelf} {d d' e e' : Display τ}

theorem new (K : Shelf) (d : Display τ) : Beside K id d d where
  bare := rfl
  cache := by
    have same : K.rename id = id := by
      funext h
      cases K <;> rfl
    simp [same, Cache.mapped]
  scratch _ := by
    cases d.scratch <;> rfl
  numbers := .refl _

theorem disposed (h : Beside K f d d') : d.disposed = d'.disposed :=
  (congrArg Display.disposed h.bare : d.bare.disposed = d'.bare.disposed)

theorem layout (h : Beside K f d d') : d.layout = d'.layout :=
  (congrArg Display.layout h.bare : d.bare.layout = d'.bare.layout)

theorem backend (h : Beside K f d d') : d.backend.bare = d'.backend.bare :=
  (congrArg Display.backend h.bare : d.bare.backend = d'.bare.backend)

theorem config (h : Beside K f d d') : d.backend.config = d'.backend.config :=
  (congrArg Headless.config h.backend : d.backend.bare.config = d'.backend.bare.config)

/-- A change of neither the cache nor the counter. -/
theorem moved (h : Beside K f d d') (bare : e.bare = e'.bare)
    (cache : K.part.get e = K.part.get d) (cache' : K.part.get e' = K.part.get d')
    (scratch : e.scratch = d.scratch) (scratch' : e'.scratch = d'.scratch)
    (next : e.backend.nextId = d.backend.nextId)
    (next' : e'.backend.nextId = d'.backend.nextId) : Beside K f e e' where
  bare := bare
  cache := by rw [cache, cache', h.cache]
  scratch fonts := by rw [scratch, scratch', h.scratch fonts]
  numbers := by rw [next, next']; exact h.numbers

/-- A change of the cache that looks at no number. -/
theorem modify (h : Beside K f d d') (u u' : Cache K.Key K.Handle → Cache K.Key K.Handle)
    (law : ∀ c, u (c.mapped (K.rename f)) = (u' c).mapped (K.rename f)) :
    Beside K f (K.part.modify u d) (K.part.modify u' d') := by
  have bare (u : Cache K.Key K.Handle → Cache K.Key K.Handle) (d : Display τ) :
      (K.part.modify u d).bare = d.bare := by cases K <;> rfl
  have cache (u : Cache K.Key K.Handle → Cache K.Key K.Handle) (d : Display τ) :
      K.part.get (K.part.modify u d) = u (K.part.get d) := by cases K <;> rfl
  have scratch (u : Cache K.Key K.Handle → Cache K.Key K.Handle) (d : Display τ) :
      (K.part.modify u d).scratch = d.scratch := by cases K <;> rfl
  have counter (u : Cache K.Key K.Handle → Cache K.Key K.Handle) (d : Display τ) :
      (K.part.modify u d).backend = d.backend := by cases K <;> rfl
  constructor
  case bare => rw [bare, bare, h.bare]
  case cache => rw [cache, cache, h.cache, law]
  case scratch => rw [scratch, scratch]; exact h.scratch
  case numbers => rw [counter, counter]; exact h.numbers

/-- Both backends give out their next number. -/
theorem numbered (h : Beside K f d d') :
    Beside K f { d with backend := d.backend.numbered }
      { d' with backend := d'.backend.numbered } where
  bare := h.bare
  cache := by
    have := h.cache
    cases K <;> exact this
  scratch := h.scratch
  numbers := h.numbers.step

/-- Both backends are given some handles back. -/
theorem given (h : Beside K f d d') (gone gone' : List Released) :
    Beside K f { d with backend := d.backend.giveBack gone }
      { d' with backend := d'.backend.giveBack gone' } :=
  h.moved h.bare (by cases K <;> rfl) (by cases K <;> rfl) rfl rfl rfl rfl

/-! ### Operations on the cache -/

/-- **A lookup** is answered alike. -/
theorem resolve (h : Beside K f d d') (k : K.Key) {make : Making τ K.Handle}
    (uniform : Making.Uniform K make) :
    (d.resolve K k make).1 = (d'.resolve K k make).1.map (Except.map (K.rename f)) ∧
      Beside K f (d.resolve K k make).2 (d'.resolve K k make).2 := by
  have missed := h.modify .countMiss .countMiss (Cache.countMiss_mapped _)
  unfold Display.resolve
  rw [h.disposed, h.cache, Cache.find?_mapped, uniform d.backend, uniform d'.backend, h.backend]
  split
  · exact ⟨rfl, h⟩
  · cases (K.part.get d').find? k with
    | some y => exact ⟨rfl, h.modify .countHit .countHit (Cache.countHit_mapped _)⟩
    | none =>
      cases make d'.backend.bare with
      | error c => exact ⟨rfl, missed⟩
      | ok r =>
        cases r with
        | error e => exact ⟨rfl, missed⟩
        | ok r =>
          have number : K.rename (fun _ => d.backend.nextId) r.1 =
              K.rename f (K.rename (fun _ => d'.backend.nextId) r.1) := by
            rw [K.rename_const]
            exact congrArg (fun n => K.rename (fun _ => n) r.1) h.numbers.now.symm
          refine ⟨?_, ?_⟩
          · show Outcome.done (Except.ok _) = Outcome.done (Except.ok _)
            rw [number]
          · have made := h.numbered.modify
              (·.countMiss.insert k (K.rename (fun _ => d.backend.nextId) r.1))
              (·.countMiss.insert k (K.rename (fun _ => d'.backend.nextId) r.1)) fun c => by
                rw [number, Cache.countMiss_mapped, Cache.insert_mapped]
            cases K <;> exact made

/-- **A release** is answered alike. -/
theorem release (h : Beside K f d d') (k : K.Key) :
    (d.release K k).1 = (d'.release K k).1 ∧
      Beside K f (d.release K k).2 (d'.release K k).2 := by
  unfold Display.release
  rw [h.cache, Cache.find?_mapped]
  cases (K.part.get d').find? k with
  | none => exact ⟨rfl, h⟩
  | some y =>
    have erased := h.modify (·.erase k) (·.erase k) fun c => Cache.erase_mapped _ c k
    refine ⟨rfl, ?_⟩
    have given := erased.given [K.released (K.rename f y)] [K.released y]
    cases K <;> exact given

theorem releaseAll (h : Beside K f d d') : Beside K f (d.releaseAll K) (d'.releaseAll K) := by
  have cleared := (h.modify .clear .clear (Cache.clear_mapped _)).given (d.shelved K) (d'.shelved K)
  cases K <;> exact cleared

theorem length_handles (h : Beside K f d d') :
    (K.part.get d).handles.length = (K.part.get d').handles.length := by
  rw [h.cache, Cache.length_handles_mapped]

/-- **The scratch context** belongs to the fonts. -/
theorem resolveScratch (h : Beside .fonts f d d') :
    d.resolveScratch.1 = d'.resolveScratch.1.map (Except.map (·.renamed f)) ∧
      Beside .fonts f d.resolveScratch.2 d'.resolveScratch.2 := by
  have ended := h.disposed
  have kept := h.scratch rfl
  unfold Display.resolveScratch
  rw [d.backend.createGc_bare, d'.backend.createGc_bare, h.backend]
  by_cases hd : d'.disposed = true
  · rw [if_pos (ended.trans hd), if_pos hd]
    exact ⟨rfl, h⟩
  · rw [if_neg (ended ▸ hd), if_neg hd]
    cases hs : d'.scratch with
    | some gc =>
      rw [hs] at kept
      rw [kept]
      exact ⟨rfl, h⟩
    | none =>
      rw [hs] at kept
      rw [kept]
      cases d'.backend.bare.createGc with
      | error e => exact ⟨rfl, h⟩
      | ok r =>
        have number : NativeGc.mk d.backend.nextId = ⟨f d'.backend.nextId⟩ :=
          congrArg NativeGc.mk h.numbers.now.symm
        have made := h.numbered
        exact ⟨congrArg (fun gc => Outcome.done (Except.ok gc)) number, made.bare, made.cache,
          fun _ => congrArg some number, made.numbers⟩

/-- **A measurement** makes the font and the scratch context, and sees no number of theirs. -/
theorem textExtent (h : Beside .fonts f d d') (lent : d.lent = []) (lent' : d'.lent = [])
    (opening : Opening) (font : Font) (text : String) :
    ((Setting.alone opening).textExtent font text d).1 =
        ((Setting.alone opening).textExtent font text d').1 ∧
      Beside .fonts f (d.measured font) (d'.measured font) := by
  rw [← alone_textExtent lent font text, ← alone_textExtent lent' font text,
    alone_textExtent_apply lent, alone_textExtent_apply lent']
  have fonts : (d.resolveFont font).1 =
        (d'.resolveFont font).1.map (Except.map (Shelf.fonts.rename f)) ∧
      Beside .fonts f (d.resolveFont font).2 (d'.resolveFont font).2 :=
    h.resolve font (Making.uniform_font font)
  generalize d.resolveFont font = r at fonts ⊢
  generalize d'.resolveFont font = r' at fonts ⊢
  obtain ⟨o, e⟩ := r
  obtain ⟨o', e'⟩ := r'
  obtain ⟨rfl : o = _, left⟩ := fonts
  cases o' with
  | fault c => exact ⟨rfl, left⟩
  | stalled => exact ⟨rfl, left⟩
  | done r =>
    cases r with
    | error e => exact ⟨rfl, left⟩
    | ok y =>
      have same : Headless.textExtent (Shelf.fonts.rename f y) text.length =
          Headless.textExtent y text.length := rfl
      have scratch := left.resolveScratch
      simp only [Outcome.map, Except.map, same]
      generalize e.resolveScratch = r at scratch ⊢
      generalize e'.resolveScratch = r' at scratch ⊢
      obtain ⟨o, e⟩ := r
      obtain ⟨o', e'⟩ := r'
      obtain ⟨rfl : o = _, left⟩ := scratch
      cases o' with
      | fault c => exact ⟨rfl, left⟩
      | stalled => exact ⟨rfl, left⟩
      | done r =>
        cases r with
        | error e => exact ⟨rfl, left⟩
        | ok gc =>
          simp only [Outcome.map, Except.map]
          cases Headless.textExtent y text.length <;> exact ⟨rfl, left⟩

/-- The end leaves nothing that could differ. -/
theorem tornDown (h : Beside K f d d') : Beside K f d.tornDown d'.tornDown := by
  have bare (d : Display τ) : d.tornDown.bare =
      { d.bare with backend := d.bare.backend.close.2.bare, layout := none, disposed := true } := by
    have closed := (d.backend.giveBack d.owed).close_bare
    unfold Display.tornDown Display.bare
    simp only [closed]
    rfl
  have cache (d : Display τ) : K.part.get d.tornDown = (K.part.get d).clear := by
    cases K <;> rfl
  have next (d : Display τ) : d.tornDown.backend.nextId = d.backend.nextId :=
    Headless.nextId_close _
  constructor
  case bare => rw [bare, bare, h.bare]
  case cache => rw [cache, cache, h.cache, Cache.clear_mapped]
  case scratch => exact fun _ => rfl
  case numbers => rw [next, next]; exact h.numbers

/-! ### Operations that are not about resources -/

theorem enumerated (h : Beside K f d d') : Beside K f d.enumerated d'.enumerated := by
  have bare (d : Display τ) : d.enumerated.bare = d.bare.enumerated := by
    have disposed : d.bare.disposed = d.disposed := rfl
    have layout : d.bare.layout = d.layout := rfl
    have report : d.bare.backend.config.report = d.backend.config.report := rfl
    unfold Display.enumerated
    rw [disposed, layout, report]
    split
    · rfl
    · cases d.layout with
      | some l => rfl
      | none =>
        simp only
        cases Layout.ofReport d.backend.config.report <;> rfl
  have same (d : Display τ) : K.part.get d.enumerated = K.part.get d ∧
      d.enumerated.scratch = d.scratch := by
    rcases d.enumerated_eq with same | ⟨l, kept⟩
    · rw [same]
      exact ⟨rfl, rfl⟩
    · rw [kept]
      cases K <;> exact ⟨rfl, rfl⟩
  exact h.moved (by rw [bare, bare, h.bare]) (same d).1 (same d').1 (same d).2 (same d').2
    (congrArg Headless.nextId d.enumerated_backend) (congrArg Headless.nextId d'.enumerated_backend)

/-- An operation of the backend that has nothing to do with handles. -/
theorem onBackend (h : Beside K f d d') {b b' : Headless τ} (bare : b.bare = b'.bare)
    (next : b.nextId = d.backend.nextId) (next' : b'.nextId = d'.backend.nextId) :
    Beside K f { d with backend := b } { d' with backend := b' } := by
  refine h.moved ?_ (by cases K <;> rfl) (by cases K <;> rfl) rfl rfl next next'
  show { d.bare with backend := b.bare } = { d'.bare with backend := b'.bare }
  rw [h.bare, bare]

theorem next_fst (h : Beside K f d d') : d.backend.next.1 = d'.backend.next.1 := by
  rw [d.backend.next_bare.1, d'.backend.next_bare.1, h.backend]

theorem dispatched (h : Beside K f d d') : Beside K f d.dispatched d'.dispatched := by
  have taken : d.backend.next.2.bare = d'.backend.next.2.bare := by
    rw [d.backend.next_bare.2, d'.backend.next_bare.2, h.backend]
  have counter (d : Display τ) := d.backend.nextId_next
  unfold Display.dispatched
  rw [h.next_fst]
  cases d'.backend.next.1 with
  | none => exact h.onBackend taken (counter d) (counter d')
  | some e =>
    cases e with
    | destroy w =>
      exact h.onBackend (congrArg (·.destroyWindow w) taken) (counter d) (counter d')
    | task t => exact h.onBackend taken (counter d) (counter d')
    | wake => exact h.onBackend taken (counter d) (counter d')

end Beside

end DisplayEnv
