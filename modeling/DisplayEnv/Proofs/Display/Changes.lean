import DisplayEnv.Proofs.Cache.Keyed
import DisplayEnv.Proofs.Display.After

/-!
# The three things a call can do to the handles of a display

What a display owes is what its caches and its scratch slot hold. A display's own call does one of
three things to it (`Display.Changes`):

* it **makes** handles, mostly none: they are new entries of what is owed, numbered on from the
  backend's next number;
* it **gives back** some handles of the caches: they are no longer owed, and are in the journal;
* it **ends** the display: everything is given back and the connection is closed.

`Orderly.changes` says so for every call, and `Orderly.after` that the call leaves the display in
order: nothing lent out, and no descriptor entered twice. The laws about whole histories only use
the three cases.
-/

namespace DisplayEnv

variable {τ : Type}

/-- An entry for a handle of one of the caches. -/
def Released.Cached : Released → Prop
  | .color _ | .font _ | .image _ => True
  | .gc _ | .connection => False

/-- The kinds of handles that a call can make. -/
def Call.MayMake : Call τ → Released → Prop
  | .resolveColor _, .color _ => True
  | .resolveFont _, .font _ => True
  | .resolveImage _, .image _ | .image _, .image _ => True
  | .scratchGc, .gc _ => True
  | .textExtent _ _, .font _ | .textExtent _ _, .gc _ => True
  | _, _ => False

/-- What is made is allocated: its number is the next one, and nothing else changes. -/
def Making.Allocates {H : Type} (make : Making τ H) (entry : H → Released) : Prop :=
  ∀ b h b', make b = .ok (.ok (h, b')) → b.allocate = .ok ((entry h).number, b')

namespace Display

/-- Nothing is lent out, and no descriptor is entered twice. -/
structure Orderly (d : Display τ) : Prop where
  lent : d.lent = []
  keyed : ∀ sh : Shelf, (sh.part.get d).Keyed

/-- The display has made these handles. -/
structure Makes (d d' : Display τ) (made : List Released) : Prop where
  owed : d'.owed.Perm (made ++ d.owed)
  live : d'.backend.live.Perm (made.map Released.number ++ d.backend.live)
  numbers : made.map Released.number = List.range' d.backend.nextId made.length
  nextId : d'.backend.nextId = d.backend.nextId + made.length
  journal : d'.backend.journal = d.backend.journal
  closed : d'.backend.closed = d.backend.closed
  disposed : d'.disposed = d.disposed
  refused : d.backend.closed = true → made = []

/-- The display has given these handles of its caches back. -/
structure Returns (d d' : Display τ) (gone : List Released) : Prop where
  owed : d.owed.Perm (gone ++ d'.owed)
  backend : d'.backend = d.backend.giveBack gone
  disposed : d'.disposed = d.disposed
  cached : ∀ e ∈ gone, e.Cached

/-- What a display's own call does to its handles. -/
inductive Changes (d : Display τ) (c : Call τ) : Display τ → Prop
  | makes {d' : Display τ} {made : List Released} (h : Makes d d' made)
      (kinds : ∀ e ∈ made, c.MayMake e) : Changes d c d'
  | returns {d' : Display τ} {gone : List Released} (h : Returns d d' gone) : Changes d c d'
  | ends (hd : d.disposed = false) : Changes d c d.tornDown

/-- What the display owes apart from one cache. -/
def elsewhere (d : Display τ) : Shelf → List Released
  | .colors => d.shelved .images ++ d.shelved .fonts ++ d.scratch.toList.map (.gc ·.id)
  | .fonts => d.shelved .images ++ d.shelved .colors ++ d.scratch.toList.map (.gc ·.id)
  | .images => d.shelved .fonts ++ d.shelved .colors ++ d.scratch.toList.map (.gc ·.id)

end Display

variable {d d' d'' : Display τ} {opening : Opening}

/-! ## Allocation -/

theorem Headless.allocate_eq {b b' : Headless τ} {n : Nat} (h : b.allocate = .ok (n, b')) :
    b.closed = false ∧ n = b.nextId ∧
      b' = { b with nextId := b.nextId + 1, live := b.nextId :: b.live } := by
  unfold allocate at h
  split at h
  · cases h
  · rename_i hc
    cases h
    exact ⟨by simpa using hc, rfl, rfl⟩

/-- What is made by an allocation and an entry of its number. -/
theorem Making.native_allocates {H : Type}
    {create : Headless τ → Except PlatformError (H × Headless τ)} {entry : H → Released}
    (h : ∀ b h b', create b = .ok (h, b') → b.allocate = .ok ((entry h).number, b')) :
    (Making.native create).Allocates entry := by
  intro b a b' hm
  unfold Making.native at hm
  cases hc : create b with
  | error e =>
    rw [hc] at hm
    cases hm
  | ok r =>
    rw [hc] at hm
    cases hm
    exact h b a b' hc

/-- A native constructor that ends with an allocation. -/
theorem Headless.allocate_of_bind {H : Type} (entry : H → Released) {b b' : Headless τ} {h : H}
    {f : Nat × Headless τ → Except PlatformError (H × Headless τ)}
    (hf : ∀ p h b', f p = .ok (h, b') → p = ((entry h).number, b'))
    (hc : b.allocate >>= f = .ok (h, b')) : b.allocate = .ok ((entry h).number, b') := by
  cases ha : b.allocate with
  | error e =>
    rw [ha] at hc
    cases hc
  | ok p =>
    rw [ha] at hc
    rw [hf p h b' hc]

theorem createColor_allocates (r g b : UInt8) :
    (Making.native (·.createColor r g b) : Making τ _).Allocates Shelf.colors.released :=
  Making.native_allocates fun _ _ _ => Headless.allocate_of_bind _ (by rintro ⟨n, b⟩ h b' ⟨⟩; rfl)

theorem createFont_allocates (f : Font) :
    (Making.native (·.createFont f) : Making τ _).Allocates Shelf.fonts.released := by
  refine Making.native_allocates fun b h b' hc => ?_
  unfold Headless.createFont at hc
  split at hc
  · cases hc
  · split at hc
    · cases hc
    · exact Headless.allocate_of_bind _ (by rintro ⟨n, b⟩ h b' ⟨⟩; rfl) hc

theorem image_allocates (opening : Opening) (i : Image) :
    (Making.image opening i : Making τ _).Allocates Shelf.images.released := by
  intro b h b' hm
  unfold Making.image at hm
  split at hm
  · cases hm
  · split at hm
    · cases hm
    · split at hm
      · cases hm
      · cases hm
      · refine Making.native_allocates (fun b h b' hc => ?_) b h b' hm
        unfold Headless.createImage at hc
        split at hc
        · cases hc
        · exact Headless.allocate_of_bind _ (by rintro ⟨n, b⟩ h b' ⟨⟩; rfl) hc

theorem Headless.createGc_allocates {b b' : Headless τ} {gc : NativeGc}
    (h : b.createGc = .ok (gc, b')) : b.allocate = .ok ((Released.gc gc.id).number, b') :=
  allocate_of_bind (fun gc : NativeGc => .gc gc.id) (by rintro ⟨n, b⟩ h b' ⟨⟩; rfl) h

namespace Display

/-! ## What is owed, one cache at a time -/

theorem owed_perm (d : Display τ) (sh : Shelf) : d.owed.Perm (d.shelved sh ++ d.elsewhere sh) := by
  cases sh with
  | images =>
    rw [owed, elsewhere, List.append_assoc, List.append_assoc, List.append_assoc]
  | fonts =>
    have swap : (d.shelved .images ++ d.shelved .fonts).Perm
        (d.shelved .fonts ++ d.shelved .images) := List.perm_append_comm
    have h := swap.append_right (d.shelved .colors ++ d.scratch.toList.map (.gc ·.id))
    simpa only [owed, elsewhere, List.append_assoc] using h
  | colors =>
    have swap : (d.shelved .images ++ d.shelved .fonts ++ d.shelved .colors).Perm
        (d.shelved .colors ++ (d.shelved .images ++ d.shelved .fonts)) := List.perm_append_comm
    have h := swap.append_right (d.scratch.toList.map (.gc ·.id))
    simpa only [owed, elsewhere, List.append_assoc] using h

/-- What is owed after a cache and the backend changed. -/
theorem owed_modify_perm (d : Display τ) (sh : Shelf)
    (u : Cache sh.Key sh.Handle → Cache sh.Key sh.Handle) (b : Headless τ) :
    ({ sh.part.modify u d with backend := b } : Display τ).owed.Perm
      ((u (sh.part.get d)).handles.map sh.released ++ d.elsewhere sh) := by
  refine (owed_perm _ sh).trans (.of_eq ?_)
  cases sh <;> rfl

theorem keyed_modify (hd : d.Orderly) {sh : Shelf}
    {u : Cache sh.Key sh.Handle → Cache sh.Key sh.Handle} (hu : (u (sh.part.get d)).Keyed)
    (b : Headless τ) : ({ sh.part.modify u d with backend := b } : Display τ).Orderly where
  lent := by cases sh <;> exact hd.lent
  keyed sh' := by
    cases sh <;> cases sh' <;> first | exact hu | exact hd.keyed _

/-! ## Making -/

/-- A call that is not about handles. -/
theorem Makes.nothing (owed : d'.owed = d.owed) (live : d'.backend.live = d.backend.live)
    (nextId : d'.backend.nextId = d.backend.nextId)
    (journal : d'.backend.journal = d.backend.journal)
    (closed : d'.backend.closed = d.backend.closed) (disposed : d'.disposed = d.disposed) :
    Makes d d' [] :=
  ⟨.of_eq owed, .of_eq live, rfl, nextId, journal, closed, disposed, fun _ => rfl⟩

theorem Makes.refl (d : Display τ) : Makes d d [] := .nothing rfl rfl rfl rfl rfl rfl

theorem Makes.trans {l l' : List Released} (h : Makes d d' l) (h' : Makes d' d'' l') :
    Makes d d'' (l ++ l') where
  owed := by
    refine h'.owed.trans ((h.owed.append_left l').trans ?_)
    simpa only [List.append_assoc] using List.perm_append_comm.append_right d.owed
  live := by
    refine h'.live.trans ((h.live.append_left _).trans ?_)
    rw [List.map_append]
    simpa only [List.append_assoc] using List.perm_append_comm.append_right d.backend.live
  numbers := by
    rw [List.map_append, h.numbers, h'.numbers, h.nextId, List.length_append, List.range'_append_1]
  nextId := by rw [h'.nextId, h.nextId, List.length_append, Nat.add_assoc]
  journal := h'.journal.trans h.journal
  closed := h'.closed.trans h.closed
  disposed := h'.disposed.trans h.disposed
  refused hc := by rw [h.refused hc, h'.refused (h.closed.trans hc)]; rfl

/-- One handle made by an allocation, and owed from then on. -/
theorem Makes.allocated {b : Headless τ} {e : Released}
    (ha : d.backend.allocate = .ok (e.number, b)) (hb : d'.backend = b)
    (owed : d'.owed.Perm (e :: d.owed)) (disposed : d'.disposed = d.disposed) :
    Makes d d' [e] := by
  obtain ⟨hopen, hn, rfl⟩ := Headless.allocate_eq ha
  refine ⟨owed, ?_, ?_, by rw [hb]; rfl, by rw [hb], by rw [hb], disposed, ?_⟩
  · rw [hb, List.map_singleton, hn]
    exact .refl _
  · rw [List.map_singleton, hn]
    rfl
  · intro hc
    rw [hopen] at hc
    cases hc

theorem resolve_makes (d : Display τ) (sh : Shelf) (k : sh.Key) {make : Making τ sh.Handle}
    (hm : make.Allocates sh.released) :
    ∃ made, Makes d (d.resolve sh k make).2 made ∧ ∀ e ∈ made, ∃ h, e = sh.released h := by
  have counted (u : Cache sh.Key sh.Handle → Cache sh.Key sh.Handle)
      (hu : (u (sh.part.get d)).handles = (sh.part.get d).handles) :
      ∃ made, Makes d (sh.part.modify u d) made ∧ ∀ e ∈ made, ∃ h, e = sh.released h := by
    refine ⟨[], ⟨?_, ?_, rfl, ?_, ?_, ?_, ?_, fun _ => rfl⟩, by simp⟩
    · have h := owed_modify_perm d sh u (sh.part.modify u d).backend
      rw [hu] at h
      exact h.trans (owed_perm d sh).symm
    all_goals cases sh <;> exact .refl _
  have outcome := d.resolves sh k make
  generalize d.resolve sh k make = r at outcome ⊢
  cases outcome with
  | ended _ => exact ⟨[], .refl d, by simp⟩
  | found _ _ => exact counted .countHit rfl
  | @made h b _ _ made =>
    refine ⟨[sh.released h], .allocated (hm _ _ _ made) rfl ?_ ?_, ?_⟩
    · exact (owed_modify_perm d sh (·.countMiss.insert k h) b).trans
        ((owed_perm d sh).symm.cons _)
    · cases sh <;> rfl
    · exact fun e he => ⟨h, List.mem_singleton.mp he⟩
  | refused _ _ _ | gaveUp _ _ _ => exact counted .countMiss rfl

theorem resolveScratch_makes (d : Display τ) :
    ∃ made, Makes d d.resolveScratch.2 made ∧ ∀ e ∈ made, ∃ n, e = .gc n := by
  have outcome := d.resolvesScratch
  generalize d.resolveScratch = r at outcome ⊢
  cases outcome with
  | ended _ | found _ _ | refused _ _ _ => exact ⟨[], .refl d, by simp⟩
  | @made gc b _ absent made =>
    refine ⟨[.gc gc.id], .allocated (Headless.createGc_allocates made) rfl ?_ rfl, by simp⟩
    show (d.shelved .images ++ d.shelved .fonts ++ d.shelved .colors ++
      [Released.gc gc.id]).Perm (.gc gc.id :: d.owed)
    unfold owed
    rw [absent, Option.toList_none, List.map_nil, List.append_nil]
    exact List.perm_append_singleton _ _

theorem measured_makes (d : Display τ) (f : Font) (text : String) :
    ∃ made, Makes d (d.measured f) made ∧
      ∀ e ∈ made, (Call.textExtent f text : Call τ).MayMake e := by
  obtain ⟨made, h, hf⟩ := d.resolve_makes .fonts f (createFont_allocates f)
  have fonts : ∀ e ∈ made, (Call.textExtent f text : Call τ).MayMake e := by
    intro e he
    obtain ⟨a, rfl⟩ := hf e he
    trivial
  rcases d.measured_eq f with once | twice
  · rw [once]
    exact ⟨made, h, fonts⟩
  · rw [twice]
    obtain ⟨made', h', hg⟩ := (d.resolveFont f).2.resolveScratch_makes
    refine ⟨made ++ made', h.trans h', fun e he => ?_⟩
    rcases List.mem_append.mp he with he | he
    · exact fonts e he
    · obtain ⟨n, rfl⟩ := hg e he
      trivial

theorem enumerated_makes (d : Display τ) : Makes d d.enumerated [] := by
  rcases d.enumerated_eq with same | ⟨l, kept⟩
  · rw [same]
    exact .refl d
  · rw [kept]
    exact .nothing rfl rfl rfl rfl rfl rfl

/-! ## Giving back -/

theorem shelved_cached (d : Display τ) (sh : Shelf) : ∀ e ∈ d.shelved sh, e.Cached := by
  intro e he
  obtain ⟨h, -, rfl⟩ := List.mem_map.mp he
  cases sh <;> trivial

theorem release_returns (hd : d.Orderly) (sh : Shelf) (k : sh.Key) :
    ∃ gone, Returns d (d.release sh k).2 gone := by
  unfold release
  split
  · rename_i h hk
    refine ⟨[sh.released h], ?_, rfl, ?_, ?_⟩
    · have left := ((Cache.handles_erase (hd.keyed sh) hk).map sh.released).append_right
        (d.elsewhere sh)
      exact (owed_perm d sh).trans (left.trans ((owed_modify_perm d sh (·.erase k) _).symm.cons _))
    · cases sh <;> rfl
    · intro e he
      rw [List.mem_singleton.mp he]
      cases sh <;> trivial
  · exact ⟨[], .refl _, (Headless.giveBack_nil _).symm, rfl, by simp⟩

theorem releaseAll_returns (d : Display τ) (sh : Shelf) :
    Returns d (d.releaseAll sh) (d.shelved sh) where
  owed := (owed_perm d sh).trans ((owed_modify_perm d sh .clear _).symm.append_left _)
  backend := rfl
  disposed := by cases sh <;> rfl
  cached := shelved_cached d sh

/-! ## Every call -/

/-- **A display's own call** makes handles, gives some back, or ends the display. -/
theorem Orderly.changes (opening : Opening) (hd : d.Orderly) {c : Call τ} (hc : c.Own) :
    d.Changes c (d.after opening c) := by
  have same {d' : Display τ} (h : Makes d d' []) : d.Changes c d' := .makes h (by simp)
  cases c with
  | resolveColor c =>
    obtain ⟨made, h, kinds⟩ := d.resolve_makes .colors c (createColor_allocates c.r c.g c.b)
    exact .makes h fun e he => by obtain ⟨a, rfl⟩ := kinds e he; trivial
  | resolveFont f =>
    obtain ⟨made, h, kinds⟩ := d.resolve_makes .fonts f (createFont_allocates f)
    exact .makes h fun e he => by obtain ⟨a, rfl⟩ := kinds e he; trivial
  | resolveImage i | image i =>
    obtain ⟨made, h, kinds⟩ :=
      d.resolve_makes .images i.uri (image_allocates opening i)
    exact .makes h fun e he => by obtain ⟨a, rfl⟩ := kinds e he; trivial
  | scratchGc =>
    obtain ⟨made, h, kinds⟩ := d.resolveScratch_makes
    exact .makes h fun e he => by obtain ⟨n, rfl⟩ := kinds e he; trivial
  | textExtent f text =>
    obtain ⟨made, h, kinds⟩ := d.measured_makes f text
    exact .makes h kinds
  | releaseColor c => exact (release_returns hd .colors c).elim fun _ h => .returns h
  | releaseFont f => exact (release_returns hd .fonts f).elim fun _ h => .returns h
  | releaseImage i => exact (release_returns hd .images i.uri).elim fun _ h => .returns h
  | releaseAllColors => exact .returns (releaseAll_returns d .colors)
  | releaseAllFonts => exact .returns (releaseAll_returns d .fonts)
  | releaseAllImages => exact .returns (releaseAll_returns d .images)
  | teardown | drop =>
    unfold after
    simp only
    split
    · exact same (.refl d)
    · rename_i h
      exact .ends (by simpa using h)
  | monitors | primaryMonitor => exact same (enumerated_makes d)
  | stats => exact same (.refl d)
  | dispatch ending =>
    refine same ?_
    show Makes d d.dispatched []
    unfold dispatched Headless.next
    split <;> cases d.backend.drain.queue <;> exact .nothing rfl rfl rfl rfl rfl rfl
  | sleep =>
    refine same ?_
    show Makes d { d with backend := d.backend.sleep } []
    unfold Headless.sleep
    split
    · split <;> exact .nothing rfl rfl rfl rfl rfl rfl
    · exact .nothing rfl rfl rfl rfl rfl rfl
  | invalidateMonitors | createWindow | destroyWindow _ | post _ | send _ | pendingEvents =>
    exact same (.nothing rfl rfl rfl rfl rfl rfl)
  | closeBackend => exact hc.elim

/-- A call leaves no descriptor entered twice. -/
theorem resolve_orderly (hd : d.Orderly) (sh : Shelf) (k : sh.Key) (make : Making τ sh.Handle) :
    (d.resolve sh k make).2.Orderly := by
  have outcome := d.resolves sh k make
  generalize d.resolve sh k make = r at outcome ⊢
  cases outcome with
  | ended _ => exact hd
  | found _ _ => exact keyed_modify hd (hd.keyed sh) (sh.part.modify .countHit d).backend
  | made _ absent _ => exact keyed_modify hd (Cache.Keyed.insert (hd.keyed sh) absent _) _
  | refused _ _ _ | gaveUp _ _ _ =>
    exact keyed_modify hd (hd.keyed sh) (sh.part.modify .countMiss d).backend

theorem release_orderly (hd : d.Orderly) (sh : Shelf) (k : sh.Key) :
    (d.release sh k).2.Orderly := by
  unfold release
  split
  · exact keyed_modify hd ((hd.keyed sh).erase k) _
  · exact hd

/-- An operation that leaves the caches and the lendings alone. -/
theorem Orderly.of_eq (hd : d.Orderly) (lent : d'.lent = d.lent)
    (parts : ∀ sh : Shelf, sh.part.get d' = sh.part.get d) : d'.Orderly :=
  ⟨lent.trans hd.lent, fun sh => by rw [parts sh]; exact hd.keyed sh⟩

theorem resolveScratch_orderly (hd : d.Orderly) : d.resolveScratch.2.Orderly := by
  have outcome := d.resolvesScratch
  generalize d.resolveScratch = r at outcome ⊢
  cases outcome with
  | ended _ | found _ _ | refused _ _ _ => exact hd
  | made _ _ _ => exact hd.of_eq rfl fun sh => by cases sh <;> rfl

/-- **A call leaves a display in order.** -/
theorem Orderly.after (hd : d.Orderly) (c : Call τ) : (d.after opening c).Orderly := by
  have cleared (sh : Shelf) : (d.releaseAll sh).Orderly :=
    keyed_modify hd (Cache.keyed_clear _) _
  cases c with
  | resolveColor _ | resolveFont _ | resolveImage _ | image _ => exact resolve_orderly hd _ _ _
  | releaseColor _ | releaseFont _ | releaseImage _ => exact release_orderly hd _ _
  | releaseAllColors | releaseAllFonts | releaseAllImages => exact cleared _
  | scratchGc => exact resolveScratch_orderly hd
  | textExtent f _ =>
    have h : (d.resolveFont f).2.Orderly := resolve_orderly hd _ _ _
    show (d.measured f).Orderly
    rcases d.measured_eq f with once | twice
    · rwa [once]
    · rw [twice]
      exact resolveScratch_orderly h
  | monitors | primaryMonitor =>
    show d.enumerated.Orderly
    rcases d.enumerated_eq with same | ⟨l, kept⟩
    · rwa [same]
    · rw [kept]
      exact hd.of_eq rfl fun sh => by cases sh <;> rfl
  | teardown | drop =>
    unfold Display.after
    simp only
    split
    · exact hd
    · exact ⟨hd.lent, fun sh => by cases sh <;> exact Cache.keyed_clear _⟩
  | dispatch _ =>
    show d.dispatched.Orderly
    unfold dispatched
    split <;> exact hd.of_eq rfl fun sh => by cases sh <;> rfl
  | invalidateMonitors | stats | createWindow | destroyWindow _ | post _ | send _ | pendingEvents
  | sleep | closeBackend => exact hd.of_eq rfl fun sh => by cases sh <;> rfl

theorem new_orderly (id : Nat) (b : Headless τ) : (Display.new id b).Orderly :=
  ⟨rfl, fun sh => by cases sh <;> exact Cache.keyed_empty⟩

end Display

/-! ## Histories -/

variable {allowed : Call τ → Prop} {config : HeadlessConfig} {t : List (Moment τ)}

/-- A display in order stays in order along every path. -/
theorem Path.orderly (h : Path allowed d t d') (hd : d.Orderly) : d'.Orderly := by
  induction h with
  | rest => exact hd
  | call _ _ _ ih =>
    rw [Moment.of_after _ ih.lent]
    exact ih.after _

/-- What holds at the start of a path, and is kept by every call of its sort, holds at its end. -/
theorem Path.invariant {P : List (Moment τ) → Display τ → Prop} (h : Path allowed d t d')
    (hd : d.Orderly) (start : P [] d)
    (call : ∀ t d c opening, allowed c → P t d →
      P (t ++ [.of opening c d]) (d.after opening c)) : P t d' := by
  induction h with
  | rest => exact start
  | call p hc opening ih =>
    rw [Moment.of_after opening (p.orderly hd).lent]
    exact call _ _ _ _ hc ih

/-- A display is in order throughout its history. -/
theorem History.orderly (h : History allowed config t d) : d.Orderly :=
  let ⟨id, p⟩ := h
  p.orderly (Display.new_orderly id _)

/-- **What holds of every history**: something that holds of a fresh display and that every call
keeps, where the call leaves what `after` says. -/
theorem History.invariant {P : List (Moment τ) → Display τ → Prop}
    (fresh : ∀ id, P [] (.new id (.new config)))
    (call : ∀ t d c opening, History allowed config t d → allowed c → P t d →
      (Moment.of opening c d).after = d.after opening c →
      P (t ++ [.of opening c d]) (d.after opening c))
    (h : History allowed config t d) : P t d := by
  obtain ⟨id, p⟩ := h
  induction p with
  | rest => exact fresh id
  | call p hc opening ih =>
    have so : History allowed config _ _ := ⟨id, p⟩
    have after := Moment.of_after opening so.orderly.lent ‹Call τ›
    rw [after]
    exact call _ _ _ _ so hc ih after

end DisplayEnv
