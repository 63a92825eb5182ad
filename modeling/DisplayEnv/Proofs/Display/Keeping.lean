import DisplayEnv.Proofs.Display.Apart
import DisplayEnv.Proofs.Display.Conservation

/-!
# What a display keeps for a descriptor

The caches and the scratch slot are one table: a `Descriptor` is a color, a font, the uri of an
image, or the scratch context itself, and `Display.handle?` is the handle that is kept for it. Every
call does one of three things to the table (`Display.Turns`):

* it **gains** handles: new entries, none for a descriptor that had one, numbered on from the
  backend's next number;
* it **drops** the entries that it was asked to release;
* it **ends** the display, and with it every entry.

`turns_after` says so for every call, closings of the connection past the display included, and
what a new entry is made from (`Display.Begets`).
-/

namespace DisplayEnv

variable {τ : Type}

/-- What a native handle is kept for. -/
inductive Descriptor where
  | shelved (sh : Shelf) (k : sh.Key)
  | scratch
  deriving DecidableEq

/-- A native handle of some kind. -/
inductive Handle where
  | shelved (sh : Shelf) (h : sh.Handle)
  | gc (h : NativeGc)

/-- The cache that a descriptor belongs to. -/
def Descriptor.shelf? : Descriptor → Option Shelf
  | .shelved sh _ => some sh
  | .scratch => none

/-- The entry under which a handle is given back. -/
def Handle.entry : Handle → Released
  | .shelved sh h => sh.released h
  | .gc h => .gc h.id

/-- The native number of a handle. -/
def Handle.number (h : Handle) : Nat := h.entry.number

/-- The handle that a display keeps for a descriptor. -/
def Display.handle? (d : Display τ) : Descriptor → Option Handle
  | .shelved sh k => ((sh.part.get d).find? k).map (.shelved sh)
  | .scratch => d.scratch.map .gc

/-- The call is a release of the descriptor, or of everything of its kind. -/
def Call.Drops : Call τ → Descriptor → Prop
  | .releaseColor c, a => a = .shelved .colors c
  | .releaseFont f, a => a = .shelved .fonts f
  | .releaseImage i, a => a = .shelved .images i.uri
  | .releaseAllColors, a => a.shelf? = some .colors
  | .releaseAllFonts, a => a.shelf? = some .fonts
  | .releaseAllImages, a => a.shelf? = some .images
  | _, _ => False

namespace Display

/-- What a call makes the new handle of a descriptor from. -/
inductive Begets (d : Display τ) (opening : Opening) : Call τ → Descriptor → Handle → Prop
  | color {c : Color} {h : NativeColor} {b : Headless τ}
      (made : d.backend.createColor c.r c.g c.b = .ok (h, b)) :
      Begets d opening (.resolveColor c) (.shelved .colors c) (.shelved .colors h)
  | font {c : Call τ} {f : Font} {h : NativeFont} {b : Headless τ}
      (asked : c = .resolveFont f ∨ ∃ text, c = .textExtent f text)
      (made : d.backend.createFont f = .ok (h, b)) :
      Begets d opening c (.shelved .fonts f) (.shelved .fonts h)
  | image {c : Call τ} {i : Image} {h : NativeImage} {b : Headless τ}
      (asked : c = .resolveImage i ∨ c = .image i)
      (made : Making.image opening i d.backend = .ok (.ok (h, b))) :
      Begets d opening c (.shelved .images i.uri) (.shelved .images h)
  | gc {c : Call τ} {h : NativeGc} : Begets d opening c .scratch (.gc h)

/-- The display has got these handles for these descriptors. -/
structure Gains (d d' : Display τ) (new : List (Descriptor × Handle)) : Prop where
  kept : ∀ a h, d.handle? a = some h → d'.handle? a = some h
  made : ∀ a h, d'.handle? a = some h → d.handle? a = some h ∨ (a, h) ∈ new
  lacked : ∀ p ∈ new, d.handle? p.1 = none
  numbers : new.map (·.2.number) = List.range' d.backend.nextId new.length
  nextId : d'.backend.nextId = d.backend.nextId + new.length

/-- What a call does to the handles that are kept. -/
inductive Turns (d : Display τ) (opening : Opening) (c : Call τ) : Display τ → Prop
  | gains {d' : Display τ} {new : List (Descriptor × Handle)} (h : Gains d d' new)
      (begets : ∀ p ∈ new, d.Begets opening c p.1 p.2) (never : ∀ a, ¬ c.Drops a) :
      Turns d opening c d'
  | drops {d' : Display τ} (gone : ∀ a, c.Drops a → d'.handle? a = none)
      (rest : ∀ a, ¬ c.Drops a → d'.handle? a = d.handle? a)
      (nextId : d'.backend.nextId = d.backend.nextId) : Turns d opening c d'
  | ends (never : ∀ a, ¬ c.Drops a) : Turns d opening c d.tornDown

end Display

variable {d d' d'' : Display τ} {opening : Opening}

theorem Making.native_eq_ok {H : Type}
    {create : Headless τ → Except PlatformError (H × Headless τ)} {b b' : Headless τ} {h : H} :
    Making.native create b = .ok (.ok (h, b')) ↔ create b = .ok (h, b') := by
  unfold Making.native
  cases create b with
  | ok r => simp
  | error e => simp

theorem Headless.nextId_next (b : Headless τ) : b.next.2.nextId = b.nextId := by
  unfold next
  cases b.drain.queue <;> rfl

theorem Headless.nextId_sleep (b : Headless τ) : b.sleep.nextId = b.nextId := by
  unfold sleep
  split
  · split <;> rfl
  · rfl

namespace Display

/-! ## The table after one store changed -/

/-- The table `f` is that of a display after a cache and the backend changed, when it agrees with
the cache on its descriptors, and with the display on the others. -/
theorem handle?_modify (d : Display τ) (sh : Shelf)
    (u : Cache sh.Key sh.Handle → Cache sh.Key sh.Handle) (b : Headless τ)
    (f : Descriptor → Option Handle)
    (here : ∀ k, f (.shelved sh k) = ((u (sh.part.get d)).find? k).map (.shelved sh))
    (elsewhere : ∀ a : Descriptor, a.shelf? ≠ some sh → f a = d.handle? a) (a : Descriptor) :
    ({ sh.part.modify u d with backend := b } : Display τ).handle? a = f a := by
  cases a with
  | scratch =>
    rw [elsewhere .scratch nofun]
    cases sh <;> rfl
  | shelved sh' k =>
    by_cases same : sh' = sh
    · subst same
      rw [here k]
      cases sh' <;> rfl
    · rw [elsewhere _ (by simpa [Descriptor.shelf?] using same)]
      cases sh <;> cases sh' <;> first | rfl | exact absurd rfl same

theorem handle?_insert (d : Display τ) (sh : Shelf) (k : sh.Key) (h : sh.Handle) (b : Headless τ)
    (a : Descriptor) :
    ({ sh.part.modify (·.countMiss.insert k h) d with backend := b } : Display τ).handle? a =
      if a = .shelved sh k then some (.shelved sh h) else d.handle? a := by
  refine d.handle?_modify sh _ b (fun a => if a = .shelved sh k then _ else _) (fun j => ?_)
    (fun a ha => ?_) a
  · rw [Cache.find?_insert, Cache.find?_countMiss]
    by_cases e : j = k
    · simp [e]
    · simp [e, handle?]
  · rw [if_neg]
    rintro rfl
    exact ha rfl

theorem handle?_erase (d : Display τ) (sh : Shelf) (k : sh.Key) (b : Headless τ)
    (a : Descriptor) :
    ({ sh.part.modify (·.erase k) d with backend := b } : Display τ).handle? a =
      if a = .shelved sh k then none else d.handle? a := by
  refine d.handle?_modify sh _ b (fun a => if a = .shelved sh k then _ else _) (fun j => ?_)
    (fun a ha => ?_) a
  · rw [Cache.find?_erase]
    by_cases e : j = k
    · simp [e]
    · simp [e, handle?]
  · rw [if_neg]
    rintro rfl
    exact ha rfl

theorem handle?_clear (d : Display τ) (sh : Shelf) (b : Headless τ) (a : Descriptor) :
    ({ sh.part.modify .clear d with backend := b } : Display τ).handle? a =
      if a.shelf? = some sh then none else d.handle? a :=
  d.handle?_modify sh _ b (fun a => if a.shelf? = some sh then _ else _)
    (fun _ => if_pos rfl) (fun _ ha => if_neg ha) a

/-- A count of a cache has nothing to do with its handles. -/
theorem handle?_count (d : Display τ) (sh : Shelf)
    {u : Cache sh.Key sh.Handle → Cache sh.Key sh.Handle} (hu : ∀ c k, (u c).find? k = c.find? k)
    (a : Descriptor) : (sh.part.modify u d).handle? a = d.handle? a :=
  d.handle?_modify sh u (sh.part.modify u d).backend d.handle?
    (fun k => by rw [hu]; rfl) (fun _ _ => rfl) a

/-- Operations that leave the caches and the scratch slot alone. -/
theorem handle?_of_eq (parts : ∀ sh : Shelf, sh.part.get d' = sh.part.get d)
    (scratch : d'.scratch = d.scratch) (a : Descriptor) : d'.handle? a = d.handle? a := by
  cases a with
  | shelved sh k => rw [handle?, parts sh, handle?]
  | scratch => rw [handle?, scratch, handle?]

/-! ## Gains -/

theorem Gains.nothing (same : ∀ a, d'.handle? a = d.handle? a)
    (nextId : d'.backend.nextId = d.backend.nextId) : Gains d d' [] where
  kept a h ha := (same a).trans ha
  made a h ha := .inl ((same a).symm.trans ha)
  lacked := by simp
  numbers := rfl
  nextId := nextId

theorem Gains.refl (d : Display τ) : Gains d d [] := .nothing (fun _ => rfl) rfl

theorem Gains.trans {l l' : List (Descriptor × Handle)} (h : Gains d d' l) (h' : Gains d' d'' l') :
    Gains d d'' (l ++ l') where
  kept a x ha := h'.kept a x (h.kept a x ha)
  made a x ha := by
    rcases h'.made a x ha with old | new
    · exact (h.made a x old).imp_right (List.mem_append_left l')
    · exact .inr (List.mem_append_right l new)
  lacked p hp := by
    rcases List.mem_append.mp hp with hp | hp
    · exact h.lacked p hp
    · cases hd : d.handle? p.1 with
      | none => rfl
      | some x => exact absurd ((h.kept _ _ hd).symm.trans (h'.lacked p hp)) nofun
  numbers := by
    rw [List.map_append, h.numbers, h'.numbers, h.nextId, List.length_append, List.range'_append_1]
  nextId := by rw [h'.nextId, h.nextId, List.length_append, Nat.add_assoc]

/-- One new entry, for a handle that was allocated. -/
theorem Gains.one {a : Descriptor} {h : Handle} {b : Headless τ} (lacked : d.handle? a = none)
    (allocated : d.backend.allocate = .ok (h.number, b)) (backend : d'.backend = b)
    (table : ∀ j, d'.handle? j = if j = a then some h else d.handle? j) :
    Gains d d' [(a, h)] := by
  obtain ⟨-, number, rfl⟩ := Headless.allocate_eq allocated
  constructor
  case kept =>
    intro j x hj
    rw [table, if_neg]
    · exact hj
    · rintro rfl
      exact absurd (lacked.symm.trans hj) nofun
  case made =>
    intro j x hj
    rw [table] at hj
    split at hj
    · rename_i e
      right
      simp [e, Option.some.inj hj]
    · exact .inl hj
  case lacked => simpa using lacked
  case numbers => simp [number]
  case nextId => rw [backend]; rfl

/-! ## Each operation -/

theorem resolve_gains (d : Display τ) (sh : Shelf) (k : sh.Key) {make : Making τ sh.Handle}
    (hm : make.Allocates sh.released) :
    ∃ new, Gains d (d.resolve sh k make).2 new ∧ ∀ p ∈ new, ∃ h b,
      p = (.shelved sh k, .shelved sh h) ∧ make d.backend = .ok (.ok (h, b)) := by
  have counted (u : Cache sh.Key sh.Handle → Cache sh.Key sh.Handle)
      (hu : ∀ c k, (u c).find? k = c.find? k) : Gains d (sh.part.modify u d) [] :=
    .nothing (d.handle?_count sh hu) (by cases sh <;> rfl)
  have outcome := d.resolves sh k make
  generalize d.resolve sh k make = r at outcome ⊢
  cases outcome with
  | ended _ => exact ⟨[], .refl d, by simp⟩
  | found _ _ => exact ⟨[], counted .countHit Cache.find?_countHit, by simp⟩
  | @made h b _ absent made =>
    have lacked : d.handle? (.shelved sh k) = none := by rw [handle?, absent]; rfl
    refine ⟨[(.shelved sh k, .shelved sh h)], ?_, by simp [made]⟩
    exact .one lacked (hm _ _ _ made) rfl (d.handle?_insert sh k h b)
  | refused _ _ _ | gaveUp _ _ _ => exact ⟨[], counted .countMiss Cache.find?_countMiss, by simp⟩

theorem resolveScratch_gains (d : Display τ) :
    ∃ new, Gains d d.resolveScratch.2 new ∧ ∀ p ∈ new, ∃ gc, p = (.scratch, .gc gc) := by
  have outcome := d.resolvesScratch
  generalize d.resolveScratch = r at outcome ⊢
  cases outcome with
  | ended _ | found _ _ | refused _ _ _ => exact ⟨[], .refl d, by simp⟩
  | @made gc b _ absent made =>
    have lacked : d.handle? .scratch = none := by rw [handle?, absent]; rfl
    refine ⟨[(.scratch, .gc gc)], ?_, by simp⟩
    refine .one lacked (Headless.createGc_allocates made) rfl fun j => ?_
    cases j with
    | scratch => rw [if_pos rfl]; rfl
    | shelved sh k => rw [if_neg nofun]; cases sh <;> rfl

theorem measured_gains (d : Display τ) (opening : Opening) (f : Font) (text : String) :
    ∃ new, Gains d (d.measured f) new ∧
      ∀ p ∈ new, d.Begets opening (.textExtent f text) p.1 p.2 := by
  obtain ⟨new, first, fonts⟩ := d.resolve_gains .fonts f (createFont_allocates f)
  have font : ∀ p ∈ new, d.Begets opening (.textExtent f text) p.1 p.2 := by
    intro p hp
    obtain ⟨h, b, rfl, made⟩ := fonts p hp
    exact .font (.inr ⟨text, rfl⟩) (Making.native_eq_ok.mp made)
  rcases d.measured_eq f with once | twice
  · rw [once]
    exact ⟨new, first, font⟩
  · rw [twice]
    obtain ⟨new', second, contexts⟩ := (d.resolveFont f).2.resolveScratch_gains
    refine ⟨new ++ new', first.trans second, fun p hp => ?_⟩
    rcases List.mem_append.mp hp with hp | hp
    · exact font p hp
    · obtain ⟨gc, rfl⟩ := contexts p hp
      exact .gc

theorem enumerated_handle? (d : Display τ) (a : Descriptor) :
    d.enumerated.handle? a = d.handle? a := by
  rcases d.enumerated_eq with same | ⟨l, kept⟩
  · rw [same]
  · rw [kept]
    exact handle?_of_eq (fun sh => by cases sh <;> rfl) (by rfl) a

theorem release_turns {sh : Shelf} {k : sh.Key} {c : Call τ}
    (hc : ∀ a, c.Drops a ↔ a = .shelved sh k) : d.Turns opening c (d.release sh k).2 := by
  have table (a : Descriptor) : (d.release sh k).2.handle? a =
      if a = .shelved sh k then none else d.handle? a := by
    unfold release
    split
    · exact d.handle?_erase sh k _ a
    · rename_i absent
      split
      · rename_i e
        rw [e, handle?, absent]
        rfl
      · rfl
  refine .drops (fun a ha => ?_) (fun a ha => ?_) ?_
  · rw [table, if_pos ((hc a).mp ha)]
  · rw [table, if_neg fun e => ha ((hc a).mpr e)]
  · unfold release
    split <;> rfl

theorem releaseAll_turns {sh : Shelf} {c : Call τ}
    (hc : ∀ a, c.Drops a ↔ a.shelf? = some sh) : d.Turns opening c (d.releaseAll sh) := by
  refine .drops (fun a ha => ?_) (fun a ha => ?_) rfl
  · exact (d.handle?_clear sh _ a).trans (if_pos ((hc a).mp ha))
  · exact (d.handle?_clear sh _ a).trans (if_neg fun e => ha ((hc a).mpr e))

theorem tornDown_handle? (d : Display τ) (a : Descriptor) : d.tornDown.handle? a = none := by
  cases a with
  | scratch => rfl
  | shelved sh k => cases sh <;> rfl

/-! ## Every call -/

/-- **Every call** gains handles, drops what it was asked to release, or ends the display. -/
theorem turns_after (d : Display τ) (opening : Opening) (c : Call τ) :
    d.Turns opening c (d.after opening c) := by
  have same {d' : Display τ} (h : Gains d d' []) (never : ∀ a, ¬ c.Drops a) :
      d.Turns opening c d' := .gains h (by simp) never
  have moved (b : Headless τ) (next : b.nextId = d.backend.nextId) :
      Gains d { d with backend := b } [] :=
    .nothing (handle?_of_eq (fun sh => by cases sh <;> rfl) (by rfl)) next
  cases c with
  | resolveColor c =>
    obtain ⟨new, gains, made⟩ := d.resolve_gains .colors c (createColor_allocates c.r c.g c.b)
    refine .gains gains (fun p hp => ?_) nofun
    obtain ⟨h, b, rfl, made⟩ := made p hp
    exact .color (Making.native_eq_ok.mp made)
  | resolveFont f =>
    obtain ⟨new, gains, made⟩ := d.resolve_gains .fonts f (createFont_allocates f)
    refine .gains gains (fun p hp => ?_) nofun
    obtain ⟨h, b, rfl, made⟩ := made p hp
    exact .font (.inl rfl) (Making.native_eq_ok.mp made)
  | resolveImage i | image i =>
    obtain ⟨new, gains, made⟩ := d.resolve_gains .images i.uri (image_allocates opening i)
    refine .gains gains (fun p hp => ?_) nofun
    obtain ⟨h, b, rfl, made⟩ := made p hp
    first | exact .image (.inl rfl) made | exact .image (.inr rfl) made
  | scratchGc =>
    obtain ⟨new, gains, made⟩ := d.resolveScratch_gains
    refine .gains gains (fun p hp => ?_) nofun
    obtain ⟨gc, rfl⟩ := made p hp
    exact .gc
  | textExtent f text =>
    obtain ⟨new, gains, begets⟩ := d.measured_gains opening f text
    exact .gains gains begets nofun
  | releaseColor _ | releaseFont _ | releaseImage _ => exact release_turns fun _ => .rfl
  | releaseAllColors | releaseAllFonts | releaseAllImages => exact releaseAll_turns fun _ => .rfl
  | teardown | drop =>
    unfold after
    simp only
    split
    · exact same (.refl d) nofun
    · exact .ends nofun
  | monitors | primaryMonitor =>
    exact same (.nothing d.enumerated_handle? (congrArg Headless.nextId d.enumerated_backend)) nofun
  | dispatch ending =>
    show d.Turns opening (.dispatch ending) d.dispatched
    unfold dispatched
    split <;> exact same (moved _ (Headless.nextId_next _)) nofun
  | sleep => exact same (moved _ (Headless.nextId_sleep _)) nofun
  | closeBackend => exact same (moved _ (Headless.nextId_close _)) nofun
  | invalidateMonitors =>
    exact same (.nothing (handle?_of_eq (fun sh => by cases sh <;> rfl) (by rfl)) rfl) nofun
  | stats => exact same (.refl d) nofun
  | createWindow | destroyWindow _ | post _ | send _ | pendingEvents =>
    exact same (moved _ rfl) nofun

/-- What is new is numbered from the next number on. -/
theorem Gains.number_mem {new : List (Descriptor × Handle)} (gains : Gains d d' new)
    {a : Descriptor} {h : Handle} (hp : (a, h) ∈ new) :
    d.backend.nextId ≤ h.number ∧ h.number < d'.backend.nextId := by
  have number := List.mem_map_of_mem (f := fun p : Descriptor × Handle => p.2.number) hp
  rw [gains.numbers] at number
  rw [gains.nextId]
  exact List.mem_range'_1.mp number

/-- A handle that is kept after a call was kept before, or was made by the call for a descriptor
that had none. -/
theorem Turns.old_or_new {c : Call τ} {a : Descriptor} {h : Handle} (turns : d.Turns opening c d')
    (kept : d'.handle? a = some h) : d.handle? a = some h ∨
      (d.handle? a = none ∧ d.backend.nextId ≤ h.number ∧ d.Begets opening c a h) := by
  cases turns with
  | gains gains begets _ =>
    exact (gains.made a h kept).imp_right fun new =>
      ⟨gains.lacked _ new, (gains.number_mem new).1, begets _ new⟩
  | drops gone rest _ =>
    left
    by_cases dropped : c.Drops a
    · exact absurd ((gone a dropped).symm.trans kept) nofun
    · exact (rest a dropped).symm.trans kept
  | ends _ => exact absurd ((d.tornDown_handle? a).symm.trans kept) nofun

/-- A handle that is no longer kept was released, or the display was torn down. -/
theorem Turns.lost {c : Call τ} {a : Descriptor} {h : Handle} (turns : d.Turns opening c d')
    (before : d.handle? a = some h) (after : d'.handle? a = none) :
    c.Drops a ∨ d'.disposed = true := by
  cases turns with
  | gains gains _ _ => exact absurd ((gains.kept a h before).symm.trans after) nofun
  | drops _ rest _ =>
    left
    by_contra undropped
    exact absurd (before.symm.trans ((rest a undropped).symm.trans after)) nofun
  | ends _ => exact .inr rfl

/-- Numbers are only ever counted up. -/
theorem Turns.nextId_le {c : Call τ} (turns : d.Turns opening c d') :
    d.backend.nextId ≤ d'.backend.nextId := by
  cases turns with
  | gains gains _ _ => exact gains.nextId ▸ Nat.le_add_right _ _
  | drops _ _ nextId => exact Nat.le_of_eq nextId.symm
  | ends _ => exact Nat.le_of_eq (Headless.nextId_close (d.backend.giveBack d.owed)).symm

end Display

end DisplayEnv
