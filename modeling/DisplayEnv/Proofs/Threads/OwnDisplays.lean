import DisplayEnv.Proofs.Threads.Accounts

/-!
# Every thread has a display of its own

Between the deeds of other threads, a thread finds in its slot what it left there: the display that
was made for it, until it detaches it or ends. So it is given the same display again and again, and
after a detach a new one, with a number that nobody has seen.

* `slot_since_made`, `slot_since_detached`: the slot of a thread along a course.
* `made_again`, `made_anew`, `made_iff_opened`: which display a thread is given.
* `own_displays`: what any number of threads see throughout every course.
-/

namespace DisplayEnv.Threads

/-! ## The slot of a thread along a course -/

variable {i : Nat} {t : List Turn} {w : Realm} {m : Turn} {factories : List (List Factory)}
  {thread : Nat}

/-- A display stays in its slot until it is detached or its thread ends. -/
theorem slot_kept (d : Deed) (hi : i < w.registries.length) {id : Nat}
    (slot : ((registryAt i).get w).local? thread = some id)
    (stays : ¬ (Turn.of d w).Vacates i thread) :
    ((registryAt i).get (Turn.of d w).after).local? thread = some id := by
  cases carried d hi with
  | nothing after _ _ _ _ _ => rwa [after.slot]
  | enters x after _ _ _ empty _ _ _ =>
    have other : ¬ thread = x.thread := by
      rintro rfl
      rw [show ((registryAt i).get w).local? x.thread = none from empty] at slot
      cases slot
    rw [after, Registry.local?_enter, if_neg other]
    exact slot
  | detaches x after _ _ _ _ deed =>
    have other : ¬ thread = x.thread := by
      rintro rfl
      exact stays (.inl deed)
    rw [after, Registry.local?_without, if_neg other]
    exact slot
  | ends ended after _ _ _ deed =>
    have other : ¬ thread = ended := by
      rintro rfl
      exact stays (.inr deed)
    rw [after, Registry.local?_endThread, if_neg other]
    exact slot

/-- A display that a thread is given is in its slot. -/
theorem slot_made (d : Deed) (hi : i < w.registries.length) {x : MainDisplay}
    (made : (Turn.of d w).made? i = some x) :
    ((registryAt i).get (Turn.of d w).after).local? x.thread = some x.id := by
  cases carried d hi with
  | nothing after _ _ found _ _ =>
    rw [after.slot]
    exact found x made
  | enters y after _ made' _ _ _ _ _ =>
    obtain rfl : y = x := Option.some.inj (made'.symm.trans made)
    rw [after, Registry.local?_enter, if_pos rfl]
  | detaches _ _ _ none _ _ _ =>
    rw [none] at made
    cases made
  | ends _ _ _ none _ _ =>
    rw [none] at made
    cases made

/-- Nothing is in the slot of a thread that has just detached its display, or ended. -/
theorem slot_vacated (d : Deed) (hi : i < w.registries.length)
    (vacates : (Turn.of d w).Vacates i thread) :
    ((registryAt i).get (Turn.of d w).after).local? thread = none := by
  cases carried d hi with
  | nothing after _ _ _ vacant _ =>
    rw [after.slot]
    exact vacant thread vacates
  | enters _ _ _ _ _ _ _ _ never => exact absurd vacates (never thread)
  | detaches x after _ _ _ _ deed =>
    have here : thread = x.thread := by
      rcases vacates with h | h <;> rw [deed] at h <;> cases h
      rfl
    rw [after, Registry.local?_without, if_pos here]
  | ends ended after _ _ _ deed =>
    have here : thread = ended := by
      rcases vacates with h | h <;> rw [deed] at h <;> cases h
      rfl
    rw [after, Registry.local?_endThread, if_pos here]

/-- A slot stays empty until its thread is given a display. -/
theorem slot_empty (d : Deed) (hi : i < w.registries.length)
    (empty : ((registryAt i).get w).local? thread = none)
    (others : ∀ x, (Turn.of d w).made? i = some x → x.thread ≠ thread) :
    ((registryAt i).get (Turn.of d w).after).local? thread = none := by
  cases carried d hi with
  | nothing after _ _ _ _ _ => rwa [after.slot]
  | enters x after _ made _ _ _ _ _ =>
    rw [after, Registry.local?_enter, if_neg fun e => others x made e.symm]
    exact empty
  | detaches x after _ _ _ _ _ =>
    rw [after, Registry.local?_without]
    split
    · rfl
    · exact empty
  | ends ended after _ _ _ _ =>
    rw [after, Registry.local?_endThread]
    split
    · rfl
    · exact empty

/-- What a slot holds, or that it is empty, in a realm that has the registry. -/
def SlotIs (i thread : Nat) (content : Option Nat) (w : Realm) : Prop :=
  i < w.registries.length ∧ ((registryAt i).get w).local? thread = content

theorem SlotIs.of_books {content : Option Nat} {w w' : Realm} (same : w'.books = w.books)
    (h : SlotIs i thread content w) : SlotIs i thread content w' := by
  have registries := (Prod.mk.inj same).1
  exact ⟨registries ▸ h.1, by rw [registryAt_eq registries]; exact h.2⟩

/-- A thread that was given a display has it in its slot until it detaches it or ends. -/
theorem slot_since_made (hi : i < factories.length) (h : Course (.new factories) t w) {k : Nat}
    (hk : k < t.length) {x : MainDisplay} (made : t[k].made? i = some x)
    (stays : ∀ n (hn : n < t.length), k < n → ¬ t[n].Vacates i x.thread) :
    ((registryAt i).get w).local? x.thread = some x.id := by
  have turn := h.eq_of (List.getElem_mem hk)
  have present := (Accounted.of_course hi (h.take hk)).present
  refine (h.since (SlotIs i x.thread (some x.id)) (fun m => ¬ m.Vacates i x.thread)
    (fun w w' => SlotIs.of_books) (fun d w hp later => ?_) hk ?_ stays).2
  · exact ⟨(registries_kept d w).symm ▸ hp.1, slot_kept d hp.1 hp.2 later⟩
  · rw [turn] at made ⊢
    exact ⟨(registries_kept _ _).symm ▸ present, slot_made _ present made⟩

/-- A thread that has detached its display has none until it is given one. -/
theorem slot_since_detached (hi : i < factories.length) (h : Course (.new factories) t w) {k : Nat}
    (hk : k < t.length) (detached : t[k].deed = .detach thread i)
    (others : ∀ n (hn : n < t.length), k < n → ∀ x, t[n].made? i = some x → x.thread ≠ thread) :
    ((registryAt i).get w).local? thread = none := by
  have turn := h.eq_of (List.getElem_mem hk)
  have present := (Accounted.of_course hi (h.take hk)).present
  refine (h.since (SlotIs i thread none)
    (fun m => ∀ x, m.made? i = some x → x.thread ≠ thread)
    (fun w w' => SlotIs.of_books) (fun d w hp later => ?_) hk ?_ others).2
  · exact ⟨(registries_kept d w).symm ▸ hp.1, slot_empty d hp.1 hp.2 later⟩
  · have vacates : (Turn.of t[k].deed t[k].before).Vacates i thread := .inl detached
    rw [turn]
    exact ⟨(registries_kept _ _).symm ▸ present, slot_vacated _ present vacates⟩

/-! ## Numbers of displays -/

/-- All that a registry keeps in slots or has handed out was made before. -/
structure Numbered (i : Nat) (t : List Turn) (w : Realm) : Prop where
  present : i < w.registries.length
  slots : ∀ thread id, ((registryAt i).get w).local? thread = some id → id ≤ w.members.length
  given : ∀ m ∈ t, ∀ x, m.given? i = some x → x.id ≤ w.members.length

theorem Numbered.deed (h : Numbered i t w) (d : Deed) :
    Numbered i (t ++ [.of d w]) (Turn.of d w).after := by
  have present := (registries_kept d w).symm ▸ h.present
  have members := members_le d h.present
  have earlier : ∀ m ∈ t, ∀ x, m.given? i = some x → x.id ≤ (Turn.of d w).after.members.length :=
    fun m hm x hx => Nat.le_trans (h.given m hm x hx) members
  cases turned d h.present with
  | kept _ slots given _ =>
    refine ⟨present, fun thread id hs =>
      Nat.le_trans (h.slots thread id (slots thread id hs)) members, ?_⟩
    refine List.forall_mem_append.mpr ⟨earlier, List.forall_mem_singleton.mpr fun x hx => ?_⟩
    exact Nat.le_trans (h.slots _ _ (given x hx)) members
  | entered thread made after _ =>
    refine ⟨present, fun other id hs => ?_, ?_⟩
    · rw [after, Registry.local?_enter] at hs
      split at hs
      · exact Nat.le_of_eq (Option.some.inj hs).symm
      · exact Nat.le_trans (h.slots other id hs) members
    · refine List.forall_mem_append.mpr ⟨earlier, List.forall_mem_singleton.mpr fun x hx => ?_⟩
      rw [Turn.given?_of_made? made] at hx
      obtain rfl := Option.some.inj hx
      exact Nat.le_refl _

theorem Numbered.of_course (hi : i < factories.length) (h : Course (.new factories) t w) :
    Numbered i t w := by
  induction h with
  | rest =>
    exact ⟨by simpa [Realm.new] using hi, by simp, by simp⟩
  | deed _ d ih => exact ih.deed d
  | aside _ same h =>
    obtain ⟨registries, members⟩ := Prod.mk.inj same
    exact ⟨registries ▸ h.present, by rw [registryAt_eq registries, members]; exact h.slots,
      members ▸ h.given⟩

/-! ## What threads see -/

/-- The number of threads whose display was made last, not taken out, whether they ended or not. -/
def Counted (i : Nat) (t : List Turn) (n : Nat) : Prop :=
  ∃ l : List Nat, l.Nodup ∧ (∀ thread, thread ∈ l ↔ MadeLast i t thread) ∧ l.length = n

theorem Accounted.counted (h : Accounted i t w) : Counted i t ((registryAt i).get w).size := by
  refine ⟨((registryAt i).get w).threads.map (·.1), h.keys, fun thread => ?_, List.length_map _⟩
  rw [Registry.mem_threads_iff]
  exact h.last thread

/-- Until it is detached or its thread ends, a thread is given the same display again. -/
theorem made_again (hi : i < factories.length) (h : Course (.new factories) t w) {j k : Nat}
    (hjk : j < k) (hk : k < t.length) {x y : MainDisplay} (first : t[j].made? i = some x)
    (again : t[k].made? i = some y) (thread : y.thread = x.thread)
    (stays : ∀ n (hn : n < t.length), j < n → n < k → ¬ t[n].Vacates i x.thread) : y = x := by
  have before := h.take hk
  have short : (t.take k).length = k := List.length_take_of_le (Nat.le_of_lt hk)
  have slot : ((registryAt i).get t[k].before).local? x.thread = some x.id := by
    refine slot_since_made hi before (k := j) (by omega) (by rwa [List.getElem_take]) ?_
    intro n hn hjn
    rw [List.getElem_take]
    exact stays n (by omega) hjn (by omega)
  rw [h.eq_of (List.getElem_mem hk)] at again
  obtain ⟨id, owner⟩ := y
  obtain rfl : owner = x.thread := thread
  cases carried t[k].deed (Accounted.of_course hi before).present with
  | nothing _ _ _ found _ _ =>
    obtain rfl : x.id = id := Option.some.inj (slot.symm.trans (found _ again))
    rfl
  | enters z _ _ made _ empty _ _ _ =>
    obtain rfl := Option.some.inj (made.symm.trans again)
    cases slot.symm.trans empty
  | detaches _ _ _ made _ _ _ | ends _ _ _ made _ _ =>
    rw [made] at again
    cases again

/-- The first display that a thread is given after it has detached one was never seen before, by no
thread and at no registry. -/
theorem made_anew (hi : i < factories.length) (h : Course (.new factories) t w) {j k : Nat}
    (hjk : j < k) (hk : k < t.length) {x : MainDisplay} (detached : t[j].deed = .detach x.thread i)
    (made : t[k].made? i = some x)
    (first : ∀ n (hn : n < t.length), j < n → n < k → ∀ y, t[n].made? i = some y →
      y.thread ≠ x.thread)
    {i' : Nat} (hi' : i' < factories.length) {n : Nat} (hnk : n < k) {y : MainDisplay}
    (given : t[n].given? i' = some y) : y.id < x.id := by
  have before := h.take hk
  have short : (t.take k).length = k := List.length_take_of_le (Nat.le_of_lt hk)
  have empty : ((registryAt i).get t[k].before).local? x.thread = none := by
    refine slot_since_detached hi before (k := j) (by omega) (by rwa [List.getElem_take]) ?_
    intro n hn hjn
    rw [List.getElem_take]
    exact first n (by omega) hjn (by omega)
  have older : y.id ≤ t[k].before.members.length := by
    refine (Numbered.of_course hi' before).given t[n] ?_ y given
    exact List.mem_take_iff_getElem.mpr ⟨n, by omega, rfl⟩
  rw [h.eq_of (List.getElem_mem hk)] at made
  cases carried t[k].deed (Accounted.of_course hi before).present with
  | nothing _ _ _ found _ _ => cases empty.symm.trans (found x made)
  | enters z _ _ made' _ _ new _ _ =>
    obtain rfl := Option.some.inj (made'.symm.trans made)
    exact Nat.lt_of_le_of_lt older new
  | detaches _ _ _ none _ _ _ | ends _ _ _ none _ _ =>
    rw [none] at made
    cases made

/-- A thread is given what was made for it, and only that. -/
theorem made_iff_opened (hi : i < factories.length) (h : Course (.new factories) t w)
    (x : MainDisplay) : x ∈ t.filterMap (Turn.made? i) ↔ x ∈ t.filterMap (Turn.opened? i) := by
  induction h with
  | rest => simp
  | aside _ _ ih => exact ih
  | @deed w t h d ih =>
    have accounted := Accounted.of_course hi h
    simp only [filterMap_concat, List.mem_append, ih]
    cases carried d accounted.present with
    | nothing _ opened _ found _ _ =>
      rw [opened]
      constructor
      · rintro (old | new)
        · exact .inl old
        · have slot := found x (by simpa using new)
          exact .inl (accounted.opened x.thread x.id (accounted.own x.thread x.id slot))
      · rintro (old | new)
        · exact .inl old
        · cases new
    | enters y _ opened made _ _ _ _ _ => rw [opened, made]
    | detaches _ _ opened made _ _ _ | ends _ _ opened made _ _ => rw [opened, made]

/-- What a registry answers about a thread that has not ended, and how many threads it counts. -/
theorem Accounted.contains (h : Accounted i t w) (lives : ∀ m ∈ t, m.deed ≠ .endThread thread i) :
    ((registryAt i).get w).contains thread = true ↔ MadeLast i t thread := by
  rw [Registry.contains, Option.isSome_iff_ne_none, ← h.agree thread lives]
  exact h.last thread

/-- What threads see of one registry in a course: `i` is the registry, `n` is how many there are. -/
structure OwnDisplays (i n : Nat) (t : List Turn) (w : Realm) : Prop where
  /-- The two accounts of a thread that has not ended agree. -/
  agree : ∀ thread, (∀ m ∈ t, m.deed ≠ .endThread thread i) →
    ((registryAt i).get w).known? thread = ((registryAt i).get w).local? thread
  /-- No two threads have the same display, by neither account. -/
  apart : ∀ a b id, a ≠ b →
    ¬ (((registryAt i).get w).known? a = some id ∧ ((registryAt i).get w).known? b = some id) ∧
    ¬ (((registryAt i).get w).local? a = some id ∧ ((registryAt i).get w).local? b = some id)
  /-- Until it detaches it or ends, a thread is given the same display. -/
  stable : ∀ j k (hjk : j < k) (hk : k < t.length) x y, t[j].made? i = some x →
    t[k].made? i = some y → y.thread = x.thread →
    (∀ l (hl : l < t.length), j < l → l < k → ¬ t[l].Vacates i x.thread) → y = x
  /-- The first display after one was detached is one that was never handed out before. -/
  fresh : ∀ j k (hjk : j < k) (hk : k < t.length) x, t[j].deed = .detach x.thread i →
    t[k].made? i = some x →
    (∀ l (hl : l < t.length), j < l → l < k → ∀ y, t[l].made? i = some y → y.thread ≠ x.thread) →
    ∀ l (hl : l < k) i', i' < n → ∀ y, t[l].given? i' = some y → y.id < x.id
  /-- Every display that the maker makes has a number of its own. -/
  once : (t.filterMap (Turn.opened? i)).Pairwise (·.id < ·.id)
  /-- The displays that threads are given are those that the maker made for them. -/
  made : ∀ x, x ∈ t.filterMap (Turn.made? i) ↔ x ∈ t.filterMap (Turn.opened? i)
  /-- The threads that are counted are those whose display was made last and not taken out. -/
  counted : Counted i t ((registryAt i).get w).size
  sizes : ∀ k (hk : k < t.length), t[k].deed = .size i →
    ∃ c, t[k].outcome = .done (.count c) ∧ Counted i (t.take k) c
  contains : ∀ k (hk : k < t.length) thread, t[k].deed = .contains thread i →
    (∀ m ∈ t.take k, m.deed ≠ .endThread thread i) →
    ∃ b, t[k].outcome = .done (.flag b) ∧ (b = true ↔ MadeLast i (t.take k) thread)

/-- **Every thread has a display of its own.** Throughout every course of deeds of any threads the
two accounts of a registry agree on each thread that has not ended, and no display belongs to two
threads. A thread is given the same display until it detaches it, and then one that was never handed
out. The maker makes each display once, and the registry counts the threads whose display was not
taken out, those that ended included. So it is with scripts, which are courses. -/
theorem own_displays (factories : List (List Factory)) (i : Nat) (hi : i < factories.length)
    (t : List Turn) (w : Realm) (h : Course (.new factories) t w) :
    OwnDisplays i factories.length t w ∧
      ∀ steps, ∃ t', Course (.new factories) (t ++ t') (Act.each perform steps w).2 := by
  have accounted := Accounted.of_course hi h
  refine ⟨?_, fun steps => ?_⟩
  · constructor
    case agree => exact accounted.agree
    case apart =>
      intro a b id distinct
      refine ⟨fun ⟨ha, hb⟩ => distinct (accounted.apart a b id ha hb), fun ⟨ha, hb⟩ => ?_⟩
      exact distinct (accounted.apart a b id (accounted.own a id ha) (accounted.own b id hb))
    case stable =>
      intro j k hjk hk x y first again thread stays
      exact made_again hi h hjk hk first again thread stays
    case fresh =>
      intro j k hjk hk x detached made first l hl i' hi' y given
      exact made_anew hi h hjk hk detached made first hi' hl given
    case once => exact accounted.ascending
    case made => exact made_iff_opened hi h
    case counted => exact accounted.counted
    case sizes =>
      intro k hk deed
      refine ⟨_, ?_, (Accounted.of_course hi (h.take hk)).counted⟩
      rw [h.eq_of (List.getElem_mem hk), deed]
      rfl
    case contains =>
      intro k hk thread deed lives
      refine ⟨_, ?_, (Accounted.of_course hi (h.take hk)).contains lives⟩
      rw [h.eq_of (List.getElem_mem hk), deed]
      rfl
  · obtain ⟨t', p⟩ := ByDeeds.each_perform steps w
    exact ⟨t', h.append p⟩

/-- The maker fails for one thread and gives up for another. A display is asked for twice, detached
and replaced, and a thread ends with its display. -/
def shared : List Deed :=
  [.current 7 0, .current 7 0, .current 7 0, .current 9 0, .current 9 0, .detach 7 0, .current 7 0,
    .endThread 9 0, .size 0, .contains 7 0]

theorem own_displays_shared :
    OwnDisplays 0 makers.length (turns (.new makers) shared) (reached (.new makers) shared) ∧
      ((registryAt 0).get (reached (.new makers) shared)).size = 2 ∧
      ((registryAt 0).get (reached (.new makers) shared)).local? 9 = none ∧
      (turns (.new makers) shared).filterMap (Turn.opened? 0) = [⟨1, 7⟩, ⟨2, 9⟩, ⟨3, 7⟩] :=
  ⟨(own_displays makers 0 (by decide) _ _ (.turns _ shared)).1, rfl, rfl, rfl⟩

end DisplayEnv.Threads
