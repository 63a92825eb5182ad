import DisplayEnv.Proofs.Threads.OwnDisplays

/-!
# Access to the main display

A thread that asks for the main display itself, and not only for its number, may be refused for
three reasons: there is none yet, it belongs to another thread, or it was detached. Whether it was
torn down is none of them, and neither is a replacement that its thread has meanwhile.

* `slot_iff_undetached`: a display that was made for a thread stays in the slot of the thread for
  as long as it is not detached.
* `granted`: what the deeds of a course say about access.
* `main_accessed`: that this is what `mainDisplay` answers.
-/

namespace DisplayEnv.Threads

variable {i : Nat} {t : List Turn} {w : Realm} {factories : List (List Factory)} {thread : Nat}

/-! ## The slot of a thread -/

/-- Every display that was made for a living thread is in its slot, or was detached. -/
structure Slotted (i : Nat) (t : List Turn) (w : Realm) : Prop where
  /-- What was detached was made. -/
  detached : ∀ x ∈ t.filterMap (Turn.detached? i), x ∈ t.filterMap (Turn.opened? i)
  slot : ∀ x ∈ t.filterMap (Turn.opened? i), (∀ m ∈ t, m.deed ≠ .endThread x.thread i) →
    (((registryAt i).get w).local? x.thread = some x.id ↔ x ∉ t.filterMap (Turn.detached? i))

theorem Slotted.new (factories : List (List Factory)) : Slotted i [] (.new factories) := by
  constructor <;> simp

/-- A new display is in its slot, and all earlier ones of its thread were detached. -/
theorem Slotted.enters {m : Turn} {x : MainDisplay} (h : Slotted i t w)
    (numbered : ∀ y ∈ t.filterMap (Turn.opened? i), y.id < x.id)
    (after : (registryAt i).get m.after = ((registryAt i).get w).enter x.thread x.id)
    (opened : m.opened? i = some x) (detached : m.detached? i = none)
    (empty : ((registryAt i).get w).local? x.thread = none) : Slotted i (t ++ [m]) m.after := by
  constructor
  all_goals simp only [filterMap_concat, opened, detached, Option.toList_some, Option.toList_none,
    List.append_nil]
  case detached =>
    intro y hy
    exact List.mem_append_left _ (h.detached y hy)
  case slot =>
    intro y hy lives
    rw [after, Registry.local?_enter]
    rcases List.mem_append.mp hy with old | new
    · have before := h.slot y old (List.forall_mem_append.mp lives).1
      have lower := numbered y old
      by_cases same : y.thread = x.thread
      · rw [same, empty] at before
        have other : x.id ≠ y.id := by omega
        simpa [same, other] using before
      · rwa [if_neg same]
    · obtain rfl := List.mem_singleton.mp new
      rw [if_pos rfl]
      have undetached : y ∉ t.filterMap (Turn.detached? i) := by
        intro hy
        exact Nat.lt_irrefl _ (numbered y (h.detached y hy))
      exact iff_of_true rfl undetached

/-- A display that is detached is in no slot any more. -/
theorem Slotted.detaches {m : Turn} {x : MainDisplay} (h : Slotted i t w)
    (known : x ∈ t.filterMap (Turn.opened? i))
    (after : (registryAt i).get m.after = ((registryAt i).get w).without x.thread)
    (opened : m.opened? i = none) (detached : m.detached? i = some x)
    (slot : ((registryAt i).get w).local? x.thread = some x.id) :
    Slotted i (t ++ [m]) m.after := by
  constructor
  all_goals simp only [filterMap_concat, opened, detached, Option.toList_some, Option.toList_none,
    List.append_nil]
  case detached =>
    intro y hy
    rcases List.mem_append.mp hy with old | new
    · exact h.detached y old
    · rwa [List.mem_singleton.mp new]
  case slot =>
    intro y hy lives
    have before := h.slot y hy (List.forall_mem_append.mp lives).1
    rw [after, Registry.local?_without, List.mem_append, List.mem_singleton]
    by_cases same : y.thread = x.thread
    · rw [same, slot] at before
      -- of all displays of the thread, the one in the slot is detached now, the others were before
      have gone : y ∈ t.filterMap (Turn.detached? i) ∨ y = x := by
        by_cases this : y = x
        · exact .inr this
        · left
          by_contra undetached
          have number := Option.some.inj (before.mpr undetached)
          cases x
          cases y
          exact this (by simp_all)
      rw [if_pos same]
      exact iff_of_false nofun (not_not_intro gone)
    · have other : y ≠ x := fun e => same (congrArg MainDisplay.thread e)
      rw [if_neg same, before]
      simp only [other, or_false]

/-- **Every deed** leaves the displays of living threads in their slots, unless it detaches them. -/
theorem Slotted.deed (h : Slotted i t w) (accounted : Accounted i t w) (d : Deed) :
    Slotted i (t ++ [.of d w]) (Turn.of d w).after := by
  cases carried d accounted.present with
  | nothing after opened detached _ _ _ =>
    constructor
    all_goals simp only [filterMap_concat, opened, detached, Option.toList_none, List.append_nil]
    case detached => exact h.detached
    case slot =>
      intro y hy lives
      rw [after.slot]
      exact h.slot y hy (List.forall_mem_append.mp lives).1
  | enters x after opened _ detached empty new _ _ =>
    refine h.enters (fun y hy => ?_) after opened detached empty
    exact Nat.lt_of_le_of_lt (accounted.numbered y hy) new
  | detaches x after opened _ detached slot _ =>
    have known := accounted.opened x.thread x.id (accounted.own x.thread x.id slot)
    exact h.detaches known after opened detached slot
  | ends ended after opened _ detached deed =>
    constructor
    all_goals simp only [filterMap_concat, opened, detached, Option.toList_none, List.append_nil]
    case detached => exact h.detached
    case slot =>
      intro y hy lives
      obtain ⟨before, now⟩ := List.forall_mem_append.mp lives
      have other : ¬ y.thread = ended := by
        rintro rfl
        exact now _ (List.mem_singleton_self _) deed
      rw [after, Registry.local?_endThread, if_neg other]
      exact h.slot y hy before

theorem Slotted.of_course (hi : i < factories.length) (h : Course (.new factories) t w) :
    Slotted i t w := by
  induction h with
  | rest => exact .new factories
  | deed h d ih => exact ih.deed (Accounted.of_course hi h) d
  | aside _ same h =>
    constructor
    case detached => exact h.detached
    case slot =>
      rw [registryAt_eq (Prod.mk.inj same).1]
      exact h.slot

/-- **A display that was made for a thread** is in the slot of the thread exactly as long as it is
not detached, until the thread ends. -/
theorem slot_iff_undetached (hi : i < factories.length) (h : Course (.new factories) t w)
    {x : MainDisplay} (made : x ∈ t.filterMap (Turn.made? i))
    (lives : ∀ m ∈ t, m.deed ≠ .endThread x.thread i) :
    ((registryAt i).get w).local? x.thread = some x.id ↔ x ∉ t.filterMap (Turn.detached? i) :=
  (Slotted.of_course hi h).slot x ((made_iff_opened hi h x).mp made) lives

/-! ## Access -/

/-- What a thread has to be answered after a course when it asks for the main display. -/
def granted (i : Nat) (t : List Turn) (thread : Nat) : Except DisplayError Nat :=
  match first? i t with
  | none => .error .notRunning
  | some m =>
    if m.thread ≠ thread then .error .wrongThread
    else if m ∈ t.filterMap (Turn.detached? i) then .error .disposed
    else .ok m.id

/-- What the answer depends on: the main display, and whether it is in the slot of its thread. -/
theorem mainDisplay_granted (hi : i < factories.length) (h : Course (.new factories) t w)
    (lives : ∀ m ∈ t, m.deed ≠ .endThread thread i) :
    ((registryAt i).get w).mainDisplay thread = granted i t thread := by
  rw [Registry.mainDisplay_eq, (Settled.of_course hi h).main, granted]
  cases first : first? i t with
  | none => rfl
  | some m =>
    simp only
    split
    · rfl
    · rename_i own
      obtain rfl : m.thread = thread := Decidable.not_not.mp own
      have made : m ∈ t.filterMap (Turn.made? i) := List.mem_of_mem_head? first
      have slot := slot_iff_undetached hi h made lives
      by_cases detached : m ∈ t.filterMap (Turn.detached? i)
      · rw [if_pos detached]
        cases kept : ((registryAt i).get w).local? m.thread with
        | none => rfl
        | some id =>
          have other : id ≠ m.id := by
            rintro rfl
            exact slot.mp kept detached
          simp only [if_neg other]
      · rw [if_neg detached, slot.mpr detached]
        simp

/-- Whatever access is granted, it is to the main display. -/
theorem main_of_mainDisplay {r : Registry} {id : Nat} (h : r.mainDisplay thread = .ok id) :
    ∃ m, r.main = .ok m ∧ m.id = id ∧ m.thread = thread := by
  rw [Registry.mainDisplay_eq] at h
  rw [Registry.main]
  cases main : r.mainDisplay? with
  | none =>
    rw [main] at h
    cases h
  | some m =>
    simp only [main] at h
    refine ⟨m, rfl, ?_⟩
    split at h
    · cases h
    · rename_i own
      split at h
      · split at h
        · rename_i same
          cases h
          exact ⟨same.symm, Decidable.not_not.mp own⟩
        · cases h
      · cases h

/-- **Access to the main display.** After every course of deeds of any threads, and in the middle
of it, a thread that has not ended is answered what the course grants it: that nothing runs until
the first display is made, that it is the wrong thread unless that display was made for it, that
the display is disposed of once it was detached, and else the display, torn down or not. Whatever
display is answered is the one that `main` tells. -/
theorem main_accessed (factories : List (List Factory)) (i : Nat) (hi : i < factories.length)
    (t : List Turn) (w : Realm) (h : Course (.new factories) t w) :
    (∀ thread, (∀ m ∈ t, m.deed ≠ .endThread thread i) →
      ((registryAt i).get w).mainDisplay thread = granted i t thread) ∧
    (∀ k (hk : k < t.length) thread, t[k].deed = .mainDisplay thread i →
      (∀ m ∈ t.take k, m.deed ≠ .endThread thread i) →
      t[k].outcome = .done (.display (granted i (t.take k) thread))) ∧
    (∀ m ∈ t, ∀ thread id, m.deed = .mainDisplay thread i →
      m.outcome = .done (.display (.ok id)) →
      ∃ main, ((registryAt i).get m.before).main = .ok main ∧ main.id = id) := by
  have answered (m : Turn) (hm : m ∈ t) (thread : Nat) (deed : m.deed = .mainDisplay thread i) :
      m.outcome = .done (.display (((registryAt i).get m.before).mainDisplay thread)) := by
    rw [h.eq_of hm, deed]
    rfl
  refine ⟨fun thread lives => mainDisplay_granted hi h lives, ?_, ?_⟩
  · intro k hk thread deed lives
    rw [answered t[k] (List.getElem_mem hk) thread deed, mainDisplay_granted hi (h.take hk) lives]
  · intro m hm thread id deed given
    rw [answered m hm thread deed] at given
    simp only [Outcome.done.injEq, Finding.display.injEq] at given
    obtain ⟨main, told, number, -⟩ := main_of_mainDisplay given
    exact ⟨main, told, number⟩

/-- The maker fails, makes the main display, gives up, and makes another one. The main display is
asked for before it is made, from another thread, after its teardown, and when its thread has a
replacement. -/
def revisited : List Deed :=
  [.current 7 0, .mainDisplay 7 0, .current 7 0, .mainDisplay 9 0, .display 1 .teardown,
    .mainDisplay 7 0, .detach 7 0, .current 7 0, .current 7 0, .mainDisplay 7 0]

theorem main_accessed_revisited :
    (∀ m ∈ turns (.new makers) revisited, m.deed ≠ .endThread 7 0) ∧
      ((registryAt 0).get (reached (.new makers) (revisited.take 5))).mainDisplay 7 = .ok 1 ∧
      ((displayAt 1).get (reached (.new makers) (revisited.take 5))).disposed = true ∧
      ((registryAt 0).get (reached (.new makers) revisited)).mainDisplay 7 = .error .disposed ∧
      ((registryAt 0).get (reached (.new makers) revisited)).local? 7 = some 2 := by
  have lives : ∀ m ∈ turns (.new makers) revisited, m.deed ≠ .endThread 7 0 := by
    simp [turns, revisited, Turn.of]
  have early : ∀ m ∈ turns (.new makers) (revisited.take 5), m.deed ≠ .endThread 7 0 := by
    simp [turns, revisited, Turn.of]
  refine ⟨lives, ?_, rfl, ?_, rfl⟩
  · exact (main_accessed makers 0 (by decide) _ _ (.turns _ (revisited.take 5))).1 7 early
  · exact (main_accessed makers 0 (by decide) _ _ (.turns _ revisited)).1 7 lives

end DisplayEnv.Threads
