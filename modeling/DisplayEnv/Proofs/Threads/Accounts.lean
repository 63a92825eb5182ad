import DisplayEnv.Proofs.Threads.MainDesignation

/-!
# The two accounts that a registry keeps of threads

A registry keeps two accounts of the displays of threads: what it knows of each thread, which all
threads share, and the slot of each thread, which only that thread uses. An operation changes them
one after the other. This module says what a deed does to both, and that they agree again when it
has ended, for every thread that has not ended.

* `Carried`: what a deed does to both accounts, as one of four things: nothing, a new display is
  entered, a display is detached, a thread ends. Everything below is read off it.
* `Accounted`: the invariant. What a slot holds the registry knows; no two threads have the same
  display; what the registry knows of a thread was made for it, and not detached since.

A thread that has ended does nothing more, so the accounts of ended threads differ: the slot is
gone and the registry still knows the display. Deeds that a thread would do after its end are not
excluded here, because nothing below needs it.
-/

namespace DisplayEnv.Threads

/-! ## What a deed hands out, makes and takes back -/

/-- The display that the maker of a registry makes in a deed, and the thread that it is made for.
The maker is called when the thread has none. -/
def Turn.opened? (i : Nat) (m : Turn) : Option MainDisplay :=
  match m.deed with
  | .current thread j =>
    if j = i ∧ ((registryAt i).get m.before).local? thread = none then
      match (create i m.before).1 with
      | .done (.ok id) => some ⟨id, thread⟩
      | _ => none
    else none
  | _ => none

/-- The display that a thread is handed back when it detaches it. -/
def Turn.detached? (i : Nat) (m : Turn) : Option MainDisplay :=
  match m.deed, m.outcome with
  | .detach thread j, .done (.detached (some id)) => if j = i then some ⟨id, thread⟩ else none
  | _, _ => none

/-- The deed is one after which the slot of the thread is empty. -/
def Turn.Vacates (i thread : Nat) (m : Turn) : Prop :=
  m.deed = .detach thread i ∨ m.deed = .endThread thread i

/-- Whether a deed makes a display for the thread, or takes the thread's display out. -/
def Turn.settled? (i thread : Nat) (m : Turn) : Option Bool :=
  if (m.opened? i).map (·.thread) = some thread then some true
  else if (m.detached? i).map (·.thread) = some thread then some false
  else none

/-- What a deed does to the two accounts of a registry. -/
inductive Carried (i : Nat) (m : Turn) : Prop
  /-- Nothing; a thread that asks for its display may be given the one in its slot. -/
  | nothing
      (after : ((registryAt i).get m.after).Same ((registryAt i).get m.before))
      (opened : m.opened? i = none) (detached : m.detached? i = none)
      (made : ∀ x, m.made? i = some x →
        ((registryAt i).get m.before).local? x.thread = some x.id)
      (vacant : ∀ thread, m.Vacates i thread →
        ((registryAt i).get m.before).local? thread = none)
      (ending : ∀ thread, m.deed ≠ .endThread thread i)
  /-- A display is made for a thread that has none, and entered. -/
  | enters (x : MainDisplay)
      (after : (registryAt i).get m.after = ((registryAt i).get m.before).enter x.thread x.id)
      (opened : m.opened? i = some x) (made : m.made? i = some x) (detached : m.detached? i = none)
      (empty : ((registryAt i).get m.before).local? x.thread = none)
      (new : m.before.members.length < x.id) (last : x.id = m.after.members.length)
      (vacant : ∀ thread, ¬ m.Vacates i thread)
  /-- A thread detaches the display in its slot. -/
  | detaches (x : MainDisplay)
      (after : (registryAt i).get m.after = ((registryAt i).get m.before).without x.thread)
      (opened : m.opened? i = none) (made : m.made? i = none) (detached : m.detached? i = some x)
      (slot : ((registryAt i).get m.before).local? x.thread = some x.id)
      (deed : m.deed = .detach x.thread i)
  /-- A thread ends. -/
  | ends (thread : Nat)
      (after : (registryAt i).get m.after = ((registryAt i).get m.before).endThread thread)
      (opened : m.opened? i = none) (made : m.made? i = none) (detached : m.detached? i = none)
      (deed : m.deed = .endThread thread i)

variable {i : Nat} {t : List Turn} {w : Realm} {m : Turn}

/-! ## One deed -/

/-- Asking for the display of a thread that has none passes on what its maker answers. -/
theorem current_of_empty (thread i : Nat) (w : Realm)
    (empty : ((registryAt i).get w).local? thread = none) (id : Nat) :
    (current thread i w).1 = .done (.ok id) ↔ (create i w).1 = .done (.ok id) := by
  rw [current_apply, empty]
  simp only [Act.bind_apply]
  cases h : create i w with
  | mk o w' =>
    cases o with
    | fault c => simp
    | stalled => simp
    | done r =>
      cases r with
      | error e => simp
      | ok n =>
        obtain ⟨w'', -, entered⟩ := enter_spec thread i n w'
        have done := congrArg Prod.fst entered
        exact (iff_of_eq (congrArg (· = Outcome.done (Except.ok id)) done)).trans (by simp)

/-- The turn in which a thread asks for its display. -/
theorem turn_current (thread j : Nat) (w : Realm) :
    Turn.of (.current thread j) w = ⟨w, .current thread j, (current thread j w).1.map .display,
      (current thread j w).2⟩ := by
  rw [Turn.of, Deed.perform, Act.bind_pure_apply]

theorem made?_current (thread j : Nat) (w : Realm) (x : MainDisplay) :
    (Turn.of (.current thread j) w).made? i = some x ↔
      j = i ∧ x.thread = thread ∧ (current thread j w).1 = .done (.ok x.id) := by
  rw [turn_current]
  unfold Turn.made?
  obtain ⟨id, owner⟩ := x
  cases hr : (current thread j w).1 with
  | fault c => simp [Outcome.map]
  | stalled => simp [Outcome.map]
  | done r =>
    cases r with
    | error e => simp [Outcome.map]
    | ok n =>
      by_cases hj : j = i
      · simp [Outcome.map, hj, and_comm, eq_comm]
      · simp [Outcome.map, hj]

/-- A display is made for a thread when the thread is given one and had none. -/
theorem opened?_current (thread j : Nat) (w : Realm) (x : MainDisplay) :
    (Turn.of (.current thread j) w).opened? i = some x ↔
      (Turn.of (.current thread j) w).made? i = some x ∧
        ((registryAt i).get w).local? x.thread = none := by
  rw [made?_current]
  obtain ⟨id, owner⟩ := x
  have opened : (Turn.of (.current thread j) w).opened? i =
      if j = i ∧ ((registryAt i).get w).local? thread = none then
        match (create i w).1 with
        | .done (.ok id) => some ⟨id, thread⟩
        | _ => none
      else none := rfl
  rw [opened]
  by_cases hj : j = i
  · subst hj
    by_cases empty : ((registryAt j).get w).local? thread = none
    · rw [if_pos ⟨rfl, empty⟩, current_of_empty thread j w empty]
      cases (create j w).1 with
      | fault c => simp
      | stalled => simp
      | done r =>
        cases r with
        | error e => simp
        | ok n =>
          constructor
          · rintro ⟨⟩
            exact ⟨⟨rfl, rfl, rfl⟩, empty⟩
          · rintro ⟨⟨-, rfl, ⟨⟩⟩, -⟩
            rfl
    · rw [if_neg fun h => empty h.2]
      constructor
      · intro h
        cases h
      · rintro ⟨⟨-, rfl, -⟩, h⟩
        exact absurd h empty
  · rw [if_neg fun h => hj h.1]
    constructor
    · intro h
      cases h
    · rintro ⟨⟨h, -, -⟩, -⟩
      exact absurd h hj

theorem carried_current (thread j : Nat) (hi : i < w.registries.length) :
    Carried i (.of (.current thread j) w) := by
  have made := made?_current (i := i) thread j w
  have opened := opened?_current (i := i) thread j w
  have detached : (Turn.of (.current thread j) w).detached? i = none := rfl
  have vacant : ∀ other, ¬ (Turn.of (.current thread j) w).Vacates i other := by
    rintro other (h | h) <;> cases h
  have ending : ∀ other, (Turn.of (.current thread j) w).deed ≠ .endThread other i := by
    intro other h
    cases h
  -- a deed that makes nothing here leaves this registry as it was
  have nothing (after : ((registryAt i).get (Turn.of (.current thread j) w).after).Same
        ((registryAt i).get w))
      (found : ∀ x, (Turn.of (.current thread j) w).made? i = some x →
        ((registryAt i).get w).local? x.thread = some x.id) :
      Carried i (.of (.current thread j) w) := by
    refine .nothing after ?_ detached found (fun other h => absurd h (vacant other)) ending
    refine Option.eq_none_iff_forall_ne_some.mpr fun x hx => ?_
    obtain ⟨hm, empty⟩ := (opened x).mp hx
    rw [found x hm] at empty
    cases empty
  have final : (Turn.of (.current thread j) w).after = (current thread j w).2 :=
    congrArg Turn.after (turn_current thread j w)
  rcases current_spec thread j w with
    ⟨id, kept, h⟩ | ⟨none, books⟩ | ⟨empty, done, w', books, after⟩
  · refine nothing (.of_eq (by rw [final, h])) fun x hx => ?_
    obtain ⟨rfl, rfl, ho⟩ := (made x).mp hx
    rw [h] at ho
    cases ho
    exact kept
  · refine nothing (.of_eq (by rw [final, registryAt_eq (Prod.mk.inj books).1])) fun x hx => ?_
    exact absurd ((made x).mp hx).2.2 (none x.id)
  · obtain ⟨registries, members⟩ := Prod.mk.inj books
    by_cases hj : j = i
    · subst hj
      have hm : (Turn.of (.current thread j) w).made? j = some ⟨w.members.length + 1, thread⟩ :=
        (made _).mpr ⟨rfl, rfl, done⟩
      refine .enters ⟨w.members.length + 1, thread⟩ ?_ ((opened _).mpr ⟨hm, empty⟩) hm detached
        empty (Nat.lt_succ_self _) ?_ vacant
      · rw [final, after, entered_own registries hi]
        rfl
      · rw [final, after]
        exact members.symm
    · refine nothing ?_ fun x hx => absurd ((made x).mp hx).1 hj
      rw [final, after]
      exact entered_other registries (Ne.symm hj) thread _

theorem detached?_detach (thread j : Nat) (w : Realm) :
    (Turn.of (.detach thread j) w).detached? i =
      if j = i then (((registryAt j).get w).local? thread).map (⟨·, thread⟩) else none := by
  have run : Turn.of (.detach thread j) w = ⟨w, .detach thread j,
      .done (.detached (((registryAt j).get w).detach thread).1),
      (registryAt j).modify (fun r => (r.detach thread).2) w⟩ := rfl
  rw [run]
  unfold Turn.detached?
  rw [Registry.detach_eq]
  cases ((registryAt j).get w).local? thread <;> simp

/-- A deed that leaves a registry as it was, and is not about displays that are asked for. -/
theorem Carried.idle {d : Deed}
    (after : ((registryAt i).get (Turn.of d w).after).Same ((registryAt i).get w))
    (current : ∀ thread j, d ≠ .current thread j)
    (detached : (Turn.of d w).detached? i = none)
    (detach : ∀ thread, d = .detach thread i → ((registryAt i).get w).local? thread = none)
    (ending : ∀ thread, d ≠ .endThread thread i) : Carried i (.of d w) := by
  have made : (Turn.of d w).made? i = none := by
    cases d with
    | current thread j => exact absurd rfl (current thread j)
    | _ => rfl
  have opened : (Turn.of d w).opened? i = none := by
    cases d with
    | current thread j => exact absurd rfl (current thread j)
    | _ => rfl
  refine .nothing after opened detached (fun x hx => ?_) (fun thread h => ?_) ending
  · rw [made] at hx
    cases hx
  · rcases h with h | h
    · exact detach thread h
    · exact absurd h (ending thread)

/-- **What a deed does to the accounts of a registry.** -/
theorem carried (d : Deed) (hi : i < w.registries.length) : Carried i (.of d w) := by
  cases d with
  | current thread j => exact carried_current thread j hi
  | main _ _ | mainDisplay _ _ | contains _ _ | size _ =>
    exact .idle (.refl _) (by simp) rfl (by simp) (by simp)
  | display id c =>
    refine .idle ?_ (by simp) rfl (by simp) (by simp)
    rw [Turn.of, Deed.perform, Act.bind_pure_snd]
    exact .of_eq (registryAt_eq (Prod.mk.inj (display_books id c w)).1)
  | endThread thread j =>
    by_cases hj : j = i
    · subst hj
      exact .ends thread (registryAt_modify (Registry.framed_endThread thread) hi) rfl rfl rfl rfl
    · refine .idle (same_of_modify (Registry.framed_endThread thread) w (Ne.symm hj)) (by simp) rfl
        (by simp) fun other h => ?_
      cases h
      exact hj rfl
  | detach thread j =>
    have detached := detached?_detach (i := i) thread j w
    by_cases hj : j = i
    · subst hj
      rw [if_pos rfl] at detached
      have after : (registryAt j).get (Turn.of (.detach thread j) w).after =
          (((registryAt j).get w).detach thread).2 :=
        registryAt_modify (Registry.framed_detach thread) hi
      rw [Registry.detach_eq] at after
      cases slot : ((registryAt j).get w).local? thread with
      | none =>
        rw [slot] at detached after
        refine .idle (.of_eq after) (by simp) detached (fun other h => ?_) (by simp)
        cases h
        exact slot
      | some id =>
        rw [slot] at detached after
        exact .detaches ⟨id, thread⟩ after rfl rfl detached slot rfl
    · rw [if_neg hj] at detached
      refine .idle (same_of_modify (Registry.framed_detach thread) w (Ne.symm hj)) (by simp)
        detached (fun other h => ?_) (by simp)
      cases h
      exact absurd rfl hj

/-- Displays are only ever added. -/
theorem members_le (d : Deed) (hi : i < w.registries.length) :
    w.members.length ≤ (Turn.of d w).after.members.length := by
  cases turned d hi with
  | kept _ _ _ members => exact members
  | entered _ _ _ members => exact Nat.le_of_lt members

/-! ## What is known after a course -/

/-- The last of the deeds that made a display for the thread or took it out made one. -/
def MadeLast (i : Nat) (t : List Turn) (thread : Nat) : Prop :=
  (t.filterMap (Turn.settled? i thread)).getLast? = some true

/-- The accounts of a registry after a course. -/
structure Accounted (i : Nat) (t : List Turn) (w : Realm) : Prop where
  present : i < w.registries.length
  keys : (((registryAt i).get w).threads.map (·.1)).Nodup
  /-- What is in a slot, the registry knows. -/
  own : ∀ thread id, ((registryAt i).get w).local? thread = some id →
    ((registryAt i).get w).known? thread = some id
  /-- Of a thread that has not ended, the registry knows nothing else. -/
  agree : ∀ thread, (∀ m ∈ t, m.deed ≠ .endThread thread i) →
    ((registryAt i).get w).known? thread = ((registryAt i).get w).local? thread
  apart : ∀ a b id, ((registryAt i).get w).known? a = some id →
    ((registryAt i).get w).known? b = some id → a = b
  opened : ∀ thread id, ((registryAt i).get w).known? thread = some id →
    ⟨id, thread⟩ ∈ t.filterMap (Turn.opened? i)
  last : ∀ thread, ((registryAt i).get w).known? thread ≠ none ↔ MadeLast i t thread
  ascending : (t.filterMap (Turn.opened? i)).Pairwise (·.id < ·.id)
  numbered : ∀ x ∈ t.filterMap (Turn.opened? i), x.id ≤ w.members.length

theorem filterMap_concat {α : Type} (f : Turn → Option α) (t : List Turn) (m : Turn) :
    (t ++ [m]).filterMap f = t.filterMap f ++ (f m).toList := by
  rw [List.filterMap_append]
  cases h : f m <;> simp [h]

theorem madeLast_concat (thread : Nat) :
    MadeLast i (t ++ [m]) thread ↔ match m.settled? i thread with
      | some made => made = true
      | none => MadeLast i t thread := by
  unfold MadeLast
  rw [filterMap_concat]
  cases m.settled? i thread <;> simp

theorem Accounted.new (factories : List (List Factory)) (hi : i < factories.length) :
    Accounted i [] (.new factories) := by
  constructor
  case present => simpa [Realm.new] using hi
  all_goals simp [MadeLast]

/-- A deed that changes nothing for a registry. -/
theorem Accounted.nothing (h : Accounted i t w)
    (members : w.members.length ≤ m.after.members.length)
    (present : i < m.after.registries.length)
    (after : ((registryAt i).get m.after).Same ((registryAt i).get w))
    (opened : m.opened? i = none) (detached : m.detached? i = none) :
    Accounted i (t ++ [m]) m.after := by
  constructor
  case present => exact present
  all_goals simp only [after.threads, after.known?, after.slot, filterMap_concat, opened,
    Option.toList_none, List.append_nil, madeLast_concat, Turn.settled?, detached, Option.map_none,
    reduceCtorEq, if_false]
  case keys => exact h.keys
  case own => exact h.own
  case agree => exact fun thread ht => h.agree thread (List.forall_mem_append.mp ht).1
  case apart => exact h.apart
  case opened => exact h.opened
  case last => exact h.last
  case ascending => exact h.ascending
  case numbered => exact fun x hx => Nat.le_trans (h.numbered x hx) members

/-- A new display, which no thread had before. -/
theorem Accounted.enters (h : Accounted i t w) {x : MainDisplay}
    (present : i < m.after.registries.length)
    (after : (registryAt i).get m.after = ((registryAt i).get w).enter x.thread x.id)
    (opened : m.opened? i = some x) (detached : m.detached? i = none)
    (new : w.members.length < x.id) (last : x.id = m.after.members.length) :
    Accounted i (t ++ [m]) m.after := by
  have older : ∀ thread, ((registryAt i).get w).known? thread ≠ some x.id := by
    intro thread hk
    have : x.id ≤ w.members.length := h.numbered ⟨x.id, thread⟩ (h.opened thread x.id hk)
    omega
  constructor
  case present => exact present
  all_goals simp only [after, filterMap_concat, opened, Option.toList_some, madeLast_concat,
    Turn.settled?, Option.map_some, detached, Option.map_none, Registry.known?_enter,
    Registry.local?_enter]
  case keys =>
    refine List.nodup_cons.mpr ⟨?_, h.keys.sublist (List.filter_sublist.map _)⟩
    simp
  case own =>
    intro thread id
    split
    · exact fun hs => hs
    · exact h.own thread id
  case agree =>
    intro thread ht
    split
    · rfl
    · exact h.agree thread (List.forall_mem_append.mp ht).1
  case apart =>
    intro a b id ha hb
    split at ha <;> split at hb
    · simp_all
    · cases ha
      exact absurd hb (older b)
    · cases hb
      exact absurd ha (older a)
    · exact h.apart a b id ha hb
  case opened =>
    intro thread id hk
    split at hk
    · rename_i ht
      obtain rfl := Option.some.inj hk
      rw [ht]
      exact List.mem_append_right _ (List.mem_singleton_self x)
    · exact List.mem_append_left _ (h.opened thread id hk)
  case last =>
    intro thread
    by_cases ht : thread = x.thread
    · simp [ht]
    · have ht' : ¬ x.thread = thread := fun e => ht e.symm
      simp [ht, ht', h.last]
  case ascending =>
    refine List.pairwise_append.mpr ⟨h.ascending, List.pairwise_singleton _ _, ?_⟩
    intro y hy z hz
    obtain rfl := List.mem_singleton.mp hz
    exact Nat.lt_of_le_of_lt (h.numbered y hy) new
  case numbered =>
    intro y hy
    rcases List.mem_append.mp hy with hy | hy
    · have := h.numbered y hy
      omega
    · obtain rfl := List.mem_singleton.mp hy
      exact Nat.le_of_eq last

/-- A display that is detached is known no longer. -/
theorem Accounted.detaches (h : Accounted i t w) {x : MainDisplay}
    (members : w.members.length ≤ m.after.members.length) (present : i < m.after.registries.length)
    (after : (registryAt i).get m.after = ((registryAt i).get w).without x.thread)
    (opened : m.opened? i = none) (detached : m.detached? i = some x) :
    Accounted i (t ++ [m]) m.after := by
  constructor
  case present => exact present
  all_goals simp only [after, filterMap_concat, opened, detached, Option.toList_none,
    List.append_nil, madeLast_concat, Turn.settled?, Option.map_none, Option.map_some, reduceCtorEq,
    if_false, Registry.known?_without, Registry.local?_without]
  case keys => exact h.keys.sublist (List.filter_sublist.map _)
  case own =>
    intro thread id
    split
    · exact fun hs => hs
    · exact h.own thread id
  case agree =>
    intro thread ht
    split
    · rfl
    · exact h.agree thread (List.forall_mem_append.mp ht).1
  case apart =>
    intro a b id ha hb
    split at ha <;> split at hb
    · cases ha
    · cases ha
    · cases hb
    · exact h.apart a b id ha hb
  case opened =>
    intro thread id hk
    split at hk
    · cases hk
    · exact h.opened thread id hk
  case last =>
    intro thread
    by_cases ht : thread = x.thread
    · simp [ht]
    · have ht' : ¬ x.thread = thread := fun e => ht e.symm
      simp [ht, ht', h.last]
  case ascending => exact h.ascending
  case numbered => exact fun y hy => Nat.le_trans (h.numbered y hy) members

/-- The display of a thread that ends stays known. -/
theorem Accounted.ends (h : Accounted i t w) {ended : Nat}
    (members : w.members.length ≤ m.after.members.length) (present : i < m.after.registries.length)
    (after : (registryAt i).get m.after = ((registryAt i).get w).endThread ended)
    (opened : m.opened? i = none) (detached : m.detached? i = none)
    (deed : m.deed = .endThread ended i) : Accounted i (t ++ [m]) m.after := by
  constructor
  case present => exact present
  all_goals simp only [after, filterMap_concat, opened, Option.toList_none, List.append_nil,
    madeLast_concat, Turn.settled?, detached, Option.map_none, reduceCtorEq, if_false,
    Registry.known?_endThread, Registry.local?_endThread]
  case keys => exact h.keys
  case own =>
    intro thread id
    split
    · intro hs
      cases hs
    · exact h.own thread id
  case agree =>
    intro thread ht
    obtain ⟨before, now⟩ := List.forall_mem_append.mp ht
    have other : ¬ thread = ended := by
      rintro rfl
      exact now m (List.mem_singleton_self m) deed
    rw [if_neg other]
    exact h.agree thread before
  case apart => exact h.apart
  case opened => exact h.opened
  case last => exact h.last
  case ascending => exact h.ascending
  case numbered => exact fun y hy => Nat.le_trans (h.numbered y hy) members

/-- **Every deed** keeps the accounts. -/
theorem Accounted.deed (h : Accounted i t w) (d : Deed) :
    Accounted i (t ++ [.of d w]) (Turn.of d w).after := by
  have present := (registries_kept d w).symm ▸ h.present
  have members := members_le d h.present
  cases carried d h.present with
  | nothing after opened detached _ _ _ => exact h.nothing members present after opened detached
  | enters x after opened _ detached _ new last _ =>
    exact h.enters present after opened detached new last
  | detaches x after opened _ detached _ _ => exact h.detaches members present after opened detached
  | ends thread after opened _ detached deed =>
    exact h.ends members present after opened detached deed

/-- The accounts of a registry after every course. -/
theorem Accounted.of_course {factories : List (List Factory)} (hi : i < factories.length)
    (h : Course (.new factories) t w) : Accounted i t w := by
  induction h with
  | rest => exact .new factories hi
  | deed _ d ih => exact ih.deed d
  | aside _ same h =>
    obtain ⟨registries, members⟩ := Prod.mk.inj same
    have kept := registryAt_eq (i := i) registries
    constructor
    case present => exact registries ▸ h.present
    case ascending => exact h.ascending
    case numbered => exact members ▸ h.numbered
    all_goals rw [kept]
    case keys => exact h.keys
    case own => exact h.own
    case agree => exact h.agree
    case apart => exact h.apart
    case opened => exact h.opened
    case last => exact h.last

end DisplayEnv.Threads
