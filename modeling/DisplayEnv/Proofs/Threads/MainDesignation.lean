import DisplayEnv.Proofs.Threads.Deeds

/-!
# The main display is the first one, for good

The first display that a registry hands out becomes its main one. Nothing ever changes that again:
not its teardown, not that its thread detaches it or ends, not a replacement made on the same
thread. Displays are numbered as they are made, so the main one has the lowest number of all that
the registry hands out.

* `Registry.Led`: the invariant of one registry. Its slots keep the main display, on its own thread,
  and displays with higher numbers.
* `turned`: a deed keeps the main display of a registry and adds no slot, or it enters a new
  display.
* `main_designated`: what `main` answers throughout every course, with any number of threads.
-/

namespace DisplayEnv

/-- `m` is the display `x`, or has a lower number. -/
def MainDisplay.Leads (m x : MainDisplay) : Prop := x = m ∨ m.id < x.id

/-- The main display of a registry leads every display that is kept in a slot. Without a main
display the slots are empty. -/
structure Registry.Led (r : Registry) (last : Nat) : Prop where
  slots : ∀ thread id, r.local? thread = some id →
    ∃ m, r.mainDisplay? = some m ∧ m.Leads ⟨id, thread⟩
  numbered : ∀ m, r.mainDisplay? = some m → m.id ≤ last

namespace Registry

variable {r r' : Registry} {last last' id thread : Nat}

/-! ## One registry -/

/-- Access to the main display, case by case. -/
theorem mainDisplay_eq (r : Registry) (thread : Nat) :
    r.mainDisplay thread =
      match r.mainDisplay? with
      | none => .error .notRunning
      | some m =>
        if m.thread ≠ thread then .error .wrongThread
        else
          match r.local? thread with
          | some id => if id = m.id then .ok id else .error .disposed
          | none => .error .disposed := by
  unfold mainDisplay main
  cases r.mainDisplay? with
  | none => rfl
  | some m =>
    show (if m.thread ≠ thread then _ else _ : Except DisplayError Nat) =
      if m.thread ≠ thread then _ else _
    split
    · rfl
    · cases r.local? thread with
      | none => rfl
      | some id =>
        show (if id = m.id then _ else _ : Except DisplayError Nat) = if id = m.id then _ else _
        split <;> rfl

theorem local?_of_mainDisplay (h : r.mainDisplay thread = .ok id) : r.local? thread = some id := by
  rw [mainDisplay_eq] at h
  split at h
  · cases h
  · split at h
    · cases h
    · split at h
      · rename_i hl
        split at h
        · cases h
          exact hl
        · cases h
      · cases h

theorem detach_fst (r : Registry) (thread : Nat) : (r.detach thread).1 = r.local? thread := by
  rw [detach_eq]
  cases r.local? thread <;> rfl

theorem detach_main (r : Registry) (thread : Nat) :
    (r.detach thread).2.mainDisplay? = r.mainDisplay? := by
  unfold detach
  split <;> rfl

theorem local?_of_endThread {other : Nat} (h : (r.endThread thread).local? other = some id) :
    r.local? other = some id := by
  rw [local?_endThread, Option.ite_none_left_eq_some] at h
  exact h.2

theorem local?_of_detach {other : Nat} (h : (r.detach thread).2.local? other = some id) :
    r.local? other = some id := by
  rw [local?_detach, Option.ite_none_left_eq_some] at h
  exact h.2

/-- A registry with the same main display and no new slot is led as before. -/
theorem Led.mono (h : r.Led last) (main : r'.mainDisplay? = r.mainDisplay?)
    (slots : ∀ thread id, r'.local? thread = some id → r.local? thread = some id)
    (le : last ≤ last') : r'.Led last' where
  slots thread id hs := main ▸ h.slots thread id (slots thread id hs)
  numbered m hm := Nat.le_trans (h.numbered m (main ▸ hm)) le

/-- A new display with a number of its own is led by the main one, or becomes it. -/
theorem Led.enter (h : r.Led last) (new : last < id) : (r.enter thread id).Led id := by
  cases hm : r.mainDisplay? with
  | none =>
    refine ⟨fun other n hs => ⟨⟨id, thread⟩, by simp [Registry.enter, hm], .inl ?_⟩,
      fun m hm' => ?_⟩
    · rw [local?_enter] at hs
      split at hs
      · rename_i own
        obtain rfl := Option.some.inj hs
        rw [own]
      · obtain ⟨m, hm', -⟩ := h.slots other n hs
        rw [hm] at hm'
        cases hm'
    · obtain rfl : ⟨id, thread⟩ = m := by simpa [Registry.enter, hm] using hm'
      exact Nat.le_refl id
  | some m =>
    have below := Nat.lt_of_le_of_lt (h.numbered m hm) new
    have main : (r.enter thread id).mainDisplay? = some m := by simp [Registry.enter, hm]
    refine ⟨fun other n hs => ⟨m, main, ?_⟩, fun m' hm' => ?_⟩
    · rw [local?_enter] at hs
      split at hs
      · obtain rfl := Option.some.inj hs
        exact .inr below
      · obtain ⟨m', hm', led⟩ := h.slots other n hs
        obtain rfl : m = m' := by simpa [hm] using hm'
        exact led
    · obtain rfl : m = m' := by simpa [main] using hm'
      exact Nat.le_of_lt below

end Registry

namespace Threads

/-! ## What a registry hands out -/

/-- The display and thread of a successful `current`. -/
def Turn.made? (i : Nat) (m : Turn) : Option MainDisplay :=
  match m.deed, m.outcome with
  | .current thread j, .done (.display (.ok id)) => if j = i then some ⟨id, thread⟩ else none
  | _, _ => none

/-- The display that a registry hands out to a thread, by whichever operation. -/
def Turn.given? (i : Nat) (m : Turn) : Option MainDisplay :=
  match m.deed, m.outcome with
  | .current thread j, .done (.display (.ok id)) => if j = i then some ⟨id, thread⟩ else none
  | .mainDisplay thread j, .done (.display (.ok id)) => if j = i then some ⟨id, thread⟩ else none
  | .detach thread j, .done (.detached (some id)) => if j = i then some ⟨id, thread⟩ else none
  | _, _ => none

/-- The first display that a registry made in a course. -/
def first? (i : Nat) (t : List Turn) : Option MainDisplay := (t.filterMap (Turn.made? i)).head?

/-- What `main` has to answer after a course. -/
def designated (i : Nat) (t : List Turn) : Except DisplayError MainDisplay :=
  match first? i t with
  | some m => .ok m
  | none => .error .notRunning

/-- The state of a registry in a realm after a course. -/
structure Settled (i : Nat) (t : List Turn) (w : Realm) : Prop where
  known : i < w.registries.length
  main : ((registryAt i).get w).mainDisplay? = first? i t
  led : ((registryAt i).get w).Led w.members.length
  given : ∀ m ∈ t, ∀ x, m.given? i = some x → ∃ f, first? i t = some f ∧ f.Leads x
  answers : ∀ k (hk : k < t.length) thread, t[k].deed = .main thread i →
    t[k].outcome = .done (.main (designated i (t.take k)))

variable {i : Nat} {t : List Turn} {w : Realm}

theorem first?_concat (t : List Turn) (m : Turn) :
    first? i (t ++ [m]) = (first? i t).or (m.made? i) := by
  unfold first?
  rw [List.filterMap_append, List.head?_append]
  cases h : m.made? i <;> simp [h]

theorem Turn.given?_of_made? {m : Turn} {x : MainDisplay} (h : m.made? i = some x) :
    m.given? i = some x := by
  unfold Turn.made? at h
  unfold Turn.given?
  split at h
  · rename_i hd ho
    simp only [hd, ho]
    exact h
  · cases h

/-! ## One deed -/

/-- What a deed does to a registry: it keeps the main display and hands out from the slots, or it
enters a new display. -/
inductive Turned (i : Nat) (m : Turn) : Prop
  | kept
      (main : ((registryAt i).get m.after).mainDisplay? =
        ((registryAt i).get m.before).mainDisplay?)
      (slots : ∀ thread id, ((registryAt i).get m.after).local? thread = some id →
        ((registryAt i).get m.before).local? thread = some id)
      (given : ∀ x, m.given? i = some x →
        ((registryAt i).get m.before).local? x.thread = some x.id)
      (members : m.before.members.length ≤ m.after.members.length)
  | entered (thread : Nat) (made : m.made? i = some ⟨m.after.members.length, thread⟩)
      (after : (registryAt i).get m.after =
        ((registryAt i).get m.before).enter thread m.after.members.length)
      (members : m.before.members.length < m.after.members.length)

/-- A deed that changes nothing of this registry. -/
theorem Turned.of_same {m : Turn}
    (same : ((registryAt i).get m.after).Same ((registryAt i).get m.before))
    (given : ∀ x, m.given? i = some x → ((registryAt i).get m.before).local? x.thread = some x.id)
    (members : m.before.members.length ≤ m.after.members.length) : Turned i m :=
  .kept same.mainDisplay? (fun thread _ hs => (same.slot thread).symm.trans hs) given members

/-- A deed that leaves the books alone. -/
theorem Turned.of_books {m : Turn} (books : m.after.books = m.before.books)
    (given : ∀ x, m.given? i = some x →
      ((registryAt i).get m.before).local? x.thread = some x.id) : Turned i m := by
  obtain ⟨registries, members⟩ := Prod.mk.inj books
  exact .of_same (.of_eq (registryAt_eq registries)) given (Nat.le_of_eq members.symm)

/-- A deed that changes one registry. -/
theorem Turned.of_modify {m : Turn} {j : Nat} {u : Registry → Registry}
    (hi : i < m.before.registries.length) (framed : Registry.Framed u)
    (after : m.after = (registryAt j).modify u m.before)
    (main : ∀ r, (u r).mainDisplay? = r.mainDisplay?)
    (slots : ∀ r thread id, (u r).local? thread = some id → r.local? thread = some id)
    (given : ∀ x, m.given? i = some x →
      ((registryAt i).get m.before).local? x.thread = some x.id) : Turned i m := by
  have members : m.before.members.length ≤ m.after.members.length := by
    rw [after]
    exact Nat.le_refl _
  by_cases hj : i = j
  · subst hj
    have changed : (registryAt i).get m.after = u ((registryAt i).get m.before) := by
      rw [after]
      exact registryAt_modify framed hi
    exact .kept (by rw [changed, main]) (by rw [changed]; exact slots _) given members
  · refine .of_same ?_ given members
    rw [after]
    exact same_of_modify framed _ hj

theorem turned_current (thread j : Nat) (hi : i < w.registries.length) :
    Turned i (.of (.current thread j) w) := by
  have run : (Turn.of (.current thread j) w) = ⟨w, .current thread j,
      (current thread j w).1.map .display, (current thread j w).2⟩ := by
    rw [Turn.of, Deed.perform, Act.bind_pure_apply]
  rw [run]
  rcases current_spec thread j w with ⟨id, kept, h⟩ | ⟨none, books⟩ | ⟨-, done, w', books, after⟩
  · rw [h]
    refine .of_books rfl fun x hx => ?_
    by_cases hj : j = i
    · subst hj
      obtain rfl : ⟨id, thread⟩ = x := by simpa [Turn.given?, Outcome.map] using hx
      exact kept
    · simp [Turn.given?, Outcome.map, hj] at hx
  · refine .of_books books fun x hx => ?_
    cases ho : (current thread j w).1 with
    | done r =>
      cases r with
      | ok id => exact absurd ho (none id)
      | error e => simp [Turn.given?, Outcome.map, ho] at hx
    | fault c => simp [Turn.given?, Outcome.map, ho] at hx
    | stalled => simp [Turn.given?, Outcome.map, ho] at hx
  · obtain ⟨registries, members⟩ := Prod.mk.inj books
    have last : ((current thread j w).2).members.length = w.members.length + 1 := by
      rw [after]
      exact members
    by_cases hj : j = i
    · subst hj
      refine .entered thread ?_ ?_ ?_
      · simp [Turn.made?, Outcome.map, done, last]
      · simp only [last]
        rw [after, entered_own registries hi]
      · simp only [last]
        exact Nat.lt_succ_self _
    · refine .of_same ?_ ?_ ?_
      · simp only [after]
        exact entered_other registries (Ne.symm hj) thread _
      · intro x hx
        simp [Turn.given?, Outcome.map, done, hj] at hx
      · simp only [last]
        exact Nat.le_succ _

/-- **What a deed does to a registry.** -/
theorem turned (d : Deed) (hi : i < w.registries.length) : Turned i (.of d w) := by
  cases d with
  | current thread j => exact turned_current thread j hi
  | main thread j | contains thread j => exact .of_books rfl nofun
  | size j => exact .of_books rfl nofun
  | mainDisplay thread j =>
    refine .of_books rfl fun x hx => ?_
    have run : Turn.of (.mainDisplay thread j) w = ⟨w, .mainDisplay thread j,
        .done (.display (((registryAt j).get w).mainDisplay thread)), w⟩ := rfl
    rw [run] at hx ⊢
    cases hd : ((registryAt j).get w).mainDisplay thread with
    | error e => simp [Turn.given?, hd] at hx
    | ok id =>
      by_cases hj : j = i
      · subst hj
        obtain rfl : ⟨id, thread⟩ = x := by simpa [Turn.given?, hd] using hx
        exact Registry.local?_of_mainDisplay hd
      · simp [Turn.given?, hd, hj] at hx
  | detach thread j =>
    refine .of_modify hi (Registry.framed_detach thread) rfl (fun r => r.detach_main thread)
      (fun _ _ _ => Registry.local?_of_detach) fun x hx => ?_
    have run : Turn.of (.detach thread j) w = ⟨w, .detach thread j,
        .done (.detached (((registryAt j).get w).detach thread).1),
        (registryAt j).modify (fun r => (r.detach thread).2) w⟩ := rfl
    rw [run] at hx ⊢
    cases hd : (((registryAt j).get w).detach thread).1 with
    | none => simp [Turn.given?, hd] at hx
    | some id =>
      by_cases hj : j = i
      · subst hj
        obtain rfl : ⟨id, thread⟩ = x := by simpa [Turn.given?, hd] using hx
        exact (Registry.detach_fst _ _).symm.trans hd
      · simp [Turn.given?, hd, hj] at hx
  | endThread thread j =>
    exact .of_modify hi (Registry.framed_endThread thread) rfl (fun _ => rfl)
      (fun _ _ _ => Registry.local?_of_endThread) nofun
  | display id c =>
    have books : (Turn.of (.display id c) w).after.books = w.books := by
      have run : (Turn.of (.display id c) w).after = ((setting id).call c w).2 := by
        rw [Turn.of, Deed.perform, Act.bind_pure_snd]
      rw [run]
      exact display_books id c w
    exact .of_books books nofun

/-- The number of registries never changes. -/
theorem registries_kept (d : Deed) (w : Realm) :
    (Turn.of d w).after.registries.length = w.registries.length := by
  cases d with
  | current thread j =>
    rw [Turn.of, Deed.perform, Act.bind_pure_snd]
    rcases current_spec thread j w with ⟨id, -, h⟩ | ⟨-, books⟩ | ⟨-, -, w', books, after⟩
    · rw [h]
    · rw [(Prod.mk.inj books).1]
    · rw [after, registries_length, (Prod.mk.inj books).1]
  | main _ _ | mainDisplay _ _ | contains _ _ | size _ => rfl
  | detach thread j => exact registries_length (fun r => (r.detach thread).2) w
  | endThread thread j => exact registries_length (·.endThread thread) w
  | display id c =>
    rw [Turn.of, Deed.perform, Act.bind_pure_snd]
    rw [(Prod.mk.inj (display_books id c w)).1]

/-! ## Every course -/

theorem Settled.new (factories : List (List Factory)) (hi : i < factories.length) :
    Settled i [] (.new factories) := by
  refine ⟨by simpa [Realm.new] using hi, by simp [first?], ?_, by simp, by simp⟩
  constructor <;> simp

/-- The main display stays, and leads what is handed out. -/
theorem Settled.deed (h : Settled i t w) (d : Deed) :
    Settled i (t ++ [.of d w]) (Turn.of d w).after := by
  have answers : ∀ k (hk : k < (t ++ [Turn.of d w]).length) thread,
      (t ++ [Turn.of d w])[k].deed = .main thread i →
        (t ++ [Turn.of d w])[k].outcome =
          .done (.main (designated i ((t ++ [Turn.of d w]).take k))) := by
    intro k hk thread hd
    rw [List.length_append, List.length_singleton] at hk
    by_cases old : k < t.length
    · rw [List.getElem_append_left old] at hd ⊢
      rw [List.take_append_of_le_length (Nat.le_of_lt old)]
      exact h.answers k old thread hd
    · obtain rfl : k = t.length := by omega
      rw [List.getElem_concat_length rfl] at hd ⊢
      obtain rfl : d = .main thread i := hd
      rw [List.take_left', designated, ← h.main]
      · rfl
      · rfl
  have known := (registries_kept d w).symm ▸ h.known
  -- what is handed out of the slots is led, because the slots are
  have led : ∀ x : MainDisplay, ((registryAt i).get w).local? x.thread = some x.id →
      ∃ f, first? i t = some f ∧ f.Leads x := fun x hx => h.main ▸ h.led.slots _ _ hx
  have stays {f : MainDisplay} (hf : first? i t = some f) :
      first? i (t ++ [Turn.of d w]) = some f := by
    rw [first?_concat, hf]
    rfl
  have before : ∀ m ∈ t, ∀ x, m.given? i = some x →
      ∃ f, first? i (t ++ [Turn.of d w]) = some f ∧ f.Leads x := by
    intro m hm x hx
    obtain ⟨f, hf, hl⟩ := h.given m hm x hx
    exact ⟨f, stays hf, hl⟩
  cases turned d h.known with
  | kept main slots given members =>
    refine ⟨known, ?_, h.led.mono main slots members, ?_, answers⟩
    · rw [main, first?_concat]
      refine h.main.trans ?_
      cases hf : first? i t with
      | some f => rfl
      | none =>
        cases hm : (Turn.of d w).made? i with
        | none => rfl
        | some x =>
          obtain ⟨f, hf', -⟩ := led x (given x (Turn.given?_of_made? hm))
          rw [hf] at hf'
          cases hf'
    · refine List.forall_mem_append.mpr ⟨before, List.forall_mem_singleton.mpr fun x hx => ?_⟩
      obtain ⟨f, hf, hl⟩ := led x (given x hx)
      exact ⟨f, stays hf, hl⟩
  | entered thread made after members =>
    have main : ((registryAt i).get (Turn.of d w).after).mainDisplay? =
        first? i (t ++ [Turn.of d w]) := by
      rw [after, first?_concat, made, ← h.main]
      show some (((registryAt i).get w).mainDisplay?.getD _) =
        ((registryAt i).get w).mainDisplay?.or _
      cases ((registryAt i).get w).mainDisplay? <;> rfl
    have ledAfter : ((registryAt i).get (Turn.of d w).after).Led
        (Turn.of d w).after.members.length := after ▸ h.led.enter members
    refine ⟨known, main, ledAfter, ?_, answers⟩
    refine List.forall_mem_append.mpr ⟨before, List.forall_mem_singleton.mpr fun x hx => ?_⟩
    obtain rfl : ⟨_, thread⟩ = x := by
      rw [Turn.given?_of_made? made] at hx
      exact Option.some.inj hx
    have slot : ((registryAt i).get (Turn.of d w).after).local? thread =
        some (Turn.of d w).after.members.length := by
      rw [after, Registry.local?_enter, if_pos rfl]
    exact main ▸ ledAfter.slots _ _ slot

theorem Settled.of_course {factories : List (List Factory)} (hi : i < factories.length)
    (h : Course (.new factories) t w) : Settled i t w := by
  induction h with
  | rest => exact .new factories hi
  | deed _ d ih => exact ih.deed d
  | aside _ same h =>
    obtain ⟨registries, members⟩ := Prod.mk.inj same
    have kept := registryAt_eq (i := i) registries
    exact ⟨registries ▸ h.known, kept ▸ h.main, by rw [kept, members]; exact h.led, h.given,
      h.answers⟩

/-- What was the first display once stays the first. -/
theorem first?_of_take {k : Nat} {f : MainDisplay} (h : first? i (t.take k) = some f) :
    first? i t = some f := by
  unfold first? at h ⊢
  rw [← List.take_append_drop k t, List.filterMap_append, List.head?_append, h]
  rfl

/-- A failed `current` leaves its registry as it was. -/
theorem registry_of_failed {m : Turn} {thread : Nat} (hm : m = .of m.deed m.before)
    (hd : m.deed = .current thread i) (failed : ∀ id, m.outcome ≠ .done (.display (.ok id))) :
    (registryAt i).get m.after = (registryAt i).get m.before := by
  have run : m = ⟨m.before, .current thread i, (current thread i m.before).1.map .display,
      (current thread i m.before).2⟩ := by
    rw [hd, Turn.of, Deed.perform, Act.bind_pure_apply] at hm
    exact hm
  have outcome := congrArg Turn.outcome run
  have after := congrArg Turn.after run
  simp only at outcome after
  rcases current_spec thread i m.before with ⟨id, -, h⟩ | ⟨-, books⟩ | ⟨-, done, -⟩
  · rw [h] at outcome
    exact absurd outcome (failed id)
  · rw [after]
    exact registryAt_eq (Prod.mk.inj books).1
  · rw [done] at outcome
    exact absurd outcome (failed _)

/-- **The main display is the first one, for good.** Throughout every course of deeds of any
threads, `main` answers that nothing runs until the first display is made, and that display and its
thread ever after. Whatever else the registry hands out has a higher number. A failed `current`
changes neither the main display, nor the number of known threads, nor which threads have a display.
So it is with scripts, which are courses. -/
theorem main_designated (factories : List (List Factory)) (i : Nat) (hi : i < factories.length)
    (t : List Turn) (w : Realm) (h : Course (.new factories) t w) :
    ((registryAt i).get w).main = designated i t ∧
    (∀ k (hk : k < t.length) thread, t[k].deed = .main thread i →
      t[k].outcome = .done (.main (designated i (t.take k)))) ∧
    (∀ k f, first? i (t.take k) = some f → first? i t = some f) ∧
    (∀ m ∈ t, ∀ x, m.given? i = some x →
      ∃ f, first? i t = some f ∧ (x = f ∨ f.id < x.id)) ∧
    (∀ m ∈ t, ∀ thread, m.deed = .current thread i →
      (∀ id, m.outcome ≠ .done (.display (.ok id))) →
        ((registryAt i).get m.after).main = ((registryAt i).get m.before).main ∧
        ((registryAt i).get m.after).size = ((registryAt i).get m.before).size ∧
        ∀ other, ((registryAt i).get m.after).contains other =
          ((registryAt i).get m.before).contains other) ∧
    ∀ steps, ∃ t', Course (.new factories) (t ++ t') (Act.each perform steps w).2 := by
  have settled := Settled.of_course hi h
  refine ⟨?_, settled.answers, fun k f => first?_of_take, settled.given, ?_, fun steps => ?_⟩
  · rw [Registry.main, settled.main]
    rfl
  · intro m hm thread hd failed
    rw [registry_of_failed (h.eq_of hm) hd failed]
    exact ⟨rfl, rfl, fun _ => rfl⟩
  · obtain ⟨t', p⟩ := ByDeeds.each_perform steps w
    exact ⟨t', h.append p⟩

/-- The maker fails, makes the main display, gives up, and makes two more: the main display's thread
tears it down, detaches it and has another one made. -/
def replaced : List Deed :=
  [.current 7 0, .main 7 0, .current 7 0, .current 9 0, .current 9 0, .display 1 .teardown,
    .detach 7 0, .current 7 0, .endThread 7 0, .main 9 0]

/-- What the maker does when it is called first, second and third. -/
def makers : List (List Factory) := [[.fails .handleUnavailable, .opens, .givesUp "none"]]

theorem main_designated_replaced :
    ((registryAt 0).get (reached (.new makers) replaced)).main = .ok ⟨1, 7⟩ ∧
      (reached (.new makers) replaced).members.length = 3 :=
  ⟨(main_designated makers 0 (by decide) _ _ (.turns _ replaced)).1, rfl⟩

end Threads

end DisplayEnv
