import DisplayEnv.Proofs.Display.Frame
import DisplayEnv.Proofs.Threads.Slots

/-!
# Deeds of threads, and courses of them

Threads share registries by what they do one at a time: a registry takes its lock for each of its
operations, and a slot is only touched by its own thread. A `Deed` is one such operation, or one
operation on one of the displays; a `Course` is any interleaving of the deeds of any threads, from a
realm in which nobody has done anything. What a thread keeps to itself (what it holds and what it
saw, that it runs) changes between deeds and is of no consequence for a registry.

* `display_books`: an operation of a display, its teardown included, changes no registry.
* `current_spec`: what asking for the display of a thread comes to.
* `each_perform`: a script of steps goes on a course, with its races and ends of threads.
-/

namespace DisplayEnv.Threads

/-- The registries with their slots, and the number of the last display. -/
def Realm.books (w : Realm) : Registries × Nat := (w.toRegistries, w.members.length)

/-- What a thread does to a registry, or to a display. -/
inductive Deed where
  | current (thread registry : Nat)
  | main (thread registry : Nat)
  | mainDisplay (thread registry : Nat)
  | contains (thread registry : Nat)
  | size (registry : Nat)
  | detach (thread registry : Nat)
  /-- The slot of a thread goes when the thread ends. -/
  | endThread (thread registry : Nat)
  | display (id : Nat) (c : Call Empty)

/-- What a deed answers. -/
inductive Finding where
  | display (r : Except DisplayError Nat)
  | main (r : Except DisplayError MainDisplay)
  | flag (b : Bool)
  | count (n : Nat)
  | detached (id : Option Nat)
  | call (a : Answer)
  | nothing

/-- Perform a deed. -/
def Deed.perform : Deed → Act Realm Finding
  | .current thread i => return .display (← Threads.current thread i)
  | .main _ i => return .main (← (registryAt i).view (·.main))
  | .mainDisplay thread i => return .display (← (registryAt i).view (·.mainDisplay thread))
  | .contains thread i => return .flag (← (registryAt i).view (·.contains thread))
  | .size i => return .count (← (registryAt i).view (·.size))
  | .detach thread i => return .detached (← (registryAt i).alter (·.detach thread))
  | .endThread thread i => do (registryAt i).change (·.endThread thread); return .nothing
  | .display id c => return .call (← (setting id).call c)

/-- A deed in a course. -/
structure Turn where
  before : Realm
  deed : Deed
  outcome : Outcome Finding
  after : Realm

/-- The turn of a deed in a realm. -/
def Turn.of (d : Deed) (w : Realm) : Turn := ⟨w, d, (d.perform w).1, (d.perform w).2⟩

/-- Deeds one after the other, with anything between them that leaves the books alone. -/
inductive Course : Realm → List Turn → Realm → Prop
  | rest (w : Realm) : Course w [] w
  | deed {w w' : Realm} {t : List Turn} (h : Course w t w') (d : Deed) :
      Course w (t ++ [.of d w']) (Turn.of d w').after
  | aside {w w' w'' : Realm} {t : List Turn} (h : Course w t w') (same : w''.books = w'.books) :
      Course w t w''

/-- The turns of some deeds. -/
def turns (w : Realm) : List Deed → List Turn
  | [] => []
  | d :: ds => .of d w :: turns (Turn.of d w).after ds

/-- The realm that some deeds leave. -/
def reached (w : Realm) : List Deed → Realm
  | [] => w
  | d :: ds => reached (Turn.of d w).after ds

/-- Wherever it starts, `x` does what some deeds do. -/
def ByDeeds {α : Type} (x : Act Realm α) : Prop := ∀ w, ∃ t, Course w t (x w).2

variable {α β : Type} {w w' w'' : Realm} {t t' : List Turn} {thread i j : Nat}

theorem Course.append (h : Course w t w') (h' : Course w' t' w'') : Course w (t ++ t') w'' := by
  induction h' with
  | rest => simpa using h
  | deed _ d ih =>
    rw [← List.append_assoc]
    exact ih.deed d
  | aside _ same ih => exact ih.aside same

theorem Course.single (d : Deed) (w : Realm) : Course w [.of d w] (Turn.of d w).after :=
  (Course.rest w).deed d

theorem Course.turns (w : Realm) (ds : List Deed) : Course w (turns w ds) (reached w ds) := by
  induction ds generalizing w with
  | nil => exact .rest w
  | cons d ds ih => exact (Course.single d w).append (ih _)

/-- A turn of a course is the turn of its deed. -/
theorem Course.eq_of (h : Course w t w') {m : Turn} (hm : m ∈ t) : m = .of m.deed m.before := by
  induction h with
  | rest => cases hm
  | deed _ d ih =>
    rcases List.mem_append.mp hm with hm | hm
    · exact ih hm
    · rw [List.mem_singleton.mp hm]
      rfl
  | aside _ _ ih => exact ih hm

/-- Up to one of its turns, a course is a course to the realm that the turn begins in. -/
theorem Course.take (h : Course w t w') {k : Nat} (hk : k < t.length) :
    Course w (t.take k) t[k].before := by
  induction h with
  | rest => cases hk
  | @deed w' t h d ih =>
    rw [List.length_append, List.length_singleton] at hk
    by_cases old : k < t.length
    · rw [List.getElem_append_left old, List.take_append_of_le_length (Nat.le_of_lt old)]
      exact ih old
    · obtain rfl : k = t.length := by omega
      rw [List.getElem_concat_length rfl, List.take_left' rfl]
      exact h
  | aside _ _ ih => exact ih hk

/-- What holds after one turn, and is kept by every later turn of a sort, holds at the end. -/
theorem Course.since (h : Course w t w') (P : Realm → Prop) (Later : Turn → Prop)
    (aside : ∀ w w', w'.books = w.books → P w → P w')
    (deed : ∀ d w, P w → Later (.of d w) → P (Turn.of d w).after)
    {k : Nat} (hk : k < t.length) (start : P t[k].after)
    (later : ∀ n (hn : n < t.length), k < n → Later t[n]) : P w' := by
  induction h with
  | rest => cases hk
  | @deed w' t _ d ih =>
    by_cases old : k < t.length
    · rw [List.getElem_append_left old] at start
      have before : P w' := by
        refine ih old start fun n hn hkn => ?_
        have := later n (by rw [List.length_append]; omega) hkn
        rwa [List.getElem_append_left hn] at this
      have last := later t.length (by simp) old
      rw [List.getElem_concat_length rfl] at last
      exact deed d w' before last
    · obtain rfl : k = t.length := by
        rw [List.length_append, List.length_singleton] at hk
        omega
      rwa [List.getElem_concat_length rfl] at start
  | aside _ same ih => exact aside _ _ same (ih hk start later)

/-! ## A display in a realm -/

theorem setting_keeps (id : Nat) : (setting id).Keeps Realm.books where
  display d w := by simp [setting, displayAt, Realm.books]
  note _ _ := rfl
  before _ _ := rfl
  report _ := rfl
  openSource _ _ := rfl

/-- **An operation of a display changes no registry**, and makes no display. -/
theorem display_books (id : Nat) (c : Call Empty) :
    Act.Keeps Realm.books ((setting id).call c) :=
  (setting_keeps id).call c

/-! ## The display of a thread -/

theorem takeFactory_books (i : Nat) : Act.Keeps Realm.books (takeFactory i) := by
  intro w
  unfold takeFactory
  rw [Act.alter_apply]
  simp only
  split <;> rfl

/-- Making a display, as the factory does it this time. -/
theorem create_apply (i : Nat) (w : Realm) :
    create i w =
      match takeFactory i w with
      | (.done (.fails e), w') => (.done (.error e), w')
      | (.done (.givesUp text), w') => (.fault (.raised (some text)), w')
      | (.done .opens, w') =>
        (.done (.ok (w'.members.length + 1)), { w' with
          members := w'.members ++ [⟨i, .new (w'.members.length + 1) (.new default)⟩]
          log := w'.log ++ [.displayCreated (w'.members.length + 1) .headless] })
      | (.fault c, w') => (.fault c, w')
      | (.stalled, w') => (.stalled, w') := by
  unfold create
  rw [Act.bind_apply]
  cases takeFactory i w with
  | mk o w' =>
    cases o with
    | done f => cases f <;> rfl
    | fault c => rfl
    | stalled => rfl

/-- Making a display either fails and leaves the books alone, or makes the next one. -/
theorem create_spec (i : Nat) (w : Realm) :
    ((∀ id, (create i w).1 ≠ .done (.ok id)) ∧ (create i w).2.books = w.books) ∨
      ((create i w).1 = .done (.ok (w.members.length + 1)) ∧
        (create i w).2.books = (w.toRegistries, w.members.length + 1)) := by
  have books := takeFactory_books i w
  rw [create_apply]
  cases h : takeFactory i w with
  | mk o w' =>
    rw [h] at books
    obtain ⟨registries, members⟩ := Prod.mk.inj books
    cases o with
    | fault c => exact .inl ⟨nofun, books⟩
    | stalled => exact .inl ⟨nofun, books⟩
    | done f =>
      cases f with
      | fails e => exact .inl ⟨nofun, books⟩
      | givesUp text => exact .inl ⟨nofun, books⟩
      | opens =>
        refine .inr ⟨?_, ?_⟩
        · show Outcome.done (Except.ok (w'.members.length + 1)) = _
          rw [members]
        · show (w'.toRegistries, (w'.members ++ [_]).length) = _
          rw [registries, List.length_append, members]
          rfl

/-- Entering a display that was made; the log may hear of the first one. -/
theorem enter_spec (thread i id : Nat) (w : Realm) :
    ∃ w', w'.books = w.books ∧
      (do
        if ← (registryAt i).view (·.mainDisplay?.isNone) then note (.mainDesignated id thread)
        (registryAt i).change (·.enter thread id)
        return .ok id : Act Realm (Except DisplayError Nat)) w =
          (.done (.ok id), (registryAt i).modify (·.enter thread id) w') := by
  show ∃ w', _ ∧ (if ((registryAt i).get w).mainDisplay?.isNone = true then _ else _ :
    Act Realm (Except DisplayError Nat)) w = _
  split
  · exact ⟨{ w with log := w.log ++ [.mainDesignated id thread] }, rfl, rfl⟩
  · exact ⟨w, rfl, rfl⟩

/-- Asking for the display of a thread: the one in its slot, or a new one. -/
theorem current_apply (thread i : Nat) (w : Realm) :
    current thread i w =
      match ((registryAt i).get w).local? thread with
      | some id => (.done (.ok id), w)
      | none => (do
        match ← create i with
        | .error e => return .error (.platform e)
        | .ok id =>
          if ← (registryAt i).view (·.mainDisplay?.isNone) then note (.mainDesignated id thread)
          (registryAt i).change (·.enter thread id)
          return .ok id : Act Realm (Except DisplayError Nat)) w := by
  unfold current Registry.current
  rw [Act.bind_apply]
  simp only [Lens.view, Act.view_apply]
  cases ((registryAt i).get w).local? thread <;> rfl

/-- A registry after a display was entered in it. -/
theorem entered_own (registries : w'.toRegistries = w.toRegistries)
    (hi : i < w.registries.length) (thread id : Nat) :
    (registryAt i).get ((registryAt i).modify (·.enter thread id) w') =
      ((registryAt i).get w).enter thread id := by
  rw [registryAt_modify (Registry.framed_enter thread id) (registries ▸ hi),
    registryAt_eq registries]

/-- A registry after a display was entered in another one. -/
theorem entered_other (registries : w'.toRegistries = w.toRegistries) (other : i ≠ j)
    (thread id : Nat) :
    ((registryAt i).get ((registryAt j).modify (·.enter thread id) w')).Same
      ((registryAt i).get w) :=
  (same_of_modify (Registry.framed_enter thread id) w' other).trans
    (.of_eq (registryAt_eq registries))

/-- What asking for the display of a thread comes to. -/
theorem current_spec (thread i : Nat) (w : Realm) :
    (∃ id, ((registryAt i).get w).local? thread = some id ∧
      current thread i w = (.done (.ok id), w)) ∨
    ((∀ id, (current thread i w).1 ≠ .done (.ok id)) ∧ (current thread i w).2.books = w.books) ∨
    (((registryAt i).get w).local? thread = none ∧
      (current thread i w).1 = .done (.ok (w.members.length + 1)) ∧
      ∃ w', w'.books = (w.toRegistries, w.members.length + 1) ∧
        (current thread i w).2 =
          (registryAt i).modify (·.enter thread (w.members.length + 1)) w') := by
  rw [current_apply]
  cases ((registryAt i).get w).local? thread with
  | some id => exact .inl ⟨id, rfl, rfl⟩
  | none =>
    refine .inr ?_
    simp only [Act.bind_apply]
    cases h : create i w with
    | mk o w' =>
      have made := create_spec i w
      rw [h] at made
      cases o with
      | fault c => exact .inl ⟨nofun, made.elim (·.2) fun m => nomatch m.1⟩
      | stalled => exact .inl ⟨nofun, made.elim (·.2) fun m => nomatch m.1⟩
      | done r =>
        cases r with
        | error e => exact .inl ⟨nofun, made.elim (·.2) fun m => nomatch m.1⟩
        | ok id =>
          rcases made with ⟨no, -⟩ | ⟨hid, books⟩
          · exact absurd rfl (no id)
          · obtain rfl : id = w.members.length + 1 := by
              simpa using hid
            obtain ⟨w'', same, entered⟩ := enter_spec thread i (w.members.length + 1) w'
            have done := congrArg Prod.fst entered
            have after := congrArg Prod.snd entered
            exact .inr ⟨trivial, done, w'', same.trans books, after⟩

/-! ## Actions that act by deeds -/

namespace ByDeeds

/-- What leaves the books alone needs no deed. -/
theorem of_keeps {x : Act Realm α} (h : Act.Keeps Realm.books x) : ByDeeds x :=
  fun w => ⟨[], (Course.rest w).aside (h w)⟩

theorem pure (a : α) : ByDeeds (Pure.pure a) := of_keeps (.pure a)

theorem view (v : Realm → α) : ByDeeds (Act.view v) := of_keeps (.view v)

theorem bind {x : Act Realm α} {f : α → Act Realm β} (hx : ByDeeds x) (hf : ∀ a, ByDeeds (f a)) :
    ByDeeds (x >>= f) := by
  intro w
  obtain ⟨t, p⟩ := hx w
  rw [Act.bind_apply]
  cases h : x w with
  | mk o w' =>
    rw [h] at p
    cases o with
    | done a =>
      obtain ⟨t', p'⟩ := hf a w'
      exact ⟨t ++ t', p.append p'⟩
    | fault c => exact ⟨t, p⟩
    | stalled => exact ⟨t, p⟩

theorem attempt {x : Act Realm α} (hx : ByDeeds x) : ByDeeds x.attempt := by
  intro w
  obtain ⟨t, p⟩ := hx w
  rw [Act.attempt_apply]
  cases h : x w with
  | mk o w' =>
    rw [h] at p
    cases o <;> exact ⟨t, p⟩

theorem each {f : α → Act Realm β} (h : ∀ a, ByDeeds (f a)) (l : List α) :
    ByDeeds (Act.each f l) := by
  induction l with
  | nil => exact .pure _
  | cons a l ih => exact (h a).bind fun _ => ih.bind fun _ => .pure _

theorem discard {x : Act Realm α} (hx : ByDeeds x) : ByDeeds (Functor.discard x) :=
  hx.bind fun _ => .pure _

theorem deed (d : Deed) : ByDeeds d.perform := fun w => ⟨_, .single d w⟩

/-- An action acts by deeds when it does with its answer wrapped up. -/
theorem of_wrapped {x : Act Realm α} (f : α → β) (h : ByDeeds (x >>= fun a => Pure.pure (f a))) :
    ByDeeds x := by
  intro w
  obtain ⟨t, p⟩ := h w
  rw [Act.bind_pure_snd] at p
  exact ⟨t, p⟩

theorem current (thread i : Nat) : ByDeeds (Threads.current thread i) :=
  .of_wrapped Finding.display (.deed (.current thread i))

theorem main (i : Nat) : ByDeeds ((registryAt i).view (·.main)) :=
  .of_wrapped Finding.main (.deed (.main 0 i))

theorem mainDisplay (thread i : Nat) :
    ByDeeds ((registryAt i).view (·.mainDisplay thread)) :=
  .of_wrapped Finding.display (.deed (.mainDisplay thread i))

theorem contains (thread i : Nat) : ByDeeds ((registryAt i).view (·.contains thread)) :=
  .of_wrapped Finding.flag (.deed (.contains thread i))

theorem detach (thread i : Nat) : ByDeeds ((registryAt i).alter (·.detach thread)) :=
  .of_wrapped Finding.detached (.deed (.detach thread i))

theorem endSlot (thread i : Nat) : ByDeeds ((registryAt i).change (·.endThread thread)) :=
  .of_wrapped (fun _ => Finding.nothing) (.deed (.endThread thread i))

theorem display (id : Nat) (c : Call Empty) : ByDeeds ((setting id).call c) :=
  .of_wrapped Finding.call (.deed (.display id c))

/-! ## Steps of a script -/

theorem dropUnreferenced (id : Nat) : ByDeeds (Threads.dropUnreferenced id) := by
  refine (view _).bind fun referenced => ?_
  split
  · exact .pure _
  · exact .of_wrapped (fun _ => Answer.nothing) (.display id .drop)

theorem threadNamed (name : String) : ByDeeds (Threads.threadNamed name) := by
  refine (view _).bind fun threads => ?_
  cases threads.lookup name with
  | some t => exact .pure _
  | none => exact .of_keeps fun _ => rfl

theorem hold (thread i : Nat) (id : Option Nat) : ByDeeds (Threads.hold thread i id) := by
  have held : ByDeeds (held? thread i) := .view _
  refine held.bind fun before => ?_
  refine bind (.of_keeps fun _ => rfl) fun _ => ?_
  cases before with
  | some old => exact (dropUnreferenced old).bind fun _ => .pure _
  | none => exact .pure _

theorem endThread (thread : Nat) : ByDeeds (Threads.endThread thread) := by
  refine (view _).bind fun count => ?_
  refine (each (fun i => hold thread i none) _).discard.bind fun _ => ?_
  refine (each (fun i => ?_) _).discard
  refine (view _).bind fun kept => (endSlot thread i).bind fun _ => ?_
  cases kept with
  | some id => exact dropUnreferenced id
  | none => exact .pure _

theorem raceOne (i : Nat) : ByDeeds (Threads.raceOne i) := by
  refine bind (.of_keeps fun _ => rfl) fun thread => ?_
  refine (current thread i).bind fun first => (current thread i).bind fun second => ?_
  exact (main i).bind fun m => (endThread thread).bind fun _ => .pure _

theorem withHeld (thread i : Nat) {ask : Nat → Act Realm Reply} (h : ∀ id, ByDeeds (ask id)) :
    ByDeeds (Threads.withHeld thread i ask) := by
  have held : ByDeeds (held? thread i) := .view _
  refine held.bind fun found => ?_
  cases found with
  | some id => exact h id
  | none => exact .pure _

theorem shown (id : Nat) : ByDeeds (Threads.shown id) :=
  (view _).bind fun _ => (dropUnreferenced id).bind fun _ => .pure _

theorem act (thread i : Nat) (a : Action) : ByDeeds (Threads.act thread i a) := by
  cases a with
  | current =>
    refine (current thread i).bind fun r => ?_
    cases r with
    | error e => exact .pure _
    | ok id => exact (hold thread i (some id)).bind fun _ => .pure _
  | main =>
    refine (main i).bind fun r => ?_
    cases r with
    | error e => exact .pure _
    | ok m => exact bind (.of_keeps fun _ => rfl) fun _ => .pure _
  | mainDisplay =>
    refine (mainDisplay thread i).bind fun r => ?_
    cases r with
    | error e => exact .pure _
    | ok id => exact shown id
  | contains => exact (contains thread i).bind fun _ => .pure _
  | detach =>
    refine (detach thread i).bind fun r => ?_
    cases r with
    | none => exact .pure _
    | some id => exact bind (.of_keeps fun _ => rfl) fun _ => shown id
  | held => exact withHeld thread i fun id => (view _).bind fun _ => .pure _
  | teardown =>
    refine withHeld thread i fun id => bind ?_ fun _ => .pure _
    exact .of_wrapped Answer.flag (.display id .teardown)
  | dropHeld => exact (hold thread i none).bind fun _ => .pure _
  | color c =>
    refine withHeld thread i fun id => bind
      (.of_wrapped Answer.color (.display id (.resolveColor c))) fun r => ?_
    cases r <;> exact .pure _
  | race n => exact (each (fun _ => raceOne i) _).bind fun _ => .pure _

theorem exit (name : String) : ByDeeds (Threads.exit name) := by
  refine (view _).bind fun threads => ?_
  cases threads.lookup name with
  | none => exact .pure _
  | some thread =>
    exact (endThread thread).bind fun _ => bind (.of_keeps fun _ => rfl) fun _ => .pure _

theorem perform (s : Step) : ByDeeds (Threads.perform s) := by
  refine bind (.attempt ?_) fun r => (view _).bind fun _ => (view _).bind fun _ => .pure _
  cases s.action with
  | none => exact exit s.thread
  | some a => exact (threadNamed s.thread).bind fun thread => act thread s.registry a

/-- **A script of steps acts by deeds**, with its races and its ends of threads. -/
theorem each_perform (steps : List Step) : ByDeeds (Act.each Threads.perform steps) :=
  each perform steps

end ByDeeds

end DisplayEnv.Threads
