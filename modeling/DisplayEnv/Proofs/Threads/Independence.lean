import DisplayEnv.Proofs.Renumbering
import DisplayEnv.Proofs.Threads.Accounts

/-!
# Registries are independent

Registries have the threads and the map of their slots in common and number their displays together,
so what one of them answers is never literally the same with and without the others. It is the same
up to a renumbering of displays that keeps their order. Two runs are compared: one with the deeds of
all registries, and one in which every deed on one registry is left out.

* `Registry.Renames`: a registry under other numbers for its displays. No operation looks at such a
  number, except to compare it with another, so all of them keep this.
* `Alike`: two realms that agree, up to a renumbering, on every registry but one.
* `Alike.kept`, `Alike.left`: a deed that both runs have, and one that only the first has.
* `registries_independent`: the answers of whole runs.
-/

namespace DisplayEnv

/-! ## Renumbered displays -/

def MainDisplay.renamed (f : Nat → Nat) (m : MainDisplay) : MainDisplay := ⟨f m.id, m.thread⟩

namespace Registry

/-- The displays of threads under other numbers. -/
def relabeled (f : Nat → Nat) (l : List (Nat × Nat)) : List (Nat × Nat) :=
  l.map (Prod.map id f)

/-- `r` has the displays of `r'` under the numbers that `f` gives to them. -/
structure Renames (f : Nat → Nat) (r r' : Registry) : Prop where
  threads : r.threads = relabeled f r'.threads
  mainDisplay? : r.mainDisplay? = r'.mainDisplay?.map (·.renamed f)
  slot : ∀ thread, r.local? thread = (r'.local? thread).map f

/-- The registry knows no display with a higher number than `last`. -/
structure Within (last : Nat) (r : Registry) : Prop where
  threads : ∀ p ∈ r.threads, p.2 ≤ last
  main : ∀ m ∈ r.mainDisplay?, m.id ≤ last
  slots : ∀ thread id, r.local? thread = some id → id ≤ last

variable {f g : Nat → Nat} {last last' : Nat} {r r' u u' : Registry}

/-! ### Renaming laws -/

theorem relabeled_congr {l : List (Nat × Nat)} (h : ∀ p ∈ l, p.2 ≤ last)
    (agree : ∀ n ≤ last, g n = f n) : relabeled g l = relabeled f l :=
  List.map_congr_left fun p hp => by rw [Prod.map_apply, Prod.map_apply, agree p.2 (h p hp)]

namespace Renames

theorem same (h : r.Renames f r') (hu : u.Same r) (hu' : u'.Same r') : u.Renames f u' where
  threads := by rw [hu.threads, hu'.threads, h.threads]
  mainDisplay? := by rw [hu.mainDisplay?, hu'.mainDisplay?, h.mainDisplay?]
  slot thread := by rw [hu.slot, hu'.slot, h.slot]

theorem contains (h : r.Renames f r') (thread : Nat) : r.contains thread = r'.contains thread := by
  rw [Registry.contains, Registry.contains, h.slot, Option.isSome_map]

theorem size (h : r.Renames f r') : r.size = r'.size := by
  simp [Registry.size, h.threads, relabeled]

theorem main (h : r.Renames f r') : r.main = r'.main.map (·.renamed f) := by
  rw [Registry.main, Registry.main, h.mainDisplay?]
  cases r'.mainDisplay? <;> rfl

theorem mainDisplay (h : r.Renames f r') (hf : f.Injective) (thread : Nat) :
    r.mainDisplay thread = (r'.mainDisplay thread).map f := by
  rw [mainDisplay_eq, mainDisplay_eq, h.mainDisplay?, h.slot]
  cases r'.mainDisplay? with
  | none => rfl
  | some m =>
    simp only [Option.map_some, MainDisplay.renamed]
    by_cases own : m.thread ≠ thread
    · simp only [if_pos own]
      rfl
    · simp only [if_neg own]
      cases r'.local? thread with
      | none => rfl
      | some id =>
        -- the one place where numbers are looked at: they are compared
        simp only [Option.map_some, hf.eq_iff]
        by_cases same : id = m.id
        · simp only [if_pos same]
          rfl
        · simp only [if_neg same]
          rfl

theorem endThread (h : r.Renames f r') (thread : Nat) :
    (r.endThread thread).Renames f (r'.endThread thread) where
  threads := h.threads
  mainDisplay? := h.mainDisplay?
  slot other := by
    rw [local?_endThread, local?_endThread, h.slot]
    split <;> rfl

theorem without (h : r.Renames f r') (thread : Nat) :
    (r.without thread).Renames f (r'.without thread) where
  threads := by
    simp only [Registry.without, h.threads, relabeled, Cache.filter_map_value]
  mainDisplay? := h.mainDisplay?
  -- what a detach does to the slots, the end of the thread does
  slot := (h.endThread thread).slot

theorem detach (h : r.Renames f r') (thread : Nat) :
    (r.detach thread).2.Renames f (r'.detach thread).2 := by
  rw [detach_eq, detach_eq, h.slot]
  cases r'.local? thread with
  | none => exact h
  | some id => exact h.without thread

theorem enter (h : r.Renames f r') (thread id : Nat) :
    (r.enter thread (f id)).Renames f (r'.enter thread id) where
  threads := by
    simp only [Registry.enter, h.threads, relabeled, assign, Cache.filter_map_value]
    rfl
  mainDisplay? := by
    simp only [Registry.enter, h.mainDisplay?]
    cases r'.mainDisplay? <;> rfl
  slot other := by
    rw [local?_enter, local?_enter, h.slot]
    split <;> rfl

/-! ### Numbers in use -/

theorem congr (h : r.Renames f r') (within : r'.Within last) (agree : ∀ n ≤ last, g n = f n) :
    r.Renames g r' where
  threads := h.threads.trans (relabeled_congr within.threads agree).symm
  mainDisplay? := by
    refine h.mainDisplay?.trans (Option.map_congr fun m hm => ?_)
    rw [MainDisplay.renamed, MainDisplay.renamed, agree m.id (within.main m hm)]
  slot thread := by
    refine (h.slot thread).trans (Option.map_congr fun id hid => ?_)
    exact (agree id (within.slots thread id hid)).symm

end Renames

namespace Within

theorem same (h : r.Within last) (hu : u.Same r) : u.Within last where
  threads := hu.threads ▸ h.threads
  main := hu.mainDisplay? ▸ h.main
  slots thread id hs := h.slots thread id ((hu.slot thread).symm.trans hs)

theorem mono (h : r.Within last) (le : last ≤ last') : r.Within last' where
  threads p hp := (h.threads p hp).trans le
  main m hm := (h.main m hm).trans le
  slots thread id hs := (h.slots thread id hs).trans le

theorem endThread (h : r.Within last) (thread : Nat) : (r.endThread thread).Within last where
  threads := h.threads
  main := h.main
  slots other id hs := h.slots other id (local?_of_endThread hs)

theorem detach (h : r.Within last) (thread : Nat) : (r.detach thread).2.Within last where
  threads := by
    rw [detach_eq]
    cases r.local? thread with
    | none => exact h.threads
    | some id => exact fun p hp => h.threads p (List.mem_filter.mp hp).1
  main := detach_main r thread ▸ h.main
  slots other id hs := h.slots other id (local?_of_detach hs)

theorem enter (h : r.Within last) (thread : Nat) {id : Nat} (le : id ≤ last) :
    (r.enter thread id).Within last where
  threads p hp := by
    rcases List.mem_cons.mp hp with rfl | old
    · exact le
    · exact h.threads p (List.mem_filter.mp old).1
  main m hm := by
    simp only [Registry.enter, Option.mem_some] at hm
    cases kept : r.mainDisplay? with
    | none =>
      rw [kept] at hm
      rw [← hm]
      exact le
    | some m' =>
      rw [kept] at hm
      rw [← hm]
      exact h.main m' kept
  slots other n hs := by
    rw [local?_enter] at hs
    split at hs
    · exact (Nat.le_of_eq (Option.some.inj hs).symm).trans le
    · exact h.slots other n hs

end Within

end Registry

namespace Threads

/-- The answer under other numbers for the displays in it. -/
def Finding.renamed (f : Nat → Nat) : Finding → Finding
  | .display r => .display (r.map f)
  | .main r => .main (r.map (·.renamed f))
  | .detached id => .detached (id.map f)
  | .flag b => .flag b
  | .count n => .count n
  | .call a => .call a
  | .nothing => .nothing

/-- The display in an answer. -/
def Finding.shown? : Finding → Option Nat
  | .display r => r.toOption
  | .main r => r.toOption.map (·.id)
  | .detached id => id
  | .flag _ | .count _ | .call _ | .nothing => none

/-- The display that is answered, if the deed came to an answer. -/
def answered? : Outcome Finding → Option Nat
  | .done a => a.shown?
  | .fault _ | .stalled => none

/-- The registry that a deed uses. -/
def Deed.registry? : Deed → Option Nat
  | .current _ i | .main _ i | .mainDisplay _ i | .contains _ i | .size i | .detach _ i
  | .endThread _ i => some i
  | .display .. => none

/-- The deed is one on a registry other than the `j`-th. -/
def Deed.others (j : Nat) (d : Deed) : Bool := d.registry?.any (· ≠ j)

/-- What the deeds of a course are answered. -/
def answers (t : List Turn) : List (Outcome Finding) := t.map (·.outcome)

variable {i j : Nat} {f g : Nat → Nat} {w w' u u' : Realm} {d : Deed} {thread : Nat}

theorem answered?_renamed (o : Outcome Finding) :
    answered? (o.map (Finding.renamed f)) = (answered? o).map f := by
  cases o with
  | fault c => rfl
  | stalled => rfl
  | done a =>
    cases a with
    | display r => cases r <;> rfl
    | main r => cases r <;> rfl
    | _ => rfl

theorem renamed_congr {o : Outcome Finding} {last : Nat} (h : ∀ id ∈ answered? o, id ≤ last)
    (agree : ∀ n ≤ last, g n = f n) :
    o.map (Finding.renamed g) = o.map (Finding.renamed f) := by
  cases o with
  | fault c => rfl
  | stalled => rfl
  | done a =>
    cases a with
    | display r =>
      cases r with
      | error e => rfl
      | ok id =>
        have same := agree id (h id rfl)
        simp only [Outcome.map, Finding.renamed, Except.map, same]
    | main r =>
      cases r with
      | error e => rfl
      | ok m =>
        have same := agree m.id (h m.id rfl)
        simp only [Outcome.map, Finding.renamed, Except.map, MainDisplay.renamed, same]
    | detached id =>
      cases id with
      | none => rfl
      | some id =>
        have same := agree id (h id rfl)
        simp only [Outcome.map, Finding.renamed, Option.map_some, same]
    | _ => rfl

/-! ## Asking for a display, in full -/

/-- What the maker of a registry does when it is called next. -/
def nextFactory (i : Nat) (w : Realm) : Factory := (w.factories[i]?.bind List.head?).getD .opens

/-- The realm after the maker of a registry was called. -/
def served (i : Nat) (w : Realm) : Realm := { w with factories := w.factories.modify i List.tail }

/-- The realm after the maker of a registry made a display. -/
def grown (i : Nat) (w : Realm) : Realm :=
  { served i w with
    members := w.members ++ [⟨i, .new (w.members.length + 1) (.new default)⟩]
    log := w.log ++ [.displayCreated (w.members.length + 1) .headless] }

theorem takeFactory_apply (i : Nat) (w : Realm) :
    takeFactory i w = (.done (nextFactory i w), served i w) := by
  unfold takeFactory nextFactory served
  rw [Act.alter_apply]
  cases kept : w.factories[i]? with
  | none =>
    have out := List.getElem?_eq_none_iff.mp kept
    simp [List.modify_eq_self out]
  | some l =>
    obtain ⟨present, at_i⟩ := List.getElem?_eq_some_iff.mp kept
    cases l with
    | nil =>
      have same : w.factories.set i [] = w.factories := by
        rw [← at_i, List.set_getElem_self]
      simp [List.modify_eq_set, kept, same]
    | cons f rest => simp [List.modify_eq_set, kept]

/-- Entering a display that was made changes the registry, and the log. -/
theorem enter_apply (thread i id : Nat) (w : Realm) :
    ∃ log, (do
        if ← (registryAt i).view (·.mainDisplay?.isNone) then note (.mainDesignated id thread)
        (registryAt i).change (·.enter thread id)
        return .ok id : Act Realm (Except DisplayError Nat)) w =
          (.done (.ok id), (registryAt i).modify (·.enter thread id) { w with log := log }) := by
  cases none : ((registryAt i).get w).mainDisplay?.isNone with
  | true =>
    refine ⟨w.log ++ [.mainDesignated id thread], ?_⟩
    simp only [Lens.view, Act.bind_apply, Act.view_apply, none]
    rfl
  | false =>
    refine ⟨w.log, ?_⟩
    simp only [Lens.view, Act.bind_apply, Act.view_apply, none]
    rfl

/-- A thread that has a display is given it again. -/
theorem current_kept {id : Nat} (kept : ((registryAt i).get w).local? thread = some id) :
    current thread i w = (.done (.ok id), w) := by
  rw [current_apply, kept]

/-- A thread that has none is given what the maker makes. -/
theorem current_fresh (empty : ((registryAt i).get w).local? thread = none) :
    match nextFactory i w with
    | .fails e => current thread i w = (.done (.error (.platform e)), served i w)
    | .givesUp text => current thread i w = (.fault (.raised (some text)), served i w)
    | .opens => ∃ log, current thread i w = (.done (.ok (w.members.length + 1)),
        (registryAt i).modify (·.enter thread (w.members.length + 1))
          { grown i w with log := log }) := by
  rw [current_apply, empty]
  simp only [Act.bind_apply, create_apply, takeFactory_apply]
  cases nextFactory i w with
  | fails e => rfl
  | givesUp text => rfl
  | opens => exact enter_apply thread i (w.members.length + 1) (grown i w)

/-! ## Deeds that are left out -/

/-- In `u` the registries other than the `j`-th and their makers are as they are in `w`; there may
be more displays. -/
structure Untouched (j : Nat) (w u : Realm) : Prop where
  count : u.registries.length = w.registries.length
  registries : ∀ i ≠ j, ((registryAt i).get u).Same ((registryAt i).get w)
  factories : ∀ i ≠ j, u.factories[i]? = w.factories[i]?
  members : w.members.length ≤ u.members.length

theorem Untouched.refl (j : Nat) (w : Realm) : Untouched j w w :=
  ⟨rfl, fun _ _ => .refl _, fun _ _ => rfl, Nat.le_refl _⟩

theorem Untouched.modify (h : Untouched j w u) {change : Registry → Registry}
    (framed : Registry.Framed change) : Untouched j w ((registryAt j).modify change u) where
  count := (registries_length change u).trans h.count
  registries i hi := (same_of_modify framed u hi).trans (h.registries i hi)
  factories := h.factories
  members := h.members

theorem Untouched.served (j : Nat) (w : Realm) : Untouched j w (served j w) where
  count := rfl
  registries _ _ := .refl _
  factories i hi := by simp [Threads.served, Ne.symm hi]
  members := Nat.le_refl _

theorem Untouched.grown (j : Nat) (w : Realm) (log : List Notice) :
    Untouched j w { grown j w with log := log } where
  count := rfl
  registries _ _ := .refl _
  factories := (Untouched.served j w).factories
  members := by simp [Threads.grown]

theorem setting_keeps_factories (id : Nat) : (setting id).Keeps Realm.factories :=
  ⟨fun _ _ => rfl, fun _ _ => rfl, fun _ _ => rfl, fun _ => rfl, fun _ _ => rfl⟩

/-- **A deed on one registry, or on a display, touches no other registry.** -/
theorem untouched (hd : d.others j = false) : Untouched j w (Turn.of d w).after := by
  cases d with
  | current thread i =>
    obtain rfl : i = j := by simpa [Deed.others, Deed.registry?] using hd
    rw [Turn.of, Deed.perform, Act.bind_pure_snd]
    cases slot : ((registryAt i).get w).local? thread with
    | some id =>
      rw [current_kept slot]
      exact .refl i w
    | none =>
      have fresh := current_fresh slot
      cases next : nextFactory i w <;> simp only [next] at fresh
      case opens =>
        obtain ⟨log, made⟩ := fresh
        rw [made]
        exact (Untouched.grown i w log).modify (Registry.framed_enter ..)
      all_goals
        rw [fresh]
        exact .served i w
  | main _ _ | mainDisplay _ _ | contains _ _ | size _ => exact .refl j w
  | detach thread i =>
    obtain rfl : i = j := by simpa [Deed.others, Deed.registry?] using hd
    exact (Untouched.refl i w).modify (Registry.framed_detach thread)
  | endThread thread i =>
    obtain rfl : i = j := by simpa [Deed.others, Deed.registry?] using hd
    exact (Untouched.refl i w).modify (Registry.framed_endThread thread)
  | display id c =>
    rw [Turn.of, Deed.perform, Act.bind_pure_snd]
    obtain ⟨registries, members⟩ := Prod.mk.inj (display_books id c w)
    have factories : _ = w.factories := (setting_keeps_factories id).call c w
    exact ⟨congrArg (·.registries.length) registries, fun i _ => .of_eq (registryAt_eq registries),
      fun i _ => by rw [factories], Nat.le_of_eq members.symm⟩

/-! ## Two realms -/

/-- On every registry but the `j`-th, `w` is what `w'` is, under the numbers that `f` gives to the
displays of `w'`. The displays that are made next get corresponding numbers. -/
structure Alike (j : Nat) (f : Nat → Nat) (w w' : Realm) : Prop where
  count : w.registries.length = w'.registries.length
  registries : ∀ i ≠ j, ((registryAt i).get w).Renames f ((registryAt i).get w')
  factories : ∀ i ≠ j, w.factories[i]? = w'.factories[i]?
  within : ∀ i ≠ j, ((registryAt i).get w').Within w'.members.length
  numbers : Renumbers f (w.members.length + 1) (w'.members.length + 1)

theorem Alike.new (j : Nat) (factories : List (List Factory)) :
    Alike j id (.new factories) (.new factories) := by
  refine ⟨rfl, fun i _ => ?_, fun _ _ => rfl, fun i _ => ?_, .refl _⟩
  · rw [registryAt_new]
    exact ⟨rfl, rfl, fun _ => rfl⟩
  · constructor <;> simp

/-- **What only the first run does** leaves the realms alike; later displays have higher numbers. -/
theorem Alike.left (h : Alike j f w w') (aside : Untouched j w u) :
    ∃ g, (∀ n ≤ w'.members.length, g n = f n) ∧ Alike j g u w' := by
  obtain ⟨g, agree, numbers⟩ := h.numbers.ahead (Nat.succ_le_succ aside.members)
  have agree : ∀ n ≤ w'.members.length, g n = f n := fun n hn => agree n (Nat.lt_succ_of_le hn)
  refine ⟨g, agree, ?_⟩
  constructor
  case count => rw [aside.count, h.count]
  case registries =>
    intro i hi
    exact ((h.registries i hi).same (aside.registries i hi) (.refl _)).congr (h.within i hi) agree
  case factories =>
    intro i hi
    rw [aside.factories i hi, h.factories i hi]
  case within => exact h.within
  case numbers => exact numbers

/-- A change of one registry that looks at no number. -/
theorem Alike.modify (h : Alike j f w w') (i : Nat) {change change' : Registry → Registry}
    (framed : Registry.Framed change) (framed' : Registry.Framed change')
    (law : ∀ r r', r.Renames f r' → (change r).Renames f (change' r'))
    (within : ∀ r, r.Within w'.members.length → (change' r).Within w'.members.length) :
    Alike j f ((registryAt i).modify change w) ((registryAt i).modify change' w') := by
  by_cases present : i < w'.registries.length
  case neg =>
    have present' : ¬ i < w.registries.length := h.count ▸ present
    rwa [modify_absent change present', modify_absent change' present]
  have present' : i < w.registries.length := h.count ▸ present
  constructor
  case count =>
    rw [registries_length, registries_length]
    exact h.count
  case registries =>
    intro k hk
    by_cases own : k = i
    · subst own
      rw [registryAt_modify framed present', registryAt_modify framed' present]
      exact law _ _ (h.registries k hk)
    · exact (h.registries k hk).same (same_of_modify framed w own) (same_of_modify framed' w' own)
  case factories => exact h.factories
  case within =>
    intro k hk
    by_cases own : k = i
    · subst own
      rw [registryAt_modify framed' present]
      exact within _ (h.within k hk)
    · exact (h.within k hk).same (same_of_modify framed' w' own)
  case numbers => exact h.numbers

theorem Alike.served (h : Alike j f w w') (i : Nat) : Alike j f (served i w) (served i w') where
  count := h.count
  registries := h.registries
  factories k hk := by simp only [Threads.served, List.getElem?_modify, h.factories k hk]
  within := h.within
  numbers := h.numbers

theorem Alike.grown (h : Alike j f w w') (i : Nat) (log log' : List Notice) :
    Alike j f { grown i w with log := log } { grown i w' with log := log' } where
  count := h.count
  registries := h.registries
  factories := (h.served i).factories
  within k hk := (h.within k hk).mono (by simp [Threads.grown])
  numbers := by
    simp only [Threads.grown, List.length_append, List.length_singleton]
    exact h.numbers.step

/-- A new display is entered under corresponding numbers. -/
theorem Alike.entered (h : Alike j f w w') (i thread : Nat) (log log' : List Notice) :
    Alike j f
      ((registryAt i).modify (·.enter thread (w.members.length + 1))
        { Threads.grown i w with log := log })
      ((registryAt i).modify (·.enter thread (w'.members.length + 1))
        { Threads.grown i w' with log := log' }) := by
  refine (h.grown i log log').modify i (Registry.framed_enter ..) (Registry.framed_enter ..)
    (fun r r' renames => ?_) fun r hr => hr.enter thread ?_
  · have number : w.members.length + 1 = f (w'.members.length + 1) := h.numbers.now.symm
    rw [number]
    exact renames.enter thread _
  · simp [Threads.grown]

theorem Alike.nextFactory (h : Alike j f w w') {i : Nat} (hi : i ≠ j) :
    nextFactory i w = nextFactory i w' := by
  rw [Threads.nextFactory, Threads.nextFactory, h.factories i hi]

/-- The realms are alike after a turn that both runs have, and so is what the turn is answered. -/
structure Kept (j : Nat) (f : Nat → Nat) (m m' : Turn) : Prop where
  outcome : m.outcome = m'.outcome.map (Finding.renamed f)
  after : Alike j f m.after m'.after
  shown : ∀ id ∈ answered? m'.outcome, id ≤ m'.after.members.length
  members : m'.before.members.length ≤ m'.after.members.length

theorem Kept.current (h : Alike j f w w') {i : Nat} (hi : i ≠ j) (thread : Nat) :
    Kept j f (.of (.current thread i) w) (.of (.current thread i) w') := by
  have slots : ((registryAt i).get w).local? thread =
      (((registryAt i).get w').local? thread).map f := (h.registries i hi).slot thread
  rw [turn_current, turn_current]
  cases slot : ((registryAt i).get w').local? thread with
  | some id =>
    rw [slot] at slots
    rw [current_kept slot, current_kept slots]
    refine ⟨rfl, h, ?_, Nat.le_refl _⟩
    rintro _ ⟨⟩
    exact (h.within i hi).slots thread _ slot
  | none =>
    rw [slot] at slots
    have fresh := current_fresh slots
    have fresh' := current_fresh slot
    rw [h.nextFactory hi] at fresh
    cases next : nextFactory i w' <;> simp only [next] at fresh fresh'
    case opens =>
      obtain ⟨log, made⟩ := fresh
      obtain ⟨log', made'⟩ := fresh'
      have number : w.members.length + 1 = f (w'.members.length + 1) := h.numbers.now.symm
      have last : { Threads.grown i w' with log := log' }.members.length =
          w'.members.length + 1 := by
        simp [Threads.grown]
      rw [made, made']
      refine ⟨?_, ?_, ?_, ?_⟩
      · rw [number]
        rfl
      · exact h.entered i thread log log'
      · rintro _ ⟨⟩
        exact Nat.le_of_eq last.symm
      · exact Nat.le_of_lt (Nat.lt_of_lt_of_eq (Nat.lt_succ_self _) last.symm)
    all_goals
      rw [fresh, fresh']
      exact ⟨rfl, h.served i, nofun, Nat.le_refl _⟩

/-- A deed that is answered from its registry. -/
theorem Kept.told (h : Alike j f w w') {i : Nat} (hi : i ≠ j) (answer : Registry → Finding)
    (run : ∀ w, (Turn.of d w).outcome = .done (answer ((registryAt i).get w)))
    (law : ∀ r r', r.Renames f r' → answer r = (answer r').renamed f)
    (shown : ∀ r last, r.Within last → ∀ id ∈ (answer r).shown?, id ≤ last)
    (after : Alike j f (Turn.of d w).after (Turn.of d w').after)
    (members : (Turn.of d w').after.members = w'.members) : Kept j f (.of d w) (.of d w') where
  outcome := by
    rw [run, run, law _ _ (h.registries i hi)]
    rfl
  after := after
  shown := by
    rw [run, members]
    exact shown _ _ (h.within i hi)
  members := Nat.le_of_eq (congrArg List.length members.symm)

/-- **What both runs do** they are answered alike, and the realms stay alike. -/
theorem Alike.kept (h : Alike j f w w') (hd : d.others j = true) :
    Kept j f (.of d w) (.of d w') := by
  have other {i : Nat} (used : d.registry? = some i) : i ≠ j := by
    simpa [Deed.others, used] using hd
  cases d with
  | current thread i => exact .current h (other rfl) thread
  | display id c => cases hd
  | main thread i =>
    refine .told h (other rfl) (fun r => .main r.main) (fun _ => rfl)
      (fun r r' renames => congrArg Finding.main renames.main) ?_ h rfl
    intro r last within id hid
    simp only [Finding.shown?, Registry.main] at hid
    cases main : r.mainDisplay? with
    | none => simp [main, Except.toOption] at hid
    | some m =>
      obtain rfl : m.id = id := by simpa [main, Except.toOption] using hid
      exact within.main m main
  | mainDisplay thread i =>
    have injective := h.numbers.order.injective
    refine .told h (other rfl) (fun r => .display (r.mainDisplay thread)) (fun _ => rfl)
      (fun r r' renames => congrArg Finding.display (renames.mainDisplay injective thread)) ?_ h rfl
    intro r last within id hid
    simp only [Finding.shown?] at hid
    cases granted : r.mainDisplay thread with
    | error e => simp [granted, Except.toOption] at hid
    | ok n =>
      obtain rfl : n = id := by simpa [granted, Except.toOption] using hid
      exact within.slots thread n (Registry.local?_of_mainDisplay granted)
  | contains thread i =>
    exact .told h (other rfl) (fun r => .flag (r.contains thread)) (fun _ => rfl)
      (fun r r' renames => congrArg Finding.flag (renames.contains thread))
      (by simp [Finding.shown?]) h rfl
  | size i =>
    exact .told h (other rfl) (fun r => .count r.size) (fun _ => rfl)
      (fun r r' renames => congrArg Finding.count renames.size) (by simp [Finding.shown?]) h rfl
  | detach thread i =>
    refine .told h (other rfl) (fun r => .detached (r.detach thread).1) (fun _ => rfl)
      (fun r r' renames => ?_) ?_ ?_ rfl
    · simp only [Registry.detach_fst, renames.slot]
      rfl
    · intro r last within id hid
      exact within.slots thread id ((Registry.detach_fst r thread).symm.trans hid)
    · exact h.modify i (Registry.framed_detach thread) (Registry.framed_detach thread)
        (fun r r' renames => renames.detach thread) fun r within => within.detach thread
  | endThread thread i =>
    refine .told h (other rfl) (fun _ => .nothing) (fun _ => rfl) (fun _ _ _ => rfl)
      (by simp [Finding.shown?]) ?_ rfl
    exact h.modify i (Registry.framed_endThread thread) (Registry.framed_endThread thread)
      (fun r r' renames => renames.endThread thread) fun r within => within.endThread thread

/-! ## Whole runs -/

/-- The runs of two realms that are alike: what both do is answered alike throughout, by one
renumbering that agrees with the first one on the displays there were. -/
theorem Alike.run (h : Alike j f w w') (ds : List Deed) :
    ∃ g, StrictMono g ∧ (∀ n ≤ w'.members.length, g n = f n) ∧
      answers ((turns w ds).filter (·.deed.others j)) =
        (answers (turns w' (ds.filter (·.others j)))).map (·.map (Finding.renamed g)) := by
  induction ds generalizing f w w' with
  | nil => exact ⟨f, h.numbers.order, fun _ _ => rfl, rfl⟩
  | cons d ds ih =>
    cases hd : d.others j with
    | false =>
      obtain ⟨f', agree, alike⟩ := h.left (untouched hd)
      obtain ⟨g, order, agree', same⟩ := ih alike
      refine ⟨g, order, fun n hn => (agree' n hn).trans (agree n hn), ?_⟩
      rw [turns, List.filter_cons_of_neg (by simp [Turn.of, hd]),
        List.filter_cons_of_neg (by simp [hd])]
      exact same
    | true =>
      have kept := h.kept hd
      obtain ⟨g, order, agree, same⟩ := ih kept.after
      refine ⟨g, order, fun n hn => agree n (hn.trans kept.members), ?_⟩
      rw [turns, List.filter_cons_of_pos (by simpa [Turn.of] using hd), List.filter_cons_of_pos hd,
        turns]
      simp only [answers, List.map_cons] at same ⊢
      rw [same, kept.outcome, renamed_congr kept.shown agree]

/-- **Registries are independent.** Take any deeds of any threads on any number of registries and
their displays, and leave out all deeds on one registry, and those on displays, which no registry
notices. There is one renumbering of displays, which keeps their order, such that every deed on
another registry is answered as before: the same errors, flags and counts, the same threads, and
displays under their new numbers. So two deeds are answered the same display in one run if and only
if they are in the other. -/
theorem registries_independent (factories : List (List Factory)) (j : Nat) (ds : List Deed) :
    let whole := answers ((turns (.new factories) ds).filter (·.deed.others j))
    let thinned := answers (turns (.new factories) (ds.filter (·.others j)))
    ∃ f : Nat → Nat, StrictMono f ∧ whole = thinned.map (·.map (Finding.renamed f)) ∧
      ∀ k l : Nat, whole[k]?.map answered? = whole[l]?.map answered? ↔
        thinned[k]?.map answered? = thinned[l]?.map answered? := by
  intro whole thinned
  obtain ⟨f, order, -, same⟩ := (Alike.new j factories).run ds
  refine ⟨f, order, same, fun k l => ?_⟩
  have shown (k : Nat) :
      whole[k]?.map answered? = (thinned[k]?.map answered?).map (Option.map f) := by
    simp only [whole, same, List.getElem?_map, Option.map_map]
    congr 1
    funext o
    exact answered?_renamed o
  rw [shown, shown]
  exact (Option.map_injective (Option.map_injective order.injective)).eq_iff

end Threads

end DisplayEnv
