import DisplayEnv.Proofs.Cache.Keyed
import DisplayEnv.Threads.Script

/-!
# Registries on one map of slots

All registries keep the displays of threads in one map of slots, each under a number of its own. So
an operation of one registry changes a map that the others read, and leaves everything in it that
they look up.

* `Registry.known?`, `Registry.local?`: what a registry knows of a thread under its lock, and what
  is in the thread's slot, after each operation.
* `Registry.Same`: registries that differ at most in the slots of others.
* `Registry.Framed`: an operation that changes no slot of another registry. All of them are.
* `registryAt_modify`, `same_of_modify`: a registry after an operation of its own, and after one of
  another registry.
-/

namespace DisplayEnv

namespace Registry

/-! ## The two accounts of one registry -/

/-- The display that the registry knows of a thread. -/
def known? (r : Registry) (thread : Nat) : Option Nat := r.threads.lookup thread

section

variable (r : Registry) (thread id other : Nat)

/-- A thread's slot when one slot of the registry is emptied. -/
theorem lookup_emptied (number : Nat) :
    (r.slots.filter (·.1 ≠ (thread, number))).lookup (other, number) =
      if other = thread then none else r.slots.lookup (other, number) := by
  rw [Cache.lookup_filter_ne]
  simp

@[simp] theorem threads_empty (number : Nat) : (empty number).threads = [] := rfl

@[simp] theorem mainDisplay?_empty (number : Nat) : (empty number).mainDisplay? = none := rfl

@[simp] theorem known?_empty (number : Nat) : (empty number).known? thread = none := rfl

@[simp] theorem local?_empty (number : Nat) : (empty number).local? thread = none := rfl

@[simp] theorem known?_enter :
    (r.enter thread id).known? other = if other = thread then some id else r.known? other :=
  Cache.lookup_cons_filter r.threads thread other id

@[simp] theorem local?_enter :
    (r.enter thread id).local? other = if other = thread then some id else r.local? other := by
  have entered := Cache.lookup_cons_filter r.slots (thread, r.number) (other, r.number) id
  simp only [Prod.mk.injEq, and_true] at entered
  exact entered

@[simp] theorem known?_endThread : (r.endThread thread).known? other = r.known? other := rfl

@[simp] theorem local?_endThread :
    (r.endThread thread).local? other = if other = thread then none else r.local? other :=
  lookup_emptied r thread other r.number

/-- The registry without the display of a thread. -/
def without (r : Registry) (thread : Nat) : Registry :=
  { r with
    threads := r.threads.filter (·.1 ≠ thread)
    slots := r.slots.filter (·.1 ≠ (thread, r.number)) }

@[simp] theorem known?_without :
    (r.without thread).known? other = if other = thread then none else r.known? other :=
  Cache.lookup_filter_ne r.threads thread other

@[simp] theorem local?_without :
    (r.without thread).local? other = if other = thread then none else r.local? other :=
  lookup_emptied r thread other r.number

theorem detach_eq :
    r.detach thread = match r.local? thread with
      | none => (none, r)
      | some id => (some id, r.without thread) := rfl

@[simp] theorem local?_detach :
    (r.detach thread).2.local? other = if other = thread then none else r.local? other := by
  rw [detach_eq]
  cases slot : r.local? thread with
  | some id => exact local?_without r thread other
  | none =>
    show r.local? other = _
    split
    · rename_i own
      rw [own, slot]
    · rfl

end

variable {r r' r'' : Registry} {thread id other : Nat}

/-- The threads that the registry knows. -/
theorem mem_threads_iff : other ∈ r.threads.map (·.1) ↔ r.known? other ≠ none := by
  have h : r.known? other = none ↔ other ∉ r.threads.map (·.1) :=
    Cache.find?_eq_none_iff (c := ⟨r.threads, 0, 0⟩)
  rw [ne_eq, h, Decidable.not_not]

/-! ## The slots of others -/

/-- The same registry, but for the slots of other registries. -/
structure Same (r' r : Registry) : Prop where
  state : r'.toRegistryState = r.toRegistryState
  slot : ∀ thread, r'.local? thread = r.local? thread

namespace Same

theorem refl (r : Registry) : r.Same r := ⟨rfl, fun _ => rfl⟩

theorem of_eq (h : r' = r) : r'.Same r := h ▸ refl r

theorem trans (h : r''.Same r') (h' : r'.Same r) : r''.Same r :=
  ⟨h.state.trans h'.state, fun thread => (h.slot thread).trans (h'.slot thread)⟩

theorem threads (h : r'.Same r) : r'.threads = r.threads := congrArg (·.threads) h.state

theorem mainDisplay? (h : r'.Same r) : r'.mainDisplay? = r.mainDisplay? :=
  congrArg (·.mainDisplay?) h.state

theorem known? (h : r'.Same r) (thread : Nat) : r'.known? thread = r.known? thread :=
  congrArg (·.lookup thread) h.threads

end Same

/-- An operation that changes no slot of another registry. -/
structure Framed (change : Registry → Registry) : Prop where
  number : ∀ r, (change r).number = r.number
  slots : ∀ r thread k, k ≠ r.number →
    (change r).slots.lookup (thread, k) = r.slots.lookup (thread, k)

theorem framed_enter (thread id : Nat) : Framed (·.enter thread id) where
  number _ := rfl
  slots r other k hk := by
    have entered := Cache.lookup_cons_filter r.slots (thread, r.number) (other, k) id
    rwa [if_neg fun e => hk (Prod.mk.inj e).2] at entered

theorem framed_endThread (thread : Nat) : Framed (·.endThread thread) where
  number _ := rfl
  slots r other k hk := by
    have emptied := Cache.lookup_filter_ne r.slots (thread, r.number) (other, k)
    rwa [if_neg fun e => hk (Prod.mk.inj e).2] at emptied

theorem framed_detach (thread : Nat) : Framed fun r => (r.detach thread).2 where
  number r := by
    rw [detach_eq]
    cases r.local? thread <;> rfl
  slots r other k hk := by
    rw [detach_eq]
    cases r.local? thread with
    | none => rfl
    -- what a detach does to the slots, the end of the thread does
    | some id => exact (framed_endThread thread).slots r other k hk

end Registry

namespace Threads

open Registry (Framed Same)

/-! ## Registries in a realm -/

variable {w w' : Realm} {i j : Nat}

theorem registryAt_eq (h : w'.toRegistries = w.toRegistries) :
    (registryAt i).get w' = (registryAt i).get w := by
  simp only [registryAt, h]

@[simp] theorem registryAt_new (factories : List (List Factory)) :
    (registryAt i).get (.new factories) = .empty i := by
  simp only [registryAt, Realm.new, List.getElem?_map, Registry.empty]
  cases factories[i]? <;> rfl

theorem registryAt_set {r : Registry} (hi : i < w.registries.length) (number : r.number = i) :
    (registryAt i).get ((registryAt i).set r w) = r := by
  obtain ⟨state, k, slots⟩ := r
  obtain rfl : k = i := number
  simp [registryAt, hi]

/-- A registry after an operation of its own. -/
theorem registryAt_modify {change : Registry → Registry} (h : Framed change)
    (hi : i < w.registries.length) :
    (registryAt i).get ((registryAt i).modify change w) = change ((registryAt i).get w) :=
  registryAt_set hi (h.number _)

/-- A registry that there is not is left alone. -/
theorem modify_absent (change : Registry → Registry) (absent : ¬ i < w.registries.length) :
    (registryAt i).modify change w = w := by
  simp only [Lens.modify, registryAt, if_neg absent]

/-- A registry after an operation of another one. -/
theorem same_of_modify {change : Registry → Registry} (h : Framed change) (w : Realm)
    (other : i ≠ j) :
    ((registryAt i).get ((registryAt j).modify change w)).Same ((registryAt i).get w) := by
  by_cases present : j < w.registries.length
  · constructor
    · simp [Lens.modify, registryAt, present, Ne.symm other]
    · intro thread
      refine Eq.trans ?_ (h.slots ((registryAt j).get w) thread i other)
      simp only [Lens.modify, registryAt, if_pos present, Registry.local?]
  · rw [modify_absent change present]
    exact .refl _

theorem registries_length (change : Registry → Registry) (w : Realm) :
    ((registryAt i).modify change w).registries.length = w.registries.length := by
  simp only [Lens.modify, registryAt]
  split <;> simp

end Threads

end DisplayEnv
