import DisplayEnv.Act
import DisplayEnv.Error
import DisplayEnv.Notice

/-!
# The displays of threads

A registry (`Registry`) gives every thread a display of its own, made on first use, and remembers
the first of all as the main one. It keeps two accounts of that. Under its lock (`RegistryState`) it
knows for each thread the number of the display made last, and goes on knowing it when the thread
has ended. The displays themselves are in slots, one for each thread and registry, which go with
their thread. The slots of all registries are one map (`LOCAL_DISPLAYS`), keyed by thread and by the
number that a registry is given when it is made (`NEXT_REGISTRY_ID`); a registry looks up its own
number only. All displays are of one kind, so what is found in a slot can always be used
(`downcast`). Threads and displays are numbers here. What making a display means is left to the
caller.

* `current`: the display of a thread, made if there is none.
* `main`, `mainDisplay`: the main display, and access to it from a thread (`main_display`).
* `detach`, `endThread`: a slot emptied, on purpose (`detach_current`) or with its thread.
-/

namespace DisplayEnv

/-- The main display and the thread it belongs to (`MainDisplay`). -/
structure MainDisplay where
  id : Nat
  thread : Nat
  deriving DecidableEq, Repr

/-- The display in each slot, by thread and number of the registry. -/
abbrev Slots := List ((Nat × Nat) × Nat)

/-- What a registry keeps under its lock: the number of each thread's display, and the main one. -/
structure RegistryState where
  threads : List (Nat × Nat)
  mainDisplay? : Option MainDisplay
  deriving DecidableEq, Repr

/-- The state of a registry that no thread has used. -/
def RegistryState.empty : RegistryState := ⟨[], none⟩

/-- A registry by its number, with the slots of all registries. -/
structure Registry extends RegistryState where
  number : Nat
  slots : Slots
  deriving DecidableEq, Repr

namespace Registry

/-- A registry that no thread has used (`new`). -/
def empty (number : Nat) : Registry := ⟨.empty, number, []⟩

/-- The display in a thread's slot (`local`). -/
def local? (r : Registry) (thread : Nat) : Option Nat := r.slots.lookup (thread, r.number)

/-- Whether a thread has a display (`contains_current`). -/
def contains (r : Registry) (thread : Nat) : Bool := (r.local? thread).isSome

/-- The number of threads that are known (`len`). -/
def size (r : Registry) : Nat := r.threads.length

def isEmpty (r : Registry) : Bool := r.size == 0

/-- An entry under a key, in place of the one that was there. -/
def assign {K : Type} [DecidableEq K] (l : List (K × Nat)) (key : K) (id : Nat) : List (K × Nat) :=
  (key, id) :: l.filter (·.1 ≠ key)

/-- Enter a new display of a thread; the first one becomes the main one. -/
def enter (r : Registry) (thread id : Nat) : Registry where
  threads := assign r.threads thread id
  mainDisplay? := some (r.mainDisplay?.getD ⟨id, thread⟩)
  number := r.number
  slots := assign r.slots (thread, r.number) id

/-- The main display (`main`), once there was any. -/
def main (r : Registry) : Except DisplayError MainDisplay :=
  match r.mainDisplay? with
  | some m => .ok m
  | none => .error .notRunning

/-- The main display, for its own thread as long as it has not detached it (`main_display`). -/
def mainDisplay (r : Registry) (thread : Nat) : Except DisplayError Nat := do
  let m ← r.main
  if m.thread ≠ thread then throw .wrongThread
  match r.local? thread with
  | some id => if id = m.id then return id else throw .disposed
  | none => throw .disposed

/-- Take the display out of a thread's slot (`detach_current`). -/
def detach (r : Registry) (thread : Nat) : Option Nat × Registry :=
  match r.local? thread with
  | none => (none, r)
  | some id =>
    (some id,
      { r with
        threads := r.threads.filter (·.1 ≠ thread)
        slots := r.slots.filter (·.1 ≠ (thread, r.number)) })

/-- A thread ends, and its slot with it. -/
def endThread (r : Registry) (thread : Nat) : Registry :=
  { r with slots := r.slots.filter (·.1 ≠ (thread, r.number)) }

variable {σ : Type}

/-- The display of a thread (`current`). When there is none, `create` makes one and gives its
number; the first display of all is told to the log as the main one. -/
def current (registry : Lens σ Registry) (note : Notice → Act σ Unit) (thread : Nat)
    (create : Act σ (Except PlatformError Nat)) : Act σ (Except DisplayError Nat) := do
  match ← registry.view (·.local? thread) with
  | some id => return .ok id
  | none =>
    match ← create with
    | .error e => return .error (.platform e)
    | .ok id =>
      if ← registry.view (·.mainDisplay?.isNone) then note (.mainDesignated id thread)
      registry.change (·.enter thread id)
      return .ok id

end Registry

end DisplayEnv
