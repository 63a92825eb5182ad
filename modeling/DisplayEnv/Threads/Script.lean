import DisplayEnv.Display.Teardown
import DisplayEnv.Registry

/-!
# Threads that share registries

A script of steps, each made by a named thread on one of several registries. A thread starts with
its first step and holds, for each registry, the display it was given last. A display that neither a
thread holds nor a slot keeps goes away and is torn down (`drop`). The displays of all registries
are numbered together (`NEXT_DISPLAY_ID`).

* `perform`: one step.
* `run`: a whole script, up to the end of all threads.
-/

namespace DisplayEnv.Threads

/-- What a registry's maker of displays (`BackendFactory`) does when it is called: it opens a
backend, fails, or panics. -/
inductive Factory where
  | opens
  | fails (cause : PlatformError)
  | givesUp (text : String)
  deriving DecidableEq, Repr

/-- What a thread does with a registry. -/
inductive Action where
  | current
  | main
  | mainDisplay
  | contains
  | detach
  /-- Ask about the display the thread holds. -/
  | held
  | teardown
  | dropHeld
  | color (c : Color)
  /-- So many new threads use the registry twice each and end. -/
  | race (n : Nat)
  deriving Repr

/-- A step of a named thread on a registry: an action, or the end of the thread. -/
structure Step where
  thread : String
  registry : Nat
  action : Option Action
  deriving Repr

inductive Reply where
  | nothing
  | flag (b : Bool)
  /-- A display, and whether it is the one that was held. -/
  | current (id : Nat) (same : Option Bool)
  /-- The main display, whether it belongs to the thread, and whether it is the one seen before. -/
  | main (id : Nat) (here : Bool) (unchanged : Option Bool)
  | display (id : Nat) (disposed : Bool)
  | held (id : Nat) (disposed : Bool) (live : Nat)
  | nothingHeld
  | color (h : NativeColor)
  /-- The displays of the racing threads in order, whether each got one display only, whether all
  saw one main display, how many own it, and for how many it is theirs. -/
  | race (ids : List Nat) (stable oneMain : Bool) (owners here : Nat)
  | displayError (e : DisplayError)
  | resourceError (e : ResourceError)
  | fault (c : Fault)
  deriving Repr

/-- The answer of a step: its reply, and the state of its registry afterwards. `closed` counts the
registry's displays whose connection is closed. -/
structure Report where
  reply : Reply
  size : Nat
  isEmpty : Bool
  closed : Nat
  deriving Repr

/-- A display and the registry that made it. -/
structure Member where
  registry : Nat
  display : Display Empty

/-- What each registry keeps under its lock, in the order of their making, and the slots of the
threads, which are one map for all of them. -/
structure Registries where
  registries : List RegistryState
  slots : Slots

/-- Registries with what is left of their makers' scripts, the displays in the order of their
making, the threads that run, what they hold, and the main displays that were seen. -/
structure Realm extends Registries where
  factories : List (List Factory)
  members : List Member
  threads : List (String × Nat)
  nextThread : Nat
  held : List ((Nat × Nat) × Nat)
  seen : List (Nat × MainDisplay)
  log : List Notice

namespace Realm

def new (factories : List (List Factory)) : Realm :=
  ⟨⟨factories.map fun _ => .empty, []⟩, factories, [], [], 1, [], [], []⟩

/-- Whether a thread holds the display or a slot keeps it. -/
def isReferenced (w : Realm) (id : Nat) : Bool :=
  w.held.any (·.2 == id) || w.slots.any (·.2 == id)

/-- The registry's displays whose connection is closed. -/
def closed (w : Realm) (registry : Nat) : Nat :=
  (w.members.filter fun m => m.registry == registry && m.display.backend.closed).length

end Realm

/-- A registry; its number is its place in the order of making. -/
def registryAt (i : Nat) : Lens Realm Registry where
  get w := ⟨w.registries[i]?.getD .empty, i, w.slots⟩
  set r w := { w with toRegistries :=
    if i < w.registries.length then ⟨w.registries.set i r.toRegistryState, r.slots⟩
    else w.toRegistries }

/-- The display with a number; numbers start with one. -/
def displayAt (id : Nat) : Lens Realm (Display Empty) where
  get w := (w.members[id - 1]?.map (·.display)).getD default
  set d w := { w with members := w.members.modify (id - 1) fun m => { m with display := d } }

def note (n : Notice) : Act Realm Unit := Act.change fun w => { w with log := w.log ++ [n] }

/-- The setting of the display with a number; it has nothing around it but the log. -/
def setting (id : Nat) : Setting Realm Empty where
  display := displayAt id
  note := note
  before _ := pure (.ok ())
  report := (displayAt id).view (·.backend.config.report)
  openSource source := pure (source.opened .empty)
  decoder := Picture.decode
  run t := nomatch t

/-- The next call of a registry's maker. -/
def takeFactory (i : Nat) : Act Realm Factory :=
  Act.alter fun w =>
    match w.factories[i]? with
    | some (f :: rest) => (f, { w with factories := w.factories.set i rest })
    | _ => (.opens, w)

/-- Make a display for a registry: the maker is called, then `new` on its backend. -/
def create (i : Nat) : Act Realm (Except PlatformError Nat) := do
  match ← takeFactory i with
  | .fails e => return .error e
  | .givesUp text => Act.fault (.raised (some text))
  | .opens =>
    let id ← Act.alter fun w =>
      let id := w.members.length + 1
      (id, { w with members := w.members ++ [⟨i, .new id (.new default)⟩] })
    note (.displayCreated id .headless)
    return .ok id

/-- The display of a thread in a registry (`current`). -/
def current (thread i : Nat) : Act Realm (Except DisplayError Nat) :=
  Registry.current (registryAt i) note thread (create i)

/-- A display goes away unless it is referenced. -/
def dropUnreferenced (id : Nat) : Act Realm Unit := do
  unless ← Act.view (·.isReferenced id) do (setting id).drop

/-! ## Threads -/

/-- The number of a running thread; a thread that does not run is started. -/
def threadNamed (name : String) : Act Realm Nat := do
  match (← Act.view (·.threads)).lookup name with
  | some t => return t
  | none =>
    Act.alter fun w =>
      (w.nextThread,
        { w with threads := (name, w.nextThread) :: w.threads, nextThread := w.nextThread + 1 })

/-- The display that a thread holds of a registry. -/
def held? (thread i : Nat) : Act Realm (Option Nat) :=
  Act.view fun w => w.held.lookup (thread, i)

/-- A thread holds a display of a registry, or none; what it held before goes away if it can. -/
def hold (thread i : Nat) (id : Option Nat) : Act Realm (Option Nat) := do
  let before ← held? thread i
  Act.change fun w =>
    { w with held := (id.map fun id => ((thread, i), id)).toList ++
        w.held.filter (·.1 ≠ (thread, i)) }
  match before with
  | some old => dropUnreferenced old
  | none => pure ()
  return before

/-- A thread lets go of everything it holds, then its slots are emptied. -/
def endThread (thread : Nat) : Act Realm Unit := do
  let registries := List.range (← Act.view (·.registries.length))
  discard <| Act.each (fun i => hold thread i none) registries
  discard <| Act.each (fun i => do
    let kept ← (registryAt i).view (·.local? thread)
    (registryAt i).change (·.endThread thread)
    match kept with
    | some id => dropUnreferenced id
    | none => pure ()) registries

/-- What one racing thread saw: its display at first and later, and the main display. -/
structure Sighting where
  thread : Nat
  first : Option Nat
  second : Option Nat
  main : Option MainDisplay

/-- One racing thread from start to end. -/
def raceOne (i : Nat) : Act Realm Sighting := do
  let thread ← Act.alter fun w => (w.nextThread, { w with nextThread := w.nextThread + 1 })
  let first ← current thread i
  let second ← current thread i
  let main ← (registryAt i).view (·.main)
  endThread thread
  return ⟨thread, first.toOption, second.toOption, main.toOption⟩

/-- What the racing threads saw together. -/
def raceReply (l : List Sighting) : Reply :=
  .race ((l.filterMap (·.first)).mergeSort (· ≤ ·)) (l.all fun s => s.first == s.second)
    (l.all fun s => s.main == (l.head?.bind (·.main)))
    (l.filter fun s => s.first == s.main.map (·.id)).length
    (l.filter fun s => s.main.map (·.thread) == some s.thread).length

/-! ## Steps -/

/-- Ask about the display that a thread holds. -/
def withHeld (thread i : Nat) (ask : Nat → Act Realm Reply) : Act Realm Reply := do
  match ← held? thread i with
  | some id => ask id
  | none => return .nothingHeld

/-- A display that a step is given and does not keep. -/
def shown (id : Nat) : Act Realm Reply := do
  let disposed ← (displayAt id).view (·.disposed)
  dropUnreferenced id
  return .display id disposed

/-- What a running thread does. -/
def act (thread i : Nat) : Action → Act Realm Reply
  | .current => do
    match ← current thread i with
    | .error e => return .displayError e
    | .ok id =>
      let before ← hold thread i (some id)
      return .current id (before.map (· == id))
  | .main => do
    match ← (registryAt i).view (·.main) with
    | .error e => return .displayError e
    | .ok m =>
      let before ← Act.alter fun w =>
        (w.seen.lookup i, { w with seen := (i, m) :: w.seen })
      return .main m.id (m.thread == thread) (before.map (· == m))
  | .mainDisplay => do
    match ← (registryAt i).view (·.mainDisplay thread) with
    | .error e => return .displayError e
    | .ok id => shown id
  | .contains => return .flag (← (registryAt i).view (·.contains thread))
  | .detach => do
    match ← (registryAt i).alter (·.detach thread) with
    | none => return .nothing
    | some id => note (.detached id); shown id
  | .held => withHeld thread i fun id => do
    let d ← (displayAt id).view fun d => d
    return .held id d.disposed d.backend.liveHandles
  | .teardown => withHeld thread i fun id => return .flag (← (setting id).teardown)
  | .dropHeld => return .flag (← hold thread i none).isSome
  | .color c => withHeld thread i fun id => do
    match ← (setting id).resolveColor c with
    | .ok h => return .color h
    | .error e => return .resourceError e
  | .race n => return raceReply (← Act.each (fun _ => raceOne i) (List.range n))

/-- End a thread: whether it was running. -/
def exit (name : String) : Act Realm Reply := do
  match (← Act.view (·.threads)).lookup name with
  | none => return .flag false
  | some thread =>
    endThread thread
    Act.change fun w => { w with threads := w.threads.filter (·.1 ≠ name) }
    return .flag true

/-- Perform a step; a fault is its reply. -/
def perform (s : Step) : Act Realm Report := do
  let x : Act Realm Reply := match s.action with
    | none => exit s.thread
    | some a => do act (← threadNamed s.thread) s.registry a
  let reply := match ← x.attempt with
    | .ok reply => reply
    | .error c => .fault c
  let r ← (registryAt s.registry).view id
  return ⟨reply, r.size, r.isEmpty, ← Act.view (·.closed s.registry)⟩

/-- End the threads that still run, in the order of their names. -/
def endAll : Act Realm Unit := do
  let running ← Act.view (·.threads)
  discard <| Act.each (fun t => endThread t.2) (running.mergeSort fun a b => a.1 ≤ b.1)

/-- The answers to a script, and its log. -/
def run (factories : List (List Factory)) (steps : List Step) :
    Option (List Report × List Notice) :=
  let script : Act Realm (List Report) := do
    let reports ← Act.each perform steps
    endAll
    return reports
  match script (.new factories) with
  | (.done reports, w) => some (reports, w.log)
  | _ => none

end DisplayEnv.Threads
