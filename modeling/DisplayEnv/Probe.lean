import DisplayEnv.Bridge
import DisplayEnv.Config
import DisplayEnv.Log.Filter
import DisplayEnv.Pump
import DisplayEnv.Registry

/-!
# The probe

A program (`dk_probe`) that opens the display of its thread and shows what it finds: the monitors,
the size of a sample text in three fonts, some constants of the platform, and the counts of an event
loop and of the caches. While the loop runs (`run_event_loop`), a second thread sends it one task
and the end of its root window; a schedule says how many of the two events arrive before each look
at the queue and before each wait, and everything arrives once the schedule is over.

Printed lines and notices appear in the order in which they come up; a filter decides which notices
are shown. The filter is the one place where a configuration named as an argument counts; the
display itself is made with the configuration at the default path (`open_default_backend`), by the
registry of the process (`registry`), which is the only one here.

* `Probe.session`: what is printed and told, and how it ends.
* `Probe.run`: the lines that are shown, the complaints, and the exit code.
-/

namespace DisplayEnv.Probe

/-- What comes out of the program: a text, the counts of the loop, or a notice. -/
inductive Line where
  | text (s : String)
  | loop (stats : PumpStats)
  | notice (n : Notice)
  deriving DecidableEq, Repr

/-- What the program is run with. -/
structure Invocation where
  /-- The configuration that is named as an argument. -/
  named : Option (Except LoadError DisplayConfig)
  /-- The configuration at the default path, and what there is to tell about it. -/
  standing : DisplayConfig × List Notice
  /-- The variable with a filter of its own. -/
  logFilter : Option String
  /-- How many events arrive before each look at the queue and before each wait. -/
  schedule : List Nat

/-- The invocation with arguments, in an environment with files. -/
def Invocation.ofFiles (files : Files) (env : Environment) (arguments : List String)
    (logFilter : Option String) (schedule : List Nat) : Invocation where
  named := arguments.head?.map (DisplayConfig.tryLoad files)
  standing := DisplayConfig.load files (DisplayConfig.defaultPath env)
  logFilter := logFilter
  schedule := schedule

/-- The task that the second thread sends. -/
inductive Task where
  | tell
  deriving DecidableEq, Repr

/-- The program's state: the display of its thread, the registry, what came out so far, and what the
second thread has still to send. -/
structure Stand where
  display : Display Task
  registry : Registry
  out : List Line
  unsent : List (Event Task)
  schedule : List Nat

/-- Why the program fails. -/
inductive Failure where
  | load (cause : LoadError)
  | display (cause : DisplayError)
  deriving DecidableEq, Repr

/-- What a failure leaves on the error output. -/
def Failure.report : Failure → List String
  | .load cause => ["Error: " ++ cause.heading, "", "Caused by:", "    " ++ cause.reason]
  | .display cause => ["Error: " ++ cause.message]

/-- How a run ends. -/
structure Ending where
  /-- The exit code, unless the program is cut off. -/
  code : Option Nat
  out : List Line
  err : List String
  deriving Repr

/-! ## The surroundings of the display -/

def displayPart : Lens Stand (Display Task) := ⟨(·.display), fun d s => { s with display := d }⟩

def registryPart : Lens Stand Registry := ⟨(·.registry), fun r s => { s with registry := r }⟩

def put (l : Line) : Act Stand Unit := Act.change fun s => { s with out := s.out ++ [l] }

def note (n : Notice) : Act Stand Unit := put (.notice n)

def print (s : String) : Act Stand Unit := put (.text s)

/-- Events of the second thread arrive. -/
def receive (s : Stand) : Stand :=
  let count := s.schedule.head?.getD s.unsent.length
  let send (d : Display Task) (e : Event Task) : Display Task :=
    { d with backend := d.backend.send e }
  { s with
    display := (s.unsent.take count).foldl send s.display
    unsent := s.unsent.drop count
    schedule := s.schedule.drop 1 }

/-- The setting of the program's display. -/
def setting : Setting Stand Task where
  display := displayPart
  note := note
  before point := do
    if point = .dispatch ∨ point = .sleep then Act.change receive
    return .ok ()
  report := displayPart.view (·.backend.config.report)
  openSource source := pure (source.opened .empty)
  decoder := Picture.decode
  run
    | .tell => do note .probeDispatched; return .ok ()

/-! ## The parts of the program -/

/-- The text that is measured (`SAMPLE_TEXT`). -/
def sample : String := "The quick brown fox"

def sampleFonts : List Font :=
  [.plain "Arial" 9, .plain "Arial" 12, (Font.plain "Arial" 12).withBold]

/-- The constants that are shown (`PROPERTY_NAMES`). -/
def constantNames : List String := ["GWL_STYLE", "GWL_EXSTYLE", "GWLP_USERDATA", "WS_VISIBLE"]

/-- An action that may fail, and one that goes on from it. -/
def andThen {α β : Type} (x : Act Stand (Except DisplayError α))
    (f : α → Act Stand (Except DisplayError β)) : Act Stand (Except DisplayError β) := do
  match ← x with
  | .ok a => f a
  | .error e => return .error e

/-- An action on resources as one of a display. -/
def onResources {α : Type} (x : Act Stand (Except ResourceError α)) :
    Act Stand (Except DisplayError α) := do
  match ← x with
  | .ok a => return .ok a
  | .error e => return .error (.resource e)

/-- Open a display with the configuration at the default path (`open_default_backend`). -/
def openDisplay (v : Invocation) : Act Stand (Except PlatformError Nat) := do
  discard <| Act.each note v.standing.2
  displayPart.change fun _ => .new 1 (.new v.standing.1.headless)
  note (.displayCreated 1 .headless)
  return .ok 1

/-- The program's thread. -/
def mainThread : Nat := 1

/-- The line of a monitor, with a mark at the primary one. -/
def monitorLine (primary m : Monitor) : String :=
  "monitor " ++ toString m.id ++ ": " ++ m.bounds.debugText ++ " work " ++ m.workArea.debugText ++
    (if m.id = primary.id then " *" else "")

/-- Print the size of the sample in each font. -/
def showFonts (S : Setting Stand Task) : List Font → Act Stand (Except DisplayError Unit)
  | [] => pure (.ok ())
  | f :: rest =>
    andThen (onResources (S.textExtent f sample)) fun (width, height) => do
      print (f.text ++ ": " ++ toString width ++ "x" ++ toString height)
      showFonts S rest

/-- Print the constants, through the bridge of the platform. -/
def showConstants : Act Stand Unit := do
  let (bridge, chosen) := Bridge.detect
  discard <| Act.each note chosen
  discard <| Act.each (fun name => do
    let (value, notices) := bridge.constant name
    discard <| Act.each note notices
    print (bridge.platform.identifier ++ " " ++ name ++ " = " ++ toString value.toInt))
    constantNames

/-- Run the event loop until the second thread ends it (`run_event_loop`). -/
def runLoop (S : Setting Stand Task) : Act Stand Unit := do
  let root ← S.backend.alter (·.createWindow)
  Act.change fun s => { s with unsent := [.task .tell, .destroy root] }
  let bound := (← Act.view (·.schedule.length)) + 4
  let (ended, pump) ← S.runNested bound root .new
  Act.ofExcept ended
  put (.loop pump.stats)

/-- What is shown of an open display. -/
def explore (S : Setting Stand Task) (id : Nat) : Act Stand (Except DisplayError Unit) := do
  let isMain := match (← Act.view (·.registry)).main with
    | .ok m => m.thread == mainThread
    | .error _ => false
  print ("display #" ++ toString id ++ " on headless (main: " ++ toString isMain ++ ")")
  andThen S.primaryMonitor fun primary =>
    andThen S.monitors fun monitors => do
      discard <| Act.each (fun m => print (monitorLine primary m)) monitors
      andThen (showFonts S sampleFonts) fun () =>
        andThen (onResources (S.resolveColor .black)) fun _ =>
          andThen (onResources (S.resolveColor .white)) fun _ => do
            showConstants
            runLoop S
            let total ← Act.ofExcept (← S.stats).total
            print ("cache: " ++ (← Act.ofExcept total.text))
            discard <| S.teardown
            match ← registryPart.alter (·.detach mainThread) with
            | some id => note (.detached id)
            | none => pure ()
            return .ok ()

/-- The program from its display on: the rest of `main` when the filter of the log is set. -/
def main (v : Invocation) : Act Stand (Except DisplayError Unit) :=
  andThen (Registry.current registryPart note mainThread (openDisplay v)) (explore setting)

/-! ## Runs -/

/-- The state before anything happened. -/
def Stand.start (v : Invocation) : Stand := ⟨default, .empty 1, [], [], v.schedule⟩

/-- The configuration whose filter counts: the one named as an argument, or the one at the default
path. -/
def filterConfig (v : Invocation) : Except LoadError DisplayConfig :=
  match v.named with
  | some loaded => loaded
  | none => .ok v.standing.1

/-- The filter of the log (`EnvFilter`) and the complaints about it. The variable counts if all of
it can be read, otherwise the configuration's text, as far as it can be. -/
def filterOf (v : Invocation) (config : DisplayConfig) : Filter × List String :=
  match v.logFilter.map Filter.ofText with
  | some (.ok f) => (f, [])
  | _ => Filter.ofTextLossy config.logFilter

/-- What comes out of the program and how it ends; none if it never does or is cut off. -/
def session (v : Invocation) : Option (Except DisplayError Unit × Stand) :=
  match main v (.start v) with
  | (.done ended, s) => some (ended, s)
  | _ => none

/-- The lines that a filter lets through. -/
def shown (f : Filter) (out : List Line) : List Line :=
  out.filter fun
    | .notice n => f.shows n
    | _ => true

def isNotice : Line → Bool
  | .notice _ => true
  | _ => false

/-- The end of a run that left its display behind. The display goes away with its thread, when the
log's buffer may be gone already: it is, if anything was written to it before, and writing to it
then cuts the program off. -/
def leaveBehind (f : Filter) (s : Stand) (err : List String) : Ending :=
  let before := shown f s.out
  let after := match setting.drop { s with out := [] } with
    | (_, t) => shown f t.out
  if before.any isNotice && !after.isEmpty then ⟨none, before, err⟩
  else ⟨some 1, before ++ after, err⟩

/-- Run the program. -/
def run (v : Invocation) : Ending :=
  match filterConfig v with
  | .error e => ⟨some 1, [], (Failure.load e).report⟩
  | .ok config =>
    let (f, complaints) := filterOf v config
    match session v with
    | some (.ok (), s) => ⟨some 0, shown f s.out, complaints⟩
    | some (.error e, s) =>
      leaveBehind f s (complaints ++ (Failure.display e).report)
    | none => ⟨none, [], complaints⟩

end DisplayEnv.Probe
