import DisplayEnv.Bridge
import DisplayEnv.Config.Schema
import DisplayEnv.Session.World

/-!
# Running a script

Every step is performed to its end and answered, also one that gives up: its fault is its reply, and
the script goes on behind it. Handlers run the same way from within, so a step can hold other steps
to any depth; the depth is bounded by the size of the script, because no step is performed twice,
and so is the number of ticks of a loop, which either takes an event that a step has posted or
waits, and waits are limited.

* `perform`: one step. The first argument bounds the depth, the second the ticks of a loop.
* `run`: a whole script, from fresh displays to the last one dropped.
-/

namespace DisplayEnv.Session

/-- The reply for a value, or for the error in its place. -/
def replyOr {ε α : Type} (onError : ε → Reply) (onValue : α → Reply) : Except ε α → Reply
  | .ok a => onValue a
  | .error e => onError e

/-! ## Displays that come and go -/

/-- Let the display at a seat go away if it left the seat and nothing uses it. -/
def dropUnused (S : Setting World Handler) (i : Nat) : Act World Unit := do
  let s ← (seatAt i).view id
  if !s.held && s.uses == 0 && !s.dropped then
    (seatAt i).change fun s => { s with dropped := true }
    S.drop

/-- Use the display at a seat, if there is one. -/
def usingDisplay (S : Setting World Handler) (i : Nat) (x : Act World Reply) : Act World Reply := do
  if ← (seatAt i).view (·.held) then
    (seatAt i).change fun s => { s with uses := s.uses + 1 }
    let ended ← x.attempt
    (seatAt i).change fun s => { s with uses := s.uses - 1 }
    dropUnused S i
    Act.ofExcept ended
  else return .gone

/-- Use the backend at a seat, if there is one. -/
def usingBackend (i : Nat) (x : Act World Reply) : Act World Reply := do
  if ← (seatAt i).view (·.backendHeld) then x else return .gone

/-! ## Operations -/

/-- The reply for a handle, which is kept under a name. -/
def keepHandle {ε α : Type} (i : Nat) (slot : Option String) (wrap : α → Handle)
    (onError : ε → Reply) : Except ε α → Act World Reply
  | .error e => pure (onError e)
  | .ok h => do
    (seatAt i).change (Seat.keep slot (wrap h))
    return .handle (wrap h)

/-- Set a property of a window through a bridge of the display's platform, and read it. -/
def bridgeSetGet (w : Window) (key : Int32) (value : Int64) : Told (Bool × Int64) :=
  let (bridge, chosen) := Bridge.forPlatform .headless
  let ((set, onSet), bridge) := bridge.setProperty (.window w) key value
  let (read, onRead) := bridge.property (.window w) key
  ((set, read), chosen ++ onSet ++ onRead)

def onDisplay (S : Setting World Handler) (i : Nat) : DisplayAction → Act World Reply
  | .resolveColor c slot => do keepHandle i slot .color .resourceError (← S.resolveColor c)
  | .releaseColor c => return .flag (← S.releaseColor c)
  | .releaseAllColors => return .count (← S.releaseAllColors)
  | .resolveFont f slot => do keepHandle i slot .font .resourceError (← S.resolveFont f)
  | .releaseFont f => return .flag (← S.releaseFont f)
  | .releaseAllFonts => return .count (← S.releaseAllFonts)
  | .resolveImage im slot => do keepHandle i slot .image .resourceError (← S.resolveImage im)
  | .image im => return .handle? (← S.image? im)
  | .releaseImage im => return .flag (← S.releaseImage im)
  | .releaseAllImages => return .count (← S.releaseAllImages)
  | .scratchGc slot => do keepHandle i slot .gc .resourceError (← S.scratchGc)
  | .textExtent f text =>
    return replyOr .resourceError (fun e => .size e.1 e.2) (← S.textExtent f text)
  | .monitors => do
    match ← S.monitors with
    | .error e => return .displayError e
    | .ok list =>
      let serial ← S.display.view (·.layouts)
      let last ← (seatAt i).alter fun s => (s.answered, { s with answered := some serial })
      return .layout list (last.map (· == serial))
  | .primaryMonitor => return replyOr .displayError .monitor (← S.primaryMonitor)
  | .invalidateMonitors => do S.invalidateMonitors; return .nothing
  | .stats => return .stats (← S.stats)
  | .teardown => return .flag (← S.teardown)
  | .isDisposed => return .flag (← S.display.view (·.disposed))
  | .id => return .count (← S.display.view (·.id))
  | .platform => return .platform .headless
  | .bridgeSetGet w key value => do
    let ((set, read), notices) := bridgeSetGet w key value
    discard <| Act.each note notices
    return .property set read

/-- Give a handle back to the backend, whoever keeps it. -/
def dispose (S : Setting World Handler) : Handle → Act World Unit
  | .color h => S.disposeColor h
  | .font h => S.disposeFont h
  | .image h => S.disposeImage h
  | .gc h => S.disposeGc h

/-- What the backend answers about a handle; a font answers with the size of a text. -/
def query (text : String) : Handle → Act World Reply
  | .color h => pure (.rgb h.r h.g h.b)
  | .image h => pure (.size h.width.toNat h.height.toNat)
  | .gc h => pure (.count h.id)
  | .font h => do
    let (width, height) ← Act.ofExcept (Headless.textExtent h text.length)
    return .size width height

/-- Have the backend make a handle. -/
def makeOn {α : Type} (S : Setting World Handler)
    (create : Headless Handler → Except PlatformError (α × Headless Handler)) :
    Act World (Except PlatformError α) := do
  match create (← S.backend.view id) with
  | .error e => return .error e
  | .ok (a, backend) => S.backend.change fun _ => backend; return .ok a

def onBackend (S : Setting World Handler) (i : Nat) : BackendAction → Act World Reply
  | .color r g b slot => do
    keepHandle i slot .color .platformError (← makeOn S (·.createColor r g b))
  | .font f slot => do keepHandle i slot .font .platformError (← makeOn S (·.createFont f))
  | .image width height slot => do
    keepHandle i slot .image .platformError (← makeOn S (·.createImage ⟨width, height, []⟩))
  | .gc slot => do keepHandle i slot .gc .platformError (← makeOn S (·.createGc))
  | .dispose slot => do
    match (← (seatAt i).view (·.slots)).lookup slot with
    | some h => dispose S h; return .nothing
    | none => return .nothing
  | .query slot text => do
    match (← (seatAt i).view (·.slots)).lookup slot with
    | some h => query text h
    | none => return .nothing
  | .monitors => return .monitors (← S.backend.view (·.config.report))
  | .dispatch => return replyOr .platformError .flag (← S.dispatchNext)
  | .sleep => do S.backend.change (·.sleep); return .nothing
  | .close => do S.closeBackend; return .nothing
  | .isClosed => return .flag (← S.backend.view (·.closed))
  | .journal => return .count (← S.backend.view (·.journal.length))
  | .createWindow => return .count (← S.backend.alter (·.createWindow)).raw
  | .destroyWindow w => do S.backend.change (·.destroyWindow w); return .nothing
  | .postDestroy w => do S.backend.change (·.post (.destroy w)); return .nothing
  | .isDestroyed w => return .flag (← S.backend.view (·.isDestroyed w))
  | .pending => return .count (← S.backend.alter (·.pendingEvents))
  | .config => return .text (← S.backend.view (·.config.toJson.compact))

/-- Send an event to the backend at a seat: whether anything is there to receive it. -/
def send (S : Setting World Handler) (i : Nat) (e : Event Handler) : Act World Reply := do
  if ← (seatAt i).view (·.backendAlive) then
    S.backend.change (·.send e)
    return .flag true
  else return .flag false

/-- The display leaves its seat: whether it was there. -/
def leave (S : Setting World Handler) (i : Nat) : Act World Bool := do
  let was ← (seatAt i).alter fun s => (s.held, { s with held := false })
  dropUnused S i
  return was

def onOutside (S : Setting World Handler) (i : Nat) : OutsideAction → Act World Reply
  | .setMonitors report => do
    (seatAt i).change fun s => { s with report := report }
    return .nothing
  | .opens => return .count (← Act.view (·.opens))
  | .writeFile path bytes => do
    Act.change fun w => { w with files := (w.files.put path bytes).2 }
    return .nothing
  | .removeFile path => do
    match (← Act.view (·.files)).remove? path with
    | some files => Act.change fun w => { w with files := files }; return .flag true
    | none => return .flag false
  | .sendDestroy w => send S i (.destroy w)
  | .sendWake => send S i .wake
  | .drop => return .flag (← leave S i)
  | .dropBackend => do
    discard <| leave S i
    return .flag (← (seatAt i).alter fun s => (s.backendHeld, { s with backendHeld := false }))

/-! ## Pumps -/

/-- The reply of a loop and the pump after it; a loop that ended in a fault is a fault here. -/
def loopReply (ended : Except Fault Unit × Pump) : Reply × Pump :=
  match ended.1 with
  | .ok () => (.pumpStats ended.2.stats, ended.2)
  | .error c => (.fault c, ended.2)

def onPump (S : Setting World Handler) (bound : Nat) (p : Pump) :
    PumpAction → Act World (Reply × Pump)
  | .tick => do
    let (t, p) ← S.tick p
    return (.tick t, p)
  | .run root => return loopReply (← S.runMain bound root p)
  | .runNested root => return loopReply (← S.runNested bound root p)
  | .stats => return (.pumpStats p.stats, p)
  | .state => return (.pumpState p.state, p)

/-! ## Reports -/

/-- The kind and the number of an entry of the journal. -/
def entryKey : Released → Nat × Nat
  | .color id => (0, id)
  | .font id => (1, id)
  | .image id => (2, id)
  | .gc id => (3, id)
  | .connection => (4, 0)

/-- Entries with each stretch of one kind sorted by number, for handles that are released together
are released in no particular order. -/
def sortStretches (entries : List Released) : List Released :=
  (entries.splitBy fun a b => (entryKey a).1 == (entryKey b).1).flatMap
    (·.mergeSort fun a b => (entryKey a).2 ≤ (entryKey b).2)

/-- What the backend at a seat released since the last report, and how many of its handles are live.
-/
def survey (s : Seat) : (List Released × Option Nat) × Seat :=
  if s.backendHeld then
    let journal := s.display.backend.journal
    ((sortStretches (journal.drop s.reported), some s.display.backend.liveHandles),
      { s with reported := journal.length })
  else (([], none), s)

/-- Answer what `x` does on a seat, and hand on what else it gives. -/
def reportingWith {α : Type} (i : Nat) (x : Act World (Reply × α)) : Act World (Report × α) := do
  let outer ← Act.alter fun w => (w.ran, { w with ran := [] })
  let (reply, a) ← x
  let ran ← Act.alter fun w => (w.ran, { w with ran := outer })
  let (released, live) ← (seatAt i).alter survey
  return (.make reply ran released live, a)

/-- Answer what `x` does on a seat; a fault is its reply. -/
def reporting (i : Nat) (x : Act World Reply) : Act World Report := do
  let (report, ()) ← reportingWith i do
    match ← x.attempt with
    | .ok reply => return (reply, ())
    | .error c => return (.fault c, ())
  return report

/-! ## Steps -/

/-- Run a handler, whose steps are performed by `exec`. -/
def runHandler (exec : Step → Act World Report) :
    Handler → Act World (Except PlatformError Unit)
  | .make name reported steps ending => do
    let reports ← Act.each exec steps
    if reported then Act.change fun w => { w with ran := w.ran ++ [.make name reports] }
    match ending with
    | .well => return .ok ()
    | .error e => return .error e
    | .gaveUp text => Act.fault (.raised text)

/-- Perform steps around one pump of the display at a seat. -/
def pumpSteps (exec : Step → Act World Report) (S : Setting World Handler) (bound : Nat) :
    Pump → List PumpStep → Act World (List Report)
  | _, [] => pure []
  | p, .other s :: rest => do
    let report ← exec s
    let reports ← pumpSteps exec S bound p rest
    return report :: reports
  | p, .pump i a :: rest => do
    let (report, p) ← reportingWith i (onPump S bound p a)
    let reports ← pumpSteps exec S bound p rest
    return report :: reports

/-- Perform an action at a seat; the steps in it are performed by `exec`. -/
def act (exec : Step → Act World Report) (bound i : Nat) (a : Action) : Act World Reply :=
  let S := settingAt (runHandler exec) i
  match a with
  | .display a => usingDisplay S i (onDisplay S i a)
  | .backend a => usingBackend i (onBackend S i a)
  | .outside a => onOutside S i a
  | .pump steps => usingDisplay S i do return .steps (← pumpSteps exec S bound .new steps)
  | .post h => usingBackend i do
    S.backend.change (·.post (.task h))
    return .nothing
  | .send h => send S i (.task h)
  | .inject point h => do
    (seatAt i).change fun s => { s with hooks := s.hooks ++ [(point, h)] }
    return .nothing

/-- Perform a step. -/
def perform : Nat → Nat → Step → Act World Report
  | 0, _, _ => Act.stall
  | depth + 1, bound, .on i a => reporting i (act (perform depth bound) bound i a)

/-! ## Whole scripts -/

/-- A display that a script starts with: its backend's settings and how often it may wait. -/
structure Start where
  config : HeadlessConfig
  sleepLimit : Nat

/-- Fresh displays, numbered from one. -/
def World.new (files : Files) (starts : List Start) : World where
  seats := starts.mapIdx fun i s => .new (i + 1) s.config s.sleepLimit
  files := files
  log := starts.mapIdx fun i _ => .displayCreated (i + 1) .headless
  opens := 0
  ran := []

/-- Drop the displays that are still at their seats, in order. -/
def close (exec : Step → Act World Report) : List Nat → Act World Unit
  | [] => pure ()
  | i :: rest => do
    discard <| leave (settingAt (runHandler exec) i) i
    close exec rest

/-- The ticks that no loop of a script exceeds. -/
def tickBound (starts : List Start) (steps : List Step) : Nat :=
  2 * stepsSize steps + starts.foldl (fun n s => max n s.sleepLimit) 0 + 2

/-- The answers to a script, and its log. -/
def run (files : Files) (starts : List Start) (steps : List Step) :
    Option (List Report × List Notice) :=
  let exec := perform (stepsSize steps + 1) (tickBound starts steps)
  let script : Act World (List Report) := do
    let reports ← Act.each exec steps
    close exec (List.range starts.length)
    return reports
  match script (.new files starts) with
  | (.done reports, w) => some (reports, w.log)
  | _ => none

end DisplayEnv.Session
