import DisplayEnv.Session.Report
import DisplayEnv.Session.Script

/-!
# The world of a script

Several displays at numbered seats, a tree of files and one log. A seat keeps, beside its display,
the handlers that wait for a native call, how often the display has waited, the monitors that are
reported instead of the backend's own, and what was answered so far.

A display leaves its seat when it is dropped, and goes away when nothing uses it any more; the
backend can be let go of as well, and then there is nothing left to ask it.

* `settingAt`: the setting of the display at a seat.
-/

namespace DisplayEnv.Session

/-- A display and what surrounds it. -/
structure Seat where
  display : Display Handler
  /-- The display is still here; it goes away when it is not and nothing uses it. -/
  held : Bool
  uses : Nat
  dropped : Bool
  /-- The backend is still here. -/
  backendHeld : Bool
  /-- Handlers that wait for a native call, in the order of their arrival. -/
  hooks : List (Point × Handler)
  sleeps : Nat
  sleepLimit : Nat
  /-- Monitors that are reported instead of the backend's. -/
  report : Option (List Monitor)
  slots : List (String × Handle)
  /-- Which of the display's layouts was answered last. -/
  answered : Option Nat
  /-- How many entries of the journal were reported. -/
  reported : Nat

/-- The seats, the files, the log, how many streams were opened, and the handlers that ran during
the step at hand. -/
structure World where
  seats : List Seat
  files : Files
  log : List Notice
  opens : Nat
  ran : List RunReport

namespace Seat

/-- A seat with a fresh display. -/
def new (id : Nat) (config : HeadlessConfig) (sleepLimit : Nat) : Seat where
  display := .new id (.new config)
  held := true
  uses := 0
  dropped := false
  backendHeld := true
  hooks := []
  sleeps := 0
  sleepLimit := sleepLimit
  report := none
  slots := []
  answered := none
  reported := 0

instance : Inhabited Seat := ⟨new 0 default 0⟩

/-- Whether anything still has the backend. -/
def backendAlive (s : Seat) : Bool := s.backendHeld || !s.dropped

/-- The first handler that waits for a call, and the seat without it. -/
def takeHook (point : Point) (s : Seat) : Option Handler × Seat :=
  ((s.hooks.find? (·.1 = point)).map (·.2), { s with hooks := s.hooks.eraseP (·.1 = point) })

/-- Keep a handle under a name. -/
def keep (slot : Option String) (h : Handle) (s : Seat) : Seat :=
  match slot with
  | some name => { s with slots := (name, h) :: s.slots }
  | none => s

end Seat

/-- The seat with a number. -/
def seatAt (i : Nat) : Lens World Seat where
  get w := w.seats[i]?.getD default
  set s w := { w with seats := w.seats.set i s }

def displayPart : Lens Seat (Display Handler) := ⟨(·.display), fun d s => { s with display := d }⟩

/-- Write to the log. -/
def note (n : Notice) : Act World Unit := Act.change fun w => { w with log := w.log ++ [n] }

/-- Count a wait of the display; a wait beyond the limit gives up. -/
def countSleep (i : Nat) : Act World Unit := do
  (seatAt i).change fun s => { s with sleeps := s.sleeps + 1 }
  if ← (seatAt i).view fun s => decide (s.sleepLimit < s.sleeps) then
    Act.fault (.raised (some "sleep limit"))

/-- Open the source of an image; openings of streams are counted. -/
def openSource (source : Source) : Act World (Except FileError (List Delivery)) := do
  if source.isStream then Act.change fun w => { w with opens := w.opens + 1 }
  Act.view fun w => source.opened w.files

/-- The setting of the display at a seat, with a way to run handlers. -/
def settingAt (run : Handler → Act World (Except PlatformError Unit)) (i : Nat) :
    Setting World Handler where
  display := (seatAt i).comp displayPart
  note := note
  before point := do
    if point = .sleep then countSleep i
    match ← (seatAt i).alter (Seat.takeHook point) with
    | some h => run h
    | none => return .ok ()
  report := (seatAt i).view fun s => s.report.getD s.display.backend.config.report
  openSource := openSource
  decoder := Picture.decode
  run := run

end DisplayEnv.Session
