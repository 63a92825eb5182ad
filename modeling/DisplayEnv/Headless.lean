import DisplayEnv.Font
import DisplayEnv.Headless.Config
import DisplayEnv.Picture
import DisplayEnv.Window

/-!
# The headless backend

A backend without a windowing system (`HeadlessDisplay`). A native handle is a serial number with
the data it was made from; the backend knows which numbers are live and writes every release into a
journal. Events wait in a queue of its own thread's (`post`, `post_destroy`) and in an inbox that
any thread can send to (`HeadlessProxy`); the inbox is emptied into the queue before an event is
taken (`drain_inbox`), so what was sent is behind everything posted before.

Every operation is a function on the backend's state. `τ` is the type of the tasks that can be
posted; the backend only passes them on. Serial numbers and windows are counted without the bound of
a machine word.

* `allocate`: the next number, unless the connection is closed.
* `release`: the number is no longer live and the journal is one entry longer.
* `next`: the event that `read_and_dispatch` takes, and the backend without it. What becomes of the
  event is up to the pump.
-/

namespace DisplayEnv

/-- An entry of the release journal (`Released`). -/
inductive Released where
  | color (id : Nat)
  | font (id : Nat)
  | image (id : Nat)
  | gc (id : Nat)
  | connection
  deriving DecidableEq, Repr

/-- The entry by its case, for a reader of the program's state. -/
def Released.debugText : Released → String
  | .color id => "Color(" ++ toString id ++ ")"
  | .font id => "Font(" ++ toString id ++ ")"
  | .image id => "Image(" ++ toString id ++ ")"
  | .gc id => "Gc(" ++ toString id ++ ")"
  | .connection => "Connection"

/-- A native color (`HeadlessColor`). -/
structure NativeColor where
  id : Nat
  r : UInt8
  g : UInt8
  b : UInt8
  deriving DecidableEq, Repr

/-- A native font (`HeadlessFont`); `height` is its height in pixels. -/
structure NativeFont where
  id : Nat
  height : Nat
  name : String
  size : UInt32
  bold : Bool
  italic : Bool
  deriving DecidableEq, Repr

/-- A native image (`HeadlessImage`). -/
structure NativeImage where
  id : Nat
  width : UInt32
  height : UInt32
  deriving DecidableEq, Repr

/-- A native drawing context (`HeadlessGc`). -/
structure NativeGc where
  id : Nat
  deriving DecidableEq, Repr

/-- An event in the queue (`Queued`), or on its way there (`ProxyMessage`). A wake only ends a wait;
nothing is dispatched for it. -/
inductive Event (τ : Type) where
  | task (t : τ)
  | destroy (w : Window)
  | wake
  deriving DecidableEq, Repr

/-- The state of a headless backend (`HeadlessDisplay`). -/
structure Headless (τ : Type) where
  config : HeadlessConfig
  nextId : Nat
  live : List Nat
  journal : List Released
  queue : List (Event τ)
  inbox : List (Event τ)
  windows : List Window
  nextWindow : Nat
  closed : Bool
  deriving Repr

namespace Headless

variable {τ : Type}

/-- The number of the first window, and the distance between two. -/
def firstWindow : Nat := 0x1000
def windowStep : Nat := 0x10

/-- A freshly opened backend. -/
def new (config : HeadlessConfig) : Headless τ :=
  ⟨config, 1, [], [], [], [], [], firstWindow, false⟩

instance : Inhabited (Headless τ) := ⟨new default⟩

/-! ## Handles -/

/-- The next serial number. -/
def allocate (b : Headless τ) : Except PlatformError (Nat × Headless τ) :=
  if b.closed then .error (.connection "headless display is closed")
  else .ok (b.nextId, { b with nextId := b.nextId + 1, live := b.nextId :: b.live })

/-- What a release finds: whether the number was live, and the backend afterwards. -/
def release (b : Headless τ) (id : Nat) (entry : Released) : Bool × Headless τ :=
  (b.live.contains id, { b with live := b.live.filter (· ≠ id), journal := b.journal ++ [entry] })

def liveHandles (b : Headless τ) : Nat := b.live.length

/-- A size in points as pixels (`pixels`), rounded up, if that is a 32-bit signed number. -/
def pixels? (b : Headless τ) (points : UInt32) : Option Nat :=
  let px := (points.toNat * b.config.dpi.toNat + 71) / 72
  if px < 0x80000000 then some px else none

/-- `create_color`. -/
def createColor (b : Headless τ) (red green blue : UInt8) :
    Except PlatformError (NativeColor × Headless τ) := do
  let (id, b) ← b.allocate
  return (⟨id, red, green, blue⟩, b)

/-- `create_font`: a name and a size are needed, and a height in range. The number is taken last. -/
def createFont (b : Headless τ) (f : Font) : Except PlatformError (NativeFont × Headless τ) :=
  if f.name = "" ∨ f.size = 0 then
    .error (.resourceCreation ("invalid font '" ++ f.text ++ "'"))
  else
    match b.pixels? f.size with
    | none =>
      .error (.resourceCreation ("font size " ++ toString f.size.toNat ++ "pt out of range"))
    | some height => do
      let (id, b) ← b.allocate
      return (⟨id, height, f.name, f.size, f.bold, f.italic⟩, b)

/-- `create_image`: no side may be zero. -/
def createImage (b : Headless τ) (p : Picture) : Except PlatformError (NativeImage × Headless τ) :=
  if p.width = 0 ∨ p.height = 0 then .error (.resourceCreation "zero-sized image")
  else do
    let (id, b) ← b.allocate
    return (⟨id, p.width, p.height⟩, b)

/-- `create_gc`. -/
def createGc (b : Headless τ) : Except PlatformError (NativeGc × Headless τ) := do
  let (id, b) ← b.allocate
  return (⟨id⟩, b)

/-- Twentieths of the line height by which one character advances. -/
def advance (f : NativeFont) : Nat := if f.bold then 11 else 10

/-- Width and height of a text of so many characters (`text_extent`). The products are computed in
64 bits signed and can overflow; the width is cut off at the greatest 32-bit signed number. -/
def textExtent (f : NativeFont) (characters : Nat) : Except Fault (Nat × Nat) := do
  let area := characters * f.height
  if 0x8000000000000000 ≤ area then throw (.overflow .mul)
  let scaled := area * advance f
  if 0x8000000000000000 ≤ scaled then throw (.overflow .mul)
  return (min (scaled / 20) 0x7fffffff, f.height)

/-- Close the connection (`close`): whether it was open, and the backend afterwards. -/
def close (b : Headless τ) : Bool × Headless τ :=
  if b.closed then (false, b)
  else (true, { b with closed := true, journal := b.journal ++ [.connection] })

/-! ## Windows -/

/-- A fresh window (`create_window`). -/
def createWindow (b : Headless τ) : Window × Headless τ :=
  (⟨b.nextWindow⟩,
    { b with nextWindow := b.nextWindow + windowStep, windows := ⟨b.nextWindow⟩ :: b.windows })

/-- Destroy a window at once (`destroy_window`). -/
def destroyWindow (b : Headless τ) (w : Window) : Headless τ :=
  { b with windows := b.windows.filter (· ≠ w) }

/-- `is_window_destroyed`: a window that never was is as good as destroyed. -/
def isDestroyed (b : Headless τ) (w : Window) : Bool := !b.windows.contains w

/-! ## Events -/

/-- Put an event behind those in the queue. -/
def post (b : Headless τ) (e : Event τ) : Headless τ := { b with queue := b.queue ++ [e] }

/-- Send an event to the inbox, as a `HeadlessProxy` does from any thread. -/
def send (b : Headless τ) (e : Event τ) : Headless τ := { b with inbox := b.inbox ++ [e] }

/-- Empty the inbox into the queue (`drain_inbox`). -/
def drain (b : Headless τ) : Headless τ := { b with queue := b.queue ++ b.inbox, inbox := [] }

/-- The events that wait, in the order of their dispatch. -/
def pending (b : Headless τ) : List (Event τ) := b.queue ++ b.inbox

/-- The number of waiting events (`pending_events`), found by emptying the inbox. -/
def pendingEvents (b : Headless τ) : Nat × Headless τ := (b.drain.queue.length, b.drain)

/-- The next event and the backend without it. -/
def next (b : Headless τ) : Option (Event τ) × Headless τ :=
  match b.drain.queue with
  | [] => (none, b.drain)
  | e :: rest => (some e, { b.drain with queue := rest })

/-- Wait for an event (`sleep`): with an empty queue the first one of the inbox is taken into it.
When there is none, the wait is over after `idle_wait_ms` and nothing has changed. -/
def sleep (b : Headless τ) : Headless τ :=
  if b.queue.isEmpty then
    match b.inbox with
    | [] => b
    | e :: rest => { b with queue := [e], inbox := rest }
  else b

end Headless

end DisplayEnv
