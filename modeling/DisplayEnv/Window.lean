/-!
# Windows and controls

A window (`WindowId`) is known by a number; zero names no window. A control (`NativeControl`) may
expose the native window behind it, and may expose none when it has not been realized.
-/

namespace DisplayEnv

/-- The number of a native window (`WindowId`). -/
structure Window where
  raw : Nat
  deriving DecidableEq, Repr, Hashable

namespace Window

/-- The number that never names a window. -/
def invalid : Window := ⟨0⟩

def isValid (w : Window) : Bool := w.raw != 0

/-- The number, for a reader of the program's state. -/
def debugText (w : Window) : String := "WindowId(" ++ toString w.raw ++ ")"

end Window

/-- Something on screen that may have a native window (`NativeControl`). -/
inductive Control where
  /-- A window used as a control; it exposes itself when it is valid. -/
  | window (w : Window)
  /-- A control that exposes the given window, if any. -/
  | exposing (w : Option Window)
  deriving DecidableEq, Repr

namespace Control

/-- The native window that the control exposes (`native_handle`). -/
def native? : Control → Option Window
  | .window w => if w.isValid then some w else none
  | .exposing w => w

end Control

end DisplayEnv
