import DisplayEnv.Act

/-!
# Rectangles

A rectangle (`Rect`) is an origin and an extent, all four 32-bit signed. Its right and bottom edges
are sums that may leave 32 bits, so reading an edge can be an overflow. `contains` reads an edge
only when the comparisons before it held.
-/

namespace DisplayEnv

/-- An axis-aligned rectangle; the extent may be negative. -/
structure Rect where
  x : Int32
  y : Int32
  width : Int32
  height : Int32
  deriving DecidableEq, Repr

namespace Rect

def zero : Rect := ⟨0, 0, 0, 0⟩

instance : Inhabited Rect := ⟨zero⟩

/-- The rectangle between two corners (`from_bounds`); the width is computed first. -/
def fromBounds (left top right bottom : Int32) : Except Fault Rect := do
  let width ← fitInt32 .sub (right.toInt - left.toInt)
  let height ← fitInt32 .sub (bottom.toInt - top.toInt)
  return ⟨left, top, width, height⟩

/-- The first column right of the rectangle (`right`). -/
def right (q : Rect) : Except Fault Int32 := fitInt32 .add (q.x.toInt + q.width.toInt)

/-- The first row below the rectangle (`bottom`). -/
def bottom (q : Rect) : Except Fault Int32 := fitInt32 .add (q.y.toInt + q.height.toInt)

/-- Whether the point lies in the rectangle (`contains`): left edge, right edge, top edge and bottom
edge are compared in this order, and the first comparison that fails settles it. -/
def contains (q : Rect) (px py : Int32) : Except Fault Bool := do
  if px < q.x then return false
  let right ← q.right
  if right ≤ px then return false
  if py < q.y then return false
  let bottom ← q.bottom
  return py < bottom

/-- The fields by name, for a reader of the program's state. -/
def debugText (q : Rect) : String :=
  "Rect \x7b x: " ++ toString q.x.toInt ++ ", y: " ++ toString q.y.toInt ++
    ", width: " ++ toString q.width.toInt ++ ", height: " ++ toString q.height.toInt ++ " \x7d"

end Rect

end DisplayEnv
