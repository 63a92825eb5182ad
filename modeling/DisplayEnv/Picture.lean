import DisplayEnv.Act
import DisplayEnv.Error

/-!
# Pictures

A picture (`DecodedImage`) is a rectangle of pixels, four bytes each: red, green, blue and alpha,
row by row from the top. `Picture.make` (`new`) accepts a buffer when its length is the number of
bytes that the size calls for; that number is computed in 64 bits, and computing it can overflow.
-/

namespace DisplayEnv

/-- A rectangle of pixels, four bytes each (`DecodedImage`). -/
structure Picture where
  width : UInt32
  height : UInt32
  rgba : List UInt8
  deriving DecidableEq, Repr

namespace Picture

/-- The bytes a picture of this size has; the count of pixels fits 64 bits, four times it may not.
-/
def byteCount (width height : UInt32) : Except Fault Nat :=
  fitWord .mul (width.toNat * height.toNat * 4)

/-- Whether a buffer of this length is a picture of this size. -/
def check (width height : UInt32) (length : Nat) : Except Fault (Except PlatformError Unit) := do
  let expected ← byteCount width height
  if length = expected then return .ok ()
  else
    return .error (.resourceCreation
      ("image buffer is " ++ toString length ++ " bytes, expected " ++ toString expected ++
        " for " ++ toString width.toNat ++ "x" ++ toString height.toNat))

/-- The picture in a buffer (`new`). -/
def make (width height : UInt32) (rgba : List UInt8) :
    Except Fault (Except PlatformError Picture) := do
  match ← check width height rgba.length with
  | .ok () => return .ok ⟨width, height, rgba⟩
  | .error e => return .error e

end Picture

end DisplayEnv
