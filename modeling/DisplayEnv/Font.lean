import DisplayEnv.Text.Quoted

/-!
# Fonts

A font descriptor (`Font`) is a family name, a size in points and two style flags. Its text puts the
style first: `bold italic 12pt Arial`.
-/

namespace DisplayEnv

/-- A font descriptor. All four fields count towards its identity. -/
structure Font where
  name : String
  size : UInt32
  bold : Bool
  italic : Bool
  deriving DecidableEq, Repr, Hashable

namespace Font

/-- The upright font of normal weight (`new`). -/
def plain (name : String) (size : UInt32) : Font := ⟨name, size, false, false⟩

def withBold (f : Font) : Font := { f with bold := true }
def withItalic (f : Font) : Font := { f with italic := true }
def withSize (f : Font) (size : UInt32) : Font := { f with size := size }

/-- The font without style flags (`to_plain`). -/
def toPlain (f : Font) : Font := { f with bold := false, italic := false }

/-- Style, size and name: `bold italic 12pt Arial`. -/
def text (f : Font) : String :=
  (if f.bold then "bold " else "") ++ (if f.italic then "italic " else "") ++
    toString f.size.toNat ++ "pt " ++ f.name

/-- The fields by name, for a reader of the program's state. -/
def debugText (f : Font) : String :=
  "Font \x7b name: " ++ Text.quoted f.name ++ ", size: " ++ toString f.size.toNat ++
    ", bold: " ++ toString f.bold ++ ", italic: " ++ toString f.italic ++ " \x7d"

end Font

end DisplayEnv
