import DisplayEnv.Text.Quoted

/-!
# Windowing platforms

A platform (`Platform`) is one of four known ones or any other, by its identifier. Every text names
a platform (`from_identifier`); `cocoa` is a second name of `macosx`.

* `identifier_fromIdentifier`: reading an identifier and writing it back changes nothing but that
  second name.
-/

namespace DisplayEnv

/-- A windowing platform (`Platform`). -/
inductive Platform where
  | win32
  | macosx
  | gtk
  | headless
  | other (identifier : String)
  deriving DecidableEq, Repr, Hashable

namespace Platform

/-- The platform this library is built for (`current`). -/
def current : Platform := .gtk

/-- The platform a text names (`from_identifier`). -/
def fromIdentifier (s : String) : Platform :=
  if s = "win32" then .win32
  else if s = "macosx" ∨ s = "cocoa" then .macosx
  else if s = "gtk" then .gtk
  else if s = "headless" then .headless
  else .other s

/-- The text that names the platform (`identifier`). -/
def identifier : Platform → String
  | .win32 => "win32"
  | .macosx => "macosx"
  | .gtk => "gtk"
  | .headless => "headless"
  | .other s => s

def isWindows (p : Platform) : Bool := p == .win32

def isMac (p : Platform) : Bool := p == .macosx

/-- The case of the platform, for a reader of the program's state. -/
def debugText : Platform → String
  | .win32 => "Win32"
  | .macosx => "MacOsX"
  | .gtk => "Gtk"
  | .headless => "Headless"
  | .other s => "Other(" ++ Text.quoted s ++ ")"

theorem identifier_fromIdentifier (s : String) :
    (fromIdentifier s).identifier = if s = "cocoa" then "macosx" else s := by
  unfold fromIdentifier
  split
  · subst_vars; rfl
  · split
    · rename_i h; rcases h with rfl | rfl <;> rfl
    · rename_i h
      rw [not_or] at h
      rw [if_neg h.2]
      split
      · subst_vars; rfl
      · split
        · subst_vars; rfl
        · rfl

end Platform

end DisplayEnv
