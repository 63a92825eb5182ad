import DisplayEnv.Probe

/-!
# The probe as a program

Reads the arguments, the environment and at most two files, runs the probe, and prints what it
gives.
-/

namespace DisplayEnv.Program

/-- What a failed reading is to the library. -/
def readingError : IO.Error → FileError
  | .noFileOrDirectory _ _ _ => .notFound
  | .inappropriateType _ _ _ => .notDirectory
  | e => .other (toString e)

/-- What is read at a path. -/
def readPath (path : String) : IO (Except FileError String) := do
  try
    match String.fromUTF8? (← IO.FS.readBinFile path) with
    | some text => return .ok text
    | none => return .error .invalidText
  catch e => return .error (readingError e)

/-- A variable of the environment. -/
def environmentEntry (name : String) : IO (List (String × List UInt8)) := do
  match ← IO.getEnv name with
  | some value => return [(name, value.toUTF8.toList)]
  | none => return []

/-- The variables and the place of the program. -/
def surroundings : IO Environment := do
  let entries ← ["DK_DISPLAY_CONFIG", "USERPROFILE", "HOME"].mapM environmentEntry
  let directory := (← IO.appPath).parent
  return ⟨entries.flatten, (directory.map toString).getD "."⟩

/-- The configuration at the default path; a file that is not there is nothing to tell about. -/
def standing : IO (DisplayConfig × List Notice) := do
  let path := DisplayConfig.defaultPath (← surroundings)
  match ← readPath path with
  | .error .notFound | .error .notDirectory => return (.standard, [])
  | reading => return DisplayConfig.orStandard path (DisplayConfig.ofReading path reading)

/-- A line as it is printed. -/
def printed : Probe.Line → String
  | .text s => s
  | .loop stats => "event loop: dispatched=" ++ toString stats.dispatched ++ " idle=" ++
      toString stats.idle ++ " failures=" ++ toString stats.failures
  | .notice n => n.line

end DisplayEnv.Program

open DisplayEnv Program

def main (arguments : List String) : IO UInt32 := do
  let named ← match arguments with
    | [] => pure none
    | path :: _ => pure (some (DisplayConfig.ofReading path (← readPath path)))
  let ending := Probe.run ⟨named, ← standing, ← IO.getEnv "RUST_LOG", []⟩
  for line in ending.out do IO.println (printed line)
  for line in ending.err do IO.eprintln line
  return UInt32.ofNat (ending.code.getD 134)
