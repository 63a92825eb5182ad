import DisplayEnv.Files.Error

/-!
# A small tree of files

The files and directories that a program can see, and the directory it works in. A place of the
tree is told by its components from the root. A path is walked component by component, from the root
if it starts with a slash and from the working directory otherwise: an empty component and `.` stay
where they are, `..` goes up, from the root to the root, and every component but the last has to be
a directory. There are no links, nobody is refused what is there, and no disk is ever full.

* `read`, `readText`, `exists?`: what a path gives (`read_to_string`, `exists`).
* `makeDirectories`, `write`, `remove?`: what changes the tree (`create_dir_all`, `write`).
-/

namespace DisplayEnv

/-- What stands at a place of the tree. -/
inductive Entry where
  | file (bytes : List UInt8)
  | directory
  deriving DecidableEq, Repr

/-- The files and directories by their components from the root, and the components of the directory
that relative paths start from. -/
structure Files where
  workingDirectory : List String
  entries : List (List String × Entry)
  deriving DecidableEq, Repr

namespace Files

/-- An empty working directory, and nothing else. -/
def empty : Files := ⟨["work"], [(["work"], .directory)]⟩

/-- What stands at a place; the root is always there. -/
def entry? (files : Files) (place : List String) : Option Entry :=
  if place = [] then some .directory else files.entries.lookup place

/-- Where the walk of a path starts. -/
def start (files : Files) (path : String) : List String :=
  if path.startsWith "/" then [] else files.workingDirectory

/-- One component of a walk; the place walked from has to be a directory. -/
def step (files : Files) (place : List String) (component : String) :
    Except FileError (List String) :=
  match files.entry? place with
  | none => .error .notFound
  | some (.file _) => .error .notDirectory
  | some .directory =>
    if component = "" ∨ component = "." then .ok place
    else if component = ".." then .ok place.dropLast
    else .ok (place ++ [component])

/-- The place a path leads to; its last component need not exist. -/
def locate (files : Files) (path : String) : Except FileError (List String) :=
  if path = "" then .error .notFound
  else (path.splitOn "/").foldlM files.step (files.start path)

/-- What stands at the end of a path. -/
def stat (files : Files) (path : String) : Except FileError Entry := do
  match files.entry? (← files.locate path) with
  | some entry => return entry
  | none => throw .notFound

def exists? (files : Files) (path : String) : Bool := (files.stat path).toOption.isSome

/-- The bytes of a file. -/
def read (files : Files) (path : String) : Except FileError (List UInt8) := do
  match ← files.stat path with
  | .file bytes => return bytes
  | .directory => throw .isDirectory

/-- The text of a file, which has to be UTF-8 (`read_to_string`). -/
def readText (files : Files) (path : String) : Except FileError String := do
  match String.fromUTF8? ⟨(← files.read path).toArray⟩ with
  | some text => return text
  | none => throw .invalidText

/-- Put an entry at a place of the tree, in place of what was there. -/
def insert (files : Files) (place : List String) (entry : Entry) : Files :=
  { files with entries := (place, entry) :: files.entries.filter (·.1 ≠ place) }

/-- Make the directory at the place if nothing is there. -/
def makeDirectory (files : Files) (place : List String) : Except FileError Files :=
  match files.entry? place with
  | some .directory => .ok files
  | some (.file _) => .error .alreadyExists
  | none => .ok (files.insert place .directory)

/-- Make every directory along the components, starting at a place. The directories made before a
failure stay. -/
def makeAlong (files : Files) (place : List String) : List String → Except FileError Unit × Files
  | [] => (.ok (), files)
  | component :: rest =>
    match files.step place component with
    | .error e => (.error e, files)
    | .ok next =>
      match files.makeDirectory next with
      | .error e => (.error e, files)
      | .ok made => made.makeAlong next rest

/-- Make the directory a path names, with all directories above it (`create_dir_all`). -/
def makeDirectories (files : Files) (path : String) : Except FileError Unit × Files :=
  if path = "" then (.ok (), files)
  else files.makeAlong (files.start path) (path.splitOn "/")

/-- Write a file in a directory that exists (`write`). -/
def write (files : Files) (path : String) (bytes : List UInt8) : Except FileError Files := do
  let place ← files.locate path
  match files.entry? place with
  | some .directory => throw .isDirectory
  | _ => return files.insert place (.file bytes)

/-- The components of a path that count: neither empty nor `.`, except a `.` in front. -/
def components (path : String) : List String :=
  match path.splitOn "/" with
  | [] => []
  | first :: rest => first :: rest.filter (fun c => c ≠ "" ∧ c ≠ ".")

/-- The path of the directory a path lies in (`parent`), if the path names anything. -/
def parent? (path : String) : Option String :=
  match components path with
  | [] | [""] => none
  | cs => some (String.intercalate "/" cs.dropLast)

/-- Make the directories above a path. -/
def makeParent (files : Files) (path : String) : Except FileError Unit × Files :=
  match parent? path with
  | some parent => files.makeDirectories parent
  | none => (.ok (), files)

/-- Write a file and make the directories above it, which stay when the file cannot be written. -/
def put (files : Files) (path : String) (bytes : List UInt8) : Except FileError Unit × Files :=
  match files.makeParent path with
  | (.error e, files) => (.error e, files)
  | (.ok (), files) =>
    match files.write path bytes with
    | .ok written => (.ok (), written)
    | .error e => (.error e, files)

/-- The tree without a file, if there is one at the path. -/
def remove? (files : Files) (path : String) : Option Files :=
  match files.locate path with
  | .error _ => none
  | .ok place =>
    match files.entry? place with
    | some (.file _) => some { files with entries := files.entries.filter (·.1 ≠ place) }
    | _ => none

end Files

end DisplayEnv
