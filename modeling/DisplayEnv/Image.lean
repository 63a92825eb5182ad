import DisplayEnv.Files
import DisplayEnv.Text.Quoted

/-!
# Images and their byte sources

An image descriptor (`Image`) is a uri and, if there is one, a source of bytes. Its identity is the
uri alone. Opening a source (`ImageSource`) gives a sequence of deliveries; `readToEnd`
(`read_to_end`) puts the delivered bytes together, goes on after an interruption, and stops at the
first failure or at the end of the bytes.

* `readToEnd_interrupted`: an interruption changes nothing.
-/

namespace DisplayEnv

/-- What one read from an open source gives. -/
inductive Delivery where
  /-- Bytes; none of them means the end. -/
  | bytes (chunk : List UInt8)
  | interrupted
  | failed (cause : FileError)
  deriving DecidableEq, Repr

/-- Where the bytes of an image come from: `MemorySource`, `FileSource`, or an `ImageSource` of
another kind. -/
inductive Source where
  | memory (bytes : List UInt8)
  | file (path : String)
  /-- Each opening is refused, or gives the same deliveries. -/
  | stream (refusal : Option FileError) (deliveries : List Delivery)
  deriving DecidableEq, Repr

namespace Source

/-- The deliveries of a freshly opened source (`open`). A directory opens, and fails when it is
read. -/
def opened (files : Files) : Source → Except FileError (List Delivery)
  | .memory bytes => .ok [.bytes bytes]
  | .file path =>
    match files.stat path with
    | .error e => .error e
    | .ok (.file bytes) => .ok [.bytes bytes]
    | .ok .directory => .ok [.failed .isDirectory]
  | .stream (some refusal) _ => .error refusal
  | .stream none deliveries => .ok deliveries

/-- Whether opening the source is counted among the openings of streams. -/
def isStream : Source → Bool
  | .stream _ _ => true
  | _ => false

end Source

/-- The bytes up to the end or the first failure, and that failure (`read_to_end`). -/
def readToEnd : List Delivery → List UInt8 × Option FileError
  | [] => ([], none)
  | .bytes [] :: _ => ([], none)
  | .bytes (b :: bs) :: rest => (b :: bs ++ (readToEnd rest).1, (readToEnd rest).2)
  | .interrupted :: rest => readToEnd rest
  | .failed cause :: _ => ([], some cause)

@[simp] theorem readToEnd_interrupted (rest : List Delivery) :
    readToEnd (.interrupted :: rest) = readToEnd rest := rfl

/-- An image descriptor (`Image`). -/
structure Image where
  uri : String
  source : Option Source
  deriving Repr

namespace Image

/-- The image in a file (`file`), with a `file:` uri. -/
def file (path : String) : Image := ⟨"file:" ++ path, some (.file path)⟩

/-- Two descriptors are the same image when their uris are equal (`eq`). -/
def same (i j : Image) : Bool := i.uri == j.uri

def hasSource (i : Image) : Bool := i.source.isSome

/-- Uri and presence of a source, for a reader of the program's state. -/
def debugText (i : Image) : String :=
  "Image \x7b uri: " ++ Text.quoted i.uri ++ ", has_source: " ++ toString i.hasSource ++ " \x7d"

end Image

end DisplayEnv
