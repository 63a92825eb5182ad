import DisplayEnv.Image
import DisplayEnv.Picture.Bitmap
import DisplayEnv.Picture.Netpbm
import DisplayEnv.Picture.Png

/-!
# From bytes to a picture

Any `Decoder` will do: its width, height and pixels make a `Picture`, and its refusal is the cause
of an error that names the uri (`load`).

`decode` is one decoder. The format of a file is told by its first bytes (`guess_format`). It reads
three formats to the last pixel, as far as `Png`, `Netpbm` and `Bitmap` say; a file of another known
format, or one that breaks its format's rules, is malformed, and bytes that start like no format are
of an unknown one.
-/

namespace DisplayEnv

/-- What makes width, height and pixels of the bytes of a file (`load_from_memory`, `to_rgba8`). -/
def Decoder : Type := List UInt8 → Except PictureError (Nat × Nat × List UInt8)

namespace Picture

/-- The formats that are read. -/
inductive Format where
  | png
  | netpbm
  | bitmap
  /-- A format that is told apart from unknown bytes and not read. -/
  | unread
  deriving DecidableEq, Repr

/-- A start of a file: bytes that have to match, and bytes that may be anything. -/
abbrev Pattern := List (Option UInt8)

/-- Whether the bytes start as the pattern says. -/
def startsLike : Pattern → List UInt8 → Bool
  | [], _ => true
  | _ :: _, [] => false
  | p :: ps, b :: bs => (p.isNone || p == some b) && startsLike ps bs

/-- The pattern of a text. -/
def exactly (s : String) : Pattern := s.toList.map fun c => some (UInt8.ofNat c.toNat)

/-- Bytes that may be anything. -/
def anything (n : Nat) : Pattern := List.replicate n none

/-- How the files of each format start; the first pattern that fits tells the format. -/
def patterns : List (Pattern × Format) :=
  [(Png.signature.map some, .png),
   ([some 0xff, some 0xd8, some 0xff], .unread),
   (exactly "GIF89a", .unread),
   (exactly "GIF87a", .unread),
   (exactly "RIFF" ++ anything 4 ++ exactly "WEBP", .unread),
   (exactly "MM\x00*", .unread),
   (exactly "II*\x00", .unread),
   (exactly "DDS ", .unread),
   (exactly "BM", .bitmap),
   ([some 0, some 0, some 1, some 0], .unread),
   (exactly "#?RADIANCE", .unread),
   ([some 0, some 0] ++ anything 2 ++ exactly "ftypavif", .unread),
   ([some 0x76, some 0x2f, some 0x31, some 0x01], .unread),
   (exactly "qoif", .unread),
   (exactly "P1", .unread),
   (exactly "P2", .netpbm),
   (exactly "P3", .netpbm),
   (exactly "P4", .unread),
   (exactly "P5", .netpbm),
   (exactly "P6", .netpbm),
   (exactly "P7", .unread),
   (exactly "farbfeld", .unread)]

/-- The format of a file, by its first bytes (`guess_format`). -/
def format? (bytes : List UInt8) : Option Format :=
  (patterns.find? fun p => startsLike p.1 bytes).map (·.2)

/-- Width, height and pixels in the bytes of a file. -/
def decode : Decoder := fun bytes =>
  match format? bytes with
  | none => .error .unknownFormat
  | some format =>
    let result :=
      match format with
      | .png => Png.decode? bytes
      | .netpbm => Netpbm.decode? bytes
      | .bitmap => Bitmap.decode? bytes
      | .unread => none
    match result with
    | some picture => .ok picture
    | none => .error .malformed

/-- The picture in the bytes of an image, as a decoder reads them. -/
def ofBytesBy (decoder : Decoder) (uri : String) (bytes : List UInt8) :
    Except Fault (Except ResourceError Picture) :=
  match decoder bytes with
  | .error e => .ok (.error (.decode uri e))
  | .ok (width, height, rgba) => do
    match ← make (UInt32.ofNat width) (UInt32.ofNat height) rgba with
    | .ok picture => return .ok picture
    | .error e => return .error (.native e)

/-- The picture of an image whose source was opened, or was refused (`load`). -/
def ofOpeningBy (decoder : Decoder) (uri : String)
    (opening : Except FileError (List Delivery)) : Except Fault (Except ResourceError Picture) :=
  match opening with
  | .error e => .ok (.error (.read uri e))
  | .ok deliveries =>
    match readToEnd deliveries with
    | (_, some e) => .ok (.error (.read uri e))
    | (bytes, none) => ofBytesBy decoder uri bytes

/-- The same with the decoder of this library. -/
def ofOpening : String → Except FileError (List Delivery) →
    Except Fault (Except ResourceError Picture) := ofOpeningBy decode

end Picture

end DisplayEnv
