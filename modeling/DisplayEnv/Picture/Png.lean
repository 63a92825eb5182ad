import DisplayEnv.Picture
import DisplayEnv.Picture.Checksum
import DisplayEnv.Picture.Inflate

/-!
# Portable network graphics

A PNG file is a signature and a sequence of chunks, each with its length, its kind, its bytes and a
checksum of kind and bytes. Read here are files with eight bits a sample and without interlacing.
The bytes of all `IDAT` chunks together are a zlib stream of rows; each row begins with the number
of the filter that was applied to it, which predicts a byte from the one a pixel to its left, the
one above and the one above that to the left.

`decode?` answers `none` for a file that breaks these rules. What follows the header of the first
chunk after the picture's bytes does not matter.
-/

namespace DisplayEnv.Png

/-- The eight bytes every file starts with. -/
def signature : List UInt8 := [0x89, 0x50, 0x4e, 0x47, 0x0d, 0x0a, 0x1a, 0x0a]

/-- What a sample of a pixel stands for. -/
inductive Layout where
  | gray
  | rgb
  | palette
  | grayAlpha
  | rgba
  deriving DecidableEq, Repr

namespace Layout

/-- The layout of a number in the file's header. -/
def ofNumber? : Nat → Option Layout
  | 0 => some .gray
  | 2 => some .rgb
  | 3 => some .palette
  | 4 => some .grayAlpha
  | 6 => some .rgba
  | _ => none

/-- The bytes of one pixel. -/
def samples : Layout → Nat
  | .gray => 1
  | .rgb => 3
  | .palette => 1
  | .grayAlpha => 2
  | .rgba => 4

end Layout

/-- The file's header. -/
structure Header where
  width : Nat
  height : Nat
  layout : Layout
  deriving Repr

/-- The header in the bytes of an `IHDR` chunk. -/
def header? (body : List UInt8) : Option Header := do
  if body.length ≠ 13 then none
  let width := Bytes.big (body.take 4)
  let height := Bytes.big ((body.drop 4).take 4)
  let depth ← body[8]?
  let color ← body[9]?
  let layout ← Layout.ofNumber? color.toNat
  if width = 0 ∨ height = 0 ∨ 0x80000000 ≤ width ∨ 0x80000000 ≤ height then none
  if depth ≠ 8 ∨ body.drop 10 ≠ [0, 0, 0] then none
  return ⟨width, height, layout⟩

/-- One chunk: its kind and its bytes. -/
structure Chunk where
  kind : List UInt8
  body : List UInt8
  deriving Repr

namespace Chunk

def ihdr : List UInt8 := "IHDR".toUTF8.toList
def plte : List UInt8 := "PLTE".toUTF8.toList
def trns : List UInt8 := "tRNS".toUTF8.toList
def idat : List UInt8 := "IDAT".toUTF8.toList

/-- Whether a reader has to know the kind: bit 5 of its first byte is clear. -/
def isCritical (kind : List UInt8) : Bool := (kind.headD 0).toNat / 32 % 2 == 0

end Chunk

/-- A piece of the file: the header of a chunk without its bytes, or all of it and what follows. -/
inductive Piece where
  /-- The kind of the chunk and whether the rest of it, checksum included, is in order. -/
  | chunk (chunk : Chunk) (sound : Bool) (rest : List UInt8)
  /-- The file ends within the chunk. -/
  | cut (kind : List UInt8)
  /-- The file ends before the kind of the chunk. -/
  | none

/-- The next piece of the file. -/
def piece (bytes : List UInt8) : Piece :=
  match Bytes.take? 8 bytes with
  | Option.none => .none
  | some (head, rest) =>
    let kind := head.drop 4
    match Bytes.take? (Bytes.big (head.take 4)) rest with
    | Option.none => .cut kind
    | some (body, rest) =>
      match Bytes.take? 4 rest with
      | Option.none => .cut kind
      | some (sum, rest) =>
        .chunk ⟨kind, body⟩ (Bytes.big sum == (Checksum.crc32 (kind ++ body)).toNat) rest

/-- What was read before the picture's rows are complete. -/
structure Progress where
  header : Option Header
  palette : Option (List UInt8)
  alphas : List UInt8
  data : List UInt8
  deriving Repr

/-- Read pieces up to the first one behind the picture's bytes; at most `bound` of them. -/
def gather? : Nat → Progress → List UInt8 → Option Progress
  | 0, _, _ => none
  | bound + 1, p, bytes =>
    match piece bytes with
    | .none => none
    | .cut kind => if p.data ≠ [] ∧ kind ≠ Chunk.idat then some p else none
    | .chunk c sound rest =>
      if p.data ≠ [] ∧ c.kind ≠ Chunk.idat then some p
      else if !sound then
        if Chunk.isCritical c.kind then none else gather? bound p rest
      else
        match p.header with
        | none =>
          if c.kind = Chunk.ihdr then do
            let h ← header? c.body
            gather? bound { p with header := some h } rest
          else none
        | some _ =>
          if c.kind = Chunk.idat then gather? bound { p with data := p.data ++ c.body } rest
          else if c.kind = Chunk.plte then
            if p.palette.isSome then none
            else gather? bound { p with palette := some c.body } rest
          else if c.kind = Chunk.trns then gather? bound { p with alphas := c.body } rest
          else if Chunk.isCritical c.kind then none
          else gather? bound p rest

/-- The one of left, above and above-left nearest to left plus above minus above-left. -/
def predict (left above corner : UInt8) : UInt8 :=
  let p : Int := left.toNat + above.toNat - corner.toNat
  let dl := (p - left.toNat).natAbs
  let da := (p - above.toNat).natAbs
  let dc := (p - corner.toNat).natAbs
  if dl ≤ da ∧ dl ≤ dc then left else if da ≤ dc then above else corner

/-- Undo filter `filter` on a row: `left` and `corner` hold the pixel before, in this row and in the
row above, one entry for each sample. -/
def unfilter (filter : Nat) : List UInt8 → List UInt8 → List UInt8 → List UInt8 → List UInt8
  | [], _, _, _ => []
  | x :: row, above, left, corner =>
    let up := above.headD 0
    let a := left.headD 0
    let c := corner.headD 0
    let v :=
      if filter = 1 then x + a
      else if filter = 2 then x + up
      else if filter = 3 then x + UInt8.ofNat ((a.toNat + up.toNat) / 2)
      else if filter = 4 then x + predict a up c
      else x
    v :: unfilter filter row (above.drop 1) (left.drop 1 ++ [v]) (corner.drop 1 ++ [up])

/-- The rows of the picture, each from its filter number and its bytes. -/
def rows? (samples width : Nat) : Nat → List UInt8 → List UInt8 → Option (List (List UInt8))
  | 0, _, _ => some []
  | height + 1, above, bytes => do
    let (line, rest) ← Bytes.take? (width * samples + 1) bytes
    match line with
    | [] => none
    | filter :: row =>
      if 4 < filter.toNat then none
      let zeros := List.replicate samples (0 : UInt8)
      let row := unfilter filter.toNat row above zeros zeros
      let below ← rows? samples width height row rest
      return row :: below

/-- The four bytes of a pixel from its samples. -/
def pixel (layout : Layout) (palette alphas : List UInt8) : List UInt8 → List UInt8
  | [g] =>
    match layout with
    | .palette =>
      match (palette.drop (3 * g.toNat)).take 3 with
      | [r, gr, b] => [r, gr, b, (alphas[g.toNat]?).getD 255]
      | _ => [0, 0, 0, 255]
    | _ => [g, g, g, 255]
  | [g, a] => [g, g, g, a]
  | [r, g, b] => [r, g, b, 255]
  | px => px

/-- Width, height and pixels of the picture in a file. -/
def decode? (bytes : List UInt8) : Option (Nat × Nat × List UInt8) := do
  let (head, rest) ← Bytes.take? 8 bytes
  if head ≠ signature then none
  let p ← gather? (rest.length + 1) ⟨none, none, [], []⟩ rest
  let h ← p.header
  if h.layout = .palette ∧ p.palette.isNone then none
  let data ← Inflate.zlib? p.data
  if data.length < h.height then none
  let rows ← rows? h.layout.samples h.width h.height [] data
  let pixels := rows.flatMap fun row =>
    (Bytes.chunks h.layout.samples row).flatMap (pixel h.layout (p.palette.getD []) p.alphas)
  return (h.width, h.height, pixels)

end DisplayEnv.Png
