import DisplayEnv.Picture.Bytes

/-!
# Bitmap files

A bitmap file starts with `BM`, and at byte 10 says where its rows begin. Read here are files with
the 40-byte header, or a longer one that begins the same way, and 24 uncompressed bits a pixel:
blue, green, red. A row is filled up to a multiple of four bytes. Rows go from the bottom up, or
from the top down when the height is negative.
-/

namespace DisplayEnv.Bitmap

/-- A number of 32 bits as a signed one. -/
def signed (n : Nat) : Int := if n < 0x80000000 then n else (n : Int) - 0x100000000

/-- The greatest width and height. -/
def limit : Nat := 65535

/-- The four bytes of a pixel. -/
def pixel : List UInt8 → List UInt8
  | [b, g, r] => [r, g, b, 255]
  | px => px

/-- Width, height and pixels of the picture in a file. -/
def decode? (bytes : List UInt8) : Option (Nat × Nat × List UInt8) := do
  if bytes.take 2 ≠ [0x42, 0x4d] then none
  let start ← (Bytes.slice? 10 4 bytes).map Bytes.little
  let size ← (Bytes.slice? 14 4 bytes).map Bytes.little
  let width ← (Bytes.slice? 18 4 bytes).map fun b => signed (Bytes.little b)
  let height ← (Bytes.slice? 22 4 bytes).map fun b => signed (Bytes.little b)
  let planes ← (Bytes.slice? 26 2 bytes).map Bytes.little
  let depth ← (Bytes.slice? 28 2 bytes).map Bytes.little
  let compression ← (Bytes.slice? 30 4 bytes).map Bytes.little
  let _ ← Bytes.slice? 34 20 bytes
  if ¬(size = 40 ∨ size = 52 ∨ size = 56 ∨ size = 108 ∨ size = 124) then none
  if planes ≠ 1 ∨ depth ≠ 24 ∨ compression ≠ 0 then none
  if width < 0 ∨ limit < width.natAbs ∨ limit < height.natAbs then none
  let rowBytes := (width.natAbs * 3 + 3) / 4 * 4
  let data ← Bytes.slice? start (rowBytes * height.natAbs) bytes
  let rows := (Bytes.chunks rowBytes data).map fun row => row.take (width.natAbs * 3)
  let rows := if height < 0 then rows else rows.reverse
  return (width.natAbs, height.natAbs, rows.flatMap fun row => (Bytes.chunks 3 row).flatMap pixel)

end DisplayEnv.Bitmap
