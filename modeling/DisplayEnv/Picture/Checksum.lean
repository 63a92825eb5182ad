/-!
# The cyclic redundancy check of 32 bits

The checksum of a chunk: the remainder of the bytes, as a polynomial over two elements with the
lowest bit first, by the polynomial `0xedb88320`.
-/

namespace DisplayEnv.Checksum

/-- One bit of the division. -/
def shiftBit (r : UInt32) : UInt32 :=
  if r &&& 1 = 1 then (r >>> 1) ^^^ 0xedb88320 else r >>> 1

/-- One byte of the division. -/
def shiftByte (r : UInt32) (b : UInt8) : UInt32 :=
  (List.range 8).foldl (fun r _ => shiftBit r) (r ^^^ b.toUInt32)

/-- The checksum of a sequence of bytes. -/
def crc32 (bs : List UInt8) : UInt32 := (bs.foldl shiftByte 0xffffffff) ^^^ 0xffffffff

end DisplayEnv.Checksum
