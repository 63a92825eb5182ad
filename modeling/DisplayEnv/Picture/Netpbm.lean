import DisplayEnv.Picture.Bytes

/-!
# Portable graymaps and pixmaps

A file starts with `P` and a digit for its kind: gray or color, its samples as decimal numbers or as
bytes. Width, height and greatest sample follow as decimal numbers, divided by blanks; a `#` hides
everything up to and including the end of its line. Read here are files whose greatest sample
is 255.
-/

namespace DisplayEnv.Netpbm

/-- The characters that divide numbers. -/
def isBlank (b : UInt8) : Bool := b = 9 || b = 10 || b = 11 || b = 12 || b = 13 || b = 32

def isLineEnd (b : UInt8) : Bool := b = 10 || b = 13

/-- The next word of the header and what follows the blank behind it. `hidden` tells whether a
comment is under way, `word` holds what was read of the word, the last byte first. -/
def word? : List UInt8 → Bool → List UInt8 → Option (List UInt8 × List UInt8)
  | [], _, word => if word = [] then none else some (word.reverse, [])
  | b :: rest, hidden, word =>
    if hidden then word? rest (!isLineEnd b) word
    else if b = 35 then word? rest true word
    else if isBlank b then
      if word = [] then word? rest false word else some (word.reverse, rest)
    else if 128 ≤ b then none
    else word? rest false (b :: word)

/-- The value of a word of decimal digits, behind an optional plus sign. -/
def number? (limit : Nat) (word : List UInt8) : Option Nat :=
  let digits := if word.head? = some 43 then word.drop 1 else word
  if digits = [] ∨ digits.any (fun b => b < 48 || 57 < b) then none
  else
    let n := digits.foldl (fun n b => n * 10 + (b.toNat - 48)) 0
    if n < limit then some n else none

/-- The next number of the header. -/
def headerNumber? (bytes : List UInt8) : Option (Nat × List UInt8) := do
  let (w, rest) ← word? bytes false []
  let n ← number? 0x100000000 w
  return (n, rest)

/-- `n` samples written as decimal numbers. -/
def plainSamples? : Nat → List UInt8 → Option (List UInt8)
  | 0, _ => some []
  | n + 1, bytes => do
    let bytes := bytes.dropWhile isBlank
    let v ← number? 256 (bytes.takeWhile (!isBlank ·))
    let more ← plainSamples? n ((bytes.dropWhile (!isBlank ·)).drop 1)
    return UInt8.ofNat v :: more

/-- The four bytes of a pixel from its samples. -/
def pixel : List UInt8 → List UInt8
  | [g] => [g, g, g, 255]
  | px => px ++ [255]

/-- Width, height and pixels of the picture in a file. -/
def decode? (bytes : List UInt8) : Option (Nat × Nat × List UInt8) := do
  let (head, rest) ← Bytes.take? 2 bytes
  let (samples, plain) ← match head with
    | [80, 50] => some (1, true)
    | [80, 51] => some (3, true)
    | [80, 53] => some (1, false)
    | [80, 54] => some (3, false)
    | _ => none
  let (width, rest) ← headerNumber? rest
  let (height, rest) ← headerNumber? rest
  let (greatest, rest) ← headerNumber? rest
  if greatest ≠ 255 then none
  let count := width * height * samples
  if rest.length < count ∧ !plain ∨ 2 * rest.length + 1 < count then none
  let data ← if plain then plainSamples? count rest else (Bytes.take? count rest).map (·.1)
  return (width, height, (Bytes.chunks samples data).flatMap pixel)

end DisplayEnv.Netpbm
