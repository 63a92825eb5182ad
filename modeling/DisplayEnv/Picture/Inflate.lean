import DisplayEnv.Picture.Bytes

/-!
# Inflating compressed bytes

The deflate format: a sequence of blocks, each stored, coded with the fixed prefix codes or coded
with prefix codes that it brings along. Bits are taken from the lowest of each byte upwards. A
prefix code is canonical: it is given by the length of each symbol's word, words of one length are
consecutive numbers in the order of the symbols, and shorter words come before longer ones.

`inflate?` answers the bytes of the stream, `zlib?` those of a stream behind the two-byte header of
a zlib container. Anything malformed is `none`.
-/

namespace DisplayEnv.Inflate

/-- What is left to read: bytes, and how many bits of the first one are used up. -/
structure Bits where
  bytes : List UInt8
  used : Nat
  deriving Repr

namespace Bits

/-- The next bit. -/
def bit? (s : Bits) : Option (Nat × Bits) :=
  match s.bytes with
  | [] => none
  | b :: rest =>
    let v := (b.toNat >>> s.used) % 2
    if s.used = 7 then some (v, ⟨rest, 0⟩) else some (v, ⟨b :: rest, s.used + 1⟩)

/-- The next `n` bits as a number, the first of them the lowest. -/
def number? : Nat → Bits → Option (Nat × Bits)
  | 0, s => some (0, s)
  | n + 1, s => do
    let (low, s) ← s.bit?
    let (high, s) ← number? n s
    return (low + 2 * high, s)

/-- The whole bytes that are left, after the bits of a byte that was begun. -/
def wholeBytes (s : Bits) : List UInt8 := if s.used = 0 then s.bytes else s.bytes.drop 1

end Bits

/-- The greatest length of a word of a prefix code. -/
def maxLength : Nat := 15

/-- A canonical prefix code: for each length from one up, the symbols with a word of that length. -/
structure Code where
  symbols : List (List Nat)
  deriving Repr

namespace Code

/-- The code in which symbol `i` has a word of length `lengths[i]`, or none for length zero. -/
def ofLengths (lengths : List Nat) : Code :=
  ⟨(List.range maxLength).map fun l =>
    (lengths.zipIdx.filter fun p => p.1 = l + 1).map (·.2)⟩

/-- How many words of the greatest length are not yet the start of any word: negative when two
words would have to be equal. -/
def slack (c : Code) : Int :=
  c.symbols.foldl (fun (left : Int) s => 2 * left - s.length) 1

/-- Words of the code, from the shortest: `first` is the first word of the length at hand and `word`
what was read of that length. -/
def decodeFrom : List (List Nat) → Nat → Nat → Bits → Option (Nat × Bits)
  | [], _, _, _ => none
  | symbols :: longer, word, first, s => do
    let (b, s) ← s.bit?
    let word := 2 * word + b
    let first := 2 * first
    match symbols[word - first]? with
    | some symbol => return (symbol, s)
    | none => decodeFrom longer word (first + symbols.length) s

/-- The next symbol. -/
def decode? (c : Code) (s : Bits) : Option (Nat × Bits) := decodeFrom c.symbols 0 0 s

end Code

/-- Base value and number of extra bits of each symbol for a length, from symbol 257 up. -/
def lengthTable : List (Nat × Nat) :=
  [(3, 0), (4, 0), (5, 0), (6, 0), (7, 0), (8, 0), (9, 0), (10, 0), (11, 1), (13, 1), (15, 1),
   (17, 1), (19, 2), (23, 2), (27, 2), (31, 2), (35, 3), (43, 3), (51, 3), (59, 3), (67, 4),
   (83, 4), (99, 4), (115, 4), (131, 5), (163, 5), (195, 5), (227, 5), (258, 0)]

/-- Base value and number of extra bits of each symbol for a distance. -/
def distanceTable : List (Nat × Nat) :=
  [(1, 0), (2, 0), (3, 0), (4, 0), (5, 1), (7, 1), (9, 2), (13, 2), (17, 3), (25, 3), (33, 4),
   (49, 4), (65, 5), (97, 5), (129, 6), (193, 6), (257, 7), (385, 7), (513, 8), (769, 8),
   (1025, 9), (1537, 9), (2049, 10), (3073, 10), (4097, 11), (6145, 11), (8193, 12), (12289, 12),
   (16385, 13), (24577, 13)]

/-- The value of a symbol of a table, with its extra bits read. -/
def value? (table : List (Nat × Nat)) (symbol : Nat) (s : Bits) : Option (Nat × Bits) := do
  let (base, extra) ← table[symbol]?
  let (more, s) ← s.number? extra
  return (base + more, s)

/-- Repeat `length` bytes of the output, each from `distance` bytes back. -/
def copy? (distance : Nat) : Nat → Array UInt8 → Option (Array UInt8)
  | 0, out => some out
  | length + 1, out =>
    if distance ≤ out.size then
      match out[out.size - distance]? with
      | some b => copy? distance length (out.push b)
      | none => none
    else none

/-- The symbols of one block up to its end, at most `bound` of them. -/
def symbols? (lengths distances : Code) :
    Nat → Array UInt8 → Bits → Option (Array UInt8 × Bits)
  | 0, _, _ => none
  | bound + 1, out, s => do
    let (symbol, s) ← lengths.decode? s
    if symbol < 256 then symbols? lengths distances bound (out.push (UInt8.ofNat symbol)) s
    else if symbol = 256 then return (out, s)
    else
      let (length, s) ← value? lengthTable (symbol - 257) s
      let (distanceSymbol, s) ← distances.decode? s
      let (distance, s) ← value? distanceTable distanceSymbol s
      let out ← copy? distance length out
      symbols? lengths distances bound out s

/-- The fixed code for literals and lengths. -/
def fixedLengths : Code :=
  .ofLengths (List.replicate 144 8 ++ List.replicate 112 9 ++ List.replicate 24 7 ++
    List.replicate 8 8)

/-- The fixed code for distances. -/
def fixedDistances : Code := .ofLengths (List.replicate 30 5)

/-- The order in which the lengths of the code for lengths are written. -/
def lengthOrder : List Nat := [16, 17, 18, 0, 8, 7, 9, 6, 10, 5, 11, 4, 12, 3, 13, 2, 14, 1, 15]

/-- `n` numbers of three bits. -/
def triples? : Nat → Bits → Option (List Nat × Bits)
  | 0, s => some ([], s)
  | n + 1, s => do
    let (v, s) ← s.number? 3
    let (vs, s) ← triples? n s
    return (v :: vs, s)

/-- The lengths of the words of both codes of a block, until `total` are known; `lengths` holds
those known so far, the last one first. -/
def codeLengths? (code : Code) (total : Nat) : Nat → List Nat → Bits → Option (List Nat × Bits)
  | 0, _, _ => none
  | bound + 1, lengths, s =>
    if lengths.length = total then some (lengths.reverse, s)
    else if total < lengths.length then none
    else do
      let (symbol, s) ← code.decode? s
      if symbol < 16 then codeLengths? code total bound (symbol :: lengths) s
      else if symbol = 16 then
        let (more, s) ← s.number? 2
        let last ← lengths.head?
        codeLengths? code total bound (List.replicate (3 + more) last ++ lengths) s
      else if symbol = 17 then
        let (more, s) ← s.number? 3
        codeLengths? code total bound (List.replicate (3 + more) 0 ++ lengths) s
      else
        let (more, s) ← s.number? 7
        codeLengths? code total bound (List.replicate (11 + more) 0 ++ lengths) s

/-- The two codes that a block brings along. -/
def codes? (s : Bits) : Option (Code × Code × Bits) := do
  let (hlit, s) ← s.number? 5
  let (hdist, s) ← s.number? 5
  let (hclen, s) ← s.number? 4
  if 286 < hlit + 257 ∨ 30 < hdist + 1 then none
  let (raw, s) ← triples? (hclen + 4) s
  let table := lengthOrder.zip raw
  let code := Code.ofLengths ((List.range 19).map fun i => (table.lookup i).getD 0)
  if code.slack ≠ 0 then none
  let total := hlit + 257 + (hdist + 1)
  let (lengths, s) ← codeLengths? code total (total + 1) [] s
  let literals := Code.ofLengths (lengths.take (hlit + 257))
  let distances := Code.ofLengths (lengths.drop (hlit + 257))
  if lengths[256]? = some 0 ∨ literals.slack ≠ 0 then none
  let used := (lengths.drop (hlit + 257)).filter (· ≠ 0)
  if distances.slack ≠ 0 ∧ 1 < used.length then none
  return (literals, distances, s)

/-- A stored block: its length, the complement of that, and the bytes themselves. -/
def stored? (out : Array UInt8) (s : Bits) : Option (Array UInt8 × Bits) := do
  let (head, rest) ← Bytes.take? 4 s.wholeBytes
  let length := Bytes.little (head.take 2)
  if length + Bytes.little (head.drop 2) ≠ 65535 then none
  let (body, rest) ← Bytes.take? length rest
  return (out ++ body.toArray, ⟨rest, 0⟩)

/-- The blocks of a stream, at most `bound` of them. -/
def blocks? : Nat → Array UInt8 → Bits → Option (Array UInt8)
  | 0, _, _ => none
  | bound + 1, out, s => do
    let (final, s) ← s.bit?
    let (kind, s) ← s.number? 2
    let symbolBound := 8 * s.bytes.length + 1
    let (out, s) ←
      if kind = 0 then stored? out s
      else if kind = 1 then symbols? fixedLengths fixedDistances symbolBound out s
      else if kind = 2 then do
        let (lengths, distances, s) ← codes? s
        symbols? lengths distances symbolBound out s
      else none
    if final = 1 then return out else blocks? bound out s

/-- The bytes of a deflate stream. What follows the stream does not matter. -/
def inflate? (bytes : List UInt8) : Option (List UInt8) :=
  (blocks? (8 * bytes.length + 1) #[] ⟨bytes, 0⟩).map (·.toList)

/-- The bytes of the stream in a zlib container. The checksum behind it is not looked at. -/
def zlib? (bytes : List UInt8) : Option (List UInt8) := do
  let (head, rest) ← Bytes.take? 2 bytes
  let method ← head[0]?
  let flags ← head[1]?
  if method % 16 ≠ 8 ∨ 7 < method / 16 ∨ flags / 32 % 2 ≠ 0 ∨ Bytes.big head % 31 ≠ 0 then none
  else inflate? rest

end DisplayEnv.Inflate
