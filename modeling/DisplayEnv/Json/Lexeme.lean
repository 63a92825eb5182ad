import DisplayEnv.Json.Flaw
import DisplayEnv.Number.Double
import DisplayEnv.Text.Hex

/-!
# Words, numbers and strings of a JSON text

The pieces of a text that are no brackets. Each has two readings. The strict one gives its value;
the lenient one only finds its end, and is for a piece that nobody asked for: it takes a number of
any size and an escape that stands for no character.

* `wordFrom`, `numeralFrom`, `stringFrom`: the strict readings.
* `pastNumber`, `pastString`: the lenient ones.
-/

namespace DisplayEnv.Json

/-- The blanks between pieces. -/
def isBlank (c : Char) : Bool := c = ' ' || c = '\n' || c = '\t' || c = '\r'

/-- A text without the blanks in front. -/
def skipBlanks (cs : List Char) : List Char := cs.dropWhile isBlank

def isDigit (c : Char) : Bool := '0' ≤ c && c ≤ '9'

/-- The number that decimal digits stand for. -/
def ofDigits (ds : List Char) : Nat := ds.foldl (fun n c => n * 10 + (c.toNat - 48)) 0

/-- The rest of a word after its first character. -/
def wordFrom : List Char → List Char → Except Flaw (List Char)
  | [], cs => .ok cs
  | _ :: _, [] => .error (.at .endInValue [])
  | w :: ws, c :: cs => if c = w then wordFrom ws cs else .error (.looking .expectedWord (c :: cs))

/-! ## Numbers -/

/-- A number of a text: whole and within 64 bits, or anything else, as a sign and a double. -/
inductive Numeral where
  | whole (n : Int)
  | fraction (negative : Bool) (value : Double)
  deriving DecidableEq, Repr

/-- The parts of a number: sign, digits before the point, digits behind it, and the exponent. -/
structure NumberParts where
  negative : Bool
  whole : List Char
  fraction : Option (List Char)
  exponent : Option (Bool × List Char)
  deriving Repr

namespace NumberParts

/-- Digits behind a number, as long as it fits 64 bits, and how many do not. -/
def gather : Nat → List Char → Nat × Nat
  | n, [] => (n, 0)
  | n, c :: cs =>
    let more := n * 10 + (c.toNat - 48)
    if more < 0x10000000000000000 then gather more cs else (n, (c :: cs).length)

/-- The number that stands behind the exponent's mark. -/
def shift (p : NumberParts) : Int :=
  match p.exponent with
  | none => 0
  | some (true, ds) => -(ofDigits ds : Int)
  | some (false, ds) => ofDigits ds

/-- As many digits as fit 64 bits, as one number, and the power of ten that it counts. -/
def significand (p : NumberParts) : Nat × Int :=
  let digits := p.fraction.getD []
  let (whole, skipped) := gather 0 p.whole
  let (n, left) := gather whole digits
  (n, p.shift + skipped - (digits.length - left : Nat))

/-- A power of ten as a double, up to the greatest one. -/
def tenTo (k : Nat) : Double := .ofNat (Nat.pow 10 k)

/-- A number times a power of ten, each step rounded to a double; none beyond the greatest double.
-/
def scaled? (n : Nat) (k : Int) : Option Double :=
  let x := Double.ofNat n
  if n = 0 ∨ k < -616 then some .zero
  else if 308 < k then none
  else
    let y :=
      if 0 ≤ k then x.mul (tenTo k.toNat)
      else if -308 ≤ k then x.div (tenTo (-k).toNat)
      else (x.div (tenTo 308)).div (tenTo (-k - 308).toNat)
    if y.isFinite then some y else none

/-- The size of the number as a double; none beyond the greatest one. -/
def value? (p : NumberParts) : Option Double := scaled? p.significand.1 p.significand.2

/-- The number as a whole one, if it has neither point nor exponent and fits 64 bits, signed when it
is below zero. -/
def whole? (p : NumberParts) : Option Int :=
  if p.fraction.isSome || p.exponent.isSome then none
  else
    let n := ofDigits p.whole
    if p.negative then
      if 0 < n ∧ n ≤ 0x8000000000000000 then some (-(n : Int)) else none
    else if n < 0x10000000000000000 then some n else none

end NumberParts

/-- The digits of a number before its point: a zero stands alone. -/
def wholeDigits (strict : Bool) (cs : List Char) : Except Flaw (List Char × List Char) :=
  match cs with
  | [] => .error (.at (if strict then .endInValue else .invalidNumber) [])
  | c :: rest =>
    if c = '0' then
      match rest with
      | d :: _ => if isDigit d then .error (.looking .invalidNumber rest) else .ok ([c], rest)
      | [] => .ok ([c], rest)
    else if isDigit c then .ok (cs.takeWhile isDigit, cs.dropWhile isDigit)
    else .error (.looking .invalidNumber cs)

/-- The digits behind a point, if there is one; at least one has to stand there. -/
def fractionDigits (strict : Bool) (cs : List Char) :
    Except Flaw (Option (List Char) × List Char) :=
  match cs with
  | '.' :: rest =>
    if rest.takeWhile isDigit = [] then
      .error (.looking (if strict && rest.isEmpty then .endInValue else .invalidNumber) rest)
    else .ok (some (rest.takeWhile isDigit), rest.dropWhile isDigit)
  | _ => .ok (none, cs)

/-- The exponent, if there is one: its sign and at least one digit. -/
def exponentDigits (strict : Bool) (cs : List Char) :
    Except Flaw (Option (Bool × List Char) × List Char) :=
  match cs with
  | [] => .ok (none, cs)
  | c :: rest =>
    if c = 'e' ∨ c = 'E' then
      let negative := rest.head? = some '-'
      let digits := if rest.head? = some '+' ∨ negative then rest.drop 1 else rest
      if digits.takeWhile isDigit = [] then
        .error (.looking (if strict && digits.isEmpty then .endInValue else .invalidNumber) digits)
      else .ok (some (negative, digits.takeWhile isDigit), digits.dropWhile isDigit)
    else .ok (none, cs)

/-- The parts of a number and what follows it. -/
def numberParts (strict : Bool) (cs : List Char) : Except Flaw (NumberParts × List Char) := do
  let negative := cs.head? = some '-'
  let (whole, rest) ← wholeDigits strict (if negative then cs.drop 1 else cs)
  let (fraction, rest) ← fractionDigits strict rest
  let (exponent, rest) ← exponentDigits strict rest
  return (⟨negative, whole, fraction, exponent⟩, rest)

/-- The number a text starts with and what follows it. -/
def numeralFrom (cs : List Char) : Except Flaw (Numeral × List Char) := do
  let (p, rest) ← numberParts true cs
  match p.whole? with
  | some n => return (.whole n, rest)
  | none =>
    match p.value? with
    | some x => return (.fraction p.negative x, rest)
    | none => throw (.at .numberTooLarge rest)

/-- What follows the number a text starts with. -/
def pastNumber (cs : List Char) : Except Flaw (List Char) := do
  let (_, rest) ← numberParts false cs
  return rest

/-! ## Strings -/

/-- The character that a letter behind a backslash stands for. -/
def escapeLetter? (c : Char) : Option Char :=
  if c = '"' then some '"'
  else if c = '\\' then some '\\'
  else if c = '/' then some '/'
  else if c = 'b' then some '\x08'
  else if c = 'f' then some '\x0c'
  else if c = 'n' then some '\n'
  else if c = 'r' then some '\r'
  else if c = 't' then some '\t'
  else none

/-- Four hexadecimal digits as a number, and what follows them. -/
def fourHex (cs : List Char) : Except Flaw (Nat × List Char) :=
  if byteLength (cs.take 4) < 4 then .error (.at .endInString [])
  else
    match cs with
    | a :: b :: c :: d :: rest =>
      match Hex.value? a, Hex.value? b, Hex.value? c, Hex.value? d with
      | some w, some x, some y, some z => .ok (((w * 16 + x) * 16 + y) * 16 + z, rest)
      | _, _, _, _ => .error (.at .invalidEscape rest)
    | _ => .error (.at .invalidEscape [])

/-- The character of a pair of surrogates. -/
def joinSurrogates (high low : Nat) : Char :=
  Char.ofNat (0x10000 + (high - 0xd800) * 0x400 + (low - 0xdc00))

/-- The character behind `\u`, written as one number or as two that are surrogates. -/
def unicodeEscape (cs : List Char) : Except Flaw (Char × List Char) := do
  let (n, rest) ← fourHex cs
  if 0xdc00 ≤ n ∧ n ≤ 0xdfff then throw (.at .loneSurrogate rest)
  if n < 0xd800 ∨ 0xdbff < n then return (Char.ofNat n, rest)
  match rest with
  | [] => throw (.at .endInString [])
  | '\\' :: [] => throw (.at .endInString [])
  | '\\' :: 'u' :: rest =>
    let (m, rest) ← fourHex rest
    if m < 0xdc00 ∨ 0xdfff < m then throw (.at .loneSurrogate rest)
    return (joinSurrogates n m, rest)
  | '\\' :: rest => throw (.looking .halfSurrogatePair rest)
  | _ => throw (.looking .halfSurrogatePair rest)

/-- The characters up to the closing quote, and what follows it. The bound on steps is the length of
the text, for each step takes a character. -/
def stringChars : Nat → List Char → Except Flaw (List Char × List Char)
  | 0, _ => .error (.at .endInString [])
  | _ + 1, [] => .error (.at .endInString [])
  | n + 1, c :: rest =>
    if c = '"' then .ok ([], rest)
    else if c = '\\' then
      match rest with
      | [] => .error (.at .endInString [])
      | e :: rest' =>
        if e = 'u' then do
          let (d, rest) ← unicodeEscape rest'
          let (more, rest) ← stringChars n rest
          return (d :: more, rest)
        else
          match escapeLetter? e with
          | some d => do
            let (more, rest) ← stringChars n rest'
            return (d :: more, rest)
          | none => .error (.looking .invalidEscape rest)
    else if c.toNat < 32 then .error (.looking .controlCharacter (c :: rest))
    else do
      let (more, rest) ← stringChars n rest
      return (c :: more, rest)

/-- The string behind an opening quote, and what follows it. -/
def stringFrom (cs : List Char) : Except Flaw (String × List Char) := do
  let (chars, rest) ← stringChars (cs.length + 1) cs
  return (String.ofList chars, rest)

/-- What follows the string behind an opening quote; the bound is as in `stringChars`. -/
def pastChars : Nat → List Char → Except Flaw (List Char)
  | 0, _ => .error (.at .endInString [])
  | _ + 1, [] => .error (.at .endInString [])
  | n + 1, c :: rest =>
    if c = '"' then .ok rest
    else if c = '\\' then
      match rest with
      | [] => .error (.at .endInString [])
      | e :: rest' =>
        if e = 'u' then do
          let (_, rest) ← fourHex rest'
          pastChars n rest
        else if (escapeLetter? e).isSome then pastChars n rest'
        else .error (.looking .invalidEscape rest)
    else if c.toNat < 32 then .error (.at .controlCharacter (c :: rest))
    else pastChars n rest

/-- What follows the string behind an opening quote. -/
def pastString (cs : List Char) : Except Flaw (List Char) := pastChars (cs.length + 1) cs

end DisplayEnv.Json
