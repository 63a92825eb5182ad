/-!
# Flaws of a JSON text

Where and why a text stops being JSON. A flaw holds what is left of the text at the place where it
was noticed, so that its line and column can be told.

* `position`: line and column of a place, both counted as a reader of the text counts: lines from
  one, columns in bytes from the start of the line.
-/

namespace DisplayEnv.Json

/-- Why a text stops being JSON. -/
inductive FlawKind where
  | endInValue
  | endInList
  | endInObject
  | endInString
  | expectedColon
  | expectedCommaOrBracket
  | expectedCommaOrBrace
  | expectedWord
  | expectedValue
  | invalidEscape
  | invalidNumber
  | numberTooLarge
  | loneSurrogate
  | halfSurrogatePair
  | keyNotString
  | controlCharacter
  | trailingComma
  | trailingCharacters
  deriving DecidableEq, Repr

namespace FlawKind

/-- Whether the text ended where more of it was needed. -/
def isEnd : FlawKind → Bool
  | .endInValue | .endInList | .endInObject | .endInString => true
  | _ => false

def message : FlawKind → String
  | .endInValue => "EOF while parsing a value"
  | .endInList => "EOF while parsing a list"
  | .endInObject => "EOF while parsing an object"
  | .endInString => "EOF while parsing a string"
  | .expectedColon => "expected \x60:\x60"
  | .expectedCommaOrBracket => "expected \x60,\x60 or \x60]\x60"
  | .expectedCommaOrBrace => "expected \x60,\x60 or \x60\x7d\x60"
  | .expectedWord => "expected ident"
  | .expectedValue => "expected value"
  | .invalidEscape => "invalid escape"
  | .invalidNumber => "invalid number"
  | .numberTooLarge => "number out of range"
  | .loneSurrogate => "lone leading surrogate in hex escape"
  | .halfSurrogatePair => "unexpected end of hex escape"
  | .keyNotString => "key must be a string"
  | .controlCharacter => "control character (\\u0000-\\u001F) found while parsing a string"
  | .trailingComma => "trailing comma"
  | .trailingCharacters => "trailing characters"

end FlawKind

/-- A place in a text: what is left of it there, and whether its next byte was looked at already. -/
structure Spot where
  left : List Char
  looked : Bool
  deriving DecidableEq, Repr

/-- A flaw and its place. -/
structure Flaw where
  kind : FlawKind
  spot : Spot
  deriving DecidableEq, Repr

/-- The flaw noticed after everything before `left` was taken. -/
def Flaw.at (kind : FlawKind) (left : List Char) : Flaw := ⟨kind, ⟨left, false⟩⟩

/-- The flaw noticed by looking at the first byte of `left`. -/
def Flaw.looking (kind : FlawKind) (left : List Char) : Flaw := ⟨kind, ⟨left, true⟩⟩

/-- The length of characters in bytes. -/
def byteLength (cs : List Char) : Nat := cs.foldl (fun n c => n + c.utf8Size) 0

/-- Line and column of a place in a text. -/
def position (text : List Char) (spot : Spot) : Nat × Nat :=
  let before := text.take (text.length - spot.left.length)
  let line := 1 + before.count '\n'
  let column := byteLength (before.reverse.takeWhile (· ≠ '\n'))
  if spot.looked then
    match spot.left with
    | [] => (line, column)
    | c :: _ => if c = '\n' then (line + 1, 0) else (line, column + 1)
  else (line, column)

end DisplayEnv.Json
