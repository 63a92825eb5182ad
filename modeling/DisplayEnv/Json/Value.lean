import DisplayEnv.Text.Hex

/-!
# JSON values and their texts

A value, its text on one line (`to_string`) and its text over several lines with two blanks an
indentation (`to_string_pretty`). Members of an object stay in order. A string escapes the quote,
the backslash and the control characters, the latter by a letter where there is one and by four
hexadecimal digits otherwise.
-/

namespace DisplayEnv

/-- A JSON value with whole numbers. -/
inductive Json where
  | null
  | bool (b : Bool)
  | number (n : Int)
  | string (s : String)
  | array (items : List Json)
  | object (members : List (String × Json))
  deriving Repr

namespace Json

/-- How one character stands inside a string. -/
def escaped (c : Char) : List Char :=
  if c = '"' then ['\\', '"']
  else if c = '\\' then ['\\', '\\']
  else if c = '\x08' then ['\\', 'b']
  else if c = '\x0c' then ['\\', 'f']
  else if c = '\n' then ['\\', 'n']
  else if c = '\r' then ['\\', 'r']
  else if c = '\t' then ['\\', 't']
  else if c.toNat < 32 then ['\\', 'u'] ++ Hex.low 4 c.toNat
  else [c]

/-- A string between quotes. -/
def quotedChars (s : String) : List Char := '"' :: (s.toList.flatMap escaped ++ ['"'])

/-- A whole number in decimal digits. -/
def digits (n : Int) : List Char :=
  if n < 0 then '-' :: Nat.toDigits 10 n.natAbs else Nat.toDigits 10 n.toNat

/-! ## On one line -/

mutual

/-- The text of a value without blanks. -/
def compactChars : Json → List Char
  | .null => ['n', 'u', 'l', 'l']
  | .bool true => ['t', 'r', 'u', 'e']
  | .bool false => ['f', 'a', 'l', 's', 'e']
  | .number n => digits n
  | .string s => quotedChars s
  | .array items => '[' :: compactItems items
  | .object members => '\x7b' :: compactMembers members

/-- The items of an array and its closing bracket. -/
def compactItems : List Json → List Char
  | [] => [']']
  | v :: rest => compactChars v ++ compactMoreItems rest

/-- The items after the first, each behind a comma, and the closing bracket. -/
def compactMoreItems : List Json → List Char
  | [] => [']']
  | v :: rest => ',' :: (compactChars v ++ compactMoreItems rest)

/-- The members of an object and its closing brace. -/
def compactMembers : List (String × Json) → List Char
  | [] => ['\x7d']
  | (k, v) :: rest => quotedChars k ++ ':' :: (compactChars v ++ compactMoreMembers rest)

/-- The members after the first, each behind a comma, and the closing brace. -/
def compactMoreMembers : List (String × Json) → List Char
  | [] => ['\x7d']
  | (k, v) :: rest => ',' :: (quotedChars k ++ ':' :: (compactChars v ++ compactMoreMembers rest))

end

/-- The text of a value without blanks. -/
def compact (v : Json) : String := String.ofList v.compactChars

/-! ## Over several lines -/

/-- A line end and the indentation of a line at the given depth. -/
def newLine (depth : Nat) : List Char := '\n' :: List.replicate (2 * depth) ' '

mutual

/-- The text of a value that starts at the given depth. -/
def prettyChars (depth : Nat) : Json → List Char
  | .null => ['n', 'u', 'l', 'l']
  | .bool true => ['t', 'r', 'u', 'e']
  | .bool false => ['f', 'a', 'l', 's', 'e']
  | .number n => digits n
  | .string s => quotedChars s
  | .array [] => ['[', ']']
  | .array (v :: rest) =>
    '[' :: (newLine (depth + 1) ++ prettyChars (depth + 1) v ++ prettyMoreItems depth rest)
  | .object [] => ['\x7b', '\x7d']
  | .object ((k, v) :: rest) =>
    '\x7b' :: (newLine (depth + 1) ++ quotedChars k ++ ':' :: ' ' :: prettyChars (depth + 1) v ++
      prettyMoreMembers depth rest)

/-- The items after the first and the closing bracket of an array at the given depth. -/
def prettyMoreItems (depth : Nat) : List Json → List Char
  | [] => newLine depth ++ [']']
  | v :: rest =>
    ',' :: (newLine (depth + 1) ++ prettyChars (depth + 1) v ++ prettyMoreItems depth rest)

/-- The members after the first and the closing brace of an object at the given depth. -/
def prettyMoreMembers (depth : Nat) : List (String × Json) → List Char
  | [] => newLine depth ++ ['\x7d']
  | (k, v) :: rest =>
    ',' :: (newLine (depth + 1) ++ quotedChars k ++ ':' :: ' ' :: prettyChars (depth + 1) v ++
      prettyMoreMembers depth rest)

end

/-- The text of a value over several lines. -/
def pretty (v : Json) : String := String.ofList (v.prettyChars 0)

end Json

end DisplayEnv
