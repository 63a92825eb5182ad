import DisplayEnv.Json.Lexeme

/-!
# The shape of a JSON text

A draft is what a text holds as far as it is JSON: pieces, arrays and objects in the order of the
text, each with the place where it starts. A text that stops being JSON has a draft too; the flaw
stands at its place in it, so a reader that takes the parts of a draft from left to right meets
either the first thing it cannot use or the flaw, whichever comes first.

Two flaws can stand at one place, for a part that nobody asked for is read leniently (see
`Lexeme`). `Draft.after` is the text behind such a part, or the flaw in it.

* `Draft.read`: the draft of the value a text starts with.
-/

namespace DisplayEnv.Json

/-- A value that is neither array nor object. -/
inductive Scalar where
  | null
  | bool (b : Bool)
  | number (n : Numeral)
  | string (s : String)
  deriving DecidableEq, Repr

/-- A member of an object: its key, the text behind the key and its blanks, and its value. -/
structure Member (α : Type) where
  key : Except Flaw String
  afterKey : List Char
  value : α

/-- What stands where a value is expected. Each form holds the text in front of which it starts. -/
inductive Draft where
  /-- A piece: its strict reading with the text behind it, and the text behind its lenient one. -/
  | scalar (front : List Char) (strict : Except Flaw (Scalar × List Char))
      (lenient : Except Flaw (List Char))
  /-- An array: its items up to a flaw or its end, and the text behind it. -/
  | array (front : List Char) (items : List Draft) (close : Except Flaw (List Char))
  /-- An object: its members up to a flaw or its end, and the text behind it. -/
  | object (front : List Char) (members : List (Member Draft)) (close : Except Flaw (List Char))

namespace Draft

/-- The text that starts with the value. -/
def front : Draft → List Char
  | .scalar front _ _ => front
  | .array front _ _ => front
  | .object front _ _ => front

/-- The text behind a value that nobody asked for. -/
def after : Draft → Except Flaw (List Char)
  | .scalar _ _ lenient => lenient
  | .array _ _ close => close
  | .object _ _ close => close

/-- A place without a value: why it gives none, and why there is no going on behind it. -/
def broken (front : List Char) (strict lenient : Flaw) : Draft :=
  .scalar front (.error strict) (.error lenient)

/-- A piece that reads the same both ways. -/
def piece (front : List Char) (reading : Except Flaw (Scalar × List Char)) : Draft :=
  .scalar front reading (reading.map (·.2))

/-- The word, number or string a text starts with. -/
def ofPiece (front : List Char) : Draft :=
  match front with
  | [] => broken [] (.looking .endInValue []) (.looking .endInValue [])
  | c :: rest =>
    if c = 'n' then piece front ((wordFrom ['u', 'l', 'l'] rest).map ((.null, ·)))
    else if c = 't' then piece front ((wordFrom ['r', 'u', 'e'] rest).map ((.bool true, ·)))
    else if c = 'f' then piece front ((wordFrom ['a', 'l', 's', 'e'] rest).map ((.bool false, ·)))
    else if c = '"' then
      .scalar front ((stringFrom rest).map fun p => (.string p.1, p.2)) (pastString rest)
    else if c = '-' ∨ isDigit c then
      .scalar front ((numeralFrom front).map fun p => (.number p.1, p.2)) (pastNumber front)
    else broken front (.looking .expectedValue front) (.looking .expectedValue front)

/-- The key behind an opening quote: what stands there strictly, the text behind it and its blanks,
and the text behind the colon that follows. -/
def keyFrom (cs : List Char) : Except Flaw String × List Char × Except Flaw (List Char) :=
  let strict := (stringFrom cs).map (·.1)
  match pastString cs with
  | .error f => (strict, [], .error f)
  | .ok rest =>
    let behind := skipBlanks rest
    match behind with
    | [] => (strict, behind, .error (.looking .endInObject []))
    | c :: rest =>
      if c = ':' then (strict, behind, .ok rest)
      else (strict, behind, .error (.looking .expectedColon behind))

/-- A member without a key. -/
def keyless (front : List Char) (strict lenient : FlawKind) :
    List (Member Draft) × Except Flaw (List Char) :=
  ([⟨.error (.looking strict front), front, broken front (.looking lenient front)
    (.looking lenient front)⟩], .error (.looking lenient front))

mutual

/-- The value that a text starts with, behind its blanks. The bound on steps is three for each
character of the text: a bracket takes three, anything else fewer. -/
def valueFrom : Nat → List Char → Draft
  | 0, cs => broken cs (.at .endInValue cs) (.at .endInValue cs)
  | n + 1, cs =>
    match skipBlanks cs with
    | [] => ofPiece []
    | c :: rest =>
      if c = '[' then
        let (items, close) := arrayFrom n rest
        .array (c :: rest) items close
      else if c = '\x7b' then
        let (members, close) := objectFrom n rest
        .object (c :: rest) members close
      else ofPiece (c :: rest)

/-- The items behind an opening bracket. -/
def arrayFrom : Nat → List Char → List Draft × Except Flaw (List Char)
  | 0, cs => ([], .error (.at .endInList cs))
  | n + 1, cs =>
    match skipBlanks cs with
    | [] => ([], .error (.looking .endInList []))
    | c :: rest => if c = ']' then ([], .ok rest) else itemsFrom n (c :: rest)

/-- An item and those behind it. -/
def itemsFrom : Nat → List Char → List Draft × Except Flaw (List Char)
  | 0, cs => ([], .error (.at .endInList cs))
  | n + 1, cs =>
    let item := valueFrom n cs
    match item.after with
    | .error f => ([item], .error f)
    | .ok rest =>
      let (items, close) := moreItems n rest
      (item :: items, close)

/-- The items behind an item. -/
def moreItems : Nat → List Char → List Draft × Except Flaw (List Char)
  | 0, cs => ([], .error (.at .endInList cs))
  | n + 1, cs =>
    match skipBlanks cs with
    | [] => ([], .error (.looking .endInList []))
    | c :: rest =>
      if c = ']' then ([], .ok rest)
      else if c = ',' then
        match skipBlanks rest with
        | d :: rest =>
          if d = ']' then
            ([broken (d :: rest) (.looking .trailingComma (d :: rest))
              (.looking .expectedValue (d :: rest))], .error (.looking .expectedValue (d :: rest)))
          else itemsFrom n (d :: rest)
        | [] => itemsFrom n []
      else ([], .error (.looking .expectedCommaOrBracket (c :: rest)))

/-- The members behind an opening brace. -/
def objectFrom : Nat → List Char → List (Member Draft) × Except Flaw (List Char)
  | 0, cs => ([], .error (.at .endInObject cs))
  | n + 1, cs =>
    match skipBlanks cs with
    | [] => ([], .error (.looking .endInObject []))
    | c :: rest =>
      if c = '\x7d' then ([], .ok rest)
      else if c = '"' then membersFrom n rest
      else keyless (c :: rest) .keyNotString .keyNotString

/-- The member whose key stands behind an opening quote, and those behind it. -/
def membersFrom : Nat → List Char → List (Member Draft) × Except Flaw (List Char)
  | 0, cs => ([], .error (.at .endInObject cs))
  | n + 1, cs =>
    let (key, behind, colon) := keyFrom cs
    match colon with
    | .error f => ([⟨key, behind, broken behind f f⟩], .error f)
    | .ok rest =>
      let value := valueFrom n rest
      match value.after with
      | .error f => ([⟨key, behind, value⟩], .error f)
      | .ok rest =>
        let (members, close) := moreMembers n rest
        (⟨key, behind, value⟩ :: members, close)

/-- The members behind a member. -/
def moreMembers : Nat → List Char → List (Member Draft) × Except Flaw (List Char)
  | 0, cs => ([], .error (.at .endInObject cs))
  | n + 1, cs =>
    match skipBlanks cs with
    | [] => ([], .error (.looking .endInObject []))
    | c :: rest =>
      if c = '\x7d' then ([], .ok rest)
      else if c = ',' then
        match skipBlanks rest with
        | [] => keyless [] .endInValue .endInObject
        | d :: rest =>
          if d = '"' then membersFrom n rest
          else if d = '\x7d' then keyless (d :: rest) .trailingComma .keyNotString
          else keyless (d :: rest) .keyNotString .keyNotString
      else ([], .error (.looking .expectedCommaOrBrace (c :: rest)))

end

/-- The value that a text starts with. -/
def read (cs : List Char) : Draft := valueFrom (3 * cs.length + 3) cs

end Draft

end DisplayEnv.Json
