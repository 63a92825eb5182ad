import DisplayEnv.Json.Draft
import DisplayEnv.Number.Shortest
import DisplayEnv.Text.Quoted

/-!
# Reading typed values from a draft

A reader takes a draft and gives a value, the flaw of the text, or a mismatch: the text is JSON up
to there and holds something else than was asked for. A record is read from an object, whose members
may come in any order and among unknown ones, or from an array of its fields in their order; a field
that is not there keeps what the record starts with (`default`), if the record can do without it.

* `Record.read`: the one place where objects and arrays become records.
* `ReadError.message`: the wording of a refusal, with the place in the text.
-/

namespace DisplayEnv.Json

/-- What a draft holds, to one who wanted something else. -/
inductive Found where
  | null
  | bool (b : Bool)
  | whole (n : Int)
  | fraction (negative : Bool) (value : Double)
  | string (s : String)
  | sequence
  | map
  deriving DecidableEq, Repr

/-- Why a value of a text is not the one that was asked for. -/
inductive Mismatch where
  | wrongType (found : Found) (expected : String)
  | wrongValue (n : Int) (expected : String)
  | wrongLength (n : Nat) (expected : String)
  | duplicateField (name : String)
  | missingField (name : String)
  deriving DecidableEq, Repr

/-- Why a text gives no value. -/
inductive ReadError where
  | flaw (f : Flaw)
  | mismatch (cause : Mismatch) (spot : Spot)
  deriving DecidableEq, Repr

/-- The kinds of refusals. -/
inductive Category where
  /-- The text ended too early. -/
  | ended
  /-- The text is no JSON. -/
  | malformed
  /-- The text holds something else. -/
  | mismatched
  deriving DecidableEq, Repr

def ReadError.category : ReadError → Category
  | .flaw f => if f.kind.isEnd then .ended else .malformed
  | .mismatch _ _ => .mismatched

/-- The value as it is named in a refusal. -/
def Found.text : Found → String
  | .null => "null"
  | .bool b => "boolean \x60" ++ toString b ++ "\x60"
  | .whole n => "integer \x60" ++ toString n ++ "\x60"
  | .fraction negative value =>
    "floating point \x60" ++ (if negative then "-" else "") ++ value.decimalText ++ "\x60"
  | .string s => "string " ++ Text.quoted s
  | .sequence => "sequence"
  | .map => "map"

/-- The wording of a mismatch. -/
def Mismatch.message : Mismatch → String
  | .wrongType found expected => "invalid type: " ++ found.text ++ ", expected " ++ expected
  | .wrongValue n expected =>
    "invalid value: integer \x60" ++ toString n ++ "\x60, expected " ++ expected
  | .wrongLength n expected => "invalid length " ++ toString n ++ ", expected " ++ expected
  | .duplicateField name => "duplicate field \x60" ++ name ++ "\x60"
  | .missingField name => "missing field \x60" ++ name ++ "\x60"

/-- The wording of a refusal of a text. -/
def ReadError.message (text : List Char) : ReadError → String
  | .flaw f => f.kind.message ++ placed f.spot
  | .mismatch cause spot => cause.message ++ placed spot
where
  /-- Line and column of a place. -/
  placed (spot : Spot) : String :=
    " at line " ++ toString (position text spot).1 ++ " column " ++
      toString (position text spot).2

/-- A value read from a draft. -/
abbrev Reader (α : Type) := Draft → Except ReadError α

def Scalar.found : Scalar → Found
  | .null => .null
  | .bool b => .bool b
  | .number (.whole n) => .whole n
  | .number (.fraction negative value) => .fraction negative value
  | .string s => .string s

/-- The refusal of a draft by one who expects something else. -/
def Draft.refuse {α : Type} (expected : String) : Reader α
  | .scalar _ (.error f) _ => .error (.flaw f)
  | .scalar _ (.ok (s, rest)) _ => .error (.mismatch (.wrongType s.found expected) ⟨rest, false⟩)
  | .array front _ _ => .error (.mismatch (.wrongType .sequence expected) ⟨front, false⟩)
  | .object front _ _ => .error (.mismatch (.wrongType .map expected) ⟨front, false⟩)

/-! ## Scalars and sequences -/

def readString : Reader String
  | .scalar _ (.ok (.string s, _)) _ => .ok s
  | d => d.refuse "a string"

def readBool : Reader Bool
  | .scalar _ (.ok (.bool b, _)) _ => .ok b
  | d => d.refuse "a boolean"

/-- A whole number from `low` to `high`. -/
def readWhole (low high : Int) (expected : String) : Reader Int
  | .scalar _ (.ok (.number (.whole n), rest)) _ =>
    if low ≤ n ∧ n ≤ high then .ok n
    else .error (.mismatch (.wrongValue n expected) ⟨rest, false⟩)
  | d => d.refuse expected

def readUInt32 : Reader UInt32 := fun d =>
  (readWhole 0 0xffffffff "u32" d).map fun n => UInt32.ofNat n.toNat

def readUInt64 : Reader UInt64 := fun d =>
  (readWhole 0 0xffffffffffffffff "u64" d).map fun n => UInt64.ofNat n.toNat

def readInt32 : Reader Int32 := fun d =>
  (readWhole (-0x80000000) 0x7fffffff "i32" d).map Int32.ofInt

/-- A value or nothing. -/
def readOption {α : Type} (read : Reader α) : Reader (Option α)
  | .scalar _ (.ok (.null, _)) _ => .ok none
  | d => (read d).map some

/-- Every item of a sequence. -/
def readList {α : Type} (read : Reader α) : Reader (List α)
  | .array _ items close => do
    let values ← items.mapM read
    match close with
    | .ok _ => return values
    | .error f => throw (.flaw f)
  | d => d.refuse "a sequence"

/-! ## Records -/

/-- A field of a record under construction `P`. -/
structure Field (P : Type) where
  name : String
  /-- Whether the field was read already. -/
  isSet : P → Bool
  /-- Read the field. -/
  read : Draft → P → Except ReadError P

/-- How a record is read: the fields in order, the record before any of them was read, and the
record at the end, or the first field that it cannot do without. -/
structure Record (P α : Type) where
  expected : String
  fields : List (Field P)
  start : P
  finish : P → Except String α

namespace Record

variable {P α : Type}

/-- Read members in the order of the text; an unknown one is passed over. -/
def readMembers (r : Record P α) (p : P) : List (Member Draft) → Except ReadError P
  | [] => .ok p
  | m :: rest =>
    match m.key with
    | .error f => .error (.flaw f)
    | .ok key =>
      match r.fields.find? (·.name = key) with
      | none =>
        match m.value.after with
        | .error f => .error (.flaw f)
        | .ok _ => r.readMembers p rest
      | some field =>
        if field.isSet p then
          .error (.mismatch (.duplicateField key) ⟨behindKey m.afterKey, false⟩)
        else
          match field.read m.value p with
          | .error e => .error e
          | .ok p => r.readMembers p rest
where
  /-- Where a second member of a name is noticed: behind its key, and behind the brace if the object
  ends there. -/
  behindKey : List Char → List Char
    | [] => []
    | c :: rest => if c = '\x7d' then rest else c :: rest

/-- Read items as fields in their order, and answer the items that are left over. -/
def readItems (p : P) : List (Field P) → List Draft → Except ReadError (P × List Draft)
  | [], items => .ok (p, items)
  | _ :: _, [] => .ok (p, [])
  | field :: fields, d :: items =>
    match field.read d p with
    | .error e => .error e
    | .ok p => readItems p fields items

/-- The flaw of an array that goes on where it has to end: a comma before the bracket, or anything
else. -/
def surplus (d : Draft) : Flaw :=
  .looking (if d.front.head? = some ']' then .trailingComma else .trailingCharacters) d.front

/-- Why an array that holds a whole record does not end. -/
def unclosed (f : Flaw) : Flaw := if f.kind.isEnd then f else { f with kind := .trailingCharacters }

/-- The record in an object or in an array. -/
def read (r : Record P α) : Reader α
  | .object _ members close => do
    let p ← r.readMembers r.start members
    match close with
    | .error f => throw (.flaw f)
    | .ok rest =>
      match r.finish p with
      | .ok a => return a
      | .error name => throw (.mismatch (.missingField name) ⟨rest, false⟩)
  | .array _ items close => do
    let (p, left) ← readItems r.start r.fields items
    match left, close with
    | d :: _, _ => throw (.flaw (surplus d))
    | [], .error f =>
      throw (.flaw (if items.length < r.fields.length then f else unclosed f))
    | [], .ok rest =>
      match r.finish p with
      | .ok a => return a
      | .error name =>
        throw (.mismatch (.wrongLength (r.fields.findIdx (·.name = name))
          (r.expected ++ " with " ++ toString r.fields.length ++ " elements")) ⟨rest, false⟩)
  | d => d.refuse r.expected

end Record

/-! ## Whole texts -/

/-- The value of a text that holds nothing behind it (`from_str`). -/
def readText {α : Type} (read : Reader α) (text : List Char) : Except ReadError α := do
  let d := Draft.read text
  let a ← read d
  match d.after with
  | .error f => throw (.flaw f)
  | .ok rest =>
    match skipBlanks rest with
    | [] => return a
    | left => throw (.flaw (.looking .trailingCharacters left))

end DisplayEnv.Json
