import DisplayEnv.Notice

/-!
# Which notices are shown

A filter (`EnvFilter`) is a list of directives between commas. A directive names a level, or a
source with or without a level, and may name a field: `info`, `dk_display=debug`,
`dk_display::pump`, `[{id}]=trace`. Of the directives that fit a notice the most specific one
decides: a longer source before a shorter one, more fields before fewer. A directive about spans
fits no notice, for nothing here runs inside one. A text without directives shows errors only.

* `Filter.ofText`: all of a text, or why one of its directives is none (`try_from_default_env`).
* `Filter.ofTextLossy`: what can be read of a text, and the rest with its complaints (`new`).
* `Filter.shows`: the decision.
-/

namespace DisplayEnv

/-- A threshold: a level, or nothing at all. -/
abbrev Threshold := Option Level

/-- What a directive says, as it is written. -/
structure Directive where
  level : Threshold
  source : Option String
  span : Option String
  /-- The fields that are named, and whether a value is asked for. -/
  fields : List (String × Bool)
  deriving DecidableEq, Repr

/-- Why a text is no directive. -/
inductive DirectiveError where
  | malformed
  | level
  deriving DecidableEq, Repr

namespace DirectiveError

def message : DirectiveError → String
  | .malformed => "invalid filter directive"
  | .level => "error parsing level filter: expected one of \"off\", \"error\", \"warn\", " ++
      "\"info\", \"debug\", \"trace\", or a number 0-5"

end DirectiveError

namespace Directive

/-! ## Levels -/

/-- The threshold with a number. -/
def numbered? : Nat → Option Threshold
  | 0 => some none
  | 1 => some (some .error)
  | 2 => some (some .warn)
  | 3 => some (some .info)
  | 4 => some (some .debug)
  | 5 => some (some .trace)
  | _ => none

/-- A number in decimal digits, which may have a plus sign in front. -/
def number? (s : String) : Option Nat :=
  let digits := if s.startsWith "+" then s.toList.drop 1 else s.toList
  if digits.isEmpty || !digits.all Char.isDigit then none
  else some (digits.foldl (fun n c => n * 10 + (c.toNat - 48)) 0)

/-- The threshold with a name, in letters of either case. -/
def named? (s : String) : Option Threshold :=
  match s.toLower with
  | "off" => some none
  | "error" => some (some .error)
  | "warn" => some (some .warn)
  | "info" => some (some .info)
  | "debug" => some (some .debug)
  | "trace" => some (some .trace)
  | _ => none

/-- The threshold that a text writes by its number or its name. -/
def threshold? (s : String) : Option Threshold :=
  match (number? s).bind numbered? with
  | some t => some t
  | none => named? s

/-- The threshold behind an equals sign; nothing there means everything. -/
def thresholdAfter (s : String) : Except DirectiveError Threshold :=
  if s = "" then .ok (some .trace)
  else
    match threshold? s with
    | some t => .ok t
    | none => .error .level

/-! ## Reading -/

/-- Where in a directive the reading is, and where the piece at hand started. -/
inductive Stage where
  | start
  | name (start : Nat)
  | span (start : Nat)
  | field (start : Nat)
  | pastField
  | pastSpan
  | level (start : Nat)
  deriving DecidableEq, Repr

/-- A directive that says nothing yet. -/
def blank : Directive := ⟨some .trace, none, none, []⟩

/-- Whether a directive can start with the character: a letter, a digit, one of three marks, or
anything beyond ASCII. -/
def isStart (c : Char) : Bool :=
  c.isAlphanum || 128 ≤ c.toNat || c == '-' || c == ':' || c == '_'

/-- The characters of a text from one place to another. -/
def slice (text : List Char) (start stop : Nat) : String :=
  String.ofList ((text.take stop).drop start)

/-- A field, with a value if an equals sign stands in it. -/
def fieldOf (s : String) : Except DirectiveError (String × Bool) :=
  if s = "" then .error .malformed
  else
    match s.splitOn "=" with
    | [name] => .ok (name, false)
    | name :: _ => .ok (name, true)
    | [] => .error .malformed

/-- Take one character, at a place of the text. -/
def step (text : List Char) (i : Nat) (c : Char) :
    Directive × Stage → Except DirectiveError (Directive × Stage)
  | (d, .start) =>
    if c = '[' then .ok (d, .span (i + 1))
    else if isStart c then .ok (d, .name i)
    else .error .malformed
  | (d, .name start) =>
    if c = '=' then .ok ({ d with source := some (slice text start i) }, .level (i + 1))
    else if c = '[' then .ok ({ d with source := some (slice text start i) }, .span (i + 1))
    else .ok (d, .name start)
  | (d, .span start) =>
    if c = ']' then .ok ({ d with span := some (slice text start i) }, .pastSpan)
    else if c = '\x7b' then
      let span := slice text start i
      .ok ({ d with span := if span = "" then none else some span }, .field (i + 1))
    else .ok (d, .span start)
  | (d, .field start) =>
    if c = '\x7d' then do
      let field ← fieldOf (slice text start i)
      return ({ d with fields := d.fields ++ [field] }, .pastField)
    else .ok (d, .field start)
  | (d, .pastField) => if c = ']' then .ok (d, .pastSpan) else .error .malformed
  | (d, .pastSpan) => if c = '=' then .ok (d, .level (i + 1)) else .error .malformed
  | (d, .level start) => .ok (d, .level start)

/-- Take the characters of a directive one by one. -/
def steps (text : List Char) : Nat → List Char → Directive × Stage →
    Except DirectiveError (Directive × Stage)
  | _, [], state => .ok state
  | i, c :: rest, state => do steps text (i + 1) rest (← step text i c state)

/-- The directive at the end of its text. -/
def finish (text : List Char) : Directive × Stage → Except DirectiveError Directive
  | (d, .name start) =>
    let name := slice text start text.length
    match threshold? name with
    | some t => .ok { d with level := t }
    | none => .ok { d with source := some name }
  | (d, .level start) => do
    let level ← thresholdAfter (slice text start text.length)
    return { d with level := level }
  | (d, .pastSpan) => .ok d
  | (_, _) => .error .malformed

/-- The directive in a text. Blanks around it are passed over in the reading, and yet the places of
its pieces are counted from the first character that is no blank and looked up from the very first,
so blanks shift the pieces. -/
def ofText (s : String) : Except DirectiveError Directive := do
  let text := s.toList
  finish text (← steps text 0 s.trimAscii.toString.toList (blank, .start))

/-! ## Deciding -/

/-- Whether the directive can decide about notices: it names no span and asks for no value. -/
def decides (d : Directive) : Bool := d.span.isNone && !d.fields.any (·.2)

/-- Whether the directive fits a notice: its source starts as the directive says, and it has the
fields. Every notice has its message for a field. -/
def fits (d : Directive) (n : Notice) : Bool :=
  (match d.source with
    | some s => n.source.startsWith s
    | none => true) &&
  d.fields.all fun f => ("message" :: n.fields.map (·.1)).contains f.1

/-- The length of the source that is named, counted from one, and zero when none is. -/
def sourceRank (d : Directive) : Nat :=
  match d.source with
  | some s => s.utf8ByteSize + 1
  | none => 0

/-- What a directive is about, whatever its level. -/
def subject (d : Directive) : Nat × Nat × String × List String :=
  (d.sourceRank, d.fields.length, d.source.getD "", d.fields.map (·.1))

/-- Whether a directive decides before another: the more specific one, and of two equally specific
ones the one whose text is greater. -/
def before (d e : Directive) : Bool :=
  if d.sourceRank ≠ e.sourceRank then e.sourceRank < d.sourceRank
  else if d.fields.length ≠ e.fields.length then e.fields.length < d.fields.length
  else if d.source ≠ e.source then e.source.getD "" < d.source.getD ""
  else e.fields.map (·.1) < d.fields.map (·.1)

end Directive

/-- Directives in the order in which they decide. -/
structure Filter where
  directives : List Directive
  deriving DecidableEq, Repr

namespace Filter

/-- Put a directive in its place; one about the same subject gives way to it. -/
def insert (d : Directive) : List Directive → List Directive
  | [] => [d]
  | e :: rest =>
    if e.subject = d.subject then d :: rest
    else if d.before e then d :: e :: rest
    else e :: insert d rest

/-- Errors only. -/
def errorsOnly : Directive := { Directive.blank with level := some .error }

/-- The filter of directives as they are written. Those about fields are taken after the others. -/
def ofDirectives (l : List Directive) : Filter :=
  if l.isEmpty then ⟨[errorsOnly]⟩
  else
    let deciding := l.filter (·.decides)
    let (plain, withFields) := deciding.partition (·.fields.isEmpty)
    ⟨(plain ++ withFields).foldl (fun acc d => insert d acc) []⟩

/-- The parts of a text between commas that are not empty. -/
def parts (text : String) : List String := (text.splitOn ",").filter (· ≠ "")

/-- The filter in a text, all of which has to be readable. -/
def ofText (text : String) : Except DirectiveError Filter := do
  return ofDirectives (← (parts text).mapM Directive.ofText)

/-- The filter in a text, and a complaint about each part that is not readable. -/
def ofTextLossy (text : String) : Filter × List String :=
  let read := (parts text).map fun s => (s, Directive.ofText s)
  (ofDirectives (read.filterMap (·.2.toOption)),
    read.filterMap fun p => match p.2 with
      | .ok _ => none
      | .error e => some ("ignoring \x60" ++ p.1 ++ "\x60: " ++ e.message))

/-- Whether a level is within a threshold. -/
def within (level : Level) : Threshold → Bool
  | none => false
  | some t => level.rank ≤ t.rank

/-- Whether a notice is shown. -/
def shows (f : Filter) (n : Notice) : Bool :=
  match f.directives.find? (·.fits n) with
  | some d => within n.level d.level
  | none => false

end Filter

/-- A notice as a line: its level, its source, its message, and its fields. -/
def Notice.line (n : Notice) : String :=
  n.level.text ++ " " ++ n.source ++ ": " ++ n.message ++
    String.join (n.fields.map fun f => " " ++ f.1 ++ "=" ++ f.2)

end DisplayEnv
