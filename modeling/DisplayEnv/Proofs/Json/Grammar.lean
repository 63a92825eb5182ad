import DisplayEnv.Json.Lexeme
import Mathlib.Data.Nat.Notation

/-!
# The grammar of JSON texts

Any text of any JSON value, as the standard has it and not only as it is written here: every form of
a number, every escape in a string, also one that stands for no character, blanks wherever they may
stand, and no bound on the nesting. The grammar says nothing about what a text means, except that
`StringText` tells the string of one whose escapes all stand for characters.

Arrays and objects are put together from the texts of their items and members (`Bracketed`,
`Braced`), so that more can be asked of some of them than that they are values.

A string ends with its closing quote. A number does not: what follows it must not go on with it
(`Ends`), as no blank, comma or bracket does.

* `NumberText`, `StringText`, `LooseText`: the pieces.
* `Value`: the texts of values.
* `Value.starts`, `ItemsBehind.ends`, `MembersBehind.ends`: the first character of a text.
-/

namespace DisplayEnv.Json

/-! ## Blanks -/

/-- Nothing but blanks. -/
def Blank (w : List Char) : Prop := ∀ c ∈ w, isBlank c = true

theorem Blank.nil : Blank [] := nofun

theorem Blank.space : Blank [' '] := by simp [Blank, isBlank]

/-! ## Numbers -/

/-- Decimal digits, at least one. -/
def Digits (ds : List Char) : Prop := ds ≠ [] ∧ ∀ d ∈ ds, isDigit d = true

/-- The digits before the point: a zero stands alone. -/
def WholeText (a : List Char) : Prop := a = ['0'] ∨ Digits a ∧ a.head? ≠ some '0'

/-- A point and digits, or nothing. -/
def FractionText (a : List Char) : Prop := a = [] ∨ ∃ ds, Digits ds ∧ a = '.' :: ds

/-- A mark, a sign or none, and digits; or nothing. -/
def ExponentText (a : List Char) : Prop :=
  a = [] ∨ ∃ e sign ds, (e = 'e' ∨ e = 'E') ∧ (sign = [] ∨ sign = ['+'] ∨ sign = ['-']) ∧
    Digits ds ∧ a = e :: (sign ++ ds)

/-- The texts of numbers. -/
inductive NumberText : List Char → Prop where
  | intro {sign whole fraction exponent : List Char} (hs : sign = [] ∨ sign = ['-'])
      (hw : WholeText whole) (hf : FractionText fraction) (he : ExponentText exponent) :
      NumberText (sign ++ (whole ++ (fraction ++ exponent)))

/-- Nothing that goes on with a number stands in front of the text. -/
def Ends : List Char → Prop
  | [] => True
  | c :: _ => isDigit c = false ∧ c ≠ '.' ∧ c ≠ 'e' ∧ c ≠ 'E'

/-! ## Strings -/

/-- The letters that stand for a character behind a backslash. -/
def letterEscapes : List (Char × Char) :=
  [('"', '"'), ('\\', '\\'), ('/', '/'), ('b', '\x08'), ('f', '\x0c'), ('n', '\n'), ('r', '\r'),
    ('t', '\t')]

/-- Four hexadecimal digits of either case, and their number. -/
inductive FourDigits : Nat → List Char → Prop where
  | intro {a b c d : Char} {w x y z : Nat} (ha : Hex.value? a = some w) (hb : Hex.value? b = some x)
      (hc : Hex.value? c = some y) (hd : Hex.value? d = some z) :
      FourDigits (((w * 16 + x) * 16 + y) * 16 + z) [a, b, c, d]

/-- The character stands for itself between quotes. -/
def Plain (c : Char) : Prop := c ≠ '"' ∧ c ≠ '\\' ∧ ¬ c.toNat < 32

instance (c : Char) : Decidable (Plain c) := by unfold Plain; infer_instance

/-- The texts of one character. -/
inductive CharText : Char → List Char → Prop where
  | plain {c : Char} (h : Plain c) : CharText c [c]
  | letter {e c : Char} (h : (e, c) ∈ letterEscapes) : CharText c ['\\', e]
  | code {n : Nat} {a : List Char} (h : FourDigits n a) (single : n < 0xd800 ∨ 0xdfff < n) :
      CharText (Char.ofNat n) ('\\' :: 'u' :: a)
  | pair {m n : Nat} {a b : List Char} (high : FourDigits m a) (low : FourDigits n b)
      (hm : 0xd800 ≤ m ∧ m ≤ 0xdbff) (hn : 0xdc00 ≤ n ∧ n ≤ 0xdfff) :
      CharText (Char.ofNat (0x10000 + (m - 0xd800) * 0x400 + (n - 0xdc00)))
        ('\\' :: 'u' :: (a ++ '\\' :: 'u' :: b))

/-- The texts of characters one after the other. -/
inductive CharsText : List Char → List Char → Prop where
  | nil : CharsText [] []
  | cons {c : Char} {cs a b : List Char} (first : CharText c a) (more : CharsText cs b) :
      CharsText (c :: cs) (a ++ b)

/-- The texts of a string, without its quotes. -/
def StringText (s : String) (a : List Char) : Prop := CharsText s.toList a

/-- What may stand between quotes, also when it stands for no string: a number behind a backslash
may be any. -/
inductive LooseText : List Char → Prop where
  | nil : LooseText []
  | plain {c : Char} {a : List Char} (h : Plain c) (more : LooseText a) : LooseText (c :: a)
  | letter {e c : Char} {a : List Char} (h : (e, c) ∈ letterEscapes) (more : LooseText a) :
      LooseText ('\\' :: e :: a)
  | code {n : Nat} {d a : List Char} (h : FourDigits n d) (more : LooseText a) :
      LooseText ('\\' :: 'u' :: (d ++ a))

/-- Between quotes. -/
def quote (a : List Char) : List Char := '"' :: (a ++ ['"'])

/-! ## Arrays and objects -/

/-- The text goes on with these items behind an item and ends with the bracket. -/
inductive ItemsBehind : List (List Char) → List Char → Prop where
  | close {w : List Char} (hw : Blank w) : ItemsBehind [] (w ++ [']'])
  | item {u w t b : List Char} {items : List (List Char)} (hu : Blank u) (hw : Blank w)
      (more : ItemsBehind items b) : ItemsBehind (t :: items) (u ++ ',' :: (w ++ (t ++ b)))

/-- The texts of an array of items with these texts. -/
inductive Bracketed : List (List Char) → List Char → Prop where
  | empty {w : List Char} (hw : Blank w) : Bracketed [] ('[' :: (w ++ [']']))
  | items {w t b : List Char} {items : List (List Char)} (hw : Blank w)
      (more : ItemsBehind items b) : Bracketed (t :: items) ('[' :: (w ++ (t ++ b)))

/-- A member of an object: the text of its key, without the quotes, and that of its value. -/
structure MemberText where
  key : List Char
  value : List Char

/-- Key, colon and value, with blanks around the colon. -/
def MemberText.spread (m : MemberText) (before behind : List Char) : List Char :=
  quote m.key ++ (before ++ ':' :: (behind ++ m.value))

/-- The text goes on with these members behind a member and ends with the brace. -/
inductive MembersBehind : List MemberText → List Char → Prop where
  | close {w : List Char} (hw : Blank w) : MembersBehind [] (w ++ ['\x7d'])
  | member {u w x y b : List Char} {m : MemberText} {members : List MemberText} (hu : Blank u)
      (hw : Blank w) (hx : Blank x) (hy : Blank y) (more : MembersBehind members b) :
      MembersBehind (m :: members) (u ++ ',' :: (w ++ (m.spread x y ++ b)))

/-- The texts of an object of members with these texts. -/
inductive Braced : List MemberText → List Char → Prop where
  | empty {w : List Char} (hw : Blank w) : Braced [] ('\x7b' :: (w ++ ['\x7d']))
  | members {w x y b : List Char} {m : MemberText} {members : List MemberText} (hw : Blank w)
      (hx : Blank x) (hy : Blank y) (more : MembersBehind members b) :
      Braced (m :: members) ('\x7b' :: (w ++ (m.spread x y ++ b)))

/-- **The texts of JSON values.** -/
inductive Value : List Char → Prop where
  | null : Value ['n', 'u', 'l', 'l']
  | yes : Value ['t', 'r', 'u', 'e']
  | no : Value ['f', 'a', 'l', 's', 'e']
  | number {a : List Char} (h : NumberText a) : Value a
  | string {a : List Char} (h : LooseText a) : Value (quote a)
  | array {items : List (List Char)} {a : List Char} (h : Bracketed items a)
      (values : ∀ t ∈ items, Value t) : Value a
  | object {members : List MemberText} {a : List Char} (h : Braced members a)
      (keys : ∀ m ∈ members, LooseText m.key) (values : ∀ m ∈ members, Value m.value) : Value a

/-! ## What is loose -/

theorem LooseText.append {a b : List Char} (ha : LooseText a) (hb : LooseText b) :
    LooseText (a ++ b) := by
  induction ha with
  | nil => exact hb
  | plain h _ ih => exact .plain h ih
  | letter h _ ih => exact .letter h ih
  | code h _ ih =>
    rw [List.cons_append, List.cons_append, List.append_assoc]
    exact .code h ih

theorem CharText.loose {c : Char} {a : List Char} (h : CharText c a) : LooseText a := by
  cases h with
  | plain h => exact .plain h .nil
  | letter h => exact .letter h .nil
  | code h =>
    have loose := LooseText.code h .nil
    rwa [List.append_nil] at loose
  | pair high low =>
    have second := LooseText.code low .nil
    rw [List.append_nil] at second
    exact .code high second

/-- A text of a string is a text between quotes. -/
theorem StringText.loose {s : String} {a : List Char} (h : StringText s a) : LooseText a := by
  unfold StringText at h
  generalize s.toList = cs at h
  induction h with
  | nil => exact .nil
  | cons first _ ih => exact first.loose.append ih

/-- Characters that stand for themselves are a text of their string. -/
theorem StringText.of_plain {s : String} (h : ∀ c ∈ s.toList, Plain c) :
    StringText s s.toList := by
  unfold StringText
  generalize s.toList = cs at h
  induction cs with
  | nil => exact .nil
  | cons c cs ih =>
    obtain ⟨first, more⟩ := List.forall_mem_cons.mp h
    exact .cons (.plain first) (ih more)

/-! ## How a text starts -/

/-- A digit is no other character. -/
theorem ne_of_isDigit {c d : Char} (h : isDigit c = true) (hd : isDigit d = false) : c ≠ d := by
  rintro rfl
  rw [h] at hd
  cases hd

/-- A number ends where a blank stands. -/
theorem ends_of_isBlank {c : Char} {cs : List Char} (h : isBlank c = true) : Ends (c :: cs) := by
  simp only [isBlank, Bool.or_eq_true, decide_eq_true_eq] at h
  rcases h with ((rfl | rfl) | rfl) | rfl <;> simp [Ends, isDigit]

theorem Blank.ends {w cs : List Char} (hw : Blank w) (h : Ends cs) : Ends (w ++ cs) := by
  cases w with
  | nil => exact h
  | cons c w => exact ends_of_isBlank (hw c List.mem_cons_self)

/-- The text starts with what neither is blank nor closes an array. -/
def Starts (a : List Char) : Prop := ∃ c cs, a = c :: cs ∧ isBlank c = false ∧ c ≠ ']'

theorem WholeText.starts {a : List Char} (h : WholeText a) :
    ∃ c cs, a = c :: cs ∧ isDigit c = true := by
  rcases h with rfl | ⟨⟨some_digit, digits⟩, -⟩
  · exact ⟨_, _, rfl, rfl⟩
  · obtain ⟨c, cs, rfl⟩ := List.exists_cons_of_ne_nil some_digit
    exact ⟨c, cs, rfl, digits c List.mem_cons_self⟩

/-- A number starts with a sign or a digit. -/
theorem NumberText.starts {a : List Char} (h : NumberText a) :
    ∃ c cs, a = c :: cs ∧ (c = '-' ∨ isDigit c = true) := by
  obtain ⟨rfl | rfl, hw, -, -⟩ := h
  · obtain ⟨c, cs, rfl, digit⟩ := hw.starts
    exact ⟨c, _, rfl, .inr digit⟩
  · exact ⟨_, _, rfl, .inl rfl⟩

/-- A sign or a digit is no other character. -/
theorem ne_of_sign_or_digit {c d : Char} (h : c = '-' ∨ isDigit c = true) (sign : d ≠ '-')
    (hd : isDigit d = false) : c ≠ d := by
  rcases h with rfl | digit
  · exact sign.symm
  · exact ne_of_isDigit digit hd

theorem isBlank_of_sign_or_digit {c : Char} (h : c = '-' ∨ isDigit c = true) :
    isBlank c = false := by
  have other {d : Char} := ne_of_sign_or_digit (d := d) h
  simp only [isBlank, Bool.or_eq_false_iff, decide_eq_false_iff_not]
  exact ⟨⟨⟨other (by decide) rfl, other (by decide) rfl⟩, other (by decide) rfl⟩,
    other (by decide) rfl⟩

theorem Bracketed.cons {items : List (List Char)} {a : List Char} (h : Bracketed items a) :
    ∃ cs, a = '[' :: cs := by
  cases h <;> exact ⟨_, rfl⟩

theorem Braced.cons {members : List MemberText} {a : List Char} (h : Braced members a) :
    ∃ cs, a = '\x7b' :: cs := by
  cases h <;> exact ⟨_, rfl⟩

theorem Value.starts {a : List Char} (h : Value a) : Starts a := by
  cases h with
  | number h =>
    obtain ⟨c, cs, rfl, start⟩ := h.starts
    exact ⟨c, cs, rfl, isBlank_of_sign_or_digit start, ne_of_sign_or_digit start (by decide) rfl⟩
  | array h =>
    obtain ⟨cs, rfl⟩ := h.cons
    exact ⟨_, _, rfl, by decide, by decide⟩
  | object h =>
    obtain ⟨cs, rfl⟩ := h.cons
    exact ⟨_, _, rfl, by decide, by decide⟩
  | _ => exact ⟨_, _, rfl, by decide, by decide⟩

theorem ItemsBehind.ends {items : List (List Char)} {b : List Char} (h : ItemsBehind items b)
    (rest : List Char) : Ends (b ++ rest) := by
  cases h with
  | close hw =>
    rw [List.append_assoc]
    exact hw.ends (by simp [Ends, isDigit])
  | item hu =>
    rw [List.append_assoc]
    exact hu.ends (by simp [Ends, isDigit])

theorem MembersBehind.ends {members : List MemberText} {b : List Char} (h : MembersBehind members b)
    (rest : List Char) : Ends (b ++ rest) := by
  cases h with
  | close hw =>
    rw [List.append_assoc]
    exact hw.ends (by simp [Ends, isDigit])
  | member hu =>
    rw [List.append_assoc]
    exact hu.ends (by simp [Ends, isDigit])

theorem MemberText.spread_append (m : MemberText) (x y rest : List Char) :
    m.spread x y ++ rest = '"' :: (m.key ++ '"' :: (x ++ ':' :: (y ++ (m.value ++ rest)))) := by
  simp [spread, quote]

theorem MemberText.length_spread (m : MemberText) (x y : List Char) :
    (m.spread x y).length = m.key.length + x.length + y.length + m.value.length + 3 := by
  simp [spread, quote]
  omega

end DisplayEnv.Json
