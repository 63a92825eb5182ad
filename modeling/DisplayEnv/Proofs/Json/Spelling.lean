import DisplayEnv.Proofs.Json.Lexemes
import Mathlib.Data.List.Forall2

/-!
# The written texts of a JSON value

A value has many texts: between the pieces there may be any number of blanks. `Spelled` is the
grammar of those texts, with strings and numbers in the one form in which they are written. The text
on one line and the text over several lines are two of them, as long as every number in the value
takes 64 bits (`Fits`). What is read from a text depends only on this grammar, not on which of the
two it was.

An array without items and an object without members have a rule of their own, for the text on
several lines breaks no line there.

* `compactChars_spelled`, `prettyChars_spelled`: both forms are texts of the value.
* `Spelled.value`: and texts of a value at all.
-/

namespace DisplayEnv.Json

/-- A key, a colon and the text of a value, with blanks around the colon. -/
def memberChars (k : String) (before behind value : List Char) : List Char :=
  quotedChars k ++ (before ++ ':' :: (behind ++ value))

mutual

/-- The text is one of the value's. -/
inductive Spelled : Json → List Char → Prop where
  | null : Spelled .null ['n', 'u', 'l', 'l']
  | yes : Spelled (.bool true) ['t', 'r', 'u', 'e']
  | no : Spelled (.bool false) ['f', 'a', 'l', 's', 'e']
  | number {n : Int} (fits : InRange n) : Spelled (.number n) (digits n)
  | string (s : String) : Spelled (.string s) (quotedChars s)
  | emptyArray {w : List Char} (hw : Blank w) : Spelled (.array []) ('[' :: (w ++ [']']))
  | array {w a b : List Char} {v : Json} {vs : List Json} (hw : Blank w) (first : Spelled v a)
      (more : SpelledItems vs b) : Spelled (.array (v :: vs)) ('[' :: (w ++ (a ++ b)))
  | emptyObject {w : List Char} (hw : Blank w) : Spelled (.object []) ('\x7b' :: (w ++ ['\x7d']))
  | object {w x y a b : List Char} {k : String} {v : Json} {ms : List (String × Json)}
      (hw : Blank w) (hx : Blank x) (hy : Blank y) (first : Spelled v a)
      (more : SpelledMembers ms b) :
      Spelled (.object ((k, v) :: ms)) ('\x7b' :: (w ++ memberChars k x y (a ++ b)))

/-- The text goes on with the items behind an item and ends with the bracket. -/
inductive SpelledItems : List Json → List Char → Prop where
  | close {w : List Char} (hw : Blank w) : SpelledItems [] (w ++ [']'])
  | item {u w a b : List Char} {v : Json} {vs : List Json} (hu : Blank u) (hw : Blank w)
      (next : Spelled v a) (more : SpelledItems vs b) :
      SpelledItems (v :: vs) (u ++ ',' :: (w ++ (a ++ b)))

/-- The text goes on with the members behind a member and ends with the brace. -/
inductive SpelledMembers : List (String × Json) → List Char → Prop where
  | close {w : List Char} (hw : Blank w) : SpelledMembers [] (w ++ ['\x7d'])
  | member {u w x y a b : List Char} {k : String} {v : Json} {ms : List (String × Json)}
      (hu : Blank u) (hw : Blank w) (hx : Blank x) (hy : Blank y) (next : Spelled v a)
      (more : SpelledMembers ms b) :
      SpelledMembers ((k, v) :: ms) (u ++ ',' :: (w ++ memberChars k x y (a ++ b)))

end

mutual

/-- Every number in the value takes 64 bits. -/
def Fits : Json → Prop
  | .number n => InRange n
  | .array items => ItemsFit items
  | .object members => MembersFit members
  | _ => True

/-- Every number in the values takes 64 bits. -/
def ItemsFit : List Json → Prop
  | [] => True
  | v :: rest => v.Fits ∧ ItemsFit rest

/-- Every number in the members' values takes 64 bits. -/
def MembersFit : List (String × Json) → Prop
  | [] => True
  | (_, v) :: rest => v.Fits ∧ MembersFit rest

end

theorem itemsFit_iff {items : List Json} : ItemsFit items ↔ ∀ v ∈ items, v.Fits := by
  induction items with
  | nil => simp [ItemsFit]
  | cons v rest ih => simp [ItemsFit, ih]

theorem newLine_blank (depth : ℕ) : Blank (newLine depth) := by
  simp [Blank, newLine, isBlank]

/-! ## The two written forms -/

mutual

/-- The text on one line is one of the value's. -/
theorem compactChars_spelled : ∀ v : Json, v.Fits → Spelled v v.compactChars
  | .null, _ => .null
  | .bool true, _ => .yes
  | .bool false, _ => .no
  | .number _, h => .number h
  | .string s, _ => .string s
  | .array [], _ => .emptyArray .nil
  | .array (v :: rest), h =>
    .array .nil (compactChars_spelled v h.1) (compactMoreItems_spelled rest h.2)
  | .object [], _ => .emptyObject .nil
  | .object ((_, v) :: rest), h =>
    .object .nil .nil .nil (compactChars_spelled v h.1) (compactMoreMembers_spelled rest h.2)

theorem compactMoreItems_spelled : ∀ items, ItemsFit items →
    SpelledItems items (compactMoreItems items)
  | [], _ => .close .nil
  | v :: rest, h =>
    .item .nil .nil (compactChars_spelled v h.1) (compactMoreItems_spelled rest h.2)

theorem compactMoreMembers_spelled : ∀ members, MembersFit members →
    SpelledMembers members (compactMoreMembers members)
  | [], _ => .close .nil
  | (_, v) :: rest, h =>
    .member .nil .nil .nil .nil (compactChars_spelled v h.1) (compactMoreMembers_spelled rest h.2)

end

mutual

/-- The text over several lines is one of the value's, at any depth. -/
theorem prettyChars_spelled (depth : ℕ) : ∀ v : Json, v.Fits → Spelled v (v.prettyChars depth)
  | .null, _ => .null
  | .bool true, _ => .yes
  | .bool false, _ => .no
  | .number _, h => .number h
  | .string s, _ => .string s
  | .array [], _ => .emptyArray .nil
  | .array (v :: rest), h => by
    rw [prettyChars, List.append_assoc]
    exact .array (newLine_blank _) (prettyChars_spelled _ v h.1)
      (prettyMoreItems_spelled depth rest h.2)
  | .object [], _ => .emptyObject .nil
  | .object ((k, v) :: rest), h => by
    have : Spelled (.object ((k, v) :: rest)) _ := .object (newLine_blank (depth + 1)) .nil .space
      (prettyChars_spelled (depth + 1) v h.1) (prettyMoreMembers_spelled depth rest h.2)
    simpa [prettyChars, memberChars] using this

theorem prettyMoreItems_spelled (depth : ℕ) : ∀ items, ItemsFit items →
    SpelledItems items (prettyMoreItems depth items)
  | [], _ => .close (newLine_blank depth)
  | v :: rest, h => by
    have := SpelledItems.item .nil (newLine_blank (depth + 1))
      (prettyChars_spelled (depth + 1) v h.1) (prettyMoreItems_spelled depth rest h.2)
    simpa [prettyMoreItems] using this

theorem prettyMoreMembers_spelled (depth : ℕ) : ∀ members, MembersFit members →
    SpelledMembers members (prettyMoreMembers depth members)
  | [], _ => .close (newLine_blank depth)
  | (k, v) :: rest, h => by
    have : SpelledMembers ((k, v) :: rest) _ := .member .nil (newLine_blank (depth + 1)) .nil .space
      (prettyChars_spelled (depth + 1) v h.1) (prettyMoreMembers_spelled depth rest h.2)
    simpa [prettyMoreMembers, memberChars] using this

end

/-! ## Written values are values -/

/-- The text is one of the member's. -/
structure SpelledMember (m : String × Json) (t : MemberText) : Prop where
  key : t.key = m.1.toList.flatMap escaped
  value : Spelled m.2 t.value

/-- An array is written item by item. -/
theorem SpelledItems.behind : ∀ {vs : List Json} {b : List Char}, SpelledItems vs b →
    ∃ items, ItemsBehind items b ∧ List.Forall₂ Spelled vs items
  | _, _, .close hw => ⟨[], .close hw, .nil⟩
  | _, _, .item hu hw next more => by
    obtain ⟨items, behind, texts⟩ := more.behind
    exact ⟨_ :: items, .item hu hw behind, .cons next texts⟩

theorem Spelled.bracketed {vs : List Json} {a : List Char} (h : Spelled (.array vs) a) :
    ∃ items, Bracketed items a ∧ List.Forall₂ Spelled vs items := by
  cases h with
  | emptyArray hw => exact ⟨[], .empty hw, .nil⟩
  | array hw first more =>
    obtain ⟨items, behind, texts⟩ := more.behind
    exact ⟨_ :: items, .items hw behind, .cons first texts⟩

theorem memberChars_append (k : String) (x y a b : List Char) :
    memberChars k x y (a ++ b) =
      MemberText.spread ⟨k.toList.flatMap escaped, a⟩ x y ++ b := by
  simp [memberChars, quotedChars, MemberText.spread, quote]

/-- An object is written member by member. -/
theorem SpelledMembers.behind : ∀ {ms : List (String × Json)} {b : List Char},
    SpelledMembers ms b → ∃ members, MembersBehind members b ∧ List.Forall₂ SpelledMember ms members
  | _, _, .close hw => ⟨[], .close hw, .nil⟩
  | _, _, .member (k := k) (x := x) (y := y) (a := a) (b := b) hu hw hx hy next more => by
    obtain ⟨members, behind, texts⟩ := more.behind
    rw [memberChars_append]
    exact ⟨_ :: members, .member hu hw hx hy behind, .cons ⟨rfl, next⟩ texts⟩

theorem Spelled.braced {ms : List (String × Json)} {a : List Char} (h : Spelled (.object ms) a) :
    ∃ members, Braced members a ∧ List.Forall₂ SpelledMember ms members := by
  cases h with
  | emptyObject hw => exact ⟨[], .empty hw, .nil⟩
  | object hw hx hy first more =>
    obtain ⟨members, behind, texts⟩ := more.behind
    rw [memberChars_append]
    exact ⟨_ :: members, .members hw hx hy behind, .cons ⟨rfl, first⟩ texts⟩

mutual

/-- **The texts of a value are values.** -/
theorem Spelled.value : ∀ (v : Json) {a : List Char}, Spelled v a → Value a
  | .null, _, .null => .null
  | .bool true, _, .yes => .yes
  | .bool false, _, .no => .no
  | .number _, _, .number _ => .number (digits_text _)
  | .string _, _, .string s => .string (escaped_texts s).loose
  | .array vs, _, h => by
    obtain ⟨items, bracketed, texts⟩ := h.bracketed
    exact .array bracketed (Spelled.items vs texts)
  | .object ms, _, h => by
    obtain ⟨members, braced, texts⟩ := h.braced
    have parts := SpelledMember.parts ms texts
    exact .object braced (fun m hm => (parts m hm).1) fun m hm => (parts m hm).2

theorem Spelled.items : ∀ (vs : List Json) {items : List (List Char)},
    List.Forall₂ Spelled vs items → ∀ t ∈ items, Value t
  | [], _, .nil => nofun
  | v :: vs, _, .cons first texts =>
    List.forall_mem_cons.mpr ⟨Spelled.value v first, Spelled.items vs texts⟩

theorem SpelledMember.parts : ∀ (ms : List (String × Json)) {members : List MemberText},
    List.Forall₂ SpelledMember ms members → ∀ m ∈ members, LooseText m.key ∧ Value m.value
  | [], _, .nil => nofun
  | (k, v) :: ms, _, .cons first texts =>
    List.forall_mem_cons.mpr ⟨⟨first.key ▸ (escaped_texts k).loose, Spelled.value v first.value⟩,
      SpelledMember.parts ms texts⟩

end

end DisplayEnv.Json
