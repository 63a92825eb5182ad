import DisplayEnv.Json.Draft
import DisplayEnv.Proofs.Json.Pieces
import Mathlib.Data.List.Forall2

/-!
# The draft of any text

Whatever value a text is of, the reading gets to its end, and takes nothing of what follows it: the
value is passed over, asked for or not (`Value.passed`). The draft of an array has a draft of each
item in it, and that of an object one of each member, with the key that its text stands for
(`array_drafts`, `object_drafts`).

The bound on the steps of the reading has to be three for each character of the text and one more:
a bracket takes three steps until the first item is read, and so does what stands between two items.

* `Drafts`: a draft that a text may give, whatever follows the text.
* `Value.passed`: by recursion over the grammar.
-/

namespace DisplayEnv.Json

namespace Draft

variable {n : ℕ} {c : Char} {a b cs mid rest w : List Char} {items : List (List Char)}
  {members : List MemberText} {ds : List Draft} {ms : List (Member Draft)}

/-! ## Blanks -/

theorem skipBlanks_append (hw : Blank w) : skipBlanks (w ++ cs) = skipBlanks cs :=
  List.dropWhile_append_of_pos hw

theorem skipBlanks_cons (h : isBlank c = false) : skipBlanks (c :: cs) = c :: cs := by
  simp [skipBlanks, h]

/-- Blanks in front of a value are passed over. -/
theorem valueFrom_append (hw : Blank w) : valueFrom (n + 1) (w ++ cs) = valueFrom (n + 1) cs := by
  simp only [valueFrom, skipBlanks_append hw]

/-- What is no bracket is read as a piece. -/
theorem valueFrom_piece (blank : isBlank c = false) (bracket : c ≠ '[') (brace : c ≠ '\x7b') :
    valueFrom (n + 1) (c :: cs) = ofPiece (c :: cs) := by
  simp only [valueFrom, skipBlanks_cons blank, if_neg bracket, if_neg brace]

/-! ## One step between two pieces -/

theorem valueFrom_array (cs : List Char) : valueFrom (n + 1) ('[' :: cs) =
    .array ('[' :: cs) (arrayFrom n cs).1 (arrayFrom n cs).2 := by
  simp only [valueFrom, skipBlanks_cons (c := '[') rfl, if_pos]

theorem valueFrom_object (cs : List Char) : valueFrom (n + 1) ('\x7b' :: cs) =
    .object ('\x7b' :: cs) (objectFrom n cs).1 (objectFrom n cs).2 := by
  simp [valueFrom, skipBlanks_cons (c := '\x7b') rfl]

theorem arrayFrom_close (hw : Blank w) : arrayFrom (n + 1) (w ++ ']' :: rest) = ([], .ok rest) := by
  simp [arrayFrom, skipBlanks_append hw, skipBlanks_cons (c := ']') rfl]

theorem arrayFrom_item (hw : Blank w) (blank : isBlank c = false) (bracket : c ≠ ']') :
    arrayFrom (n + 1) (w ++ c :: cs) = itemsFrom n (c :: cs) := by
  simp [arrayFrom, skipBlanks_append hw, skipBlanks_cons blank, bracket]

theorem moreItems_close (hw : Blank w) : moreItems (n + 1) (w ++ ']' :: rest) = ([], .ok rest) := by
  simp [moreItems, skipBlanks_append hw, skipBlanks_cons (c := ']') rfl]

theorem moreItems_item {u : List Char} (hu : Blank u) (hw : Blank w) (blank : isBlank c = false)
    (bracket : c ≠ ']') :
    moreItems (n + 1) (u ++ ',' :: (w ++ c :: cs)) = itemsFrom n (c :: cs) := by
  simp [moreItems, skipBlanks_append hu, skipBlanks_cons (c := ',') rfl, skipBlanks_append hw,
    skipBlanks_cons blank, bracket]

theorem objectFrom_close (hw : Blank w) :
    objectFrom (n + 1) (w ++ '\x7d' :: rest) = ([], .ok rest) := by
  simp [objectFrom, skipBlanks_append hw, skipBlanks_cons (c := '\x7d') rfl]

theorem objectFrom_member (hw : Blank w) :
    objectFrom (n + 1) (w ++ '"' :: cs) = membersFrom n cs := by
  simp [objectFrom, skipBlanks_append hw, skipBlanks_cons (c := '"') rfl]

theorem moreMembers_close (hw : Blank w) :
    moreMembers (n + 1) (w ++ '\x7d' :: rest) = ([], .ok rest) := by
  simp [moreMembers, skipBlanks_append hw, skipBlanks_cons (c := '\x7d') rfl]

theorem moreMembers_member {u : List Char} (hu : Blank u) (hw : Blank w) :
    moreMembers (n + 1) (u ++ ',' :: (w ++ '"' :: cs)) = membersFrom n cs := by
  simp [moreMembers, skipBlanks_append hu, skipBlanks_cons (c := ',') rfl, skipBlanks_append hw,
    skipBlanks_cons (c := '"') rfl]

/-! ## Drafts of texts -/

/-- The draft is read off the text, whatever follows it but for what goes on with a number. -/
def Drafts (t : List Char) (d : Draft) : Prop :=
  ∃ n rest, Ends rest ∧ 3 * t.length < n ∧ d = valueFrom n (t ++ rest)

/-- The key is the string that its text stands for, if it stands for one, and the draft is read off
the text of the value. -/
def MemberDrafts (m : MemberText) (d : Member Draft) : Prop :=
  (∀ s, StringText s m.key → d.key = .ok s) ∧ Drafts m.value d.value

/-- Every reading of the text gets to its end. -/
structure Passed (t : List Char) : Prop where
  starts : Starts t
  after : ∀ {n : ℕ} {rest : List Char}, Ends rest → 3 * t.length < n →
    (valueFrom n (t ++ rest)).after = .ok rest

/-! ## Arrays -/

theorem itemsFrom_text (first : (valueFrom n cs).after = .ok mid)
    (more : moreItems n mid = (ds, .ok rest)) :
    itemsFrom (n + 1) cs = (valueFrom n cs :: ds, .ok rest) := by
  simp only [itemsFrom, first, more]

/-- The items behind an item are read up to the bracket. -/
theorem moreItems_text (h : ItemsBehind items b) (passed : ∀ t ∈ items, Passed t)
    (rest : List Char) (bound : 3 * b.length < n) :
    ∃ ds, moreItems n (b ++ rest) = (ds, .ok rest) ∧ List.Forall₂ Drafts items ds := by
  induction h generalizing n with
  | close hw =>
    obtain ⟨n, rfl⟩ : ∃ m, n = m + 1 := ⟨n - 1, by omega⟩
    rw [List.append_assoc, List.singleton_append, moreItems_close hw]
    exact ⟨[], rfl, .nil⟩
  | @item u w t b items hu hw more ih =>
    obtain ⟨passed, others⟩ := List.forall_mem_cons.mp passed
    simp only [List.length_cons, List.length_append] at bound
    -- the comma pays for the two steps to the next item
    obtain ⟨n, rfl⟩ : ∃ m, n = m + 2 := ⟨n - 2, by omega⟩
    obtain ⟨ds, run, drafts⟩ := ih (n := n) others (by omega)
    have next := itemsFrom_text (passed.after (more.ends rest) (by omega)) run
    obtain ⟨c, cs, rfl, blank, bracket⟩ := passed.starts
    refine ⟨_, ?_, .cons ⟨n, _, more.ends rest, by omega, rfl⟩ drafts⟩
    rw [List.cons_append] at next
    rwa [List.append_assoc, List.cons_append, List.append_assoc, List.append_assoc,
      List.cons_append, moreItems_item hu hw blank bracket]

/-- **The draft of an array** has a draft of each item. -/
theorem array_drafts (h : Bracketed items a) (passed : ∀ t ∈ items, Passed t)
    (rest : List Char) (bound : 3 * a.length < n) :
    ∃ ds, valueFrom n (a ++ rest) = .array (a ++ rest) ds (.ok rest) ∧
      List.Forall₂ Drafts items ds := by
  cases h with
  | empty hw =>
    obtain ⟨n, rfl⟩ : ∃ m, n = m + 2 := ⟨n - 2, by simp at bound; omega⟩
    rw [List.cons_append, valueFrom_array, List.append_assoc, List.singleton_append,
      arrayFrom_close hw]
    exact ⟨[], rfl, .nil⟩
  | @items w t b items hw more =>
    obtain ⟨passed, others⟩ := List.forall_mem_cons.mp passed
    simp only [List.length_cons, List.length_append] at bound
    obtain ⟨n, rfl⟩ : ∃ m, n = m + 3 := ⟨n - 3, by omega⟩
    obtain ⟨ds, run, drafts⟩ := moreItems_text (n := n) more others rest (by omega)
    have next := itemsFrom_text (passed.after (more.ends rest) (by omega)) run
    obtain ⟨c, cs, rfl, blank, bracket⟩ := passed.starts
    refine ⟨_, ?_, .cons ⟨n, _, more.ends rest, by omega, rfl⟩ drafts⟩
    rw [List.cons_append] at next
    rw [List.cons_append, valueFrom_array, List.append_assoc, List.append_assoc, List.cons_append,
      arrayFrom_item hw blank bracket, next]

/-! ## Objects -/

/-- A key is read up to behind its colon. -/
theorem keyFrom_text {k x : List Char} (hk : LooseText k) (hx : Blank x) (rest : List Char) :
    ∃ strict, keyFrom (k ++ '"' :: (x ++ ':' :: rest)) = (strict, ':' :: rest, .ok rest) ∧
      ∀ s, StringText s k → strict = .ok s := by
  refine ⟨(stringFrom (k ++ '"' :: (x ++ ':' :: rest))).map (·.1), ?_, fun s hs => ?_⟩
  · unfold keyFrom
    rw [pastString_text hk]
    simp [skipBlanks_append hx, skipBlanks_cons (c := ':') rfl]
  · rw [stringFrom_text hs]
    rfl

/-- A member behind its opening quote, and what goes on behind it. -/
theorem membersFrom_text {m : MemberText} {x y : List Char} (key : LooseText m.key) (hx : Blank x)
    (hy : Blank y) (ends : Ends mid) (bound : 3 * m.value.length < n + 1)
    (value : (valueFrom (n + 1) (m.value ++ mid)).after = .ok mid)
    (more : moreMembers (n + 1) mid = (ms, .ok rest)) :
    ∃ d, membersFrom (n + 2) (m.key ++ '"' :: (x ++ ':' :: (y ++ (m.value ++ mid)))) =
      (d :: ms, .ok rest) ∧ MemberDrafts m d := by
  obtain ⟨strict, read, stands⟩ := keyFrom_text key hx (y ++ (m.value ++ mid))
  refine ⟨⟨strict, ':' :: (y ++ (m.value ++ mid)), valueFrom (n + 1) (m.value ++ mid)⟩, ?_, stands,
    n + 1, mid, ends, bound, rfl⟩
  simp only [membersFrom, read, valueFrom_append hy, value, more]

/-- The members behind a member are read up to the brace. -/
theorem moreMembers_text (h : MembersBehind members b) (keys : ∀ m ∈ members, LooseText m.key)
    (passed : ∀ m ∈ members, Passed m.value) (rest : List Char) (bound : 3 * b.length < n) :
    ∃ ms, moreMembers n (b ++ rest) = (ms, .ok rest) ∧ List.Forall₂ MemberDrafts members ms := by
  induction h generalizing n with
  | close hw =>
    obtain ⟨n, rfl⟩ : ∃ m, n = m + 1 := ⟨n - 1, by omega⟩
    rw [List.append_assoc, List.singleton_append, moreMembers_close hw]
    exact ⟨[], rfl, .nil⟩
  | @member u w x y b m members hu hw hx hy more ih =>
    obtain ⟨key, keys⟩ := List.forall_mem_cons.mp keys
    obtain ⟨passed, others⟩ := List.forall_mem_cons.mp passed
    simp only [List.length_cons, List.length_append, MemberText.length_spread] at bound
    obtain ⟨n, rfl⟩ : ∃ k, n = k + 3 := ⟨n - 3, by omega⟩
    obtain ⟨ms, run, drafts⟩ := ih (n := n + 1) keys others (by omega)
    obtain ⟨d, next, draft⟩ := membersFrom_text key hx hy (more.ends rest) (by omega)
      (passed.after (more.ends rest) (by omega)) run
    refine ⟨d :: ms, ?_, .cons draft drafts⟩
    rwa [List.append_assoc, List.cons_append, List.append_assoc, List.append_assoc,
      MemberText.spread_append, moreMembers_member hu hw]

/-- **The draft of an object** has a draft of each member. -/
theorem object_drafts (h : Braced members a) (keys : ∀ m ∈ members, LooseText m.key)
    (passed : ∀ m ∈ members, Passed m.value) (rest : List Char) (bound : 3 * a.length < n) :
    ∃ ms, valueFrom n (a ++ rest) = .object (a ++ rest) ms (.ok rest) ∧
      List.Forall₂ MemberDrafts members ms := by
  cases h with
  | empty hw =>
    obtain ⟨n, rfl⟩ : ∃ m, n = m + 2 := ⟨n - 2, by simp at bound; omega⟩
    rw [List.cons_append, valueFrom_object, List.append_assoc, List.singleton_append,
      objectFrom_close hw]
    exact ⟨[], rfl, .nil⟩
  | @members w x y b m members hw hx hy more =>
    obtain ⟨key, keys⟩ := List.forall_mem_cons.mp keys
    obtain ⟨passed, others⟩ := List.forall_mem_cons.mp passed
    simp only [List.length_cons, List.length_append, MemberText.length_spread] at bound
    obtain ⟨n, rfl⟩ : ∃ k, n = k + 4 := ⟨n - 4, by omega⟩
    obtain ⟨ms, run, drafts⟩ := moreMembers_text (n := n + 1) more keys others rest
      (by omega)
    obtain ⟨d, next, draft⟩ := membersFrom_text key hx hy (more.ends rest) (by omega)
      (passed.after (more.ends rest) (by omega)) run
    refine ⟨d :: ms, ?_, .cons draft drafts⟩
    rw [List.cons_append, valueFrom_object, List.append_assoc, List.append_assoc,
      MemberText.spread_append, objectFrom_member hw, next]

/-! ## Any value -/

/-- What starts with a sign or a digit is read as a number. -/
theorem valueFrom_number (start : c = '-' ∨ isDigit c = true) : valueFrom (n + 1) (c :: cs) =
    .scalar (c :: cs) ((numeralFrom (c :: cs)).map fun p => (.number p.1, p.2))
      (pastNumber (c :: cs)) := by
  have other {d : Char} := ne_of_sign_or_digit (d := d) start
  rw [valueFrom_piece (isBlank_of_sign_or_digit start) (other (by decide) rfl)
    (other (by decide) rfl)]
  unfold ofPiece
  simp only [if_neg (other (by decide : 'n' ≠ '-') rfl), if_neg (other (by decide : 't' ≠ '-') rfl),
    if_neg (other (by decide : 'f' ≠ '-') rfl), if_neg (other (by decide : '"' ≠ '-') rfl),
    if_pos start]

theorem after_number (h : NumberText a) (ends : Ends rest) :
    (valueFrom (n + 1) (a ++ rest)).after = .ok rest := by
  have past := pastNumber_text h ends
  obtain ⟨c, cs, rfl, start⟩ := h.starts
  rw [List.cons_append] at past ⊢
  rw [valueFrom_number start]
  exact past

theorem after_string (h : LooseText a) :
    (valueFrom (n + 1) (quote a ++ rest)).after = .ok rest := by
  have past := pastString_text h rest
  have text : quote a ++ rest = '"' :: (a ++ '"' :: rest) := by simp [quote]
  rw [text]
  exact past

end Draft

open Draft in
/-- **Any value is passed over.** -/
theorem Value.passed {a : List Char} (h : Value a) : Passed a := by
  refine ⟨h.starts, ?_⟩
  induction h with
  | null | yes | no =>
    intro n rest _ bound
    obtain ⟨n, rfl⟩ : ∃ m, n = m + 1 := ⟨n - 1, by omega⟩
    rfl
  | number h =>
    intro n rest ends bound
    obtain ⟨n, rfl⟩ : ∃ m, n = m + 1 := ⟨n - 1, by omega⟩
    exact after_number h ends
  | string h =>
    intro n rest _ bound
    obtain ⟨n, rfl⟩ : ∃ m, n = m + 1 := ⟨n - 1, by omega⟩
    exact after_string h
  | array h values ih =>
    intro n rest _ bound
    obtain ⟨ds, run, -⟩ := array_drafts h (fun t ht => ⟨(values t ht).starts, ih t ht⟩) rest
      bound
    rw [run]
    rfl
  | object h keys values ih =>
    intro n rest _ bound
    obtain ⟨ms, run, -⟩ := object_drafts h keys
      (fun m hm => ⟨(values m hm).starts, ih m hm⟩) rest bound
    rw [run]
    rfl

end DisplayEnv.Json
