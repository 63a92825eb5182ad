import DisplayEnv.Proofs.Json.Passing
import DisplayEnv.Proofs.Json.Spelling

/-!
# The draft of a written value

Reading any text of a value gives a draft that holds the value: each piece of it in its place,
nothing more and no flaw (`Draft.Holds`). What follows the value in the text does not matter, as
long as it does not go on with a number, and it is what is left of the text behind the draft.

The text of a value is one of the texts of values at all, so its draft has a draft of each item or
member in it. The argument is a recursion over the value.

* `valueFrom_spelled`: the draft of a text of a value holds the value.
* `read_spelled`: so does the draft that is read of a text that is nothing else.
-/

namespace DisplayEnv.Json.Draft

/-! ## Drafts without flaws -/

mutual

/-- **The draft holds the value**, and the rest of the text stands behind it. -/
inductive Holds : Draft → Json → List Char → Prop where
  | null {front rest : List Char} : Holds (.scalar front (.ok (.null, rest)) (.ok rest)) .null rest
  | bool {front rest : List Char} {b : Bool} :
      Holds (.scalar front (.ok (.bool b, rest)) (.ok rest)) (.bool b) rest
  | number {front rest : List Char} {n : Int} :
      Holds (.scalar front (.ok (.number (.whole n), rest)) (.ok rest)) (.number n) rest
  | string {front rest : List Char} {s : String} :
      Holds (.scalar front (.ok (.string s, rest)) (.ok rest)) (.string s) rest
  | array {front rest : List Char} {items : List Draft} {vs : List Json}
      (h : HoldItems items vs) : Holds (.array front items (.ok rest)) (.array vs) rest
  | object {front rest : List Char} {members : List (Member Draft)} {ms : List (String × Json)}
      (h : HoldMembers members ms) : Holds (.object front members (.ok rest)) (.object ms) rest

/-- The drafts hold the values in their order. -/
inductive HoldItems : List Draft → List Json → Prop where
  | nil : HoldItems [] []
  | cons {d : Draft} {items : List Draft} {v : Json} {vs : List Json} {rest : List Char}
      (first : d.Holds v rest) (more : HoldItems items vs) : HoldItems (d :: items) (v :: vs)

/-- The members hold the keys and values in their order. -/
inductive HoldMembers : List (Member Draft) → List (String × Json) → Prop where
  | nil : HoldMembers [] []
  | cons {m : Member Draft} {members : List (Member Draft)} {k : String} {v : Json}
      {ms : List (String × Json)} {rest : List Char} (key : m.key = .ok k)
      (value : m.value.Holds v rest) (more : HoldMembers members ms) :
      HoldMembers (m :: members) ((k, v) :: ms)

end

variable {n : ℕ} {rest : List Char}

theorem Holds.after {d : Draft} {v : Json} (h : d.Holds v rest) : d.after = .ok rest := by
  cases h <;> rfl

/-! ## Pieces -/

theorem ofPiece_string (s : String) :
    (ofPiece (quotedChars s ++ rest)).Holds (.string s) rest := by
  have texts := escaped_texts s
  have text : quotedChars s ++ rest = '"' :: (s.toList.flatMap escaped ++ '"' :: rest) := by
    simp [quotedChars]
  rw [text]
  show Holds (.scalar _ (Except.map _ (stringFrom _)) (pastString _)) _ _
  rw [stringFrom_text texts, pastString_text texts.loose]
  exact .string

theorem valueFrom_digits {m : Int} (fits : InRange m) (h : Ends rest) :
    (valueFrom (n + 1) (digits m ++ rest)).Holds (.number m) rest := by
  have strict := numeralFrom_written fits h
  have lenient := pastNumber_text (digits_text m) h
  obtain ⟨c, cs, hc, start⟩ := (digits_text m).starts
  rw [hc, List.cons_append] at strict lenient ⊢
  rw [valueFrom_number start, strict, lenient]
  exact .number

/-! ## Whole values -/

mutual

/-- **The draft of a text of a value holds the value**, whatever follows it in the text. -/
theorem valueFrom_spelled : ∀ (v : Json) {a rest : List Char} {n : ℕ}, Spelled v a → Ends rest →
    3 * a.length < n → (valueFrom n (a ++ rest)).Holds v rest
  | .null, _, _, _ + 1, .null, _, _ => .null
  | .bool _, _, _, _ + 1, .yes, _, _ => .bool
  | .bool _, _, _, _ + 1, .no, _, _ => .bool
  | .number _, _, _, _ + 1, .number fits, ends, _ => valueFrom_digits fits ends
  | .string s, _, _, _ + 1, .string _, _, _ => ofPiece_string s
  | .array vs, _, rest, n, h, _, bound => by
    obtain ⟨items, bracketed, texts⟩ := h.bracketed
    obtain ⟨ds, run, drafts⟩ := array_drafts bracketed
      (fun t ht => (Spelled.items vs texts t ht).passed) rest bound
    rw [run]
    exact .array (items_hold vs texts drafts)
  | .object ms, _, rest, n, h, _, bound => by
    obtain ⟨members, braced, texts⟩ := h.braced
    have parts := SpelledMember.parts ms texts
    obtain ⟨ds, run, drafts⟩ := object_drafts braced (fun m hm => (parts m hm).1)
      (fun m hm => (parts m hm).2.passed) rest bound
    rw [run]
    exact .object (members_hold ms texts drafts)

theorem items_hold : ∀ (vs : List Json) {items : List (List Char)} {ds : List Draft},
    List.Forall₂ Spelled vs items → List.Forall₂ Drafts items ds → HoldItems ds vs
  | [], _, _, .nil, .nil => .nil
  | v :: vs, _, _, .cons first texts, .cons ⟨_, _, ends, bound, draft⟩ drafts =>
    .cons (draft ▸ valueFrom_spelled v first ends bound) (items_hold vs texts drafts)

theorem members_hold : ∀ (ms : List (String × Json)) {members : List MemberText}
    {ds : List (Member Draft)}, List.Forall₂ SpelledMember ms members →
    List.Forall₂ MemberDrafts members ds → HoldMembers ds ms
  | [], _, _, .nil, .nil => .nil
  | (k, v) :: ms, _, _, .cons first texts, .cons ⟨key, _, _, ends, bound, draft⟩ drafts =>
    .cons (key k (first.key ▸ escaped_texts k))
      (draft ▸ valueFrom_spelled v first.value ends bound) (members_hold ms texts drafts)

end

/-- **The draft of a whole text that is one of a value's holds the value.** -/
theorem read_spelled {v : Json} {a : List Char} (h : Spelled v a) : (read a).Holds v [] := by
  have ends : Ends [] := trivial
  have holds := valueFrom_spelled v (n := 3 * a.length + 3) h ends (by omega)
  rwa [List.append_nil] at holds

end DisplayEnv.Json.Draft
