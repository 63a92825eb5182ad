import DisplayEnv.Json.Reading
import DisplayEnv.Proofs.Json.ReadBack

/-!
# Readers that take back what was written

A reader is the way back from a writer of JSON values when it gives the written value for every
draft that holds it (`Inverts`). The readers of strings, truth values and numbers of a fixed width
are ways back from the obvious writers, and the readers of lists and of values that may be missing
are built from that of the items.

A record is read from an object one member at a time. When every member's key names a field that is
not set yet, and the field reads the member's value, the members lead from the empty record to the
one at the end (`Record.Fills`), whatever the fields are.

* `Record.read_of_fills`: records, one member after the other.
* `readText_spelled`: whole texts of a value, in any form.
-/

namespace DisplayEnv.Json

open Draft (Holds HoldItems HoldMembers)

variable {α P : Type} {d : Draft} {rest : List Char}

/-- **The reader gives back what the writer was given**, for every draft of it. -/
def Inverts (read : Reader α) (write : α → Json) : Prop :=
  ∀ (a : α) (d : Draft) (rest : List Char), d.Holds (write a) rest → read d = .ok a

/-- What is made of the value that was read. -/
theorem Inverts.map {read : Reader α} {write : α → Json} (h : Inverts read write) (a : α)
    (f : α → P) (d : Draft) (rest : List Char) (holds : d.Holds (write a) rest) :
    (read d).map f = .ok (f a) := by
  rw [h a d rest holds]
  rfl

/-! ## Scalars -/

theorem readString_inverts : Inverts readString .string := by
  rintro s d rest ⟨⟩
  rfl

theorem readBool_inverts : Inverts readBool .bool := by
  rintro b d rest ⟨⟩
  rfl

theorem readWhole_holds {low high n : Int} (expected : String) (hlow : low ≤ n) (hhigh : n ≤ high)
    (h : d.Holds (.number n) rest) : readWhole low high expected d = .ok n := by
  cases h
  exact if_pos ⟨hlow, hhigh⟩

theorem readUInt32_inverts : Inverts readUInt32 fun n => .number n.toNat := by
  intro n d rest h
  have : n.toNat < 0x100000000 := n.toNat_lt
  unfold readUInt32
  rw [readWhole_holds "u32" (by omega) (by omega) h]
  simp [Except.map]

theorem readUInt64_inverts : Inverts readUInt64 fun n => .number n.toNat := by
  intro n d rest h
  have : n.toNat < 0x10000000000000000 := n.toNat_lt
  unfold readUInt64
  rw [readWhole_holds "u64" (by omega) (by omega) h]
  simp [Except.map]

theorem readInt32_inverts : Inverts readInt32 fun n => .number n.toInt := by
  intro n d rest h
  have low : -0x80000000 ≤ n.toInt := n.le_toInt
  have high : n.toInt ≤ 0x7fffffff := n.toInt_le
  unfold readInt32
  rw [readWhole_holds "i32" low high h]
  simp [Except.map]

/-! ## Missing values and lists -/

/-- A missing value is written as null, so a value that is there must not be. -/
theorem readOption_inverts {read : Reader α} {write : α → Json} (h : Inverts read write)
    (other : ∀ a, write a ≠ .null) : Inverts (readOption read) (·.elim .null write) := by
  rintro (_ | a) d rest holds
  · cases holds
    rfl
  · have value := h a d rest holds
    change d.Holds (write a) rest at holds
    -- a reading of null would be of a draft that holds null, and the value is written otherwise
    generalize hv : write a = v at holds
    unfold readOption
    split
    · cases holds
      exact absurd hv (other a)
    · rw [value]
      rfl

theorem mapM_holds {read : Reader α} {write : α → Json} (h : Inverts read write) (as : List α)
    {items : List Draft} (holds : HoldItems items (as.map write)) : items.mapM read = .ok as := by
  induction as generalizing items with
  | nil =>
    cases holds
    rfl
  | cons a as ih =>
    cases holds with
    | cons first more =>
      rw [List.mapM_cons, h a _ _ first, ih more]
      rfl

theorem readList_inverts {read : Reader α} {write : α → Json} (h : Inverts read write) :
    Inverts (readList read) fun as => .array (as.map write) := by
  intro as d rest holds
  cases holds with
  | @array front _ items _ holds =>
    show (items.mapM read >>= _) = _
    rw [mapM_holds h as holds]
    rfl

/-! ## Records -/

namespace Record

variable {r : Record P α}

/-- The members set fields of the record that were not set before, and lead from one record under
construction to another. -/
inductive Fills (r : Record P α) : P → List (String × Json) → P → Prop
  | nil {p : P} : Fills r p [] p
  | cons {p q s : P} {k : String} {v : Json} {ms : List (String × Json)} {field : Field P}
      (found : r.fields.find? (·.name = k) = some field) (unset : field.isSet p = false)
      (reads : ∀ (d : Draft) (rest : List Char), d.Holds v rest → field.read d p = .ok q)
      (more : Fills r q ms s) : Fills r p ((k, v) :: ms) s

theorem readMembers_of_fills {p q : P} {ms : List (String × Json)} (h : r.Fills p ms q)
    {members : List (Member Draft)} (holds : HoldMembers members ms) :
    r.readMembers p members = .ok q := by
  induction h generalizing members with
  | nil =>
    cases holds
    rfl
  | cons found unset reads _ ih =>
    cases holds with
    | cons key value more =>
      rw [readMembers, key]
      simp only [found, unset, reads _ _ value]
      exact ih more

/-- **An object whose members fill a record is read as that record.** -/
theorem read_of_fills {q : P} {ms : List (String × Json)} {a : α} (h : r.Fills r.start ms q)
    (finished : r.finish q = .ok a) (holds : d.Holds (.object ms) rest) : r.read d = .ok a := by
  cases holds with
  | @object front _ members _ members_hold =>
    simp only [read, readMembers_of_fills h members_hold, bind, Except.bind, finished]
    rfl

end Record

/-! ## Whole texts -/

/-- **A reader gives back the value from each of its texts**, with nothing behind it. -/
theorem readText_spelled {read : Reader α} {write : α → Json} (h : Inverts read write) {a : α}
    {text : List Char} (spelled : Spelled (write a) text) : readText read text = .ok a := by
  have holds := Draft.read_spelled spelled
  simp only [readText, h a _ _ holds, bind, Except.bind, holds.after]
  rfl

end DisplayEnv.Json
