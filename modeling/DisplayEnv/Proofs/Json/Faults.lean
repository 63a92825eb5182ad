import DisplayEnv.Proofs.Json.Records
import Mathlib.Data.List.Nodup
import Mathlib.Data.List.TakeWhile

/-!
# Texts that are no records

An object that lacks a field which the record needs, or has two members of one field's name, is no
record, whatever else stands in it; nor is an array that ends before such a field, and neither is
an object or an array with a faulty part (`FaultyText`). What is followed through the reading here
is which fields are set: those whose names were read, each of them once (`Record.Tracks`).

* `Record.Tracks.refuses`: such a text gives no record.
* `Refuses.option`, `ArrayOf.refuses`: nor does a text with such a part give an optional value or a
  list.
* `readText_reads`, `readText_refuses`: whole texts, with blanks around the value.
-/

namespace DisplayEnv.Json

open Draft

variable {α β P : Type} {a : List Char} {members : List NamedText} {items : List (List Char)}

/-- The reader gives no value for any draft of the text. -/
def Refuses (read : Reader α) (a : List Char) : Prop := ∀ d, Drafts a d → ∀ v, read d ≠ .ok v

/-! ## Faulty texts -/

/-- The text of an object with these members, whose values are any. -/
structure ObjectOf (members : List NamedText) (a : List Char) : Prop where
  braced : Braced (members.map (·.toMemberText)) a
  keys : ∀ m ∈ members, StringText m.name m.key
  values : ∀ m ∈ members, Value m.value

/-- The text of an array with these items, which are any values. -/
structure ArrayOf (items : List (List Char)) (a : List Char) : Prop where
  bracketed : Bracketed items a
  values : ∀ t ∈ items, Value t

/-- **The texts of objects and arrays that are no record** with these fields, some of which are
needed, and where a part may be faulty under the name of a field. -/
inductive FaultyText (names needed : List String) (faulty : String → List Char → Prop) :
    List Char → Prop where
  | missing {members : List NamedText} {a : List Char} {name : String} (object : ObjectOf members a)
      (need : name ∈ needed) (absent : name ∉ members.map (·.name)) :
      FaultyText names needed faulty a
  | repeated {members : List NamedText} {a : List Char} {name : String}
      (object : ObjectOf members a) (known : name ∈ names)
      (twice : 2 ≤ (members.map (·.name)).count name) : FaultyText names needed faulty a
  | member {members : List NamedText} {a : List Char} {m : NamedText} (object : ObjectOf members a)
      (hm : m ∈ members) (known : m.name ∈ names) (part : faulty m.name m.value) :
      FaultyText names needed faulty a
  | cut {items : List (List Char)} {a : List Char} {name : String} (array : ArrayOf items a)
      (need : name ∈ needed) (short : items.length ≤ names.idxOf name) :
      FaultyText names needed faulty a
  | item {items : List (List Char)} {a t : List Char} {name : String} {i : Nat}
      (array : ArrayOf items a) (hi : names[i]? = some name) (ht : items[i]? = some t)
      (part : faulty name t) : FaultyText names needed faulty a

theorem ObjectOf.value (h : ObjectOf members a) : Value a :=
  .object h.braced (List.forall_mem_map.mpr fun m hm => (h.keys m hm).loose)
    (List.forall_mem_map.mpr h.values)

theorem ArrayOf.value (h : ArrayOf items a) : Value a := .array h.bracketed h.values

theorem FaultyText.value {names needed : List String} {faulty : String → List Char → Prop}
    (h : FaultyText names needed faulty a) : Value a := by
  cases h with
  | missing object | repeated object | member object => exact object.value
  | cut array | item array => exact array.value

/-- A faulty text is that of an object or an array. -/
theorem FaultyText.head {names needed : List String} {faulty : String → List Char → Prop}
    (h : FaultyText names needed faulty a) : a.head? = some '[' ∨ a.head? = some '\x7b' := by
  cases h with
  | missing object | repeated object | member object =>
    obtain ⟨cs, rfl⟩ := object.braced.cons
    exact .inr rfl
  | cut array | item array =>
    obtain ⟨cs, rfl⟩ := array.bracketed.cons
    exact .inl rfl

theorem idxOf_lt_of_mem_take {names : List String} {k : String} {n : ℕ} (h : k ∈ names.take n) :
    names.idxOf k < n := by
  have first : names.idxOf k = (names.take n).idxOf k := by
    conv_lhs => rw [← List.take_append_drop n names]
    exact List.idxOf_append_of_mem h
  have inside := List.idxOf_lt_length_iff.mpr h
  rw [List.length_take] at inside
  omega

/-! ## Which fields are set -/

namespace Record

/-- **Reading a field sets it and no other**, and a record is finished only if the fields that it
needs are set. -/
structure Tracks (r : Record P α) (needed : List String) : Prop where
  distinct : (r.fields.map (·.name)).Nodup
  known : ∀ k ∈ needed, k ∈ r.fields.map (·.name)
  unset : ∀ f ∈ r.fields, f.isSet r.start = false
  sets : ∀ f ∈ r.fields, ∀ g ∈ r.fields, ∀ d p q, f.read d p = .ok q →
    g.isSet q = (decide (g.name = f.name) || g.isSet p)
  finished : ∀ p v, r.finish p = .ok v → ∀ f ∈ r.fields, f.name ∈ needed → f.isSet p = true

variable {r : Record P α} {needed : List String} {p q : P}

/-- A field was read of one of the text's drafts. -/
def Took (f : Field P) (t : List Char) : Prop := ∃ d p q, Drafts t d ∧ f.read d p = .ok q

/-- A member that was read is passed over, if no field has its name, or sets the field of its name,
which was not set before. -/
theorem readMembers_cons_eq_ok {d : Member Draft} {ms : List (Member Draft)} {k : String}
    (key : d.key = .ok k) (read : r.readMembers p (d :: ms) = .ok q) :
    ((∀ f ∈ r.fields, f.name ≠ k) ∧ r.readMembers p ms = .ok q) ∨
      ∃ f ∈ r.fields, f.name = k ∧ f.isSet p = false ∧
        ∃ p', f.read d.value p = .ok p' ∧ r.readMembers p' ms = .ok q := by
  rw [readMembers, key] at read
  simp only at read
  split at read
  · rename_i unknown
    split at read
    · cases read
    · exact .inl ⟨by simpa using List.find?_eq_none.mp unknown, read⟩
  · rename_i f found
    split at read
    · cases read
    · rename_i unset
      split at read
      · cases read
      · rename_i p' taken
        exact .inr ⟨f, List.mem_of_find?_eq_some found, by simpa using List.find?_some found,
          by simpa using unset, p', taken, read⟩

/-- Members that were read set their fields, of which none was set before, each by one member that
its field could take. -/
theorem Tracks.of_members (tracks : r.Tracks needed) {ms : List (Member Draft)}
    (drafts : List.Forall₂ MemberDrafts (members.map (·.toMemberText)) ms)
    (keys : ∀ m ∈ members, StringText m.name m.key) (read : r.readMembers p ms = .ok q) :
    (∀ f ∈ r.fields, f.isSet q = (f.isSet p || decide (f.name ∈ members.map (·.name)))) ∧
      (∀ f ∈ r.fields, (members.map (·.name)).count f.name + (f.isSet p).toNat ≤ 1) ∧
      ∀ m ∈ members, ∀ f ∈ r.fields, f.name = m.name → Took f m.value := by
  induction members generalizing ms p with
  | nil =>
    cases drafts
    cases read
    exact ⟨by simp, by simp [Bool.toNat_le], nofun⟩
  | cons m members ih =>
    cases drafts with
    | @cons _ d _ ms draft drafts =>
      obtain ⟨key, keys⟩ := List.forall_mem_cons.mp keys
      obtain ⟨other, read⟩ | ⟨f, hf, name, unset, p', taken, read⟩ :=
        readMembers_cons_eq_ok (draft.1 _ key) read
      · obtain ⟨set, once, took⟩ := ih drafts keys read
        refine ⟨fun f hf => ?_, fun f hf => ?_, List.forall_mem_cons.mpr ⟨?_, took⟩⟩
        · rw [set f hf]
          simp [other f hf]
        · simpa [List.count_cons_of_ne (other f hf).symm] using once f hf
        · exact fun f hf same => absurd same (other f hf)
      · obtain ⟨set, once, took⟩ := ih drafts keys read
        have sets := fun g hg => tracks.sets f hf g hg _ _ _ taken
        refine ⟨fun g hg => ?_, fun g hg => ?_, List.forall_mem_cons.mpr ⟨?_, took⟩⟩
        · rw [set g hg, sets g hg, name]
          simp [Bool.or_assoc, Bool.or_left_comm]
        · have rest := once g hg
          rw [sets g hg] at rest
          by_cases same : g.name = f.name
          · have field : g = f := List.inj_on_of_nodup_map tracks.distinct hg hf same
            simp only [same, decide_true, Bool.true_or, Bool.toNat_true] at rest
            rw [List.map_cons, field, ← name, List.count_cons_self, unset]
            simpa using rest
          · have other : m.name ≠ g.name := fun eq => same (eq.symm.trans name.symm)
            simpa [List.count_cons_of_ne other, same] using rest
        · intro g hg same
          have field : g = f :=
            List.inj_on_of_nodup_map tracks.distinct hg hf (same.trans name.symm)
          exact field ▸ ⟨_, _, _, draft.2, taken⟩

/-- Items that were read set the fields in their places, each of which could take its item. -/
theorem Tracks.of_items (tracks : r.Tracks needed) {fields : List (Field P)} {ds left : List Draft}
    (some_fields : ∀ f ∈ fields, f ∈ r.fields) (drafts : List.Forall₂ Drafts items ds)
    (read : readItems p fields ds = .ok (q, left)) :
    (∀ g ∈ r.fields,
      g.isSet q = (g.isSet p || decide (g.name ∈ (fields.take items.length).map (·.name)))) ∧
      ∀ (i : ℕ) (f : Field P) (t : List Char), fields[i]? = some f → items[i]? = some t →
        Took f t := by
  induction fields generalizing items ds p with
  | nil =>
    cases read
    exact ⟨by simp, by simp⟩
  | cons f fields ih =>
    obtain ⟨hf, some_fields⟩ := List.forall_mem_cons.mp some_fields
    cases drafts with
    | nil =>
      cases read
      exact ⟨by simp, by simp⟩
    | @cons t d items ds draft drafts =>
      rw [readItems] at read
      split at read
      · cases read
      · rename_i p' taken
        obtain ⟨set, took⟩ := ih some_fields drafts read
        refine ⟨fun g hg => ?_, fun i g t' hi ht => ?_⟩
        · rw [set g hg, tracks.sets f hf g hg _ _ _ taken]
          simp [Bool.or_assoc, Bool.or_left_comm]
        · cases i with
          | zero =>
            cases hi
            cases ht
            exact ⟨_, _, _, draft, taken⟩
          | succ i => exact took i g t' (by simpa using hi) (by simpa using ht)

/-- The fields that a finished record needs were set by what was read. -/
theorem Tracks.needed_of_finish (tracks : r.Tracks needed) {names : List String} {v : α}
    (set : ∀ f ∈ r.fields, f.isSet q = (f.isSet r.start || decide (f.name ∈ names)))
    (finish : r.finish q = .ok v) : ∀ k ∈ needed, k ∈ names := by
  intro k hk
  obtain ⟨f, hf, rfl⟩ := List.mem_map.mp (tracks.known k hk)
  have isSet := tracks.finished q v finish f hf hk
  rwa [set f hf, tracks.unset f hf, Bool.false_or, decide_eq_true_eq] at isSet

theorem read_object_eq_ok {front rest : List Char} {ms : List (Member Draft)} {v : α}
    (read : r.read (.object front ms (.ok rest)) = .ok v) :
    ∃ q, r.readMembers r.start ms = .ok q ∧ r.finish q = .ok v := by
  cases members : r.readMembers r.start ms with
  | error e =>
    simp only [Record.read, members, bind, Except.bind, reduceCtorEq] at read
  | ok q =>
    cases finished : r.finish q with
    | error name =>
      simp only [Record.read, members, bind, Except.bind, finished] at read
      cases read
    | ok w =>
      simp only [Record.read, members, bind, Except.bind, finished] at read
      exact ⟨q, rfl, finished.trans (congrArg Except.ok (Except.ok.inj read))⟩

theorem read_array_eq_ok {front rest : List Char} {ds : List Draft} {v : α}
    (read : r.read (.array front ds (.ok rest)) = .ok v) :
    ∃ q left, readItems r.start r.fields ds = .ok (q, left) ∧ r.finish q = .ok v := by
  cases items : readItems r.start r.fields ds with
  | error e =>
    simp only [Record.read, items, bind, Except.bind, reduceCtorEq] at read
  | ok p =>
    obtain ⟨q, left⟩ := p
    cases left with
    | cons d left =>
      simp only [Record.read, items, bind, Except.bind] at read
      cases read
    | nil =>
      cases finished : r.finish q with
      | error name =>
        simp only [Record.read, items, bind, Except.bind, finished] at read
        cases read
      | ok w =>
        simp only [Record.read, items, bind, Except.bind, finished] at read
        exact ⟨q, [], rfl, finished.trans (congrArg Except.ok (Except.ok.inj read))⟩

/-- An object that gives a record has a member for each field that is needed, at most one for each
field, and no faulty one. -/
theorem Tracks.object (tracks : r.Tracks needed) (object : ObjectOf members a) {d : Draft}
    (drafts : Drafts a d) {v : α} (read : r.read d = .ok v) :
    (∀ k ∈ needed, k ∈ members.map (·.name)) ∧
      (∀ f ∈ r.fields, (members.map (·.name)).count f.name ≤ 1) ∧
      ∀ m ∈ members, ∀ f ∈ r.fields, f.name = m.name → Took f m.value := by
  obtain ⟨n, rest, ends, bound, rfl⟩ := drafts
  obtain ⟨ms, run, drafts⟩ := object_drafts object.braced
    (List.forall_mem_map.mpr fun m hm => (object.keys m hm).loose)
    (List.forall_mem_map.mpr fun m hm => (object.values m hm).passed) rest bound
  rw [run] at read
  obtain ⟨q, read, finish⟩ := read_object_eq_ok read
  obtain ⟨set, once, took⟩ := tracks.of_members drafts object.keys read
  refine ⟨tracks.needed_of_finish set finish, fun f hf => ?_, took⟩
  simpa [tracks.unset f hf] using once f hf

/-- An array that gives a record reaches every field that is needed, and has no faulty item. -/
theorem Tracks.array (tracks : r.Tracks needed) (array : ArrayOf items a) {d : Draft}
    (drafts : Drafts a d) {v : α} (read : r.read d = .ok v) :
    (∀ k ∈ needed, k ∈ (r.fields.take items.length).map (·.name)) ∧
      ∀ (i : ℕ) (f : Field P) (t : List Char), r.fields[i]? = some f → items[i]? = some t →
        Took f t := by
  obtain ⟨n, rest, ends, bound, rfl⟩ := drafts
  obtain ⟨ds, run, drafts⟩ := array_drafts array.bracketed
    (fun t ht => (array.values t ht).passed) rest bound
  rw [run] at read
  obtain ⟨q, left, read, finish⟩ := read_array_eq_ok read
  obtain ⟨set, took⟩ := tracks.of_items (fun _ hf => hf) drafts read
  exact ⟨tracks.needed_of_finish set finish, took⟩

/-- **A faulty text gives no record.** -/
theorem Tracks.refuses (tracks : r.Tracks needed) {faulty : String → List Char → Prop}
    (parts : ∀ f ∈ r.fields, ∀ t, faulty f.name t → ¬ Took f t)
    (h : FaultyText (r.fields.map (·.name)) needed faulty a) : Refuses r.read a := by
  intro d drafts v read
  cases h with
  | missing object need absent => exact absent ((tracks.object object drafts read).1 _ need)
  | repeated object known twice =>
    obtain ⟨f, hf, rfl⟩ := List.mem_map.mp known
    exact absurd ((tracks.object object drafts read).2.1 f hf) (Nat.not_le_of_lt twice)
  | @member _ _ m object hm known part =>
    obtain ⟨f, hf, name⟩ := List.mem_map.mp known
    exact parts f hf _ (name ▸ part) ((tracks.object object drafts read).2.2 m hm f hf name)
  | @cut items _ name array need short =>
    have reached := (tracks.array array drafts read).1 _ need
    rw [List.map_take] at reached
    exact absurd (idxOf_lt_of_mem_take reached) (Nat.not_lt_of_le short)
  | @item items _ t name i array hi ht part =>
    rw [List.getElem?_map] at hi
    obtain ⟨f, hf, rfl⟩ := Option.map_eq_some_iff.mp hi
    exact parts f (List.mem_of_getElem? hf) t part
      ((tracks.array array drafts read).2 i f t hf ht)

end Record

/-! ## Parts that are refused -/

section Parts

variable {read : Reader α}

theorem map_eq_ok {ε : Type} {x : Except ε α} {f : α → β} {b : β} (h : x.map f = .ok b) :
    ∃ v, x = .ok v ∧ f v = b := by
  cases x with
  | error e => cases h
  | ok v => exact ⟨v, rfl, Except.ok.inj h⟩

/-- A field that puts what it read into the record takes nothing that its reader refuses. -/
theorem Refuses.not_took {name : String} {isSet : P → Bool} {put : α → P → P}
    (h : Refuses read a) :
    ¬ Record.Took ⟨name, isSet, fun d p => (read d).map fun v => put v p⟩ a := by
  rintro ⟨d, p, q, drafts, taken⟩
  obtain ⟨v, value, -⟩ := map_eq_ok taken
  exact h d drafts v value

/-- What is refused is no optional value either, unless it is a piece. -/
theorem Refuses.option (h : Refuses read a)
    (bracket : a.head? = some '[' ∨ a.head? = some '\x7b') : Refuses (readOption read) a := by
  intro d drafts v taken
  have refused := h d drafts
  obtain ⟨n, rest, ends, bound, rfl⟩ := drafts
  obtain ⟨n, rfl⟩ : ∃ m, n = m + 1 := ⟨n - 1, by omega⟩
  have passed : readOption read (Draft.valueFrom (n + 1) (a ++ rest)) =
      (read (Draft.valueFrom (n + 1) (a ++ rest))).map some := by
    rcases bracket with bracket | bracket <;>
      obtain ⟨cs, rfl⟩ := List.head?_eq_some_iff.mp bracket
    · rw [List.cons_append, Draft.valueFrom_array]
      rfl
    · rw [List.cons_append, Draft.valueFrom_object]
      rfl
  rw [passed] at taken
  obtain ⟨w, value, -⟩ := map_eq_ok taken
  exact refused w value

theorem mapM_refuses {items : List (List Char)} {ds : List Draft}
    (drafts : List.Forall₂ Draft.Drafts items ds) {t : List Char} (ht : t ∈ items)
    (h : Refuses read t) (vs : List α) : ds.mapM read ≠ .ok vs := by
  induction drafts generalizing vs with
  | nil => cases ht
  | @cons _ d items ds draft _ ih =>
    rw [List.mapM_cons]
    intro taken
    cases first : read d with
    | error e =>
      rw [first] at taken
      cases taken
    | ok v =>
      rcases List.mem_cons.mp ht with rfl | ht
      · exact h d draft v first
      · cases more : ds.mapM read with
        | error e =>
          rw [first, more] at taken
          cases taken
        | ok vs => exact ih ht vs more

/-- A list with an item that is refused is refused. -/
theorem ArrayOf.refuses {items : List (List Char)} (array : ArrayOf items a) {t : List Char}
    (ht : t ∈ items) (h : Refuses read t) : Refuses (readList read) a := by
  rintro d ⟨n, rest, ends, bound, rfl⟩ vs taken
  obtain ⟨ds, run, drafts⟩ := Draft.array_drafts array.bracketed
    (fun t ht => (array.values t ht).passed) rest bound
  rw [run] at taken
  cases list : ds.mapM read with
  | error e =>
    simp only [readList, list, bind, Except.bind, reduceCtorEq] at taken
  | ok vs => exact mapM_refuses drafts ht h vs list

end Parts

/-! ## Whole texts -/

/-- The text is that of a value with blanks around it. -/
def Framed (a text : List Char) : Prop := ∃ w w', Blank w ∧ Blank w' ∧ text = w ++ (a ++ w')

/-- The draft of a whole text is one of the value's, with the blanks behind it. -/
theorem Framed.drafts {text : List Char} (framed : Framed a text) (value : Value a) :
    Drafts a (Draft.read text) ∧ ∃ w, Blank w ∧ (Draft.read text).after = .ok w := by
  obtain ⟨w, w', hw, hw', rfl⟩ := framed
  have ends : Ends (w' ++ []) := hw'.ends trivial
  rw [List.append_nil] at ends
  have read : Draft.read (w ++ (a ++ w')) =
      valueFrom (3 * (w ++ (a ++ w')).length + 3) (a ++ w') := valueFrom_append hw
  have bound : 3 * a.length < 3 * (w ++ (a ++ w')).length + 3 := by
    simp only [List.length_append]
    omega
  exact ⟨⟨_, w', ends, bound, read⟩, w', hw', by rw [read, value.passed.after ends bound]⟩

theorem skipBlanks_blank {w : List Char} (hw : Blank w) : skipBlanks w = [] :=
  List.dropWhile_eq_nil_iff.mpr hw

/-- **A whole text is read as the value that its readings give.** -/
theorem readText_reads {read : Reader α} {v : α} {text : List Char} (h : Reads read a v)
    (value : Value a) (framed : Framed a text) : readText read text = .ok v := by
  obtain ⟨drafts, w, hw, after⟩ := framed.drafts value
  simp only [readText, h _ drafts, bind, Except.bind, after, skipBlanks_blank hw]
  rfl

/-- A whole text gives no value when none of its readings does. -/
theorem readText_refuses {read : Reader α} {text : List Char} (h : Refuses read a)
    (value : Value a) (framed : Framed a text) : ∃ e, readText read text = .error e := by
  obtain ⟨drafts, -⟩ := framed.drafts value
  cases result : read (Draft.read text) with
  | ok v => exact absurd result (h _ drafts v)
  | error e => exact ⟨e, by simp only [readText, result, bind, Except.bind]⟩

end DisplayEnv.Json
