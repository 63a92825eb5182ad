import DisplayEnv.Proofs.Json.Readers

/-!
# Records with fields left out

A record may be written as an object that has some of its fields, in any order and among members of
other names, or as an array of its fields in their order that stops before fields that are left out
(`RecordText`). What is read of it does not depend on any of this. The argument follows the record
under construction: it is always the one that has the values of the fields that were seen so far
(`Plan`), and at the end those are the fields that are there.

* `Slot`: a field with the texts of its value.
* `Plan.reads`: such a text is read as the record that is made of the fields that are there.
* `Inverts.reads`, `reads_string`, `reads_list`: what a field may be read of.
-/

namespace DisplayEnv.Json

open Draft

variable {α P : Type} {a : List Char}

/-- **The reader gives the value** for every draft of the text. -/
def Reads (read : Reader α) (a : List Char) (v : α) : Prop := ∀ d, Drafts a d → read d = .ok v

/-! ## What a field may be read of -/

/-- Written values are read back, in any of their written texts. -/
theorem Inverts.reads {read : Reader α} {write : α → Json} (h : Inverts read write) {v : α}
    (spelled : Spelled (write v) a) : Reads read a v := by
  rintro d ⟨n, rest, ends, bound, rfl⟩
  exact h v _ rest (valueFrom_spelled (write v) spelled ends bound)

theorem reads_string {s : String} (h : StringText s a) : Reads readString (quote a) s := by
  rintro d ⟨n, rest, ends, bound, rfl⟩
  obtain ⟨n, rfl⟩ : ∃ m, n = m + 1 := ⟨n - 1, by omega⟩
  have text : quote a ++ rest = '"' :: (a ++ '"' :: rest) := by simp [quote]
  rw [text]
  show readString (.scalar _ (Except.map _ (stringFrom _)) _) = _
  rw [stringFrom_text h]
  rfl

/-- Null stands for a value that is missing. -/
theorem reads_none {read : Reader α} : Reads (readOption read) ['n', 'u', 'l', 'l'] none := by
  rintro d ⟨n, rest, ends, bound, rfl⟩
  obtain ⟨n, rfl⟩ : ∃ m, n = m + 1 := ⟨n - 1, by omega⟩
  rfl

/-- A value that is there, if the reader takes no null for it. -/
theorem Reads.some {read : Reader α} {v : α} (h : Reads read a v)
    (null : ∀ front rest lenient, read (.scalar front (.ok (.null, rest)) lenient) ≠ .ok v) :
    Reads (readOption read) a (some v) := by
  intro d drafts
  have value := h d drafts
  unfold readOption
  split
  · exact absurd value (null _ _ _)
  · rw [value]
    rfl

theorem mapM_reads {read : Reader α} {items : List (List Char)} {ds : List Draft} {vs : List α}
    (reads : List.Forall₂ (Reads read) items vs) (drafts : List.Forall₂ Drafts items ds) :
    ds.mapM read = .ok vs := by
  induction reads generalizing ds with
  | nil =>
    cases drafts
    rfl
  | cons first _ ih =>
    cases drafts with
    | cons draft drafts =>
      rw [List.mapM_cons, first _ draft, ih drafts]
      rfl

/-- An array is read item by item. -/
theorem reads_list {read : Reader α} {items : List (List Char)} {vs : List α}
    (bracketed : Bracketed items a) (values : ∀ t ∈ items, Value t)
    (reads : List.Forall₂ (Reads read) items vs) : Reads (readList read) a vs := by
  rintro d ⟨n, rest, ends, bound, rfl⟩
  obtain ⟨ds, run, drafts⟩ := array_drafts bracketed
    (fun t ht => (values t ht).passed) rest bound
  rw [run]
  show ds.mapM read >>= _ = _
  rw [mapM_reads reads drafts]
  rfl

/-! ## Texts of records -/

/-- A field of a record: its name, whether it is left out, and the texts of its value. -/
structure Slot where
  name : String
  omitted : Bool
  text : List Char → Prop

/-- The names of the fields that are there. -/
def present (slots : List Slot) : List String := (slots.filter (!·.omitted)).map (·.name)

/-- A member of an object and the name that its key stands for. -/
structure NamedText extends MemberText where
  name : String

/-- **The texts of a record**, some of whose fields are left out. -/
inductive RecordText (slots : List Slot) : List Char → Prop where
  /-- An object: the fields that are there in any order, and members of other names. -/
  | object {members : List NamedText} {a : List Char}
      (braced : Braced (members.map (·.toMemberText)) a)
      (keys : ∀ m ∈ members, StringText m.name m.key)
      (known : ∀ m ∈ members, ∀ s ∈ slots, s.name = m.name → s.text m.value)
      (unknown : ∀ m ∈ members, m.name ∉ slots.map (·.name) → Value m.value)
      (once : ((members.map (·.name)).filter (· ∈ slots.map (·.name))).Perm (present slots)) :
      RecordText slots a
  /-- An array: fields in their order, up to where all that follow are left out. -/
  | array {there left : List Slot} {items : List (List Char)} {a : List Char}
      (bracketed : Bracketed items a) (split : slots = there ++ left)
      (kept : ∀ s ∈ there, s.omitted = false) (cut : ∀ s ∈ left, s.omitted = true)
      (texts : List.Forall₂ (fun s t => s.text t) there items) : RecordText slots a

variable {slots : List Slot} {r : Record P α} {stage : (String → Bool) → P}

/-- An object without members is a record whose fields are all left out. -/
theorem RecordText.empty {w : List Char} (hw : Blank w) (all : ∀ s ∈ slots, s.omitted = true) :
    RecordText slots ('\x7b' :: (w ++ ['\x7d'])) := by
  have none_present : present slots = [] := by
    unfold present
    rw [List.filter_eq_nil_iff.mpr fun s hs => by simp [all s hs], List.map_nil]
  refine @RecordText.object slots [] _ (.empty hw) nofun nofun nofun ?_
  rw [none_present]
  exact .nil

/-- Every member of an object of a record holds a value. -/
theorem value_of_members {members : List NamedText} (values : ∀ s ∈ slots, ∀ t, s.text t → Value t)
    (known : ∀ m ∈ members, ∀ s ∈ slots, s.name = m.name → s.text m.value)
    (unknown : ∀ m ∈ members, m.name ∉ slots.map (·.name) → Value m.value) :
    ∀ m ∈ members, Value m.value := by
  intro m hm
  by_cases named : m.name ∈ slots.map (·.name)
  · obtain ⟨s, hs, same⟩ := List.mem_map.mp named
    exact values s hs _ (known m hm s hs same)
  · exact unknown m hm named

theorem value_of_items {there : List Slot} {items : List (List Char)}
    (values : ∀ s ∈ there, ∀ t, s.text t → Value t)
    (texts : List.Forall₂ (fun s t => s.text t) there items) : ∀ t ∈ items, Value t := by
  induction texts with
  | nil => exact List.forall_mem_nil _
  | @cons s t there items text _ ih =>
    obtain ⟨first, others⟩ := List.forall_mem_cons.mp values
    exact List.forall_mem_cons.mpr ⟨first t text, ih others⟩

/-- A record's text is a value's, if the texts of its fields are. -/
theorem RecordText.value (values : ∀ s ∈ slots, ∀ t, s.text t → Value t) (h : RecordText slots a) :
    Value a := by
  cases h with
  | object braced keys known unknown _ =>
    have all := value_of_members values known unknown
    refine .object braced ?_ ?_
    · exact List.forall_mem_map.mpr fun m hm => (keys m hm).loose
    · exact List.forall_mem_map.mpr all
  | array bracketed split _ _ texts =>
    refine .array bracketed (value_of_items (fun s hs => values s ?_) texts)
    exact split ▸ List.mem_append_left _ hs

/-! ## The record under construction -/

/-- The field is the slot's: at every stage it is set once its name was seen, and reading it of one
of the slot's texts leads to the stage where its name was seen. -/
structure Slot.Fits (s : Slot) (stage : (String → Bool) → P) (f : Field P) : Prop where
  name : f.name = s.name
  set : ∀ seen, f.isSet (stage seen) = seen s.name
  read : ∀ seen t d, s.text t → Drafts t d →
    f.read d (stage seen) = .ok (stage (Function.update seen s.name true))

/-- **The stages of a record**: which one it is depends on the names that were seen, and on nothing
else. -/
structure Plan (r : Record P α) (slots : List Slot) (stage : (String → Bool) → P) : Prop where
  distinct : (slots.map (·.name)).Nodup
  start : stage (fun _ => false) = r.start
  fields : List.Forall₂ (Slot.Fits · stage) slots r.fields

/-- The field of a slot is found by its name. -/
theorem find?_of_fits {fields : List (Field P)} (distinct : (slots.map (·.name)).Nodup)
    (fit : List.Forall₂ (Slot.Fits · stage) slots fields) {s : Slot} (hs : s ∈ slots) :
    ∃ f, fields.find? (·.name = s.name) = some f ∧ s.Fits stage f := by
  induction fit with
  | nil => cases hs
  | @cons s' f slots fields fits _ ih =>
    obtain ⟨fresh, distinct⟩ := List.nodup_cons.mp distinct
    rcases List.mem_cons.mp hs with rfl | hs
    · exact ⟨f, List.find?_cons_of_pos (by simpa using fits.name), fits⟩
    · have other : f.name ≠ s.name := by
        intro same
        rw [fits.name] at same
        exact fresh (List.mem_map.mpr ⟨s, hs, same.symm⟩)
      rw [List.find?_cons_of_neg (by simpa using other)]
      exact ih distinct hs

/-- No field is found by another name. -/
theorem find?_of_unknown {fields : List (Field P)}
    (fit : List.Forall₂ (Slot.Fits · stage) slots fields) {k : String}
    (unknown : k ∉ slots.map (·.name)) : fields.find? (·.name = k) = none := by
  induction fit with
  | nil => rfl
  | @cons s f slots fields fits _ ih =>
    obtain ⟨other, unknown⟩ := not_or.mp (mt List.mem_cons.mpr unknown)
    rw [List.find?_cons_of_neg (by simpa [fits.name] using fun same => other same.symm)]
    exact ih unknown

namespace Plan

/-- A name more that was seen. -/
theorem update_or (seen : String → Bool) (k : String) (names : List String) :
    (fun j => Function.update seen k true j || decide (j ∈ names)) =
      fun j => seen j || decide (j ∈ k :: names) := by
  funext j
  by_cases same : j = k <;> simp [same]

/-- Members lead to the stage where the names among them were seen. -/
theorem readMembers (plan : Plan r slots stage) {members : List NamedText}
    {ms : List (Member Draft)}
    (drafts : List.Forall₂ MemberDrafts (members.map (·.toMemberText)) ms)
    (keys : ∀ m ∈ members, StringText m.name m.key)
    (known : ∀ m ∈ members, ∀ s ∈ slots, s.name = m.name → s.text m.value)
    (unknown : ∀ m ∈ members, m.name ∉ slots.map (·.name) → Value m.value)
    (once : ((members.map (·.name)).filter (· ∈ slots.map (·.name))).Nodup)
    (seen : String → Bool)
    (unseen : ∀ k ∈ (members.map (·.name)).filter (· ∈ slots.map (·.name)), seen k = false) :
    r.readMembers (stage seen) ms = .ok (stage fun k => seen k ||
      decide (k ∈ (members.map (·.name)).filter (· ∈ slots.map (·.name)))) := by
  induction members generalizing ms seen with
  | nil =>
    cases drafts
    simp [Record.readMembers]
  | cons m members ih =>
    cases drafts with
    | @cons _ d _ ms draft drafts =>
      obtain ⟨key, keys⟩ := List.forall_mem_cons.mp keys
      obtain ⟨here, known⟩ := List.forall_mem_cons.mp known
      obtain ⟨there, unknown⟩ := List.forall_mem_cons.mp unknown
      rw [Record.readMembers, draft.1 _ key]
      simp only
      by_cases named : m.name ∈ slots.map (·.name)
      · obtain ⟨s, hs, same⟩ := List.mem_map.mp named
        obtain ⟨f, found, fits⟩ := find?_of_fits plan.distinct plan.fields hs
        rw [List.map_cons, List.filter_cons_of_pos (by simpa using named)] at once unseen ⊢
        obtain ⟨fresh, once⟩ := List.nodup_cons.mp once
        obtain ⟨unseen_here, unseen⟩ := List.forall_mem_cons.mp unseen
        have unset : f.isSet (stage seen) = false := by rw [fits.set, same, unseen_here]
        have read := fits.read seen _ _ (here s hs same) draft.2
        rw [same] at found read
        simp only [found, unset, read, Bool.false_eq_true, if_false]
        rw [ih drafts keys known unknown once (Function.update seen m.name true) ?_, update_or]
        intro k hk
        have other : k ≠ m.name := fun eq => fresh (eq ▸ hk)
        rw [Function.update_of_ne other, unseen k hk]
      · rw [List.map_cons, List.filter_cons_of_neg (by simpa using named)] at once unseen ⊢
        obtain ⟨n, rest, ends, bound, value⟩ := draft.2
        have passed : d.value.after = .ok rest := by
          rw [value]
          exact (there named).passed.after ends bound
        simp only [find?_of_unknown plan.fields named, passed]
        exact ih drafts keys known unknown once seen unseen

/-- Items lead to the stage where the names of their fields were seen. -/
theorem readItems {there left : List Slot} {fields : List (Field P)} {items : List (List Char)}
    {ds : List Draft} (fit : List.Forall₂ (Slot.Fits · stage) (there ++ left) fields)
    (texts : List.Forall₂ (fun s t => s.text t) there items)
    (drafts : List.Forall₂ Drafts items ds) (seen : String → Bool) :
    Record.readItems (stage seen) fields ds =
      .ok (stage fun k => seen k || decide (k ∈ there.map (·.name)), []) := by
  induction texts generalizing fields ds seen with
  | nil =>
    cases drafts
    cases fields <;> simp [Record.readItems]
  | @cons s t there items text _ ih =>
    cases drafts with
    | @cons _ d _ ds draft drafts =>
      cases fit with
      | @cons _ f _ fields fits fit =>
        rw [Record.readItems, fits.read seen t d text draft]
        simp only
        rw [ih fit drafts, update_or, List.map_cons]

/-- What is there, when the fields from somewhere on are left out. -/
theorem present_append {there left : List Slot} (kept : ∀ s ∈ there, s.omitted = false)
    (cut : ∀ s ∈ left, s.omitted = true) : present (there ++ left) = there.map (·.name) := by
  unfold present
  rw [List.filter_append, List.filter_eq_self.mpr fun s hs => by simp [kept s hs],
    List.filter_eq_nil_iff.mpr fun s hs => by simp [cut s hs], List.append_nil]

/-- **A record is read of any of its texts**, as what is made of the fields that are there. -/
theorem reads (plan : Plan r slots stage) (values : ∀ s ∈ slots, ∀ t, s.text t → Value t) {v : α}
    (finished : r.finish (stage fun k => decide (k ∈ present slots)) = .ok v)
    (h : RecordText slots a) : Reads r.read a v := by
  rintro d ⟨n, rest, ends, bound, rfl⟩
  cases h with
  | @object members _ braced keys known unknown once =>
    have all := value_of_members values known unknown
    obtain ⟨ms, run, drafts⟩ := object_drafts braced
      (List.forall_mem_map.mpr fun m hm => (keys m hm).loose)
      (List.forall_mem_map.mpr fun m hm => (all m hm).passed) rest bound
    have distinct : (present slots).Nodup := plan.distinct.sublist (List.filter_sublist.map _)
    have read := plan.readMembers drafts keys known unknown (once.nodup_iff.mpr distinct)
      (fun _ => false) fun _ _ => rfl
    rw [plan.start] at read
    simp only [Bool.false_or, once.mem_iff] at read
    rw [run]
    simp only [Record.read, read, bind, Except.bind, finished]
    rfl
  | @array there left items _ bracketed split kept cut texts =>
    obtain rfl := split
    have all := value_of_items (fun s hs => values s (List.mem_append_left _ hs)) texts
    obtain ⟨ds, run, drafts⟩ := array_drafts bracketed
      (fun t ht => (all t ht).passed) rest bound
    have read := readItems plan.fields texts drafts fun _ => false
    rw [plan.start] at read
    simp only [Bool.false_or] at read
    rw [present_append kept cut] at finished
    rw [run]
    simp only [Record.read, read, bind, Except.bind, finished]
    rfl

end Plan

end DisplayEnv.Json
