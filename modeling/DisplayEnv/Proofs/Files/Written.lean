import DisplayEnv.Files
import DisplayEnv.Proofs.Cache.Keyed
import Mathlib.Data.String.Basic
import Mathlib.Tactic.SplitIfs

/-!
# A written file reads back

Writing a file changes what stands at one place of the tree, where no directory was. Every walk goes
through directories only, so a walk that led somewhere before leads there still, and the path that
was written leads to the new file. Making the directories above it comes first, and is over when the
file is written.

* `splitOn_slash`: the components of a path.
* `read_of_put`: a file that was written holds the bytes that were written.
* `readText_of_read`: bytes that are the code of a text read as that text.
-/

namespace DisplayEnv

/-! ## Texts and bytes -/

/-- The bytes of an array that are still to be listed stand behind those that were listed. -/
theorem toList_loop (bytes : ByteArray) (i : ℕ) (listed : List UInt8) :
    ByteArray.toList.loop bytes i listed = listed.reverse ++ bytes.data.toList.drop i := by
  fun_induction ByteArray.toList.loop bytes i listed with
  | case1 i listed inside ih =>
    have here : bytes.data.toList.drop i = bytes.get! i :: bytes.data.toList.drop (i + 1) := by
      have inside : i < bytes.data.size := inside
      rw [List.drop_eq_getElem_cons (by simpa using inside), Array.getElem_toList]
      exact congrArg (· :: _) (getElem!_pos bytes.data i inside).symm
    rw [ih, here, List.reverse_cons, List.append_assoc, List.singleton_append]
  | case2 i listed outside =>
    rw [List.drop_of_length_le (by simpa using outside), List.append_nil]

/-- The bytes of an array make the same array again. -/
theorem toArray_toList (bytes : ByteArray) : (⟨bytes.toList.toArray⟩ : ByteArray) = bytes := by
  unfold ByteArray.toList
  rw [toList_loop]
  rfl

/-- The code of a text is the code of nothing else. -/
theorem fromUTF8?_toUTF8 (s : String) : String.fromUTF8? s.toUTF8 = some s := by
  unfold String.fromUTF8?
  have valid : s.toUTF8.IsValidUTF8 := s.isValidUTF8
  rw [dif_pos valid]
  rfl

/-! ## The components of a path -/

open String in
/-- What is still to be split, when the pieces found so far, the piece begun with `m` and what was
passed over before it are known. -/
theorem splitOnAux_slash (l m r : List Char) (found : List String) :
    splitOnAux (ofList (l ++ m ++ r)) "/" ⟨utf8Len l⟩ ⟨utf8Len l + utf8Len m⟩ 0 found =
      found.reverse ++ (List.splitOnPPrepend (· == '/') r m.reverse).map ofList := by
  have slash : (0 : Pos.Raw).get "/" = '/' := by decide
  have width : (0 : Pos.Raw).next "/" = ⟨1⟩ := by decide
  have whole : Pos.Raw.atEnd "/" ⟨1⟩ = true := by decide
  induction r generalizing l m found with
  | nil =>
    rw [splitOnAux, if_pos (by simp [-ofList_append]), extract_of_valid]
    simp
  | cons c r ih =>
    have more : ¬ Pos.Raw.atEnd (ofList (l ++ m ++ c :: r)) ⟨utf8Len l + utf8Len m⟩ = true := by
      have := c.utf8Size_pos
      simp [-ofList_append, ← Nat.add_assoc]
      omega
    have here : Pos.Raw.get (ofList (l ++ m ++ c :: r)) ⟨utf8Len l + utf8Len m⟩ = c := by
      simpa [-ofList_append] using get_of_valid (l ++ m) (c :: r)
    have next : Pos.Raw.next (ofList (l ++ m ++ c :: r)) ⟨utf8Len l + utf8Len m⟩ =
        ⟨utf8Len l + utf8Len m + c.utf8Size⟩ := by
      simpa [-ofList_append] using next_of_valid (l ++ m) c r
    rw [splitOnAux, if_neg more, here, slash, next, width]
    by_cases hc : c = '/'
    · subst hc
      have rest := ih (l ++ m ++ ['/']) [] (ofList m :: found)
      have back : (⟨utf8Len l + utf8Len m + '/'.utf8Size⟩ : Pos.Raw).unoffsetBy ⟨1⟩ =
        ⟨utf8Len l + utf8Len m⟩ := rfl
      simp only [beq_self_eq_true, if_true, whole, back, extract_of_valid,
        List.splitOnPPrepend_cons_pos]
      simpa [-ofList_append, ← Nat.add_assoc] using rest
    · have rest := ih l (m ++ [c]) found
      have back : (⟨utf8Len l + utf8Len m⟩ : Pos.Raw).unoffsetBy 0 = ⟨utf8Len l + utf8Len m⟩ := rfl
      have other : (c == '/') = false := by simpa using hc
      rw [other, if_neg (by decide), back, next, List.splitOnPPrepend_cons_neg (by exact other)]
      simpa [-ofList_append, ← Nat.add_assoc] using rest

/-- A path is split at every slash. -/
theorem splitOn_slash (path : String) :
    path.splitOn "/" = (path.toList.splitOnP (· == '/')).map String.ofList := by
  have pieces := splitOnAux_slash [] [] path.toList []
  simpa [String.splitOn] using pieces

namespace Files

variable {files files' : Files} {path component : String} {place next key : List String}
  {e : Entry} {bytes : List UInt8}

/-! ## Where paths lead -/

theorem entry?_insert (hk : key ≠ []) (e : Entry) (place : List String) :
    Files.entry? (files.insert key e) place =
      if place = key then some e else files.entry? place := by
  unfold entry?
  by_cases root : place = []
  · simp [root, Ne.symm hk]
  · simp only [if_neg root, insert, Cache.lookup_cons_filter]

/-- A step from a place goes on when something is put where no directory is. -/
theorem step_insert (hk : key ≠ []) (free : files.entry? key ≠ some .directory)
    (h : files.step place component = .ok next) :
    (files.insert key e).step place component = .ok next := by
  by_cases there : place = key
  · -- the walk went on from there, so a directory was there
    unfold step at h
    split at h
    · cases h
    · cases h
    · rename_i found
      exact absurd (there ▸ found) free
  · unfold step at h ⊢
    rwa [entry?_insert hk, if_neg there]

theorem walk_insert (hk : key ≠ []) (free : files.entry? key ≠ some .directory)
    (components : List String) (h : components.foldlM files.step place = .ok next) :
    components.foldlM (files.insert key e).step place = .ok next := by
  induction components generalizing place with
  | nil => exact h
  | cons component rest ih =>
    rw [List.foldlM_cons] at h ⊢
    cases first : files.step place component with
    | error e => rw [first] at h; cases h
    | ok middle =>
      rw [first] at h
      rw [step_insert hk free first]
      exact ih h

theorem locate_insert (hk : key ≠ []) (free : files.entry? key ≠ some .directory)
    (h : files.locate path = .ok place) : (files.insert key e).locate path = .ok place := by
  unfold locate at h ⊢
  split_ifs at h ⊢
  exact walk_insert hk free _ h

/-! ## Written files -/

/-- A file is written where no directory is, so not at the root. -/
theorem write_eq_ok (h : files.write path bytes = .ok files') :
    ∃ key, key ≠ [] ∧ files.locate path = .ok key ∧
      files.entry? key ≠ some .directory ∧ files' = files.insert key (.file bytes) := by
  unfold write at h
  cases located : files.locate path with
  | error e => rw [located] at h; cases h
  | ok place =>
    rw [located] at h
    simp only [bind, Except.bind] at h
    split at h
    · cases h
    · rename_i free
      cases h
      refine ⟨place, ?_, rfl, free, rfl⟩
      rintro rfl
      exact free rfl

/-- **A file that was written holds the bytes that were written.** -/
theorem read_of_write (h : files.write path bytes = .ok files') : files'.read path = .ok bytes := by
  obtain ⟨key, hk, located, free, rfl⟩ := write_eq_ok h
  have found : Files.entry? (files.insert key (.file bytes)) key = some (.file bytes) := by
    rw [entry?_insert hk, if_pos rfl]
  simp only [read, stat, locate_insert hk free located, bind, Except.bind, found]
  rfl

/-- Making the directories above a file is over when the file is written. -/
theorem read_of_put (h : files.put path bytes = (.ok (), files')) :
    files'.read path = .ok bytes := by
  unfold put at h
  split at h
  · cases h
  · split at h
    · rename_i written
      cases h
      exact read_of_write written
    · cases h

/-! ## Texts -/

/-- Bytes that are the code of a text read as the text. -/
theorem readText_of_read {text : String} (h : files.read path = .ok text.toUTF8.toList) :
    files.readText path = .ok text := by
  unfold readText
  simp only [h, bind, Except.bind, toArray_toList, fromUTF8?_toUTF8]
  rfl

/-- A file that can be read is there. -/
theorem exists?_of_read (h : files.read path = .ok bytes) : files.exists? path = true := by
  unfold exists?
  cases there : files.stat path with
  | error e =>
    unfold read at h
    rw [there] at h
    cases h
  | ok entry => rfl

/-- What is not there cannot be read. -/
theorem readText_of_not_exists (h : files.exists? path = false) :
    ∃ e, files.readText path = .error e := by
  cases there : files.stat path with
  | error e => exact ⟨e, by simp only [readText, read, there, bind, Except.bind]⟩
  | ok entry =>
    simp [exists?, there, Except.toOption] at h

end Files

end DisplayEnv
