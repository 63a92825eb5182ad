import DisplayEnv.Proofs.Json.Grammar
import Mathlib.Tactic.SplitIfs

/-!
# Words, numbers and strings in any of their texts

The strict reading of a string gives the string that its text is one of, and the lenient readings
get behind any number and anything between quotes, whether or not it stands for something. Each
reading takes one step for each rule of the grammar.

* `stringFrom_text`: strings.
* `pastString_text`, `pastNumber_text`: what nobody asked for.
-/

namespace DisplayEnv

theorem Hex.utf8Size_of_value? {c : Char} {d : ℕ} (h : value? c = some d) : c.utf8Size = 1 := by
  have ascii : c.val ≤ 0x7f := by
    unfold value? at h
    split_ifs at h with decimal lower upper
    · exact UInt32.le_trans decimal.2 (by decide)
    · exact UInt32.le_trans lower.2 (by decide)
    · exact UInt32.le_trans upper.2 (by decide)
  unfold Char.utf8Size
  exact if_pos ascii

namespace Json

variable {n : ℕ} {c : Char} {cs a mid rest : List Char}

/-! ## Escapes -/

theorem fourHex_text (h : FourDigits n a) : fourHex (a ++ rest) = .ok (n, rest) := by
  obtain ⟨ha, hb, hc, hd⟩ := h
  have size := Hex.utf8Size_of_value? ha
  have size' := Hex.utf8Size_of_value? hb
  have size'' := Hex.utf8Size_of_value? hc
  have size''' := Hex.utf8Size_of_value? hd
  unfold fourHex
  rw [if_neg (by simp [byteLength, size, size', size'', size'''])]
  simp only [List.cons_append, List.nil_append, ha, hb, hc, hd]

theorem unicodeEscape_code (h : FourDigits n a) (single : n < 0xd800 ∨ 0xdfff < n) :
    unicodeEscape (a ++ rest) = .ok (Char.ofNat n, rest) := by
  unfold unicodeEscape
  rw [fourHex_text h]
  show (if _ then _ else if _ then _ else _) = _
  rw [if_neg (by omega), if_pos (by omega)]
  rfl

theorem unicodeEscape_pair {m : ℕ} {b : List Char} (high : FourDigits m a) (low : FourDigits n b)
    (hm : 0xd800 ≤ m ∧ m ≤ 0xdbff) (hn : 0xdc00 ≤ n ∧ n ≤ 0xdfff) :
    unicodeEscape (a ++ '\\' :: 'u' :: (b ++ rest)) =
      .ok (Char.ofNat (0x10000 + (m - 0xd800) * 0x400 + (n - 0xdc00)), rest) := by
  unfold unicodeEscape
  rw [fourHex_text high]
  show (if _ then _ else if _ then _ else fourHex (b ++ rest) >>= _) = _
  rw [if_neg (by omega), if_neg (by omega), fourHex_text low]
  show (if _ then _ else _) = _
  rw [if_neg (by omega)]
  rfl

/-- A letter behind a backslash is no number, and stands for its character. -/
theorem escapeLetter?_of_mem {e : Char} (h : (e, c) ∈ letterEscapes) :
    e ≠ 'u' ∧ escapeLetter? e = some c := by
  have all : ∀ p ∈ letterEscapes, p.1 ≠ 'u' ∧ escapeLetter? p.1 = some p.2 := by decide
  exact all (e, c) h

/-! ## Strings -/

/-- One step of the strict reading takes the text of one character. -/
theorem stringChars_text (h : CharText c a) :
    stringChars (n + 1) (a ++ cs) = (stringChars n cs).map fun p => (c :: p.1, p.2) := by
  cases h with
  | plain h =>
    obtain ⟨quote, slash, control⟩ := h
    show (if c = '"' then _ else if c = '\\' then _ else if c.toNat < 32 then _ else _) = _
    rw [if_neg quote, if_neg slash, if_neg control]
    rfl
  | letter h =>
    obtain ⟨hu, letter⟩ := escapeLetter?_of_mem h
    simp only [List.cons_append, List.nil_append, stringChars, if_pos, if_neg hu, letter,
      Char.reduceEq, if_false]
    rfl
  | code h single =>
    show unicodeEscape (_ ++ cs) >>= _ = _
    rw [unicodeEscape_code h single]
    rfl
  | @pair m n a b high low hm hn =>
    show unicodeEscape (a ++ '\\' :: 'u' :: b ++ cs) >>= _ = _
    rw [List.append_assoc, List.cons_append, List.cons_append, unicodeEscape_pair high low hm hn]
    rfl

theorem CharsText.length_le (h : CharsText cs a) : cs.length ≤ a.length := by
  induction h with
  | nil => exact Nat.le_refl _
  | @cons c cs a b first _ ih =>
    have : 0 < a.length := by cases first <;> simp
    simp only [List.length_cons, List.length_append]
    omega

theorem stringChars_texts (h : CharsText cs a) (bound : cs.length < n) :
    stringChars n (a ++ '"' :: rest) = .ok (cs, rest) := by
  induction h generalizing n with
  | nil =>
    obtain ⟨n, rfl⟩ := Nat.exists_eq_add_of_lt bound
    rfl
  | cons first _ ih =>
    obtain ⟨n, rfl⟩ := Nat.exists_eq_add_of_lt bound
    rw [List.append_assoc, stringChars_text first, ih (by simp; omega)]
    rfl

/-- **A string is read from any of its texts.** -/
theorem stringFrom_text {s : String} (h : StringText s a) :
    stringFrom (a ++ '"' :: rest) = .ok (s, rest) := by
  have bound := h.length_le
  unfold stringFrom
  rw [stringChars_texts h (by simp only [List.length_append]; omega)]
  show Except.ok (String.ofList s.toList, rest) = _
  rw [String.ofList_toList]

theorem pastChars_text (h : LooseText a) (bound : a.length < n) :
    pastChars n (a ++ '"' :: rest) = .ok rest := by
  induction h generalizing n with
  | nil =>
    obtain ⟨n, rfl⟩ := Nat.exists_eq_add_of_lt bound
    rfl
  | @plain c a h _ ih =>
    obtain ⟨quote, slash, control⟩ := h
    obtain ⟨n, rfl⟩ := Nat.exists_eq_add_of_lt bound
    show (if c = '"' then _ else if c = '\\' then _ else if c.toNat < 32 then _ else _) = _
    rw [if_neg quote, if_neg slash, if_neg control]
    exact ih (by simp; omega)
  | @letter e c a h _ ih =>
    obtain ⟨hu, letter⟩ := escapeLetter?_of_mem h
    obtain ⟨n, rfl⟩ := Nat.exists_eq_add_of_lt bound
    simp only [List.cons_append, pastChars, if_pos, if_neg hu, letter, Char.reduceEq, if_false,
      Option.isSome_some]
    exact ih (by simp; omega)
  | @code m d a h _ ih =>
    obtain ⟨n, rfl⟩ := Nat.exists_eq_add_of_lt bound
    show fourHex (d ++ a ++ '"' :: rest) >>= _ = _
    rw [List.append_assoc, fourHex_text h]
    exact ih (by simp; omega)

/-- **Anything between quotes is passed over.** -/
theorem pastString_text (h : LooseText a) (rest : List Char) :
    pastString (a ++ '"' :: rest) = .ok rest :=
  pastChars_text h (by simp only [List.length_append]; omega)

/-! ## Numbers -/

/-- No digit stands in front of the text. -/
def Undigit (cs : List Char) : Prop := ∀ c ∈ cs.head?, isDigit c = false

theorem Ends.undigit (h : Ends rest) : Undigit rest := by
  cases rest with
  | nil => nofun
  | cons c rest =>
    rintro _ ⟨⟩
    exact h.1

theorem Ends.pointless (h : Ends rest) : rest.head? ≠ some '.' := by
  cases rest with
  | nil => nofun
  | cons c rest => simpa using h.2.1

theorem takeWhile_digits {ds : List Char} (h : ∀ d ∈ ds, isDigit d = true) (stop : Undigit rest) :
    (ds ++ rest).takeWhile isDigit = ds := by
  rw [List.takeWhile_append_of_pos h]
  cases rest with
  | nil => simp
  | cons c rest => simp [stop c rfl]

theorem dropWhile_digits {ds : List Char} (h : ∀ d ∈ ds, isDigit d = true) (stop : Undigit rest) :
    (ds ++ rest).dropWhile isDigit = rest := by
  rw [List.dropWhile_append_of_pos h]
  cases rest with
  | nil => simp
  | cons c rest => simp [stop c rfl]

theorem wholeDigits_text (strict : Bool) (h : WholeText a) (stop : Undigit rest) :
    wholeDigits strict (a ++ rest) = .ok (a, rest) := by
  rcases h with rfl | ⟨⟨some_digit, digits⟩, zero⟩
  · cases rest with
    | nil => rfl
    | cons c rest => simp [wholeDigits, stop c rfl]
  · have taken := takeWhile_digits digits stop
    have dropped := dropWhile_digits digits stop
    obtain ⟨c, cs, rfl⟩ := List.exists_cons_of_ne_nil some_digit
    have zero : c ≠ '0' := by simpa using zero
    rw [List.cons_append] at taken dropped ⊢
    simp only [wholeDigits, if_neg zero, if_pos (digits c List.mem_cons_self), taken, dropped]

/-- No fraction is read where no point stands. -/
theorem fractionDigits_none (strict : Bool) (point : rest.head? ≠ some '.') :
    fractionDigits strict rest = .ok (none, rest) := by
  unfold fractionDigits
  split
  · exact absurd rfl point
  · rfl

/-- The fraction is over where neither a digit nor a point stands. -/
theorem fractionDigits_text (strict : Bool) (h : FractionText a) (stop : Undigit rest)
    (point : rest.head? ≠ some '.') :
    ∃ digits, fractionDigits strict (a ++ rest) = .ok (digits, rest) := by
  rcases h with rfl | ⟨ds, ⟨some_digit, digits⟩, rfl⟩
  · exact ⟨none, fractionDigits_none strict point⟩
  · refine ⟨some ds, ?_⟩
    simp only [List.cons_append, fractionDigits, takeWhile_digits digits stop,
      dropWhile_digits digits stop, if_neg some_digit]

theorem exponentDigits_none (strict : Bool) (ends : Ends rest) :
    exponentDigits strict rest = .ok (none, rest) := by
  unfold exponentDigits
  split
  · rfl
  · rw [if_neg (not_or_intro ends.2.2.1 ends.2.2.2)]

theorem exponentDigits_text (strict : Bool) (h : ExponentText a) (ends : Ends rest) :
    ∃ exponent, exponentDigits strict (a ++ rest) = .ok (exponent, rest) := by
  rcases h with rfl | ⟨e, sign, ds, mark, hs, ⟨some_digit, digits⟩, rfl⟩
  · exact ⟨none, exponentDigits_none strict ends⟩
  · have taken := takeWhile_digits digits ends.undigit
    have dropped := dropWhile_digits digits ends.undigit
    -- behind the sign, if there is one, the digits are left
    have unsigned :
        (if (sign ++ ds ++ rest).head? = some '+' ∨ (sign ++ ds ++ rest).head? = some '-'
        then (sign ++ ds ++ rest).drop 1 else sign ++ ds ++ rest) = ds ++ rest := by
      rcases hs with rfl | rfl | rfl
      · obtain ⟨c, cs, rfl⟩ := List.exists_cons_of_ne_nil some_digit
        have digit := digits c List.mem_cons_self
        have plus : c ≠ '+' := ne_of_isDigit digit rfl
        have minus : c ≠ '-' := ne_of_isDigit digit rfl
        simp [plus, minus]
      · rfl
      · rfl
    refine ⟨some (decide ((sign ++ ds ++ rest).head? = some '-'), ds), ?_⟩
    simp only [List.cons_append, exponentDigits, if_pos mark, unsigned, taken, dropped,
      if_neg some_digit]

/-- What stands behind the whole part and the fraction is no digit and no point. -/
theorem ExponentText.stops (h : ExponentText a) (ends : Ends rest) :
    Undigit (a ++ rest) ∧ (a ++ rest).head? ≠ some '.' := by
  rcases h with rfl | ⟨e, sign, ds, rfl | rfl, -, -, rfl⟩
  · exact ⟨ends.undigit, ends.pointless⟩
  · exact ⟨by rintro _ ⟨⟩; rfl, by simp⟩
  · exact ⟨by rintro _ ⟨⟩; rfl, by simp⟩

theorem FractionText.undigit (h : FractionText a) (stop : Undigit rest) : Undigit (a ++ rest) := by
  rcases h with rfl | ⟨ds, -, rfl⟩
  · exact stop
  · rintro _ ⟨⟩
    rfl

/-- A number is read as its sign, its digits, and what is read as its fraction and exponent. -/
theorem numberParts_of_pieces {sign whole : List Char} {fraction : Option (List Char)}
    {exponent : Option (Bool × List Char)} (strict : Bool) (hs : sign = [] ∨ sign = ['-'])
    (hw : WholeText whole) (stop : Undigit cs)
    (fraction_read : fractionDigits strict cs = .ok (fraction, mid))
    (exponent_read : exponentDigits strict mid = .ok (exponent, rest)) :
    numberParts strict (sign ++ (whole ++ cs)) =
      .ok (⟨decide (sign = ['-']), whole, fraction, exponent⟩, rest) := by
  have whole_read := wholeDigits_text strict hw stop
  have signed : (sign ++ (whole ++ cs)).head? = some '-' ↔ sign = ['-'] := by
    rcases hs with rfl | rfl
    · obtain ⟨c, ds, rfl, digit⟩ := hw.starts
      have minus : c ≠ '-' := ne_of_isDigit digit rfl
      simp [minus]
    · simp
  have unsigned : (if sign = ['-'] then (sign ++ (whole ++ cs)).drop 1
      else sign ++ (whole ++ cs)) = whole ++ cs := by
    rcases hs with rfl | rfl <;> rfl
  unfold numberParts
  simp only [signed, unsigned, whole_read, fraction_read, exponent_read, bind, Except.bind]
  rfl

/-- **Any number is passed over.** -/
theorem pastNumber_text (h : NumberText a) (ends : Ends rest) :
    pastNumber (a ++ rest) = .ok rest := by
  obtain ⟨hs, hw, hf, he⟩ := h
  obtain ⟨stop, point⟩ := he.stops ends
  obtain ⟨fraction, fraction_read⟩ := fractionDigits_text false hf stop point
  obtain ⟨exponent, exponent_read⟩ := exponentDigits_text false he ends
  unfold pastNumber
  simp only [List.append_assoc]
  rw [numberParts_of_pieces false hs hw (hf.undigit stop) fraction_read exponent_read]
  rfl

end Json

end DisplayEnv
