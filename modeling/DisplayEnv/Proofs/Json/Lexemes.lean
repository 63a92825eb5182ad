import DisplayEnv.Json.Value
import DisplayEnv.Proofs.Json.Pieces

/-!
# The written pieces of a JSON text

What is written for a string is one of its texts, and what is written for a whole number is the text
of a number that is read as that number again, if it takes 64 bits, as a signed one below zero.

* `escaped_texts`: strings.
* `digits_text`, `numeralFrom_written`: whole numbers.
-/

namespace DisplayEnv

theorem Hex.value?_digit {d : ℕ} (h : d < 16) : value? (digit d) = some d := by
  revert d
  decide

namespace Json

variable {rest : List Char}

/-! ## Strings -/

/-- A number on four places. -/
theorem fourDigits_low {n : ℕ} (h : n < 0x10000) : FourDigits n (Hex.low 4 n) := by
  have digit (m : ℕ) : Hex.value? (Hex.digit (m % 16)) = some (m % 16) :=
    Hex.value?_digit (Nat.mod_lt m (by decide))
  have text := FourDigits.intro (digit (n / 16 / 16 / 16)) (digit (n / 16 / 16)) (digit (n / 16))
    (digit n)
  rwa [show ((n / 16 / 16 / 16 % 16 * 16 + n / 16 / 16 % 16) * 16 + n / 16 % 16) * 16 + n % 16 = n
    by omega] at text

/-- A character is written as itself, as a letter behind a backslash, or as its number. -/
theorem escaped_text (c : Char) : CharText c (escaped c) := by
  unfold escaped
  split_ifs with quote slash _ _ _ _ _ control
  iterate 7 exact .letter (by simp [letterEscapes, *])
  · have text : CharText (Char.ofNat c.toNat) _ :=
      .code (fourDigits_low (by omega)) (.inl (by omega))
    rwa [Char.ofNat_toNat] at text
  · exact .plain ⟨quote, slash, control⟩

/-- **What is written for a string** is one of its texts. -/
theorem escaped_texts (s : String) : StringText s (s.toList.flatMap escaped) := by
  unfold StringText
  generalize s.toList = cs
  induction cs with
  | nil => exact .nil
  | cons c cs ih => exact .cons (escaped_text c) ih

/-! ## Numbers -/

/-- A whole number that takes 64 bits, as a signed one when it is below zero. -/
def InRange (n : Int) : Prop := -0x8000000000000000 ≤ n ∧ n < 0x10000000000000000

/-- A number is written as its sign and the digits of its size. -/
theorem digits_eq (n : Int) :
    digits n = (if n < 0 then ['-'] else []) ++ Nat.toDigits 10 n.natAbs := by
  unfold digits
  split_ifs with below
  · rfl
  · rw [show n.toNat = n.natAbs by omega, List.nil_append]

theorem ofDigits_toDigits (n : ℕ) : ofDigits (Nat.toDigits 10 n) = n := by
  have read : Nat.ofDigitChars 10 (Nat.toDigits 10 n) 0 = n := Nat.ofDigitChars_ten_toDigits
  rw [Nat.ofDigitChars_eq_foldl] at read
  simpa [ofDigits, Nat.mul_comm] using read

/-- The digits of a number that is not zero do not start with a zero. -/
theorem head_toDigits {n : ℕ} (h : 0 < n) : (Nat.toDigits 10 n).head? ≠ some '0' := by
  induction n using Nat.strongRecOn with
  | ind n ih =>
    rw [Nat.toDigits_eq_if (by decide)]
    split_ifs with small
    · intro zero
      have value := Nat.toNat_digitChar_sub_48_of_lt_ten small
      rw [show n.digitChar = '0' by simpa using zero] at value
      exact absurd value.symm (Nat.ne_of_gt h)
    · rw [List.head?_append, Option.or_of_isSome (by simp [Nat.toDigits_ne_nil])]
      exact ih (n / 10) (by omega) (by omega)

theorem toDigits_whole (n : ℕ) : WholeText (Nat.toDigits 10 n) := by
  rcases Nat.eq_zero_or_pos n with rfl | positive
  · exact .inl (Nat.toDigits_zero 10)
  · exact .inr ⟨⟨Nat.toDigits_ne_nil, fun _ => Nat.isDigit_of_mem_toDigits (by decide) (by decide)⟩,
      head_toDigits positive⟩

/-- **What is written for a whole number** is the text of a number. -/
theorem digits_text (n : Int) : NumberText (digits n) := by
  have text : NumberText ((if n < 0 then ['-'] else []) ++ (Nat.toDigits 10 n.natAbs ++ ([] ++ [])))
    := .intro (by split_ifs <;> simp) (toDigits_whole n.natAbs) (.inl rfl) (.inl rfl)
  rwa [List.append_nil, List.append_nil, ← digits_eq] at text

/-- A written number has a sign and digits, and nothing more. -/
theorem numberParts_written (n : Int) (h : Ends rest) :
    numberParts true (digits n ++ rest) =
      .ok (⟨decide (n < 0), Nat.toDigits 10 n.natAbs, none, none⟩, rest) := by
  rw [digits_eq, List.append_assoc, numberParts_of_pieces true (by split_ifs <;> simp)
    (toDigits_whole n.natAbs) h.undigit (fractionDigits_none true h.pointless)
    (exponentDigits_none true h)]
  split_ifs with below <;> simp [below]

/-- A written number of 64 bits is a whole one. -/
theorem whole?_written {n : Int} (h : InRange n) :
    NumberParts.whole? ⟨decide (n < 0), Nat.toDigits 10 n.natAbs, none, none⟩ = some n := by
  obtain ⟨low, high⟩ := h
  unfold NumberParts.whole?
  simp only [Option.isSome_none, Bool.or_self, Bool.false_eq_true, if_false, ofDigits_toDigits,
    decide_eq_true_eq]
  split_ifs with below fits fits
  · exact congrArg some (by omega)
  · omega
  · exact congrArg some (by omega)
  · omega

/-- **A written whole number reads back.** -/
theorem numeralFrom_written {n : Int} (hn : InRange n) (h : Ends rest) :
    numeralFrom (digits n ++ rest) = .ok (.whole n, rest) := by
  simp only [numeralFrom, numberParts_written n h, bind, Except.bind, whole?_written hn]
  rfl

end Json

end DisplayEnv
