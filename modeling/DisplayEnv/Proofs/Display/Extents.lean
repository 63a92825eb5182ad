import DisplayEnv.Proofs.Display.Contents
import Mathlib.Algebra.Order.Floor.Semifield

/-!
# The extents of texts

A font is made in exactly the height that it is due, `Font.heightAt`, or not at all. The width of a
text in it is due to be its number of characters times 10 or 11 twentieths of the height, rounded
down and cut off at the greatest 32-bit number (`Font.extentAt`).

The products behind a width are computed in 64 bits before anything is cut off, so the extent that
is due is answered as long as they fit, and not for every text: the widest font leaves room for
390451572 characters, and the cut-off comes too late for the next one.

* `createFont_iff`: when a font is made, and what is made.
* `textExtent_apply`: when a width is answered, and which.
* `texts_measured`: both together, for every text, with the order of the widths.
-/

namespace DisplayEnv

variable {τ : Type}

/-! ## What a text is due -/

/-- The height in pixels that a font is due at some resolution. -/
def Font.heightAt (f : Font) (dpi : UInt32) : ℕ := ⌈(f.size.toNat * dpi.toNat : ℚ) / 72⌉₊

/-- Twenty times the width that so many characters are due. -/
def Font.twentiethsAt (f : Font) (dpi : UInt32) (characters : ℕ) : ℕ :=
  characters * f.heightAt dpi * if f.bold then 11 else 10

/-- The extent that so many characters are due. -/
def Font.extentAt (f : Font) (dpi : UInt32) (characters : ℕ) : ℕ × ℕ :=
  (min ⌊(f.twentiethsAt dpi characters : ℚ) / 20⌋₊ (2 ^ 31 - 1), f.heightAt dpi)

theorem Font.heightAt_eq (f : Font) (dpi : UInt32) :
    f.heightAt dpi = (f.size.toNat * dpi.toNat + 71) / 72 := by
  rw [heightAt, ceil_div_72, Nat.cast_mul]

theorem Font.extentAt_eq (f : Font) (dpi : UInt32) (characters : ℕ) :
    f.extentAt dpi characters =
      (min (f.twentiethsAt dpi characters / 20) (2 ^ 31 - 1), f.heightAt dpi) := by
  have floor := Nat.floor_div_eq_div (K := ℚ) (f.twentiethsAt dpi characters) 20
  rw [Nat.cast_ofNat] at floor
  rw [extentAt, floor]

theorem Font.heightAt_le {f g : Font} (smaller : f.size ≤ g.size) (dpi : UInt32) :
    f.heightAt dpi ≤ g.heightAt dpi := by
  rw [heightAt_eq, heightAt_eq]
  have := Nat.mul_le_mul_right dpi.toNat (UInt32.le_iff_toNat_le.mp smaller)
  omega

/-- More characters in a font that is larger and no lighter are no narrower. -/
theorem Font.twentiethsAt_le {f g : Font} {n m : ℕ} (smaller : f.size ≤ g.size)
    (lighter : f.bold = true → g.bold = true) (fewer : n ≤ m) (dpi : UInt32) :
    f.twentiethsAt dpi n ≤ g.twentiethsAt dpi m := by
  refine Nat.mul_le_mul (Nat.mul_le_mul fewer (heightAt_le smaller dpi)) ?_
  cases hf : f.bold with
  | true => rw [lighter hf]
  | false => cases g.bold <;> decide

/-- A font that can be made leaves room for this many characters. -/
theorem Font.twentiethsAt_lt {f : Font} {dpi : UInt32} {n : ℕ}
    (fits : f.heightAt dpi ≤ 2 ^ 31 - 1) (short : n ≤ 390451572) :
    f.twentiethsAt dpi n < 2 ^ 63 := by
  have weight : (if f.bold then 11 else 10) ≤ 11 := by cases f.bold <;> decide
  calc f.twentiethsAt dpi n ≤ 390451572 * (2 ^ 31 - 1) * 11 :=
        Nat.mul_le_mul (Nat.mul_le_mul short fits) weight
    _ < 2 ^ 63 := by decide

/-! ## What is computed -/

namespace Headless

variable {b b' : Headless τ} {f : Font} {h : NativeFont}

/-- A font is made on an open backend if it has a name, a size, and a height that fits. -/
theorem createFont_iff (opened : b.closed = false) :
    (∃ made, b.createFont f = .ok made) ↔
      f.name ≠ "" ∧ f.size ≠ 0 ∧ f.heightAt b.config.dpi ≤ 2 ^ 31 - 1 := by
  have room : b.allocate = .ok (b.nextId, _) := if_neg (by rw [opened]; exact nofun)
  unfold createFont pixels?
  rw [room, ← Font.heightAt_eq]
  by_cases named : f.name = "" ∨ f.size = 0
  · rw [if_pos named]
    refine iff_of_false nofun fun ⟨name, size, _⟩ => ?_
    exact named.elim name size
  · rw [if_neg named]
    obtain ⟨name, size⟩ := not_or.mp named
    simp only [name, size, ne_eq, not_false_eq_true, true_and]
    by_cases fits : f.heightAt b.config.dpi < 0x80000000
    · rw [if_pos fits]
      exact iff_of_true ⟨_, rfl⟩ (Nat.le_of_lt_succ fits)
    · rw [if_neg fits]
      exact iff_of_false nofun fun le => fits (Nat.lt_succ_of_le le)

/-- A width is answered when its product fits; a product that does not fit is a fault. -/
theorem textExtent_apply (h : NativeFont) (n : ℕ) :
    textExtent h n =
      if n * h.height * advance h < 2 ^ 63 then
        .ok (min (n * h.height * advance h / 20) (2 ^ 31 - 1), h.height)
      else .error (.overflow .mul) := by
  have least : n * h.height ≤ n * h.height * advance h := by
    refine Nat.le_mul_of_pos_right _ ?_
    unfold advance
    split <;> decide
  unfold textExtent
  by_cases fits : n * h.height * advance h < 2 ^ 63
  · have area : ¬ 0x8000000000000000 ≤ n * h.height := Nat.not_le.mpr (least.trans_lt fits)
    have scaled : ¬ 0x8000000000000000 ≤ n * h.height * advance h := Nat.not_le.mpr fits
    simp only [if_neg area, if_neg scaled, if_pos fits]
    rfl
  · by_cases area : 0x8000000000000000 ≤ n * h.height
    · simp only [if_pos area, if_neg fits]
      rfl
    · have scaled : 0x8000000000000000 ≤ n * h.height * advance h := Nat.not_lt.mp fits
      simp only [if_neg area, if_pos scaled, if_neg fits]
      rfl

/-- The extent in a font that was made is the one that is due. -/
theorem textExtent_made (made : b.createFont f = .ok (h, b')) (n : ℕ) :
    textExtent h n =
      if f.twentiethsAt b.config.dpi n < 2 ^ 63 then .ok (f.extentAt b.config.dpi n)
      else .error (.overflow .mul) := by
  obtain ⟨-, -, bold, -, height⟩ := createFont_data made
  have twentieths : n * h.height * advance h = f.twentiethsAt b.config.dpi n := by
    rw [advance, bold, height, ← Font.heightAt_eq, Font.twentiethsAt]
  rw [textExtent_apply, twentieths, height, ← Font.heightAt_eq, ← Font.extentAt_eq]

end Headless

/-! ## Every text -/

/-- **Measuring texts.** On an open backend a font is made if and only if it has a name and a size
and its height fits, rounded up exactly, and then it has that height. A text is answered the extent
that it is due if and only if twenty times its uncut width fits 64 bits signed, and otherwise the
measuring is a fault; every text of up to 390451572 characters is answered. Where texts are answered,
one that is no shorter, in a font that is no smaller and no lighter, is no narrower. -/
theorem texts_measured (b : Headless τ) (opened : b.closed = false) (f : Font) :
    ((∃ made, b.createFont f = .ok made) ↔
      f.name ≠ "" ∧ f.size ≠ 0 ∧ f.heightAt b.config.dpi ≤ 2 ^ 31 - 1) ∧
    ∀ h b', b.createFont f = .ok (h, b') →
      h.height = f.heightAt b.config.dpi ∧
      (∀ text : String, Headless.textExtent h text.length =
        if f.twentiethsAt b.config.dpi text.length < 2 ^ 63 then
          .ok (f.extentAt b.config.dpi text.length)
        else .error (.overflow .mul)) ∧
      (∀ text : String, text.length ≤ 390451572 →
        Headless.textExtent h text.length = .ok (f.extentAt b.config.dpi text.length)) ∧
      ∀ (c : Headless τ) (g : Font) (i : NativeFont) (c' : Headless τ),
        c.config.dpi = b.config.dpi → c.createFont g = .ok (i, c') →
        f.size ≤ g.size → (f.bold = true → g.bold = true) →
        ∀ text longer : String, text.length ≤ longer.length → ∀ extent wider,
          Headless.textExtent h text.length = .ok extent →
          Headless.textExtent i longer.length = .ok wider → extent.1 ≤ wider.1 := by
  have iff := Headless.createFont_iff (f := f) opened
  refine ⟨iff, fun h b' made => ?_⟩
  have fits := (iff.mp ⟨_, made⟩).2.2
  refine ⟨?_, fun text => Headless.textExtent_made made _, fun text short => ?_, ?_⟩
  · rw [(Headless.createFont_data made).2.2.2.2, Font.heightAt_eq]
  · rw [Headless.textExtent_made made, if_pos (Font.twentiethsAt_lt fits short)]
  · intro c g i c' dpi made' smaller lighter text longer fewer extent wider measured measured'
    rw [Headless.textExtent_made made] at measured
    rw [Headless.textExtent_made made', dpi] at measured'
    split at measured
    · split at measured'
      · cases measured
        cases measured'
        rw [Font.extentAt_eq, Font.extentAt_eq]
        have := Font.twentiethsAt_le smaller lighter fewer b.config.dpi
        exact min_le_min_right _ (Nat.div_le_div_right this)
      · cases measured'
    · cases measured

/-- Two characters in bold Arial of 12 points. -/
theorem texts_measured_arial :
    (Headless.new default : Headless Empty).closed = false ∧
      ∃ h b', (Headless.new default : Headless Empty).createFont ⟨"Arial", 12, true, false⟩ =
          .ok (h, b') ∧ h.height = 16 ∧ Headless.textExtent h "né".length = .ok (17, 16) := by
  have height : (⟨"Arial", 12, true, false⟩ : Font).heightAt 96 = 16 := Font.heightAt_eq _ _
  obtain ⟨iff, measured⟩ := texts_measured (Headless.new default : Headless Empty) rfl
    ⟨"Arial", 12, true, false⟩
  obtain ⟨⟨h, b'⟩, made⟩ := iff.mpr ⟨by decide, by decide, height.trans_le (by decide)⟩
  obtain ⟨tall, -, short, -⟩ := measured h b' made
  refine ⟨rfl, h, b', made, tall.trans height, (short "né" (by decide)).trans ?_⟩
  rw [Font.extentAt_eq, Font.twentiethsAt, Font.heightAt_eq]
  rfl

/-- The font of the greatest height is made, and 400 million characters in bold are a fault. -/
theorem extent_overflows :
    ∃ h b', (Headless.new default : Headless Empty).createFont ⟨"A", 1610612735, true, false⟩ =
        .ok (h, b') ∧ h.height = 2 ^ 31 - 1 ∧
      Headless.textExtent h (String.ofList (List.replicate 400000000 'x')).length =
        .error (.overflow .mul) := by
  refine ⟨⟨1, 2 ^ 31 - 1, "A", 1610612735, true, false⟩, _, rfl, rfl, ?_⟩
  rw [String.length_ofList, List.length_replicate]
  rfl

end DisplayEnv
