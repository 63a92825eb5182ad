import DisplayEnv.Picture
import Mathlib.Algebra.GroupWithZero.Nat

/-!
# Buffers of pixels

A buffer is a picture of a size when it has four bytes for each pixel. The number of bytes that the
size calls for is computed in 64 bits before it is compared with anything, and sizes of 32 bits a
side can call for more: from 2 ^ 62 pixels on there is no answer at all, whatever the buffer.

* `Picture.make_cases`: a buffer is taken as it is, refused, or its size cannot be counted.
* `Picture.Validates`: the check of a buffer is exact.
* `buffers_validated`: the sizes for which it is.
-/

namespace DisplayEnv

namespace Picture

/-- A buffer is a picture when it has four bytes a pixel and they can be counted in 64 bits. -/
theorem make_cases (width height : UInt32) (rgba : List UInt8) :
    (make width height rgba = .ok (.ok ⟨width, height, rgba⟩) ∧
        rgba.length = 4 * width.toNat * height.toNat ∧ rgba.length < 0x10000000000000000) ∨
      (∃ text, make width height rgba = .ok (.error (.resourceCreation text))) ∧
        rgba.length ≠ 4 * width.toNat * height.toNat ∧
        4 * width.toNat * height.toNat < 0x10000000000000000 ∨
      make width height rgba = .error (.overflow .mul) ∧
        0x10000000000000000 ≤ 4 * width.toNat * height.toNat := by
  have expected : width.toNat * height.toNat * 4 = 4 * width.toNat * height.toNat := by
    rw [Nat.mul_comm, Nat.mul_assoc]
  unfold make check byteCount fitWord
  rw [expected]
  by_cases fits : 4 * width.toNat * height.toNat < 0x10000000000000000
  · by_cases length : rgba.length = 4 * width.toNat * height.toNat
    · refine .inl ⟨?_, length, length ▸ fits⟩
      simp only [if_pos fits, if_pos length, bind, Except.bind, pure, Except.pure]
    · refine .inr (.inl ⟨?_, length, fits⟩)
      simp only [if_pos fits, if_neg length, bind, Except.bind, pure, Except.pure]
      exact ⟨_, rfl⟩
  · refine .inr (.inr ⟨?_, Nat.le_of_not_lt fits⟩)
    simp only [if_neg fits, bind, Except.bind]

/-- The check of a buffer is exact: one with four bytes a pixel is taken as it is, and every other
one is refused with an error. -/
structure Validates (width height : UInt32) (rgba : List UInt8) : Prop where
  accepted : make width height rgba = .ok (.ok ⟨width, height, rgba⟩) ↔
    rgba.length = 4 * width.toNat * height.toNat
  refused : rgba.length ≠ 4 * width.toNat * height.toNat →
    ∃ text, make width height rgba = .ok (.error (.resourceCreation text))

variable {width height : UInt32} {rgba : List UInt8}

/-- Every check that comes to an answer is exact. -/
theorem Validates.of_fits (fits : 4 * width.toNat * height.toNat < 0x10000000000000000) :
    Validates width height rgba := by
  obtain ⟨made, length, -⟩ | ⟨⟨text, made⟩, length, -⟩ | ⟨-, large⟩ := make_cases width height rgba
  · exact ⟨iff_of_true made length, fun other => absurd length other⟩
  · refine ⟨iff_of_false ?_ length, fun _ => ⟨text, made⟩⟩
    rw [made]
    exact nofun
  · exact absurd fits (Nat.not_lt.mpr large)

/-- A check that is cut off is not. -/
theorem not_validates (cut : make width height rgba = .error (.overflow .mul)) :
    ¬ Validates width height rgba := by
  intro exact_check
  by_cases length : rgba.length = 4 * width.toNat * height.toNat
  · have made := exact_check.accepted.mpr length
    cases made.symm.trans cut
  · obtain ⟨text, made⟩ := exact_check.refused length
    cases made.symm.trans cut

end Picture

/-- **Buffers are validated up to the size that can be counted.** The check of a buffer is exact if
and only if the picture has fewer than 2 ^ 62 pixels, and is cut off by an overflow otherwise. A
buffer of another length is never taken, and one that is taken is not changed. -/
theorem buffers_validated (width height : UInt32) (rgba : List UInt8) :
    (Picture.Validates width height rgba ↔ width.toNat * height.toNat < 2 ^ 62) ∧
      (2 ^ 62 ≤ width.toNat * height.toNat →
        Picture.make width height rgba = .error (.overflow .mul)) ∧
      ∀ p, Picture.make width height rgba = .ok (.ok p) →
        p = ⟨width, height, rgba⟩ ∧ rgba.length = 4 * width.toNat * height.toNat := by
  have counted : 4 * width.toNat * height.toNat < 0x10000000000000000 ↔
      width.toNat * height.toNat < 2 ^ 62 := by
    rw [Nat.mul_assoc]
    omega
  have cut (large : 2 ^ 62 ≤ width.toNat * height.toNat) :
      Picture.make width height rgba = .error (.overflow .mul) := by
    obtain ⟨-, length, fits⟩ | ⟨-, -, fits⟩ | ⟨made, -⟩ := Picture.make_cases width height rgba
    · exact absurd (counted.mp (length ▸ fits)) (Nat.not_lt.mpr large)
    · exact absurd (counted.mp fits) (Nat.not_lt.mpr large)
    · exact made
  refine ⟨⟨fun exact_check => ?_, fun small => .of_fits (counted.mpr small)⟩, cut, fun p taken => ?_⟩
  · refine Nat.lt_of_not_le fun large => ?_
    exact Picture.not_validates (cut large) exact_check
  · obtain ⟨made, length, -⟩ | ⟨⟨text, made⟩, -⟩ | ⟨made, -⟩ := Picture.make_cases width height rgba
    · rw [made] at taken
      cases taken
      exact ⟨rfl, length⟩
    all_goals
      rw [made] at taken
      cases taken

/-- Five bytes are refused as the greatest picture that can be counted, and eight are two pixels. -/
theorem buffers_validated_greatest :
    (∃ text, Picture.make 0xffffffff 0x40000000 [1, 2, 3, 4, 5] =
      .ok (.error (.resourceCreation text))) ∧
    Picture.make 2 1 [1, 2, 3, 4, 5, 6, 7, 8] = .ok (.ok ⟨2, 1, [1, 2, 3, 4, 5, 6, 7, 8]⟩) := by
  have greatest := (buffers_validated 0xffffffff 0x40000000 [1, 2, 3, 4, 5]).1.mpr (by decide)
  have pixels := (buffers_validated 2 1 [1, 2, 3, 4, 5, 6, 7, 8]).1.mpr (by decide)
  exact ⟨greatest.refused (by decide), pixels.accepted.mpr rfl⟩

/-- No bytes at all are not refused as the square of 2 ^ 31 pixels a side. -/
theorem size_overflows : ¬ Picture.Validates 0x80000000 0x80000000 [] ∧
    Picture.make 0x80000000 0x80000000 [] = .error (.overflow .mul) :=
  ⟨Picture.not_validates rfl, rfl⟩

end DisplayEnv
