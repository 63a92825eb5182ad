import DisplayEnv.Rect
import Mathlib.Logic.Basic

/-!
# The points of a rectangle

A rectangle covers the points from its left edge up to its right one and from its top edge down to
its bottom one. `Rect.Covers` says which they are in unbounded integers; there are none unless both
extents are positive. The edges that are computed have 32 bits, and so asking for a point can be cut
off, but no answer that is given is wrong.

* `fitInt32_cases`: a number that fits 32 bits is answered, and any other one is an overflow.
* `Rect.fromBounds_cases`: a rectangle between two corners has these corners for its edges.
* `Rect.contains_cases`: for which points the answer is cut off, and what it is for all others.
* `rectangles_exact`: both together, for all edges and all points.
-/

namespace DisplayEnv

/-- The number fits 32 bits signed. -/
def FitsInt32 (n : Int) : Prop := -0x80000000 ≤ n ∧ n < 0x80000000

theorem fitInt32_cases (op : Arith) (n : Int) :
    (∃ z : Int32, fitInt32 op n = .ok z ∧ z.toInt = n ∧ FitsInt32 n) ∨
      fitInt32 op n = .error (.overflow op) ∧ ¬ FitsInt32 n := by
  by_cases fits : FitsInt32 n
  · exact .inl ⟨Int32.ofInt n, if_pos fits, Int32.toInt_ofInt_of_le fits.1 fits.2, fits⟩
  · exact .inr ⟨if_neg fits, fits⟩

/-- The word of a number is what it is fitted to. -/
theorem fitInt32_toInt (op : Arith) (z : Int32) : fitInt32 op z.toInt = .ok z := by
  obtain ⟨w, fitted, same, -⟩ | ⟨-, large⟩ := fitInt32_cases op z.toInt
  · rw [fitted, Int32.toInt_inj.mp same]
  · exact absurd ⟨z.le_toInt, z.toInt_lt⟩ large

theorem fitInt32_eq_ok {op : Arith} {n : Int} {z : Int32} (h : fitInt32 op n = .ok z) :
    z.toInt = n ∧ FitsInt32 n := by
  obtain ⟨w, fitted, same, fits⟩ | ⟨overflow, -⟩ := fitInt32_cases op n
  · obtain rfl : w = z := Except.ok.inj (fitted.symm.trans h)
    exact ⟨same, fits⟩
  · cases overflow.symm.trans h

namespace Rect

/-! ## A rectangle between two corners -/

/-- The rectangle between two corners starts at the first and ends at the second, or its extent does
not fit. -/
theorem fromBounds_cases (l t r b : Int32) :
    (∃ q, fromBounds l t r b = .ok q ∧ q.x = l ∧ q.y = t ∧ q.right = .ok r ∧ q.bottom = .ok b ∧
        FitsInt32 (r.toInt - l.toInt) ∧ FitsInt32 (b.toInt - t.toInt)) ∨
      fromBounds l t r b = .error (.overflow .sub) ∧
        (¬ FitsInt32 (r.toInt - l.toInt) ∨ ¬ FitsInt32 (b.toInt - t.toInt)) := by
  unfold fromBounds
  obtain ⟨w, width, exact_width, wide⟩ | ⟨width, wide⟩ := fitInt32_cases .sub (r.toInt - l.toInt)
  · obtain ⟨h, height, exact_height, high⟩ | ⟨height, high⟩ :=
      fitInt32_cases .sub (b.toInt - t.toInt)
    · have right : l.toInt + w.toInt = r.toInt := by omega
      have bottom : t.toInt + h.toInt = b.toInt := by omega
      refine .inl ⟨⟨l, t, w, h⟩, ?_, rfl, rfl, ?_, ?_, wide, high⟩
      · rw [width, height]
        rfl
      · rw [Rect.right, right, fitInt32_toInt]
      · rw [Rect.bottom, bottom, fitInt32_toInt]
    · rw [width, height]
      exact .inr ⟨rfl, .inr high⟩
  · rw [width]
    exact .inr ⟨rfl, .inl wide⟩

/-! ## The points of a rectangle -/

/-- Whether a number is in the span from `start` on: below it the answer is no, and otherwise the
number is compared with the end. -/
def spans (start extent p : Int32) : Except Fault Bool := do
  if p < start then return false
  let stop ← fitInt32 .add (start.toInt + extent.toInt)
  return p < stop

/-- A point is covered when it is in the columns, which is asked first, and in the rows. -/
theorem contains_eq (q : Rect) (px py : Int32) : q.contains px py = do
    if ← spans q.x q.width px then spans q.y q.height py else return false := by
  unfold contains spans right bottom
  by_cases left : px < q.x
  · simp only [if_pos left]
    rfl
  · simp only [if_neg left]
    cases fitInt32 .add (q.x.toInt + q.width.toInt) with
    | error c => rfl
    | ok right =>
      by_cases inside : px < right
      · have behind : ¬ right ≤ px := Int32.not_le.mpr inside
        simp [inside, behind, bind, Except.bind, pure, Except.pure]
      · have behind : right ≤ px := Int32.not_lt.mp inside
        simp [inside, behind, bind, Except.bind, pure, Except.pure]

/-- The number is in the span, whether or not the end of the span fits. -/
def InSpan (start extent : Int32) (p : Int) : Prop :=
  start.toInt ≤ p ∧ p < start.toInt + extent.toInt

/-- Asking for a number takes the end of the span, and that does not fit. -/
def CutSpan (start extent p : Int32) : Prop :=
  start ≤ p ∧ ¬ FitsInt32 (start.toInt + extent.toInt)

theorem spans_cases (start extent p : Int32) :
    CutSpan start extent p ∧ spans start extent p = .error (.overflow .add) ∨
      ¬ CutSpan start extent p ∧ ∃ inside, spans start extent p = .ok inside ∧
        (inside = true ↔ InSpan start extent p.toInt) := by
  unfold CutSpan InSpan spans
  rw [← Int32.le_iff_toInt_le]
  by_cases below : p < start
  · have below' : ¬ start ≤ p := Int32.not_le.mpr below
    rw [if_pos below]
    exact .inr ⟨fun h => below' h.1, false, rfl, iff_of_false nofun fun h => below' h.1⟩
  · have above : start ≤ p := Int32.not_lt.mp below
    rw [if_neg below]
    obtain ⟨stop, fitted, exact_stop, fits⟩ | ⟨fitted, large⟩ :=
      fitInt32_cases .add (start.toInt + extent.toInt)
    · rw [fitted, ← exact_stop, ← Int32.lt_iff_toInt_lt, exact_stop]
      exact .inr ⟨fun h => h.2 fits, _, rfl, by rw [decide_eq_true_iff, and_iff_right above]⟩
    · rw [fitted]
      exact .inl ⟨⟨above, large⟩, rfl⟩

/-- The rectangle covers the point: the point is in its columns and in its rows. -/
def Covers (q : Rect) (px py : Int) : Prop := InSpan q.x q.width px ∧ InSpan q.y q.height py

/-- Asking for the point takes an edge that does not fit: the right edge for a point that is not
left of the rectangle, or the bottom edge for one that is in its columns and not above it. -/
def CutOff (q : Rect) (px py : Int32) : Prop :=
  q.x ≤ px ∧ ¬ FitsInt32 (q.x.toInt + q.width.toInt) ∨
    q.x ≤ px ∧ FitsInt32 (q.x.toInt + q.width.toInt) ∧ px.toInt < q.x.toInt + q.width.toInt ∧
      q.y ≤ py ∧ ¬ FitsInt32 (q.y.toInt + q.height.toInt)

/-- **Asking for a point** is cut off by an edge that does not fit, or is answered exactly. -/
theorem contains_cases (q : Rect) (px py : Int32) :
    q.CutOff px py ∧ q.contains px py = .error (.overflow .add) ∨
      ¬ q.CutOff px py ∧ ∃ inside, q.contains px py = .ok inside ∧
        (inside = true ↔ q.Covers px.toInt py.toInt) := by
  unfold CutOff Covers
  rw [contains_eq]
  obtain ⟨⟨from_left, wide⟩, columns⟩ | ⟨uncut, inside, columns, exact_columns⟩ :=
    spans_cases q.x q.width px
  · rw [columns]
    exact .inl ⟨.inl ⟨from_left, wide⟩, rfl⟩
  rw [columns]
  cases inside with
  | false =>
    have outside : ¬ InSpan q.x q.width px.toInt :=
      fun h => nomatch exact_columns.mpr h
    refine .inr ⟨?_, false, rfl, iff_of_false nofun fun h => outside h.1⟩
    rintro (cut | ⟨from_left, -, below, -⟩)
    · exact uncut cut
    · exact outside ⟨Int32.le_iff_toInt_le.mp from_left, below⟩
  | true =>
    obtain ⟨from_left, below⟩ := exact_columns.mp rfl
    have from_left := Int32.le_iff_toInt_le.mpr from_left
    have wide := not_not.mp fun wide => uncut ⟨from_left, wide⟩
    obtain ⟨⟨from_top, high⟩, rows⟩ | ⟨uncut', inside, rows, exact_rows⟩ :=
      spans_cases q.y q.height py
    · exact .inl ⟨.inr ⟨from_left, wide, below, from_top, high⟩, rows⟩
    · refine .inr ⟨?_, inside, rows, ?_⟩
      · rintro (cut | ⟨-, -, -, from_top, high⟩)
        · exact uncut cut
        · exact uncut' ⟨from_top, high⟩
      · exact exact_rows.trans (and_iff_right (exact_columns.mp rfl)).symm

/-- When the edges fit, a point is covered when it is between them. -/
theorem contains_of_edges {q : Rect} {r b : Int32} (right : q.right = .ok r)
    (bottom : q.bottom = .ok b) (px py : Int32) :
    q.contains px py = .ok (decide (q.x ≤ px ∧ px < r ∧ q.y ≤ py ∧ py < b)) := by
  obtain ⟨exact_right, wide⟩ := fitInt32_eq_ok right
  obtain ⟨exact_bottom, high⟩ := fitInt32_eq_ok bottom
  obtain ⟨cut, -⟩ | ⟨-, inside, answer, exact_answer⟩ := q.contains_cases px py
  · rcases cut with ⟨-, narrow⟩ | ⟨-, -, -, -, low⟩
    · exact absurd wide narrow
    · exact absurd high low
  · rw [answer, Except.ok.injEq, Bool.eq_iff_iff, exact_answer, decide_eq_true_iff, Covers,
      InSpan, InSpan, ← exact_right, ← exact_bottom]
    simp only [Int32.le_iff_toInt_le, Int32.lt_iff_toInt_lt, and_assoc]

end Rect

/-- **Rectangles are exact.** A rectangle between two corners overflows exactly when its width or its
height does not fit 32 bits; any other one has these corners for its edges, none of its edges
overflows, and it covers the points between them. Asking any rectangle for a point overflows exactly
at the points that are cut off, and is otherwise answered as in unbounded integers. -/
theorem rectangles_exact :
    (∀ l t r b : Int32,
      (∀ c, Rect.fromBounds l t r b = .error c ↔
        (¬ FitsInt32 (r.toInt - l.toInt) ∨ ¬ FitsInt32 (b.toInt - t.toInt)) ∧
          c = .overflow .sub) ∧
      ∀ q, Rect.fromBounds l t r b = .ok q → q.right = .ok r ∧ q.bottom = .ok b ∧
        ∀ px py, q.contains px py = .ok (decide (l ≤ px ∧ px < r ∧ t ≤ py ∧ py < b))) ∧
    ∀ (q : Rect) (px py : Int32),
      (∀ c, q.contains px py = .error c ↔ q.CutOff px py ∧ c = .overflow .add) ∧
      ∀ inside, q.contains px py = .ok inside →
        (inside = true ↔ q.Covers px.toInt py.toInt) := by
  refine ⟨fun l t r b => ?_, fun q px py => ?_⟩
  · obtain ⟨q, made, rfl, rfl, right, bottom, wide, high⟩ | ⟨cut, large⟩ :=
      Rect.fromBounds_cases l t r b
    · rw [made]
      refine ⟨fun c => iff_of_false nofun fun h => h.1.elim (· wide) (· high), ?_⟩
      rintro _ ⟨rfl⟩
      exact ⟨right, bottom, Rect.contains_of_edges right bottom⟩
    · rw [cut]
      refine ⟨fun c => ?_, nofun⟩
      rw [Except.error.injEq, and_iff_right large]
      exact eq_comm
  · obtain ⟨cut, fault⟩ | ⟨uncut, inside, answer, exact_answer⟩ := q.contains_cases px py
    · rw [fault]
      refine ⟨fun c => ?_, nofun⟩
      rw [Except.error.injEq, and_iff_right cut]
      exact eq_comm
    · rw [answer]
      refine ⟨fun c => iff_of_false nofun fun h => uncut h.1, ?_⟩
      rintro _ ⟨rfl⟩
      exact exact_answer

/-- The widest rectangle that reaches the least column, and one whose right edge is just too far. A
point left of the second is answered, and one inside of it is not. -/
theorem rectangles_exact_widest :
    (∃ q, Rect.fromBounds (-0x80000000) 0 (-1) 1080 = .ok q ∧ q.right = .ok (-1) ∧
      q.contains (-2) 1079 = .ok true ∧ q.contains (-1) 0 = .ok false) ∧
    Rect.fromBounds (-0x80000000) 0 0 1080 = .error (.overflow .sub) ∧
    (∀ py, Rect.contains ⟨0x7ffffff8, 0, 8, -5⟩ 0x7ffffffe py = .error (.overflow .add)) ∧
    Rect.contains ⟨0x7ffffff8, 0, 8, -5⟩ 0x7ffffff7 0 = .ok false := by
  have narrow : ∀ py, Rect.CutOff ⟨0x7ffffff8, 0, 8, -5⟩ 0x7ffffffe py :=
    fun py => .inl ⟨by decide, fun fits => absurd fits.2 (by decide)⟩
  obtain ⟨corners, points⟩ := rectangles_exact
  have made : Rect.fromBounds (-0x80000000) 0 (-1) 1080 = .ok ⟨-0x80000000, 0, 0x7fffffff, 1080⟩ :=
    rfl
  obtain ⟨right, -, between⟩ := (corners _ _ _ _).2 _ made
  refine ⟨⟨_, made, right, between _ _, between _ _⟩, ?_, fun py => ?_, rfl⟩
  · exact ((corners _ _ _ _).1 _).mpr ⟨.inl fun fits => absurd fits.2 (by decide), rfl⟩
  · exact ((points _ _ _).1 _).mpr ⟨narrow py, rfl⟩

end DisplayEnv
