import Mathlib.Algebra.BigOperators.Group.List.Basic
import Mathlib.Algebra.GroupWithZero.Nat
import DisplayEnv.Cache.Stats

/-!
# Adding up statistics

Statistics add up field by field, unless a field leaves its word. Sums only grow: where a part of a
sum overflows, the whole of it does. So it is enough to look at the exact sum of all of them, and
neither their order nor the brackets can be told from the outcome.

* `CacheStats.add_eq_checked`: the sum of two, or an overflow.
* `CacheStats.sum_eq_checked`: the sum of many, added up from nothing.
* `Addition.result_eq_sum`: the same sum in any order and any brackets.
-/

namespace DisplayEnv

namespace CacheStats

/-- Two statistics, field by field. -/
def plus (s t : CacheStats) : CacheStats :=
  ⟨s.entries + t.entries, s.hits + t.hits, s.misses + t.misses⟩

/-- Every count fits a word. -/
def Fits (s : CacheStats) : Prop :=
  s.entries < UInt64.size ∧ s.hits < UInt64.size ∧ s.misses < UInt64.size

instance (s : CacheStats) : Decidable s.Fits := inferInstanceAs (Decidable (_ ∧ _ ∧ _))

/-- The statistics, or an overflow when one of the counts does not fit a word. -/
def checked (s : CacheStats) : Except Fault CacheStats :=
  if s.Fits then .ok s else .error (.overflow .add)

variable {s t u : CacheStats}

/-! ## Two of them -/

theorem zero_plus (s : CacheStats) : zero.plus s = s := by
  simp only [plus, zero, Nat.zero_add]

theorem plus_assoc (s t u : CacheStats) : (s.plus t).plus u = s.plus (t.plus u) := by
  simp only [plus, Nat.add_assoc]

theorem Fits.of_plus_left (h : (s.plus t).Fits) : s.Fits :=
  ⟨Nat.lt_of_le_of_lt (Nat.le_add_right _ _) h.1, Nat.lt_of_le_of_lt (Nat.le_add_right _ _) h.2.1,
    Nat.lt_of_le_of_lt (Nat.le_add_right _ _) h.2.2⟩

theorem Fits.of_plus_right (h : (s.plus t).Fits) : t.Fits :=
  ⟨Nat.lt_of_le_of_lt (Nat.le_add_left _ _) h.1, Nat.lt_of_le_of_lt (Nat.le_add_left _ _) h.2.1,
    Nat.lt_of_le_of_lt (Nat.le_add_left _ _) h.2.2⟩

theorem checked_of_fits (fits : s.Fits) : s.checked = .ok s := if_pos fits

theorem checked_of_not_fits (large : ¬ s.Fits) : s.checked = .error (.overflow .add) := if_neg large

theorem checked_eq_ok : s.checked = .ok u ↔ s.Fits ∧ u = s := by
  by_cases fits : s.Fits
  · rw [checked_of_fits fits, Except.ok.injEq, eq_comm]
    exact (and_iff_right fits).symm
  · rw [checked_of_not_fits fits]
    exact ⟨nofun, fun h => absurd h.1 fits⟩

theorem add_eq_checked (s t : CacheStats) : s.add t = (s.plus t).checked := by
  unfold add fitWord
  by_cases entries : s.entries + t.entries < 0x10000000000000000
  · by_cases hits : s.hits + t.hits < 0x10000000000000000
    · by_cases misses : s.misses + t.misses < 0x10000000000000000
      · rw [if_pos entries, if_pos hits, if_pos misses, checked_of_fits ⟨entries, hits, misses⟩]
        rfl
      · rw [if_pos entries, if_pos hits, if_neg misses,
          checked_of_not_fits fun fits => misses fits.2.2]
        rfl
    · rw [if_pos entries, if_neg hits, checked_of_not_fits fun fits => hits fits.2.1]
      rfl
  · rw [if_neg entries, checked_of_not_fits fun fits => entries fits.1]
    rfl

/-- What is checked once more when something is added to it need not have been checked. -/
theorem checked_bind_add (s t : CacheStats) :
    (s.checked >>= fun a => a.add t) = (s.plus t).checked := by
  by_cases fits : s.Fits
  · rw [checked_of_fits fits]
    exact add_eq_checked s t
  · rw [checked_of_not_fits fits, checked_of_not_fits fun all => fits all.of_plus_left]
    rfl

theorem checked_add_checked (s t : CacheStats) :
    (do (← s.checked).add (← t.checked)) = (s.plus t).checked := by
  by_cases fits : t.Fits
  · rw [checked_of_fits fits]
    exact checked_bind_add s t
  · rw [checked_of_not_fits fits, checked_of_not_fits fun all => fits all.of_plus_right]
    by_cases left : s.Fits
    · rw [checked_of_fits left]
      rfl
    · rw [checked_of_not_fits left]
      rfl

/-! ## Many of them -/

/-- The sums of the counts of several statistics, without a word's bound. -/
def exactSum (l : List CacheStats) : CacheStats :=
  ⟨(l.map (·.entries)).sum, (l.map (·.hits)).sum, (l.map (·.misses)).sum⟩

theorem exactSum_cons (s : CacheStats) (l : List CacheStats) :
    exactSum (s :: l) = s.plus (exactSum l) := by
  simp only [exactSum, plus, List.map_cons, List.sum_cons]

theorem exactSum_append (l l' : List CacheStats) :
    exactSum (l ++ l') = (exactSum l).plus (exactSum l') := by
  simp only [exactSum, plus, List.map_append, List.sum_append]

theorem exactSum_perm {l l' : List CacheStats} (same : l.Perm l') : exactSum l = exactSum l' := by
  simp only [exactSum, (same.map _).sum_eq]

/-- Adding on to some statistics one by one is checked once. -/
theorem checked_bind_foldlM (s : CacheStats) (l : List CacheStats) :
    (s.checked >>= fun a => l.foldlM add a) = (s.plus (exactSum l)).checked := by
  induction l generalizing s with
  | nil => exact bind_pure s.checked
  | cons t l ih =>
    calc (s.checked >>= fun a => (t :: l).foldlM add a)
        = (s.checked >>= fun a => a.add t) >>= fun a => l.foldlM add a := by
          simp only [List.foldlM_cons, bind_assoc]
      _ = ((s.plus t).plus (exactSum l)).checked := by rw [checked_bind_add, ih]
      _ = (s.plus (exactSum (t :: l))).checked := by rw [plus_assoc, exactSum_cons]

/-- **A sum is exact**, or overflows. -/
theorem sum_eq_checked (l : List CacheStats) : sum l = (exactSum l).checked := by
  have run := checked_bind_foldlM zero l
  rw [zero_plus] at run
  exact run

theorem sum_perm {l l' : List CacheStats} (same : l.Perm l') : sum l = sum l' := by
  rw [sum_eq_checked, sum_eq_checked, exactSum_perm same]

end CacheStats

/-! ## Any order and any brackets -/

/-- A way of adding statistics up two at a time. Empty statistics may be added anywhere. -/
inductive Addition where
  | nothing
  | one (s : CacheStats)
  | both (a b : Addition)

namespace Addition

/-- What is added up, from left to right. -/
def terms : Addition → List CacheStats
  | nothing => []
  | one s => [s]
  | both a b => a.terms ++ b.terms

/-- What adding up in this way comes to. -/
def result : Addition → Except Fault CacheStats
  | nothing => .ok .zero
  | one s => .ok s
  | both a b => do (← a.result).add (← b.result)

theorem result_eq_checked (a : Addition) (words : ∀ s ∈ a.terms, s.Fits) :
    a.result = (CacheStats.exactSum a.terms).checked := by
  induction a with
  | nothing => rfl
  | one s =>
    have fits : s.Fits := words s List.mem_cons_self
    exact (CacheStats.checked_eq_ok.mpr ⟨fits, rfl⟩).symm
  | both a b iha ihb =>
    obtain ⟨left, right⟩ := List.forall_mem_append.mp words
    rw [result, iha left, ihb right, CacheStats.checked_add_checked, terms,
      CacheStats.exactSum_append]

/-- **Neither the order nor the brackets matter.** -/
theorem result_eq_sum (a : Addition) {l : List CacheStats} (same : a.terms.Perm l)
    (words : ∀ s ∈ l, s.Fits) : a.result = CacheStats.sum l := by
  rw [a.result_eq_checked fun s hs => words s (same.subset hs), CacheStats.sum_eq_checked,
    CacheStats.exactSum_perm same]

end Addition

/-! ## The three caches of a display -/

theorem DisplayStats.total_eq_checked (s : DisplayStats) :
    s.total = ((s.colors.plus s.fonts).plus s.images).checked := by
  unfold total
  rw [CacheStats.add_eq_checked]
  exact CacheStats.checked_bind_add _ _

theorem DisplayStats.total_eq_ok {s : DisplayStats} {u : CacheStats} :
    s.total = .ok u ↔ ((s.colors.plus s.fonts).plus s.images).Fits ∧
      u = (s.colors.plus s.fonts).plus s.images := by
  rw [total_eq_checked, CacheStats.checked_eq_ok]

/-- The total is what adding up the three caches from nothing comes to. -/
theorem DisplayStats.total_eq_sum (s : DisplayStats) :
    s.total = CacheStats.sum [s.colors, s.fonts, s.images] := by
  have exact_sum : CacheStats.exactSum [s.colors, s.fonts, s.images] =
      (s.colors.plus s.fonts).plus s.images := by
    rw [CacheStats.exactSum_cons, CacheStats.exactSum_cons, CacheStats.exactSum_cons,
      CacheStats.plus_assoc]
    rfl
  rw [total_eq_checked, CacheStats.sum_eq_checked, exact_sum]

end DisplayEnv
