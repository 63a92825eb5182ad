import DisplayEnv.Cache
import Mathlib.Logic.Basic

/-!
# Caches with one handle for each descriptor

A cache is `Keyed` when no descriptor is entered twice. A cache without entries is, and every
operation keeps it; `release` then takes exactly one handle out (`handles_erase`).
-/

namespace DisplayEnv.Cache

variable {K H : Type}

/-! ## Lists of pairs -/

section

variable {H' : Type} (g : H → H')

/-- What is found under a key when the values are changed. -/
theorem lookup_map_value [BEq K] (l : List (K × H)) (k : K) :
    (l.map (Prod.map id g)).lookup k = (l.lookup k).map g := by
  induction l with
  | nil => rfl
  | cons p l ih =>
    obtain ⟨a, h⟩ := p
    simp only [List.map_cons, Prod.map_apply, id, List.lookup_cons, ih]
    cases k == a <;> rfl

theorem filter_map_value [DecidableEq K] (l : List (K × H)) (k : K) :
    (l.map (Prod.map id g)).filter (·.1 ≠ k) = (l.filter (·.1 ≠ k)).map (Prod.map id g) := by
  rw [List.filter_map]
  rfl

end

section

variable [BEq K] [LawfulBEq K] [DecidableEq K]

theorem lookup_filter_ne (l : List (K × H)) (k j : K) :
    (l.filter (·.1 ≠ k)).lookup j = if j = k then none else l.lookup j := by
  -- a cache compares descriptors by their decidable equality
  obtain rfl : ‹BEq K› = instBEqOfDecidableEq := lawful_beq_subsingleton _ _
  exact find?_erase ⟨l, 0, 0⟩ k j

/-- A pair in front takes the place of those with its key. -/
theorem lookup_cons_filter (l : List (K × H)) (k j : K) (h : H) :
    ((k, h) :: l.filter (·.1 ≠ k)).lookup j = if j = k then some h else l.lookup j := by
  by_cases e : j = k
  · simp [e]
  · have apart : (j == k) = false := by simpa using e
    rw [List.lookup_cons, apart, lookup_filter_ne, if_neg e, if_neg e]

end

/-! ## Caches -/

/-- No descriptor is entered twice. -/
def Keyed (c : Cache K H) : Prop := (c.entries.map (·.1)).Nodup

theorem keyed_empty : (empty : Cache K H).Keyed := List.nodup_nil

theorem keyed_clear (c : Cache K H) : c.clear.Keyed := List.nodup_nil

variable [DecidableEq K] {c : Cache K H} {k : K} {h : H}

theorem find?_eq_none_iff : c.find? k = none ↔ k ∉ c.entries.map (·.1) := by
  rw [find?, List.lookup_eq_none_iff, List.mem_map]
  constructor
  · rintro h ⟨p, hp, rfl⟩
    exact absurd (h p hp) (by simp)
  · intro h p hp
    simp only [bne_iff_ne, ne_eq]
    rintro rfl
    exact h ⟨p, hp, rfl⟩

theorem Keyed.insert (hc : c.Keyed) (hk : c.find? k = none) (h : H) : (c.insert k h).Keyed :=
  List.nodup_cons.mpr ⟨find?_eq_none_iff.mp hk, hc⟩

theorem Keyed.erase (hc : c.Keyed) (k : K) : (c.erase k).Keyed :=
  hc.sublist (List.filter_sublist.map _)

/-- Entries without a descriptor are all there is when it is not entered. -/
theorem filter_key_eq_self {l : List (K × H)} (h : k ∉ l.map (·.1)) :
    l.filter (·.1 ≠ k) = l := by
  refine List.filter_eq_self.mpr fun p hp => ?_
  rw [decide_eq_true_iff]
  rintro rfl
  exact h (List.mem_map_of_mem hp)

/-- Every entry is found under its descriptor. -/
theorem mem_entries_iff (hc : c.Keyed) : (k, h) ∈ c.entries ↔ c.find? k = some h := by
  obtain ⟨entries, hits, misses⟩ := c
  unfold Keyed find? at *
  simp only at *
  induction entries with
  | nil => simp
  | cons p l ih =>
    obtain ⟨a, b⟩ := p
    obtain ⟨ha, hl⟩ := List.nodup_cons.mp hc
    by_cases e : k = a
    · subst e
      have out : (k, h) ∉ l := fun hm => ha (List.mem_map_of_mem (f := (·.1)) hm)
      simp [out, eq_comm]
    · have apart : (k == a) = false := by simpa using e
      simp [List.lookup_cons, apart, e, ih hl]

/-- Erasing a descriptor takes its one handle out. -/
theorem handles_erase (hc : c.Keyed) (hk : c.find? k = some h) :
    c.handles.Perm (h :: (c.erase k).handles) := by
  obtain ⟨entries, hits, misses⟩ := c
  unfold Keyed find? handles Cache.erase at *
  simp only at *
  induction entries with
  | nil => simp at hk
  | cons p l ih =>
    obtain ⟨a, b⟩ := p
    obtain ⟨ha, hl⟩ := List.nodup_cons.mp hc
    by_cases e : k = a
    · subst e
      obtain rfl : b = h := by simpa using hk
      rw [List.filter_cons_of_neg (by simp), filter_key_eq_self ha, List.map_cons]
    · have hk' : l.lookup k = some h := by
        have : (k == a) = false := by simpa using e
        simpa [List.lookup_cons, this] using hk
      rw [List.filter_cons_of_pos (by simpa using fun h : a = k => e h.symm), List.map_cons,
        List.map_cons]
      exact ((ih hl hk').cons b).trans (List.Perm.swap _ _ _)

end DisplayEnv.Cache
