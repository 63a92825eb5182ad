import DisplayEnv.Proofs.Cache.Requests
import Mathlib.Data.List.Induction

/-!
# A cache is the map that its history describes

A descriptor is **present** when it was resolved and not let go of since: its last successful lookup
came after its last release and after the last release of everything (`Present`). The handle that it
then has is the one that the making answered which made it present (`Holds`). Both are said of the
visits alone, without the cache.

`Answers` lists what a request may be answered after a history, and nothing in it mentions the
cache either; `Mirrored` is the invariant that ties the two together, and every request keeps it
(`Mirrored.visit`). `cache_follows_history` says of every run of requests on a fresh cache:

* each request is answered as its history wants it, handles are made and disposed of as the history
  wants it, and the history wants one thing only;
* the answers about a descriptor do not depend on requests about others;
* after a release of everything, all answers are those of a fresh cache, but for the two counts of
  lookups.
-/

namespace DisplayEnv.Cache

variable {K H ε : Type}

/-! ## What a history says -/

/-- The lookup of a descriptor ended with a handle. -/
def Visit.Resolves (v : Visit K H ε) (k : K) : Prop :=
  ∃ create h, v.request = .resolve k create ∧ v.outcome = .done (.resolved (.ok h))

/-- A handle was made for a descriptor. -/
def Visit.Makes (v : Visit K H ε) (k : K) (h : H) : Prop :=
  v.request = .resolve k (.done (.ok h)) ∧ v.created = 1

/-- The request lets go of a descriptor. -/
def Visit.Drops (v : Visit K H ε) (k : K) : Prop := v.request = .release k ∨ v.request = .releaseAll

/-- A visit of one sort, and none of another sort since. -/
def Since (sort ending : Visit K H ε → Prop) (t : List (Visit K H ε)) : Prop :=
  ∃ l v r, t = l ++ v :: r ∧ sort v ∧ ∀ w ∈ r, ¬ ending w

/-- The descriptor was resolved, and not let go of since. -/
def Present (t : List (Visit K H ε)) (k : K) : Prop := Since (·.Resolves k) (·.Drops k) t

/-- The handle was made for the descriptor, which was not let go of since. -/
def Holds (t : List (Visit K H ε)) (k : K) (h : H) : Prop := Since (·.Makes k h) (·.Drops k) t

/-- The descriptors that are present, each once, with their handles. -/
structure Lists (t : List (Visit K H ε)) (l : List (K × H)) : Prop where
  once : (l.map (·.1)).Nodup
  all : ∀ k h, (k, h) ∈ l ↔ Holds t k h

/-- **What comes of a request after a history**: how it ends, how many handles are asked to be made,
and which handles are disposed of. -/
inductive Answers (t : List (Visit K H ε)) : Visit K H ε → Prop
  | hit {k h} (create) (held : Holds t k h) :
      Answers t ⟨.resolve k create, .done (.resolved (.ok h)), 0, 0⟩
  | miss {k} (create) (absent : ¬ Present t k) :
      Answers t ⟨.resolve k create, create.map .resolved, 1, 0⟩
  | found {k h} (held : Holds t k h) : Answers t ⟨.get k, .done (.found (some h)), 0, 0⟩
  | missing {k} (absent : ¬ Present t k) : Answers t ⟨.get k, .done (.found none), 0, 0⟩
  | contained {k} (present : Present t k) : Answers t ⟨.contains k, .done (.flag true), 0, 0⟩
  | uncontained {k} (absent : ¬ Present t k) : Answers t ⟨.contains k, .done (.flag false), 0, 0⟩
  | released {k h} (held : Holds t k h) : Answers t ⟨.release k, .done (.flag true), 0, {h}⟩
  | unreleased {k} (absent : ¬ Present t k) : Answers t ⟨.release k, .done (.flag false), 0, 0⟩
  | releasedAll {l} (all : Lists t l) :
      Answers t ⟨.releaseAll, .done (.count l.length), 0, l.map (·.2)⟩
  | counted {l} (all : Lists t l) : Answers t ⟨.size, .done (.count l.length), 0, 0⟩
  | told {l} (all : Lists t l) (hits misses) :
      Answers t ⟨.stats, .done (.stats ⟨l.length, hits, misses⟩), 0, 0⟩
  | reset : Answers t ⟨.resetStats, .done .nothing, 0, 0⟩

/-! ## Requests about one descriptor -/

/-- The request asks about a descriptor, or tells to let go of it alone. -/
def Request.isAbout [DecidableEq K] (k : K) : Request K H ε → Bool
  | .resolve j _ | .get j | .contains j | .release j => j = k
  | .releaseAll | .size | .stats | .resetStats => false

/-- The request can have to do with a descriptor. -/
def Request.concerns [DecidableEq K] (k : K) : Request K H ε → Bool
  | .releaseAll => true
  | r => r.isAbout k

/-- A visit without the counts of lookups in its answer. -/
def Visit.uncounted (v : Visit K H ε) : Visit K H ε :=
  match v.outcome with
  | .done (.stats s) => { v with outcome := .done (.stats ⟨s.entries, 0, 0⟩) }
  | _ => v

variable {c c' : Cache K H} {t : List (Visit K H ε)} {k : K} {h : H}

/-! ## One visit more -/

theorem since_concat {sort ending : Visit K H ε → Prop} {v : Visit K H ε} :
    Since sort ending (t ++ [v]) ↔ sort v ∨ (Since sort ending t ∧ ¬ ending v) := by
  constructor
  · rintro ⟨l, w, r, split, hw, none⟩
    rcases r.eq_nil_or_concat with rfl | ⟨r, x, rfl⟩
    · obtain ⟨-, rfl⟩ := List.append_inj' split rfl |>.imp_right List.singleton_inj.mp
      exact .inl hw
    · rw [List.concat_eq_append, ← List.cons_append, ← List.append_assoc] at split
      obtain ⟨rfl, last⟩ := List.append_inj' split rfl
      obtain rfl := List.singleton_inj.mp last
      refine .inr ⟨⟨l, w, r, rfl, hw, fun y hy => none y ?_⟩, none v ?_⟩
      · simp [hy]
      · simp
  · rintro (hv | ⟨⟨l, w, r, rfl, hw, none⟩, hv⟩)
    · exact ⟨t, v, [], rfl, hv, by simp⟩
    · refine ⟨l, w, r ++ [v], by simp, hw, fun y hy => ?_⟩
      rcases List.mem_append.mp hy with hy | hy
      · exact none y hy
      · obtain rfl := List.mem_singleton.mp hy
        exact hv

theorem present_concat {v : Visit K H ε} :
    Present (t ++ [v]) k ↔ v.Resolves k ∨ (Present t k ∧ ¬ v.Drops k) := since_concat

theorem holds_concat {v : Visit K H ε} :
    Holds (t ++ [v]) k h ↔ v.Makes k h ∨ (Holds t k h ∧ ¬ v.Drops k) := since_concat

/-- A lookup lets go of nothing. -/
theorem resolve_keeps {create : Outcome (Except ε H)} {v : Visit K H ε}
    (asked : v.request = .resolve k create) (j : K) : ¬ v.Drops j := by
  rintro (dropped | dropped) <;> · rw [asked] at dropped; cases dropped

/-! ## The invariant -/

variable [DecidableEq K]

/-- The cache holds what its history says. -/
structure Mirrored (t : List (Visit K H ε)) (c : Cache K H) : Prop where
  keyed : c.Keyed
  holds : ∀ k h, Holds t k h ↔ c.find? k = some h
  present : ∀ k, Present t k ↔ (c.find? k).isSome

theorem Mirrored.empty : Mirrored ([] : List (Visit K H ε)) .empty where
  keyed := keyed_empty
  holds k h := by
    constructor
    · rintro ⟨l, v, r, split, -⟩
      simp at split
    · exact nofun
  present k := by
    constructor
    · rintro ⟨l, v, r, split, -⟩
      simp at split
    · exact nofun

theorem Mirrored.absent (hm : Mirrored t c) (hk : c.find? k = none) : ¬ Present t k := by
  rw [hm.present, hk]
  exact nofun

theorem Mirrored.there (hm : Mirrored t c) (hk : c.find? k = some h) : Present t k := by
  rw [hm.present, hk]
  rfl

theorem Mirrored.lists (hm : Mirrored t c) : Lists t c.entries where
  once := hm.keyed
  all _ _ := (mem_entries_iff hm.keyed).trans (hm.holds _ _).symm

/-- A visit that makes nothing and lets go of nothing, and resolves only what is present. -/
theorem Mirrored.same (hm : Mirrored t c) {v : Visit K H ε} (entries : c'.entries = c.entries)
    (makes : ∀ k h, ¬ v.Makes k h) (resolves : ∀ k, v.Resolves k → Present t k)
    (keeps : ∀ k, ¬ v.Drops k) : Mirrored (t ++ [v]) c' where
  keyed := by rw [Keyed, entries]; exact hm.keyed
  holds k h := by
    rw [holds_concat, or_iff_right (makes k h), and_iff_left (keeps k), find?, entries]
    exact hm.holds k h
  present k := by
    rw [present_concat, and_iff_left (keeps k), or_iff_right_of_imp (resolves k), find?,
      entries]
    exact hm.present k

/-- A lookup that made the missing handle. -/
theorem Mirrored.made (hm : Mirrored t c) (hk : c.find? k = none) {v : Visit K H ε}
    (asked : v.request = .resolve k (.done (.ok h))) (once : v.created = 1)
    (well : v.outcome = .done (.resolved (.ok h))) :
    Mirrored (t ++ [v]) (c.countMiss.insert k h) where
  keyed := hm.keyed.insert hk h
  holds j i := by
    rw [holds_concat, and_iff_left (resolve_keeps asked j), find?_insert, find?_countMiss,
      Visit.Makes, asked]
    split
    · rename_i e
      subst e
      have before : ¬ Holds t j i := fun old => absurd ((hm.holds j i).mp old) (by simp [hk])
      simp [before, once]
    · rename_i e
      have other : ¬ k = j := fun same => e same.symm
      simpa [other] using hm.holds j i
  present j := by
    rw [present_concat, and_iff_left (resolve_keeps asked j), find?_insert, find?_countMiss]
    split
    · rename_i e
      subst e
      exact iff_of_true (.inl ⟨_, h, asked, well⟩) rfl
    · rename_i e
      rw [or_iff_right]
      · exact hm.present j
      · rintro ⟨_, _, asked', -⟩
        rw [asked] at asked'
        cases asked'
        exact e rfl

theorem Mirrored.resolve (hm : Mirrored t c) (k : K) (create : Outcome (Except ε H)) :
    Answers t (.of (.resolve k create) c) ∧
      Mirrored (t ++ [.of (.resolve k create) c]) (c.after (.resolve k create)) := by
  cases hk : c.find? k with
  | some h =>
    obtain ⟨visit, after⟩ := Visit.of_resolve_found hk create
    rw [visit, after]
    refine ⟨.hit create ((hm.holds k h).mpr hk), hm.same rfl ?_ ?_ (resolve_keeps rfl)⟩
    · rintro _ _ ⟨-, ⟨⟩⟩
    · rintro j ⟨_, _, asked, -⟩
      cases asked
      exact hm.there hk
  | none =>
    obtain ⟨visit, after⟩ := Visit.of_resolve_missing hk create
    rw [visit, after]
    refine ⟨.miss create (hm.absent hk), ?_⟩
    unfold keep
    split
    · exact hm.made hk rfl rfl rfl
    · -- nothing was made, so there is neither a handle nor an entry
      rename_i failed
      refine hm.same rfl ?_ ?_ (resolve_keeps rfl)
      · rintro j h ⟨asked, -⟩
        cases asked
        exact failed h rfl
      · rintro j ⟨_, h, -, well⟩
        obtain ⟨r, rfl, hr⟩ := Outcome.map_eq_done well
        cases hr
        exact absurd rfl (failed h)

/-- A request that lets go of some descriptors and of no others. -/
theorem Mirrored.drops (hm : Mirrored t c) {v : Visit K H ε} (keyed : c'.Keyed)
    (quiet : ∀ k create, v.request ≠ .resolve k create)
    (gone : ∀ k, v.Drops k → c'.find? k = none)
    (stays : ∀ k, ¬ v.Drops k → c'.find? k = c.find? k) : Mirrored (t ++ [v]) c' where
  keyed := keyed
  holds k h := by
    have none : ¬ v.Makes k h := fun made => quiet _ _ made.1
    rw [holds_concat, or_iff_right none]
    by_cases hv : v.Drops k
    · exact iff_of_false (fun both => both.2 hv) (by rw [gone k hv]; exact nofun)
    · rw [and_iff_left hv, stays k hv]
      exact hm.holds k h
  present k := by
    have none : ¬ v.Resolves k := fun ⟨_, _, asked, _⟩ => quiet _ _ asked
    rw [present_concat, or_iff_right none]
    by_cases hv : v.Drops k
    · exact iff_of_false (fun both => both.2 hv) (by rw [gone k hv]; exact nofun)
    · rw [and_iff_left hv, stays k hv]
      exact hm.present k

theorem Mirrored.release (hm : Mirrored t c) (k : K) :
    Answers t (.of (.release k) c) ∧
      Mirrored (t ++ [.of (.release k) c]) (c.after (.release k : Request K H ε)) := by
  obtain ⟨visit, after⟩ := Visit.of_release (ε := ε) c k
  rw [visit, after]
  have dropped {f : Bool} {gone : Multiset H} {j : K} :
      (⟨.release k, .done (.flag f), 0, gone⟩ : Visit K H ε).Drops j ↔ j = k := by
    simp [Visit.Drops, eq_comm]
  unfold Cache.release
  cases hk : c.find? k with
  | some h =>
    refine ⟨.released ((hm.holds k h).mpr hk), hm.drops (hm.keyed.erase k) nofun ?_ ?_⟩
    · intro j hj
      rw [find?_erase, if_pos (dropped.mp hj)]
    · intro j hj
      rw [find?_erase, if_neg fun e => hj (dropped.mpr e)]
  | none =>
    refine ⟨.unreleased (hm.absent hk), hm.drops hm.keyed nofun ?_ fun _ _ => rfl⟩
    intro j hj
    rw [dropped.mp hj, hk]

theorem Mirrored.releaseAll (hm : Mirrored t c) :
    Answers t (.of .releaseAll c) ∧
      Mirrored (t ++ [.of .releaseAll c]) (c.after (.releaseAll : Request K H ε)) := by
  obtain ⟨visit, after⟩ := Visit.of_releaseAll (ε := ε) c
  rw [visit, after]
  refine ⟨?_, hm.drops (keyed_clear c) nofun (fun _ _ => rfl) fun j hj => absurd (.inr rfl) hj⟩
  have all := Answers.releasedAll hm.lists
  rwa [← List.length_map (·.2)] at all

/-- **Every request** is answered as its history wants it, and leaves what its history says. -/
theorem Mirrored.visit (hm : Mirrored t c) (r : Request K H ε) :
    Answers t (.of r c) ∧ Mirrored (t ++ [.of r c]) (c.after r) := by
  have idle {r : Request K H ε} {c' : Cache K H} (entries : c'.entries = c.entries)
      (quiet : ∀ k create, r ≠ .resolve k create) (stays : ∀ k, r ≠ .release k)
      (all : r ≠ .releaseAll) : Mirrored (t ++ [.of r c]) c' :=
    hm.same entries (fun _ _ made => quiet _ _ made.1)
      (fun _ ⟨_, _, asked, _⟩ => (quiet _ _ asked).elim) fun k gone => gone.elim (stays k) all
  cases r with
  | resolve k create => exact hm.resolve k create
  | release k => exact hm.release k
  | releaseAll => exact hm.releaseAll
  | get k =>
    refine ⟨?_, idle rfl nofun nofun nofun⟩
    have answer : (Visit.of (.get k) c : Visit K H ε) =
      ⟨.get k, .done (.found (c.find? k)), 0, 0⟩ := rfl
    rw [answer]
    cases hk : c.find? k with
    | some h => exact .found ((hm.holds k h).mpr hk)
    | none => exact .missing (hm.absent hk)
  | contains k =>
    refine ⟨?_, idle rfl nofun nofun nofun⟩
    have answer : (Visit.of (.contains k) c : Visit K H ε) =
      ⟨.contains k, .done (.flag (c.find? k).isSome), 0, 0⟩ := rfl
    rw [answer]
    cases hk : c.find? k with
    | some h => exact .contained (hm.there hk)
    | none => exact .uncontained (hm.absent hk)
  | size => exact ⟨.counted hm.lists, idle rfl nofun nofun nofun⟩
  | stats => exact ⟨.told hm.lists _ _, idle rfl nofun nofun nofun⟩
  | resetStats => exact ⟨.reset, idle rfl nofun nofun nofun⟩

/-! ## Runs -/

theorem Mirrored.run (rs : List (Request K H ε)) :
    Mirrored (visits .empty rs) (left .empty rs) := by
  induction rs using List.reverseRecOn with
  | nil => exact .empty
  | append_singleton rs r ih =>
    rw [visits_append, left_append]
    exact (ih.visit r).2

/-! ## Other descriptors -/

theorem find?_after_of_not_concerns {r : Request K H ε} (h : r.concerns k = false) :
    (c.after r).find? k = c.find? k := by
  cases r with
  | resolve j create =>
    have apart : k ≠ j := by simpa [Request.concerns, Request.isAbout, eq_comm] using h
    cases hj : c.find? j with
    | some i => rw [(Visit.of_resolve_found hj create).2, find?_countHit]
    | none =>
      rw [(Visit.of_resolve_missing hj create).2]
      unfold keep
      split
      · rw [find?_insert, if_neg apart, find?_countMiss]
      · rw [find?_countMiss]
  | release j =>
    have apart : k ≠ j := by simpa [Request.concerns, Request.isAbout, eq_comm] using h
    rw [(Visit.of_release c j).2, Cache.release]
    split
    · rw [find?_erase, if_neg apart]
    · rfl
  | releaseAll => cases h
  | get _ | contains _ | size | stats | resetStats => rfl

/-- What a request about a descriptor comes to, and what it leaves of it, depends on the handle of
that descriptor alone. -/
theorem visit_congr {r : Request K H ε} (h : r.concerns k = true)
    (same : c.find? k = c'.find? k) :
    (r.isAbout k = true → Visit.of r c = Visit.of r c') ∧
      (c.after r).find? k = (c'.after r).find? k := by
  cases r with
  | resolve j create =>
    obtain rfl : j = k := by simpa [Request.concerns, Request.isAbout] using h
    cases hj : c.find? j with
    | some i =>
      obtain ⟨visit, after⟩ := Visit.of_resolve_found hj create
      obtain ⟨visit', after'⟩ := Visit.of_resolve_found (same ▸ hj) create
      refine ⟨fun _ => visit.trans visit'.symm, ?_⟩
      rw [after, after', find?_countHit, find?_countHit, same]
    | none =>
      obtain ⟨visit, after⟩ := Visit.of_resolve_missing hj create
      obtain ⟨visit', after'⟩ := Visit.of_resolve_missing (same ▸ hj) create
      refine ⟨fun _ => visit.trans visit'.symm, ?_⟩
      rw [after, after']
      unfold keep
      split
      · rw [find?_insert, find?_insert, if_pos rfl, if_pos rfl]
      · rw [find?_countMiss, find?_countMiss, same]
  | release j =>
    obtain rfl : j = k := by simpa [Request.concerns, Request.isAbout] using h
    obtain ⟨visit, after⟩ := Visit.of_release (ε := ε) c j
    obtain ⟨visit', after'⟩ := Visit.of_release (ε := ε) c' j
    refine ⟨fun _ => by rw [visit, visit', same], ?_⟩
    rw [after, after', Cache.release, Cache.release, ← same]
    cases hj : c.find? j with
    | some i => simp only [find?_erase, if_pos]
    | none => exact hj.trans (same ▸ hj).symm
  | releaseAll => exact ⟨fun about => (by cases about), rfl⟩
  | get j =>
    obtain rfl : j = k := by simpa [Request.concerns, Request.isAbout] using h
    refine ⟨fun _ => ?_, same⟩
    show (⟨.get j, .done (.found (c.find? j)), 0, 0⟩ : Visit K H ε) =
      ⟨.get j, .done (.found (c'.find? j)), 0, 0⟩
    rw [same]
  | contains j =>
    obtain rfl : j = k := by simpa [Request.concerns, Request.isAbout] using h
    refine ⟨fun _ => ?_, same⟩
    show (⟨.contains j, .done (.flag (c.find? j).isSome), 0, 0⟩ : Visit K H ε) =
      ⟨.contains j, .done (.flag (c'.find? j).isSome), 0, 0⟩
    rw [same]
  | size | stats | resetStats => cases h

theorem visits_filter (k : K) (same : c.find? k = c'.find? k) (rs : List (Request K H ε)) :
    (c.visits rs).filter (·.request.isAbout k) =
      (c'.visits (rs.filter (·.concerns k))).filter (·.request.isAbout k) := by
  induction rs generalizing c c' with
  | nil => rfl
  | cons r rs ih =>
    cases hr : r.concerns k with
    | false =>
      have silent : r.isAbout k = false := by
        cases r <;> first | exact hr | cases hr
      rw [List.filter_cons_of_neg (by simp [hr]), visits,
        List.filter_cons_of_neg (by simpa [Visit.of] using silent)]
      exact ih ((find?_after_of_not_concerns hr).trans same)
    | true =>
      obtain ⟨visit, after⟩ := visit_congr hr same
      rw [List.filter_cons_of_pos hr, visits, visits]
      by_cases ha : r.isAbout k = true
      · rw [List.filter_cons_of_pos (by exact ha), List.filter_cons_of_pos (by exact ha), visit ha,
          ih after]
      · rw [List.filter_cons_of_neg (by exact ha), List.filter_cons_of_neg (by exact ha), ih after]

/-! ## A fresh start -/

/-- But for the counts of lookups, an answer and what is left depend on the entries alone. -/
theorem uncounted_congr (same : c.entries = c'.entries) (r : Request K H ε) :
    (Visit.of r c).uncounted = (Visit.of r c').uncounted ∧
      (c.after r).entries = (c'.after r).entries := by
  obtain ⟨entries, hits, misses⟩ := c
  obtain ⟨entries', hits', misses'⟩ := c'
  obtain rfl : entries = entries' := same
  have find (j : K) : (⟨entries, hits, misses⟩ : Cache K H).find? j =
      (⟨entries, hits', misses'⟩ : Cache K H).find? j := rfl
  cases r with
  | resolve j create =>
    cases hj : (⟨entries, hits, misses⟩ : Cache K H).find? j with
    | some i =>
      obtain ⟨visit, after⟩ := Visit.of_resolve_found hj create
      obtain ⟨visit', after'⟩ := Visit.of_resolve_found (find j ▸ hj) create
      rw [visit, visit', after, after']
      exact ⟨rfl, rfl⟩
    | none =>
      obtain ⟨visit, after⟩ := Visit.of_resolve_missing hj create
      obtain ⟨visit', after'⟩ := Visit.of_resolve_missing (find j ▸ hj) create
      rw [visit, visit', after, after']
      refine ⟨rfl, ?_⟩
      unfold keep
      split <;> rfl
  | release j =>
    obtain ⟨visit, after⟩ := Visit.of_release (ε := ε) ⟨entries, hits, misses⟩ j
    obtain ⟨visit', after'⟩ := Visit.of_release (ε := ε) ⟨entries, hits', misses'⟩ j
    rw [visit, visit', after, after', find j, Cache.release, Cache.release, find j]
    refine ⟨rfl, ?_⟩
    split <;> rfl
  | releaseAll | get _ | contains _ | size | stats | resetStats => exact ⟨rfl, rfl⟩

theorem visits_uncounted (same : c.entries = c'.entries) (rs : List (Request K H ε)) :
    (c.visits rs).map Visit.uncounted = (c'.visits rs).map Visit.uncounted := by
  induction rs generalizing c c' with
  | nil => rfl
  | cons r rs ih =>
    obtain ⟨visit, after⟩ := uncounted_congr same r
    rw [visits, visits, List.map_cons, List.map_cons, visit, ih after]

/-! ## Every run -/

/-- **A cache is the map that its history describes.** At every step of every run of requests on a
fresh cache, the history settles which descriptors are present and with which handles, and the
request comes to what `Answers` says. Leaving out the requests about other descriptors changes no
visit about one, and behind a release of everything the visits are those of a fresh cache, but for
the counts of lookups. -/
theorem cache_follows_history (rs : List (Request K H ε)) :
    (∀ l v r, visits (.empty : Cache K H) rs = l ++ v :: r →
      Answers l v ∧ (∀ k, Present l k ↔ ∃! h, Holds l k h) ∧ ∃ entries, Lists l entries) ∧
    (∀ k, (visits (.empty : Cache K H) rs).filter (·.request.isAbout k) =
      (visits .empty (rs.filter (·.concerns k))).filter (·.request.isAbout k)) ∧
    ∀ later, ∃ first, visits (.empty : Cache K H) (rs ++ .releaseAll :: later) =
        visits .empty (rs ++ [.releaseAll]) ++ first ∧
      first.map Visit.uncounted = (visits .empty later).map Visit.uncounted := by
  refine ⟨fun l v r split => ?_, fun k => visits_filter k rfl rs, fun later => ?_⟩
  · obtain ⟨before, q, rfl, rfl⟩ := visits_eq_append_cons split
    have hm := Mirrored.run before
    refine ⟨(hm.visit q).1, fun k => ?_, _, hm.lists⟩
    rw [hm.present, Option.isSome_iff_exists]
    constructor
    · rintro ⟨h, hk⟩
      refine ⟨h, (hm.holds k h).mpr hk, fun i hi => ?_⟩
      exact Option.some.inj (((hm.holds k i).mp hi).symm.trans hk)
    · rintro ⟨h, hh, -⟩
      exact ⟨h, (hm.holds k h).mp hh⟩
  · have split : rs ++ Request.releaseAll :: later = (rs ++ [.releaseAll]) ++ later := by simp
    refine ⟨_, by rw [split, visits_append], visits_uncounted ?_ later⟩
    rw [left_append]
    show ((left .empty rs).after (.releaseAll : Request K H ε)).entries = []
    rw [(Visit.of_releaseAll _).2]
    rfl

/-- A making that fails and one that gives up leave nothing; the one that ends well is the last. -/
example :
    (visits (.empty : Cache Nat Nat)
      [.resolve 1 (.done (.error "no")), .resolve 1 (.fault .lentOut), .resolve 1 (.done (.ok 7)),
        .resolve 1 (.done (.ok 8)), .release 1, .release 1]).map
        (fun v => (v.created, v.disposed)) = [(1, 0), (1, 0), (1, 0), (0, 0), (0, {7}), (0, 0)] :=
  rfl

end DisplayEnv.Cache
