import DisplayEnv.Proofs.Cache.Requests
import Mathlib.Algebra.BigOperators.Group.Multiset.Basic
import Mathlib.Algebra.GroupWithZero.Nat
import Mathlib.Data.List.DropRight
import Mathlib.Data.List.Induction

/-!
# The ledger of a cache

What a run of requests made and disposed of is written in its visits, and so is what it looked up.
The cache that the run leaves is the balance: it holds the handles that were made and not yet
disposed of, and it has counted the lookups since its counts were last set back.

`Ledger` is the balance as a relation between the visits and the cache, without the requests. A
request looks up (`Ledger.hit`, `Ledger.miss`), hands handles out (`Ledger.gives`), sets the counts
back (`Ledger.reset`) or leaves everything alone (`Ledger.keeps`); `Ledger.visit` says that every
request does one of them.

* `ledger_balances`: the ledger of every run, what a look at the statistics tells of it, and which
  requests leave the count of hits alone.
-/

namespace DisplayEnv.Cache

variable {K H ε : Type}

/-! ## The entries of the ledger -/

/-- The request looks a descriptor up. -/
def Request.isLookup : Request K H ε → Bool
  | .resolve _ _ => true
  | .get _ | .contains _ | .release _ | .releaseAll | .size | .stats | .resetStats => false

/-- The request sets the counts back. -/
def Request.isReset : Request K H ε → Bool
  | .resetStats => true
  | .resolve _ _ | .get _ | .contains _ | .release _ | .releaseAll | .size | .stats => false

/-- The handles that were made in a visit: what the making ends with, as often as it was asked for,
and nothing where it does not end with a handle. -/
def Visit.made (v : Visit K H ε) : Multiset H :=
  match v.request with
  | .resolve _ (.done (.ok h)) => v.created • {h}
  | _ => 0

/-- The lookup ended with a handle. -/
def Visit.Succeeds (v : Visit K H ε) : Prop := ∃ h, v.outcome = .done (.resolved (.ok h))

/-- All handles made in some visits. -/
def handlesMade (t : List (Visit K H ε)) : Multiset H := (t.map (·.made)).sum

/-- All handles disposed of in some visits. -/
def handlesDisposed (t : List (Visit K H ε)) : Multiset H := (t.map (·.disposed)).sum

/-- How often a handle was asked to be made in some visits, however that ended. -/
def makings (t : List (Visit K H ε)) : ℕ := (t.map (·.created)).sum

/-- How many of some visits look a descriptor up. -/
def lookups (t : List (Visit K H ε)) : ℕ := t.countP (·.request.isLookup)

/-- The visits since the counts were last set back. -/
def sinceReset (t : List (Visit K H ε)) : List (Visit K H ε) :=
  t.rtakeWhile fun v => !v.request.isReset

/-- The cache is the balance of some visits. -/
structure Ledger (t : List (Visit K H ε)) (c : Cache K H) : Prop where
  keyed : c.Keyed
  balance : handlesMade t = handlesDisposed t + c.handles
  counted : c.hits + c.misses = lookups (sinceReset t)
  missed : c.misses = makings (sinceReset t)

variable {t : List (Visit K H ε)} {v : Visit K H ε} {c c' : Cache K H} {k : K} {h : H}

/-! ## One visit more -/

theorem Visit.made_of_created (unmade : v.created = 0) : v.made = 0 := by
  unfold made
  split
  · rw [unmade, zero_nsmul]
  · rfl

theorem handlesMade_concat (t : List (Visit K H ε)) (v : Visit K H ε) :
    handlesMade (t ++ [v]) = handlesMade t + v.made := by simp [handlesMade]

theorem handlesDisposed_concat (t : List (Visit K H ε)) (v : Visit K H ε) :
    handlesDisposed (t ++ [v]) = handlesDisposed t + v.disposed := by simp [handlesDisposed]

theorem makings_concat (t : List (Visit K H ε)) (v : Visit K H ε) :
    makings (t ++ [v]) = makings t + v.created := by simp [makings]

theorem lookups_concat (t : List (Visit K H ε)) (v : Visit K H ε) :
    lookups (t ++ [v]) = lookups t + v.request.isLookup.toNat := by
  cases h : v.request.isLookup <;> simp [lookups, List.countP_append, h]

theorem sinceReset_concat (t : List (Visit K H ε)) (v : Visit K H ε) :
    sinceReset (t ++ [v]) = if v.request.isReset then [] else sinceReset t ++ [v] := by
  cases h : v.request.isReset <;> simp [sinceReset, h]

theorem Ledger.empty : Ledger ([] : List (Visit K H ε)) .empty where
  keyed := keyed_empty
  balance := rfl
  counted := rfl
  missed := rfl

/-- There are as many entries as handles made and not disposed of. -/
theorem Ledger.size (hl : Ledger t c) :
    c.size + (handlesDisposed t).card = (handlesMade t).card := by
  rw [hl.balance, Multiset.card_add, Multiset.coe_card, handles, List.length_map, Nat.add_comm]
  rfl

/-! ## What a request can do -/

/-- A visit that hands some handles out, which are disposed of, and looks nothing up. -/
theorem Ledger.gives (hl : Ledger t c) (counts : c'.hits = c.hits ∧ c'.misses = c.misses)
    (keyed : c'.Keyed) (idle : v.request.isLookup = false ∧ v.request.isReset = false)
    (unmade : v.created = 0) (handles : (c.handles : Multiset H) = v.disposed + c'.handles) :
    Ledger (t ++ [v]) c' := by
  obtain ⟨hits, misses⟩ := counts
  refine ⟨keyed, ?_, ?_, ?_⟩
  · rw [handlesMade_concat, handlesDisposed_concat, Visit.made_of_created unmade, add_zero,
      hl.balance, handles, add_assoc]
  · rw [sinceReset_concat, idle.2, if_neg nofun, lookups_concat, idle.1, hits, misses, hl.counted]
    rfl
  · rw [sinceReset_concat, idle.2, if_neg nofun, makings_concat, unmade, misses, hl.missed,
      add_zero]

/-- A visit that only looks at the cache. -/
theorem Ledger.keeps (hl : Ledger t c) (idle : v.request.isLookup = false)
    (stays : v.request.isReset = false) (nothing : v.created = 0 ∧ v.disposed = 0) :
    Ledger (t ++ [v]) c :=
  hl.gives ⟨rfl, rfl⟩ hl.keyed ⟨idle, stays⟩ nothing.1 (by rw [nothing.2, zero_add])

variable [DecidableEq K]

theorem Ledger.reset (hl : Ledger t c) :
    Ledger (t ++ [.of .resetStats c]) (c.after (.resetStats : Request K H ε)) where
  keyed := hl.keyed
  balance := by
    rw [handlesMade_concat, handlesDisposed_concat, Visit.made_of_created rfl, add_zero, hl.balance]
    exact congrArg (· + _) (add_zero _).symm
  counted := by
    rw [sinceReset_concat]
    rfl
  missed := by
    rw [sinceReset_concat]
    rfl

/-- A lookup that finds a handle enters a hit. -/
theorem Ledger.hit (hl : Ledger t c) (hk : c.find? k = some h) (create : Outcome (Except ε H)) :
    Ledger (t ++ [.of (.resolve k create) c]) (c.after (.resolve k create)) := by
  obtain ⟨visit, after⟩ := Visit.of_resolve_found hk create
  rw [visit, after]
  refine ⟨hl.keyed, ?_, ?_, ?_⟩
  · rw [handlesMade_concat, handlesDisposed_concat, Visit.made_of_created rfl, add_zero, add_zero]
    exact hl.balance
  · rw [sinceReset_concat, if_neg nofun, lookups_concat, ← hl.counted]
    exact Nat.add_right_comm _ _ _
  · rw [sinceReset_concat, if_neg nofun, makings_concat]
    exact hl.missed

/-- What a miss leaves: the handle that was made, if one was, beside those there were. -/
theorem keep_entered (hc : c.Keyed) (hk : c.find? k = none) (create : Outcome (Except ε H)) :
    (c.countMiss.keep k create).Keyed ∧ (c.countMiss.keep k create).hits = c.hits ∧
      (c.countMiss.keep k create).misses = c.misses + 1 ∧
      ((c.countMiss.keep k create).handles : Multiset H) =
        (⟨.resolve k create, create.map .resolved, 1, 0⟩ : Visit K H ε).made + c.handles := by
  unfold keep Visit.made
  split
  · exact ⟨hc.insert hk _, rfl, rfl, rfl⟩
  · rename_i failed
    refine ⟨hc, rfl, rfl, ?_⟩
    split
    · rename_i asked
      cases asked
      exact absurd rfl (failed _)
    · exact (zero_add _).symm

/-- A lookup that finds none enters a miss, with the one making that it asks for. -/
theorem Ledger.miss (hl : Ledger t c) (hk : c.find? k = none) (create : Outcome (Except ε H)) :
    Ledger (t ++ [.of (.resolve k create) c]) (c.after (.resolve k create)) := by
  obtain ⟨visit, after⟩ := Visit.of_resolve_missing hk create
  rw [visit, after]
  obtain ⟨keyed, hits, misses, handles⟩ := keep_entered hl.keyed hk create
  refine ⟨keyed, ?_, ?_, ?_⟩
  · rw [handlesMade_concat, handlesDisposed_concat, handles, hl.balance, add_zero, add_assoc,
      add_comm (c.handles : Multiset H)]
  · rw [sinceReset_concat, if_neg nofun, lookups_concat, hits, misses, ← hl.counted]
    exact (Nat.add_assoc _ _ _).symm
  · rw [sinceReset_concat, if_neg nofun, makings_concat, misses, hl.missed]

/-- **Every request** keeps the ledger balanced. -/
theorem Ledger.visit (hl : Ledger t c) (r : Request K H ε) :
    Ledger (t ++ [.of r c]) (c.after r) := by
  cases r with
  | resolve k create =>
    cases hk : c.find? k with
    | some h => exact hl.hit hk create
    | none => exact hl.miss hk create
  | release k =>
    obtain ⟨visit, after⟩ := Visit.of_release (ε := ε) c k
    rw [visit, after]
    unfold Cache.release
    cases hk : c.find? k with
    | some h =>
      refine hl.gives ⟨rfl, rfl⟩ (hl.keyed.erase k) ⟨rfl, rfl⟩ rfl ?_
      exact Multiset.coe_eq_coe.mpr (handles_erase hl.keyed hk)
    | none => exact hl.keeps rfl rfl ⟨rfl, rfl⟩
  | releaseAll =>
    obtain ⟨visit, after⟩ := Visit.of_releaseAll (ε := ε) c
    rw [visit, after]
    exact hl.gives ⟨rfl, rfl⟩ (keyed_clear c) ⟨rfl, rfl⟩ rfl (add_zero _).symm
  | resetStats => exact hl.reset
  | get _ | contains _ | size | stats => exact hl.keeps rfl rfl ⟨rfl, rfl⟩

/-- The ledger of a run is balanced. -/
theorem Ledger.run (rs : List (Request K H ε)) : Ledger (visits .empty rs) (left .empty rs) := by
  induction rs using List.reverseRecOn with
  | nil => exact .empty
  | append_singleton rs r ih =>
    rw [visits_append, left_append]
    exact ih.visit r

/-! ## The count of hits -/

/-- Only a lookup that finds a handle, and the setting back of the counts, change the hits. -/
theorem hits_after {r : Request K H ε} (kept : r.isReset = false)
    (missed : r.isLookup = true → (Visit.of r c).created = 0 → ¬ (Visit.of r c).Succeeds) :
    (c.after r).hits = c.hits := by
  cases r with
  | resolve k create =>
    cases hk : c.find? k with
    | some h =>
      obtain ⟨visit, -⟩ := Visit.of_resolve_found hk create
      rw [visit] at missed
      exact absurd ⟨h, rfl⟩ (missed rfl rfl)
    | none =>
      rw [(Visit.of_resolve_missing hk create).2]
      unfold keep
      split <;> rfl
  | release k =>
    rw [(Visit.of_release c k).2, Cache.release]
    split <;> rfl
  | resetStats => cases kept
  | releaseAll | get _ | contains _ | size | stats => rfl

/-! ## Every run -/

/-- **The ledger of a cache.** After every run of requests to a fresh cache, the handles made are
those disposed of together with those kept, so none is lost and none is disposed of more often than
it was made; there are as many entries as makings that ended with a handle, less the disposals. Since
the counts were last set back, hits and misses add up to the lookups, and the misses are the makings
asked for, the failed ones included. A look at the statistics in the run tells these numbers. A
request that is no lookup ending with a handle leaves the hits alone, unless it sets them back, and
so does a lookup that had a handle made. -/
theorem ledger_balances (rs : List (Request K H ε)) :
    (handlesMade (visits .empty rs) =
        handlesDisposed (visits .empty rs) + ((left .empty rs : Cache K H).handles : Multiset H) ∧
      (left .empty rs : Cache K H).size + (handlesDisposed (visits .empty rs)).card =
        (handlesMade (visits .empty rs)).card ∧
      (left .empty rs : Cache K H).hits + (left .empty rs : Cache K H).misses =
        lookups (sinceReset (visits (.empty : Cache K H) rs)) ∧
      (left .empty rs : Cache K H).misses =
        makings (sinceReset (visits (.empty : Cache K H) rs))) ∧
    (∀ l v r, visits (.empty : Cache K H) rs = l ++ v :: r → v.request = .stats →
      ∃ s : CacheStats, v.outcome = .done (.stats s) ∧
        s.entries + (handlesDisposed l).card = (handlesMade l).card ∧
        s.hits + s.misses = lookups (sinceReset l) ∧ s.misses = makings (sinceReset l)) ∧
    ∀ r : Request K H ε, r.isReset = false →
      (r.isLookup = false ∨ ¬ (Visit.of r (left .empty rs)).Succeeds ∨
        (Visit.of r (left .empty rs)).created = 1) →
      ((left .empty rs).after r).hits = (left .empty rs).hits := by
  have hl := Ledger.run rs
  refine ⟨⟨hl.balance, hl.size, hl.counted, hl.missed⟩, fun l v r split asked => ?_,
    fun r kept missed => hits_after kept fun looked unmade found => ?_⟩
  · obtain ⟨before, q, rfl, rfl⟩ := visits_eq_append_cons split
    obtain rfl : q = .stats := asked
    have hl := Ledger.run before
    exact ⟨_, rfl, hl.size, hl.counted, hl.missed⟩
  · rcases missed with idle | failed | made
    · exact Bool.noConfusion (looked.symm.trans idle)
    · exact failed found
    · exact absurd (made.symm.trans unmade) Nat.one_ne_zero

end DisplayEnv.Cache
