import DisplayEnv.Proofs.Cache.Keyed
import DisplayEnv.Proofs.Display.Effects
import Mathlib.Data.Multiset.MapFold

/-!
# Requests to a cache, and what each one does

A cache is asked for handles, asked about them, and told to let go of them. A `Request` is one of
these, and `ask` serves it: on a `Desk`, which is the cache with what its user sees beside the
answers, namely how often a handle was asked to be made and which handles were disposed of.

A `Visit` is a request with all that came of it, and `visits` serves some requests one after the
other. The order in which one request disposes of several handles is not told, so they are a
multiset.

* `Visit.of_resolve_found`, …, `Visit.of_releaseAll`: what each request comes to.
-/

namespace DisplayEnv.Cache

variable {K H ε : Type} [DecidableEq K]

/-- Something asked of a cache. A lookup brings along what the making of a handle comes to. -/
inductive Request (K H ε : Type) where
  | resolve (k : K) (create : Outcome (Except ε H))
  | get (k : K)
  | contains (k : K)
  | release (k : K)
  | releaseAll
  | size
  | stats
  | resetStats

/-- What a request is answered. -/
inductive Reply (H ε : Type) where
  | resolved (r : Except ε H)
  | found (h : Option H)
  | flag (b : Bool)
  | count (n : Nat)
  | stats (s : CacheStats)
  | nothing

/-- A cache, how often a handle was asked to be made, and the handles that were disposed of. -/
structure Desk (K H : Type) where
  cache : Cache K H
  created : Nat
  disposed : Multiset H

namespace Desk

def cachePart : Lens (Desk K H) (Cache K H) := ⟨(·.cache), fun c d => { d with cache := c }⟩

/-- The making of a handle, which comes to `create`. -/
def make (create : Outcome (Except ε H)) : Act (Desk K H) (Except ε H) := fun d =>
  (create, { d with created := d.created + 1 })

def dispose (handles : List H) : Act (Desk K H) Unit :=
  Act.change fun d => { d with disposed := d.disposed + handles }

/-- Serve a request. -/
def ask : Request K H ε → Act (Desk K H) (Reply H ε)
  | .resolve k create => return .resolved (← Cache.resolveIn cachePart k (make create))
  | .get k => return .found (← cachePart.view (·.find? k))
  | .contains k => return .flag (← cachePart.view (·.contains k))
  | .release k => do
    let found ← cachePart.alter (·.release k)
    dispose found.toList
    return .flag found.isSome
  | .releaseAll => do
    let handles ← cachePart.alter (·.releaseAll)
    dispose handles
    return .count handles.length
  | .size => return .count (← cachePart.view (·.size))
  | .stats => return .stats (← cachePart.view (·.stats))
  | .resetStats => do cachePart.change resetStats; return .nothing

end Desk

/-- A request, how it ended, how often a handle was asked to be made for it, and the handles that it
disposed of. -/
structure Visit (K H ε : Type) where
  request : Request K H ε
  outcome : Outcome (Reply H ε)
  created : Nat
  disposed : Multiset H

/-- What comes of a request to a cache. -/
def Visit.of (r : Request K H ε) (c : Cache K H) : Visit K H ε :=
  ⟨r, (Desk.ask r ⟨c, 0, 0⟩).1, (Desk.ask r ⟨c, 0, 0⟩).2.created, (Desk.ask r ⟨c, 0, 0⟩).2.disposed⟩

/-- The cache that a request leaves. -/
def after (c : Cache K H) (r : Request K H ε) : Cache K H := (Desk.ask r ⟨c, 0, 0⟩).2.cache

/-- Some requests served one after the other. -/
def visits (c : Cache K H) : List (Request K H ε) → List (Visit K H ε)
  | [] => []
  | r :: rs => .of r c :: visits (c.after r) rs

/-- The cache that some requests leave. -/
def left (c : Cache K H) : List (Request K H ε) → Cache K H
  | [] => c
  | r :: rs => left (c.after r) rs

variable {c : Cache K H} {k : K} {h : H} {create : Outcome (Except ε H)}

/-! ## Each request -/

/-- What making a handle leaves: an entry when it ended well. -/
def keep (c : Cache K H) (k : K) : Outcome (Except ε H) → Cache K H
  | .done (.ok h) => c.insert k h
  | _ => c

theorem ask_resolve (k : K) (create : Outcome (Except ε H)) (d : Desk K H) :
    Desk.ask (.resolve k create) d =
      match d.cache.find? k with
      | some h => (.done (.resolved (.ok h)), { d with cache := d.cache.countHit })
      | none => (create.map .resolved,
          { d with cache := d.cache.countMiss.keep k create, created := d.created + 1 }) := by
  rw [Desk.ask, Act.bind_pure_apply, resolveIn_apply]
  show _ = match (Desk.cachePart.get d).find? k with | some h => _ | none => _
  cases (Desk.cachePart.get d).find? k with
  | some h => rfl
  | none =>
    cases create with
    | done r => cases r <;> rfl
    | fault _ | stalled => rfl

/-- A descriptor that has a handle: the handle is answered, and none is made. -/
theorem Visit.of_resolve_found (hk : c.find? k = some h) (create : Outcome (Except ε H)) :
    Visit.of (.resolve k create) c = ⟨.resolve k create, .done (.resolved (.ok h)), 0, 0⟩ ∧
      c.after (.resolve k create) = c.countHit := by
  simp only [Visit.of, after, ask_resolve, hk, and_self]

/-- A descriptor without a handle: one is made, once, and kept if that ended well. -/
theorem Visit.of_resolve_missing (hk : c.find? k = none) (create : Outcome (Except ε H)) :
    Visit.of (.resolve k create) c = ⟨.resolve k create, create.map .resolved, 1, 0⟩ ∧
      c.after (.resolve k create) = c.countMiss.keep k create := by
  simp only [Visit.of, after, ask_resolve, hk, Nat.zero_add, and_self]

theorem Visit.of_release (c : Cache K H) (k : K) :
    (Visit.of (.release k) c : Visit K H ε) =
        ⟨.release k, .done (.flag (c.find? k).isSome), 0, (c.find? k).toList⟩ ∧
      c.after (.release k : Request K H ε) = (c.release k).2 := by
  have run (d : Desk K H) : (Desk.ask (.release k) d : Outcome (Reply H ε) × Desk K H) =
      (.done (.flag (d.cache.release k).1.isSome), { d with
        cache := (d.cache.release k).2
        disposed := d.disposed + (d.cache.release k).1.toList }) := rfl
  have first : (c.release k).1 = c.find? k := by
    unfold Cache.release
    cases c.find? k <;> rfl
  simp only [Visit.of, after, run, first, Multiset.zero_add, and_self]

theorem Visit.of_releaseAll (c : Cache K H) :
    (Visit.of .releaseAll c : Visit K H ε) =
        ⟨.releaseAll, .done (.count c.handles.length), 0, c.handles⟩ ∧
      c.after (.releaseAll : Request K H ε) = c.clear := by
  have run (d : Desk K H) : (Desk.ask .releaseAll d : Outcome (Reply H ε) × Desk K H) =
      (.done (.count d.cache.handles.length), { d with
        cache := d.cache.clear
        disposed := d.disposed + d.cache.handles }) := rfl
  simp only [Visit.of, after, run, Multiset.zero_add, and_self]

/-! ## Runs -/

theorem visits_append (c : Cache K H) (rs rs' : List (Request K H ε)) :
    c.visits (rs ++ rs') = c.visits rs ++ (c.left rs).visits rs' := by
  induction rs generalizing c with
  | nil => rfl
  | cons r rs ih => rw [List.cons_append, visits, ih, visits, left, List.cons_append]

theorem left_append (c : Cache K H) (rs rs' : List (Request K H ε)) :
    c.left (rs ++ rs') = (c.left rs).left rs' := by
  induction rs generalizing c with
  | nil => rfl
  | cons r rs ih => exact ih _

/-- A visit of a run is what came of its request to the cache that the visits before it left. -/
theorem visits_eq_append_cons {rs : List (Request K H ε)} {l r : List (Visit K H ε)}
    {v : Visit K H ε} (h : visits c rs = l ++ v :: r) :
    ∃ before q, visits c before = l ∧ v = .of q (left c before) := by
  induction l generalizing c rs with
  | nil =>
    cases rs with
    | nil => cases h
    | cons q rs => exact ⟨[], q, rfl, (List.cons.inj h).1.symm⟩
  | cons w l ih =>
    cases rs with
    | nil => cases h
    | cons q rs =>
      obtain ⟨rfl, rest⟩ := List.cons.inj h
      obtain ⟨before, q', rfl, hv⟩ := ih rest
      exact ⟨q :: before, q', rfl, hv⟩

end DisplayEnv.Cache
