import DisplayEnv.Cache.Stats

/-!
# Caches of handles

A cache (`ResourceCache`) keeps at most one handle for each descriptor. `resolveIn` answers the
handle of a descriptor and has it made when there is none; a making that fails leaves the entries
alone. The cache never disposes of a handle: every way out of it hands the handle to the caller, who
does what is passed to `release_with` and `release_all_with`.

The cache may be a part of a larger state that the making of a handle changes as well, so
`resolveIn` works through a lens; `resolve` is the case where the cache is all of the state. The
entries are in the order of their making, latest first, and all are released in that order; the
program leaves the order open.

* `find?_insert`, `find?_erase`, `find?_clear`: what each operation does to the entries.
-/

namespace DisplayEnv

/-- Handles by descriptor (`ResourceCache`), with counts of the lookups that found one and that did
not. -/
structure Cache (K H : Type) where
  entries : List (K × H)
  hits : Nat
  misses : Nat
  deriving Repr

namespace Cache

variable {K H ε σ : Type} [DecidableEq K]

/-- A cache without entries and counts. -/
def empty : Cache K H := ⟨[], 0, 0⟩

instance : Inhabited (Cache K H) := ⟨empty⟩

/-- The handle kept for a descriptor (`get`). -/
def find? (c : Cache K H) (k : K) : Option H := c.entries.lookup k

def contains (c : Cache K H) (k : K) : Bool := (c.find? k).isSome

def size (c : Cache K H) : Nat := c.entries.length

def isEmpty (c : Cache K H) : Bool := c.entries.isEmpty

/-- The handles kept. -/
def handles (c : Cache K H) : List H := c.entries.map (·.2)

/-- Count a lookup that found a handle. -/
def countHit (c : Cache K H) : Cache K H := { c with hits := c.hits + 1 }

/-- Count a lookup that found none. -/
def countMiss (c : Cache K H) : Cache K H := { c with misses := c.misses + 1 }

/-- Keep a handle for a descriptor that has none. -/
def insert (c : Cache K H) (k : K) (h : H) : Cache K H := { c with entries := (k, h) :: c.entries }

/-- Let go of a descriptor. -/
def erase (c : Cache K H) (k : K) : Cache K H :=
  { c with entries := c.entries.filter (·.1 ≠ k) }

/-- The cache without its entries. -/
def clear (c : Cache K H) : Cache K H := { c with entries := [] }

/-- The cache without its counts (`reset_stats`). -/
def resetStats (c : Cache K H) : Cache K H := { c with hits := 0, misses := 0 }

def stats (c : Cache K H) : CacheStats := ⟨c.size, c.hits, c.misses⟩

/-- The handle kept for a descriptor; when there is none, the one that `create` makes, which is then
kept (`resolve_with`). The miss is counted before the making starts. -/
def resolveIn (at_ : Lens σ (Cache K H)) (k : K) (create : Act σ (Except ε H)) :
    Act σ (Except ε H) := do
  match ← at_.view (·.find? k) with
  | some h => at_.change countHit; return .ok h
  | none =>
    at_.change countMiss
    match ← create with
    | .ok h => at_.change (·.insert k h); return .ok h
    | .error e => return .error e

/-- `resolveIn` on a cache that is all of the state. -/
def resolve (k : K) (create : Outcome (Except ε H)) : Act (Cache K H) (Except ε H) :=
  resolveIn .whole k fun c => (create, c)

/-- The handle that was kept for a descriptor, and the cache without it (`release_with`). -/
def release (c : Cache K H) (k : K) : Option H × Cache K H :=
  match c.find? k with
  | some h => (some h, c.erase k)
  | none => (none, c)

/-- All handles that were kept, and the cache without them (`release_all_with`). -/
def releaseAll (c : Cache K H) : List H × Cache K H := (c.handles, c.clear)

@[simp] theorem find?_empty (k : K) : (empty : Cache K H).find? k = none := rfl

theorem find?_insert (c : Cache K H) (k j : K) (h : H) :
    (c.insert k h).find? j = if j = k then some h else c.find? j := by
  by_cases e : j = k
  · subst e; simp [insert, find?]
  · have : (j == k) = false := by simpa using e
    simp [insert, find?, List.lookup_cons, this, e]

theorem find?_erase (c : Cache K H) (k j : K) :
    (c.erase k).find? j = if j = k then none else c.find? j := by
  unfold erase find?
  simp only
  induction c.entries with
  | nil => simp
  | cons p l ih =>
    obtain ⟨a, h⟩ := p
    by_cases ha : a = k
    · subst ha
      by_cases hj : j = a
      · subst hj; simpa using ih
      · have : (j == a) = false := by simpa using hj
        simpa [List.lookup_cons, this, hj] using ih
    · by_cases hj : j = a
      · subst hj; simp [ha]
      · have : (j == a) = false := by simpa using hj
        simpa [List.lookup_cons, ha, this] using ih

@[simp] theorem find?_clear (c : Cache K H) (k : K) : c.clear.find? k = none := rfl

@[simp] theorem find?_countHit (c : Cache K H) (k : K) : c.countHit.find? k = c.find? k := rfl

@[simp] theorem find?_countMiss (c : Cache K H) (k : K) : c.countMiss.find? k = c.find? k := rfl

@[simp] theorem find?_resetStats (c : Cache K H) (k : K) : c.resetStats.find? k = c.find? k := rfl

end Cache

end DisplayEnv
