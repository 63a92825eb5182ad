import DisplayEnv.Act
import DisplayEnv.Number.Double

/-!
# Statistics of a cache

How many entries a cache holds and how often it was hit and missed (`CacheStats`). The counts are
64-bit: adding two statistics, or the hits and misses of one, can overflow. The rate of hits is a
double.

* `CacheStats.sum`: the statistics of several caches, added up from nothing.
-/

namespace DisplayEnv

/-- A snapshot of a cache's counters (`CacheStats`). -/
structure CacheStats where
  entries : Nat
  hits : Nat
  misses : Nat
  deriving DecidableEq, Repr

namespace CacheStats

def zero : CacheStats := ⟨0, 0, 0⟩

/-- Entries, hits and misses are added in this order, and the first sum that does not fit settles
the outcome (`add`). -/
def add (s t : CacheStats) : Except Fault CacheStats := do
  let entries ← fitWord .add (s.entries + t.entries)
  let hits ← fitWord .add (s.hits + t.hits)
  let misses ← fitWord .add (s.misses + t.misses)
  return ⟨entries, hits, misses⟩

/-- Several statistics added up from nothing, from the left. -/
def sum (l : List CacheStats) : Except Fault CacheStats := l.foldlM add zero

/-- The share of hits among all lookups (`hit_rate`), and zero when there was none. -/
def hitRate (s : CacheStats) : Except Fault Double := do
  let total ← fitWord .add (s.hits + s.misses)
  if 0 < total then return (Double.ofNat s.hits).div (Double.ofNat total) else return .zero

/-- The three counts and the rate as a percentage with one decimal. -/
def text (s : CacheStats) : Except Fault String := do
  let rate ← s.hitRate
  return "entries=" ++ toString s.entries ++ ", hits=" ++ toString s.hits ++ ", misses=" ++
    toString s.misses ++ ", rate=" ++ (rate.scale 100).textOneDecimal ++ "%"

end CacheStats

/-- The statistics of a display's three caches, and whether its scratch context exists
(`DisplayStats`). -/
structure DisplayStats where
  colors : CacheStats
  fonts : CacheStats
  images : CacheStats
  scratchGc : Bool
  deriving DecidableEq, Repr

/-- The three caches taken together (`total`). -/
def DisplayStats.total (s : DisplayStats) : Except Fault CacheStats := do
  (← s.colors.add s.fonts).add s.images

end DisplayEnv
