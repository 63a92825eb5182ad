/-!
# Numbers in bytes

Reading numbers out of a sequence of bytes, in both byte orders, and cutting pieces out of it.

* `length_of_take?`: a piece that was cut out has the length that was asked for.
-/

namespace DisplayEnv.Bytes

/-- The number written in base 256, least significant byte first. -/
def little : List UInt8 → Nat
  | [] => 0
  | b :: bs => b.toNat + 256 * little bs

/-- The number written in base 256, most significant byte first. -/
def big (bs : List UInt8) : Nat := bs.foldl (fun n b => n * 256 + b.toNat) 0

/-- The first `n` bytes and the rest, if there are that many. -/
def take? (n : Nat) (bs : List UInt8) : Option (List UInt8 × List UInt8) :=
  let piece := bs.take n
  if piece.length = n then some (piece, bs.drop n) else none

theorem length_of_take? {n : Nat} {bs piece rest : List UInt8}
    (h : take? n bs = some (piece, rest)) : piece.length = n ∧ piece ++ rest = bs := by
  simp only [take?] at h
  split at h
  · rename_i hl
    simp only [Option.some.injEq, Prod.mk.injEq] at h
    obtain ⟨rfl, rfl⟩ := h
    exact ⟨hl, List.take_append_drop n bs⟩
  · simp at h

/-- The piece of length `n` that starts `at` bytes in. -/
def slice? (start n : Nat) (bs : List UInt8) : Option (List UInt8) :=
  (take? n (bs.drop start)).map (·.1)

/-- The bytes cut into pieces of length `n`; an incomplete last piece is left out. -/
def chunks (n : Nat) (bs : List UInt8) : List (List UInt8) :=
  if _h : 0 < n ∧ n ≤ bs.length then bs.take n :: chunks n (bs.drop n) else []
termination_by bs.length
decreasing_by simp only [List.length_drop]; omega

end DisplayEnv.Bytes
