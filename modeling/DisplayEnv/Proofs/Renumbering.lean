import Mathlib.Order.Monotone.Basic

/-!
# Two counters

Two runs number what they make, each by a counter of its own. Where the first run makes more than
the second, its numbers are ahead, and what both make is numbered in the same order.

* `Renumbers`: the numbers of the second run under those of the first.
* `Renumbers.step`: both count one.
* `Renumbers.ahead`: only the first one counts. The numbers that the second one gave out keep their
  names.
-/

namespace DisplayEnv

/-- The function takes the numbers of a run whose next one is `n'` to those of a run whose next one
is `n`, in their order, and it goes on with the next ones. -/
structure Renumbers (f : Nat → Nat) (n n' : Nat) : Prop where
  order : StrictMono f
  next : ∀ k, f (n' + k) = n + k

namespace Renumbers

variable {f : Nat → Nat} {m n n' : Nat}

theorem refl (n : Nat) : Renumbers id n n := ⟨strictMono_id, fun _ => rfl⟩

/-- The number that both give out next. -/
theorem now (h : Renumbers f n n') : f n' = n := h.next 0

theorem step (h : Renumbers f n n') : Renumbers f (n + 1) (n' + 1) where
  order := h.order
  next k := by
    have := h.next (k + 1)
    rw [Nat.add_right_comm, Nat.add_assoc, this]
    omega

theorem ahead (h : Renumbers f n n') (le : n ≤ m) :
    ∃ g, (∀ k < n', g k = f k) ∧ Renumbers g m n' := by
  refine ⟨fun k => if k < n' then f k else f k + (m - n), fun k hk => if_pos hk, ?_, ?_⟩
  · intro a b hab
    have := h.order hab
    simp only
    split <;> split <;> omega
  · intro k
    have := h.next k
    rw [if_neg (by omega)]
    omega

end Renumbers

end DisplayEnv
