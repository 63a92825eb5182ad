/-!
# Rounding a quotient

`roundQuotient n d` is the natural number nearest to `n / d`; a quotient half-way between two
numbers goes to the even one.
-/

namespace DisplayEnv

/-- The natural number nearest to `n / d`, an exact half going to the even neighbour. -/
def roundQuotient (n d : Nat) : Nat :=
  let q := n / d
  let r := n % d
  if 2 * r < d then q
  else if d < 2 * r then q + 1
  else q + q % 2

end DisplayEnv
