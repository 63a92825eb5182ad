import DisplayEnv.Number.Double

/-!
# The shortest decimal of a double

Many decimals are read as the same double: those between the middles to its two neighbours, and the
middles themselves when its mantissa is even. Among them the one on the coarsest grid of powers of
ten has the fewest digits; where two points of that grid are read as the double, the nearer one
counts. `Double.decimalText` writes it without an exponent and with at least one digit behind the
point.

* `isReadAs`: the decimals that are read as a double.
* `shortest`: the one with the fewest digits.
-/

namespace DisplayEnv.Double

/-- Whether `c * 10 ^ k` is read as `x`. Everything is counted in quarters of the last place of `x`;
a mantissa at its least value has a neighbour below it that is half as far away. -/
def isReadAs (x : Double) (c : Nat) (k : Int) : Bool :=
  let below := if x.mantissa = leastNormal ∧ minExponent < x.exponent then 1 else 2
  let decimal := (c * Nat.pow 10 k.toNat) <<< (2 - x.exponent).toNat
  let quarter := (Nat.pow 10 (-k).toNat) <<< (x.exponent - 2).toNat
  let low := (4 * x.mantissa - below) * quarter
  let high := (4 * x.mantissa + 2) * quarter
  if x.mantissa % 2 = 0 then low ≤ decimal && decimal ≤ high else low < decimal && decimal < high

/-- `x / 10 ^ k` as a numerator and a denominator. -/
def onGrid (x : Double) (k : Int) : Nat × Nat :=
  (x.fraction.1 * Nat.pow 10 (-k).toNat, x.fraction.2 * Nat.pow 10 k.toNat)

/-- The point of the grid of multiples of `10 ^ k` that is read as `x` and nearest to it. -/
def pointOn? (x : Double) (k : Int) : Option Nat :=
  let (n, d) := x.onGrid k
  let c := n / d
  match x.isReadAs c k, x.isReadAs (c + 1) k with
  | true, true => some (if 2 * (n % d) < d then c else c + 1)
  | true, false => some c
  | false, true => some (c + 1)
  | false, false => none

/-- The coarsest grid with a point that is read as `x`, from the grid of `10 ^ k` on through `bound`
finer ones, and that point. -/
def shortestFrom (x : Double) : Nat → Int → Nat × Int
  | 0, k => ((x.onGrid k).1 / (x.onGrid k).2, k)
  | bound + 1, k =>
    match x.pointOn? k with
    | some c => (c, k)
    | none => shortestFrom x bound (k - 1)

/-- An exponent of ten above the number: a bit is a little more than 0.30102 digits. -/
def decimalBound (x : Double) : Int := (x.mantissa.log2 + x.exponent + 1) * 30103 / 100000 + 1

/-- The decimal with the fewest digits that is read as `x`. Seventeen digits are always enough, and
the search starts at most three grids above the first of them. -/
def shortest (x : Double) : Nat × Int := x.shortestFrom 20 x.decimalBound

/-- `c * 10 ^ k` without an exponent, with at least one digit behind the point. -/
def positional (c : Nat) (k : Int) : String :=
  let digits := Nat.toDigits 10 c
  if 0 ≤ k then String.ofList (digits ++ List.replicate k.toNat '0') ++ ".0"
  else
    let places := (-k).toNat
    let digits := List.replicate (places + 1 - digits.length) '0' ++ digits
    String.ofList (digits.take (digits.length - places)) ++ "." ++
      String.ofList (digits.drop (digits.length - places))

/-- The shortest decimal, written out. -/
def decimalText (x : Double) : String :=
  if x.mantissa = 0 then "0.0" else positional x.shortest.1 x.shortest.2

end DisplayEnv.Double
