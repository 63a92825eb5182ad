import DisplayEnv.Number.Round
import DisplayEnv.Text.Hex

/-!
# Double-precision fractions

A `Double` is a non-negative number `mantissa * 2 ^ exponent`. A positive one in normal form has `2
^ 52 ≤ mantissa < 2 ^ 53`; at the least exponent, -1074, the mantissa may be less.
`Double.ofQuotient` rounds an exact quotient to the nearest such number, an exact half going to the
even mantissa, so arithmetic on doubles is exact arithmetic on their values followed by one
rounding. There is no greatest double here: `isFinite` says whether a number is within the format.
-/

namespace DisplayEnv

/-- The number `mantissa * 2 ^ exponent`. -/
structure Double where
  mantissa : Nat
  exponent : Int
  deriving DecidableEq, Repr

namespace Double

/-- The least mantissa in normal form: its one bit, the 53rd, is not written into the format. -/
def leastNormal : Nat := 0x10000000000000

def zero : Double := ⟨0, 0⟩

/-- The numerator of `n / d / 2 ^ e` over `scaleDen d e`. -/
def scaleNum (n : Nat) (e : Int) : Nat := n <<< (-e).toNat

/-- The denominator of `n / d / 2 ^ e` over which `scaleNum n e` stands. -/
def scaleDen (d : Nat) (e : Int) : Nat := d <<< e.toNat

/-- The least exponent. -/
def minExponent : Int := -1074

/-- The exponent at which `n / d` has a mantissa of 53 bits, or the least one. -/
def exponentOf (n d : Nat) : Int :=
  let e : Int := (n.log2 : Int) - (d.log2 : Int) - 52
  max minExponent (if scaleNum n e / scaleDen d e < leastNormal then e - 1 else e)

/-- The double nearest to `n / d`. -/
def ofQuotient (n d : Nat) : Double :=
  if n = 0 then zero
  else
    let e := exponentOf n d
    let m := roundQuotient (scaleNum n e) (scaleDen d e)
    if m = 0 then zero else if m = 2 * leastNormal then ⟨leastNormal, e + 1⟩ else ⟨m, e⟩

/-- The double nearest to a count. -/
def ofNat (n : Nat) : Double := ofQuotient n 1

/-- The value as a fraction: numerator and denominator. -/
def fraction (x : Double) : Nat × Nat :=
  (x.mantissa <<< x.exponent.toNat, 1 <<< (-x.exponent).toNat)

/-- Whether the exponent is within the format. -/
def isFinite (x : Double) : Bool := x.exponent ≤ 971

/-- The double nearest to the product of two doubles. -/
def mul (x y : Double) : Double :=
  ofQuotient (x.fraction.1 * y.fraction.1) (x.fraction.2 * y.fraction.2)

/-- The double nearest to the quotient of two doubles. -/
def div (x y : Double) : Double :=
  ofQuotient (x.fraction.1 * y.fraction.2) (x.fraction.2 * y.fraction.1)

/-- The double nearest to a whole multiple of a double. -/
def scale (k : Nat) (x : Double) : Double := ofQuotient (k * x.fraction.1) x.fraction.2

/-- The 64 bits of the number: sign, eleven bits of exponent, 52 bits of mantissa. -/
def bits (x : Double) : Nat :=
  if x.mantissa < leastNormal then x.mantissa
  else (x.exponent + 52 + 1023).toNat * leastNormal + (x.mantissa - leastNormal)

/-- The bits as sixteen hexadecimal digits. -/
def bitsText (x : Double) : String := Hex.fixed 16 x.bits

/-- The number with one digit after the point, an exact half going to the even digit. -/
def textOneDecimal (x : Double) : String :=
  let tenths := roundQuotient (10 * x.fraction.1) x.fraction.2
  toString (tenths / 10) ++ "." ++ toString (tenths % 10)

end Double

end DisplayEnv
