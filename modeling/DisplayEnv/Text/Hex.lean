/-!
# Hexadecimal digits

Numbers and bytes in base 16, written with lower-case digits.

* `low`, `fixed`: a number on a given count of places.
* `ofBytes`, `bytes?`: bytes as pairs of digits, and back.
-/

namespace DisplayEnv.Hex

/-- The lower-case digit of value `d`, for `d` below 16. -/
def digit (d : Nat) : Char :=
  if d < 10 then Char.ofNat (48 + d) else Char.ofNat (87 + d)

/-- The last `width` base-16 digits of `n`, most significant first. -/
def low : Nat → Nat → List Char
  | 0, _ => []
  | width + 1, n => low width (n / 16) ++ [digit (n % 16)]

/-- `n` in base 16 without leading zeros. -/
def plain (n : Nat) : String := String.ofList (Nat.toDigits 16 n)

/-- `n` modulo `16 ^ width`, on exactly `width` places. -/
def fixed (width n : Nat) : String := String.ofList (low width n)

/-- The value of a hexadecimal digit of either case. -/
def value? (c : Char) : Option Nat :=
  if '0' ≤ c ∧ c ≤ '9' then some (c.toNat - 48)
  else if 'a' ≤ c ∧ c ≤ 'f' then some (c.toNat - 87)
  else if 'A' ≤ c ∧ c ≤ 'F' then some (c.toNat - 55)
  else none

/-- Bytes as pairs of digits. -/
def ofBytes (bytes : List UInt8) : List Char := bytes.flatMap fun b => low 2 b.toNat

/-- The bytes that pairs of digits stand for. -/
def bytes? : List Char → Option (List UInt8)
  | [] => some []
  | [_] => none
  | a :: b :: rest => do
    return UInt8.ofNat ((← value? a) * 16 + (← value? b)) :: (← bytes? rest)

theorem length_low (width n : Nat) : (low width n).length = width := by
  induction width generalizing n with
  | zero => rfl
  | succ w ih => simp [low, ih]

end DisplayEnv.Hex
