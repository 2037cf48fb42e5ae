/-!
Binary floating point of 64 bits, as the numbers it denotes. A finite value is `m * 2 ^ e` with
`m < 2 ^ 53` and `-1074 ≤ e ≤ 971`, and `m` is below `2 ^ 52` only at the least exponent.
-/

namespace RuntimeImage

inductive Binary64
  | notANumber
  | infinite (negative : Bool)
  | finite (negative : Bool) (m : Nat) (e : Int)
  deriving DecidableEq, Repr

namespace Binary64

/-- The weight of a normal number's leading bit, `2 ^ 52`. -/
def leading : Nat := 0x10000000000000

/-- The quotient to the nearest integer, a half to the even one. -/
def roundDiv (num den : Nat) : Nat :=
  let q := num / den
  let r := num % den
  if den < 2 * r ∨ (2 * r = den ∧ q % 2 = 1) then q + 1 else q

/-- The fraction `num / den / base ^ e`, as numerator and denominator. -/
def scale (base num den : Nat) (e : Int) : Nat × Nat :=
  if 0 ≤ e then (num, den * base.pow e.toNat) else (num * base.pow (-e).toNat, den)

/-- The greatest `k` with `2 ^ k ≤ num / den`, for positive arguments. -/
def floorLog2 (num den : Nat) : Int :=
  let k : Int := (num.log2 : Int) - den.log2
  let (n, d) := scale 2 num den k
  if d ≤ n then k else k - 1

/-- The value nearest to `num / den`, a tie to the even significand. -/
def ofRatio (negative : Bool) (num den : Nat) : Binary64 :=
  if num = 0 then .finite negative 0 (-1074)
  else
    let e := max (floorLog2 num den - 52) (-1074)
    let (n, d) := scale 2 num den e
    let m := roundDiv n d
    let (m, e) := if m = 2 * leading then (leading, e + 1) else (m, e)
    if 971 < e then .infinite negative else .finite negative m e

/-- The number of decimal digits, at least one. -/
def decimalLength (n : Nat) : Nat := (Nat.toDigits 10 n).length

/-- The value nearest to `digits * 10 ^ exponent`. Far outside the range the answer is known without
the power. -/
def ofDecimal (negative : Bool) (digits : Nat) (exponent : Int) : Binary64 :=
  let magnitude := exponent + decimalLength digits
  if digits = 0 ∨ magnitude < -330 then .finite negative 0 (-1074)
  else if 310 < magnitude then .infinite negative
  else
    let (num, den) := scale 10 digits 1 (-exponent)
    ofRatio negative num den

def signBit (negative : Bool) : Nat := if negative then 0x8000000000000000 else 0

/-- The bits of the interchange format, sign first. -/
def toBits : Binary64 → Nat
  | .notANumber => 0x7FF8000000000000
  | .infinite negative => signBit negative + 0x7FF0000000000000
  | .finite negative m e =>
    signBit negative + (if m < leading then m else (e + 1075).toNat * leading + (m - leading))

/-- Whether the value is the integer `n`. Both zeros are. -/
def isInt (x : Binary64) (n : Int) : Bool :=
  match x with
  | .finite negative m e =>
    let (num, den) := scale 2 m 1 (-e)
    (if negative then -(num : Int) else num) == n * den
  | _ => false

/-- Numerical equality: both zeros are equal, and what is no number equals nothing. -/
def agrees : Binary64 → Binary64 → Bool
  | .notANumber, _ => false
  | .finite s m e, .finite t n f => (m == 0 && n == 0) || (s == t && m == n && e == f)
  | x, y => x == y

end Binary64

end RuntimeImage
