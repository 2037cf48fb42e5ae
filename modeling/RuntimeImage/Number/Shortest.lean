import RuntimeImage.Number.Binary64

/-!
The shortest decimal text of a binary number. Of all decimals that round to the value those with
the fewest digits are considered, and of these the nearest is taken; a tie goes to the even digit.
Exponents from -4 up to, and not including, 16 are written positionally.
-/

namespace RuntimeImage.Shortest

open Binary64

/-- Twice-scaled bounds `low ≤ 4 v ≤ high` of the decimals that round to `v = m * 2 ^ e`, over
`2 ^ e`: a half step each way, or a quarter step down where the exponent changes. -/
def bounds (m : Nat) (e : Int) : Nat × Nat :=
  (if m = leading ∧ -1074 < e then 4 * m - 1 else 4 * m - 2, 4 * m + 2)

/-- Exact value and bounds over a common denominator, which holds a factor of four. -/
structure Span where
  low : Nat
  value : Nat
  high : Nat
  den : Nat
  closed : Bool

def span (m : Nat) (e : Int) : Span :=
  let (low, high) := bounds m e
  let (up, down) := scale 2 1 1 (-e)
  ⟨low * up, 4 * m * up, high * up, 4 * down, m % 2 == 0⟩

def Span.contains (s : Span) (num den : Nat) : Bool :=
  if s.closed then s.low * den ≤ num * s.den && num * s.den ≤ s.high * den
  else s.low * den < num * s.den && num * s.den < s.high * den

/-- The greatest `k` with `10 ^ k ≤ num / den`, for positive arguments. -/
def floorLog10 (num den : Nat) : Int :=
  let k : Int := (decimalLength num : Int) - decimalLength den
  let (n, d) := scale 10 num den k
  if d ≤ n then k else k - 1

/-- The decimal on the grid of `10 ^ p` that lies in the span and is nearest to its value. -/
def onGrid (s : Span) (p : Int) : Option Nat :=
  let (up, down) := scale 10 1 1 (-p)
  let num := s.value * down
  let den := s.den * up
  let below := num / den
  let nearest := roundDiv num den
  let further := if nearest = below then below + 1 else below
  if s.contains (nearest * up) down then some nearest
  else if s.contains (further * up) down then some further
  else none

/-- Digits and exponent of the shortest decimal, least count first. -/
def decimal (m : Nat) (e : Int) : Nat × Int :=
  let s := span m e
  let k := floorLog10 s.value s.den
  let grids := (List.range 17).map (fun n : Nat => k - (n : Int))
  (grids.findSome? (fun p => (onGrid s p).map (fun d => (d, p)))).getD (m, 0)

/-- Writes a positive decimal `d * 10 ^ p`. -/
def write (d : Nat) (p : Int) : List Char :=
  let ds := Nat.toDigits 10 d
  let ds := (ds.reverse.dropWhile (· = '0')).reverse
  let point : Int := p + decimalLength d
  if -4 < point ∧ point ≤ 0 then
    '0' :: '.' :: (List.replicate (-point).toNat '0' ++ ds)
  else if 0 < point ∧ point ≤ 16 then
    let whole := point.toNat
    if ds.length ≤ whole then ds ++ List.replicate (whole - ds.length) '0' ++ ['.', '0']
    else ds.take whole ++ '.' :: ds.drop whole
  else
    let exponent := point - 1
    let tail := if ds.length ≤ 1 then [] else '.' :: ds.drop 1
    let digits := Nat.toDigits 10 exponent.natAbs
    ds.take 1 ++ tail ++ ['e', if exponent < 0 then '-' else '+'] ++
      (if digits.length < 2 then '0' :: digits else digits)

/-- The text of a value; `notANumber` and `infinity` are the words for what has no digits. -/
def chars (notANumber infinity : String) : Binary64 → List Char
  | .notANumber => notANumber.toList
  | .infinite negative => (if negative then ['-'] else []) ++ infinity.toList
  | .finite negative m e =>
    (if negative then ['-'] else []) ++
      (if m = 0 then ['0', '.', '0'] else let (d, p) := decimal m e; write d p)

end RuntimeImage.Shortest
