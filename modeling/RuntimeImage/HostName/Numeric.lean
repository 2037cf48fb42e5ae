import RuntimeImage.Text.Hex

/-!
IPv4 addresses in numbers: up to four, with dots between them, each decimal, octal after a zero or
hexadecimal after `0x`. The last number fills the bytes that the others leave.
-/

namespace RuntimeImage.HostName.Numeric

/-- A number in a base, if there is at least one digit and nothing else. -/
def digits? (base : Nat) (cs : List Char) : Option Nat :=
  if cs = [] then none
  else cs.foldlM (fun n c => do
    let d ← Hex.value? c
    if d < base then some (base * n + d) else none) 0

def number? : List Char → Option Nat
  | '0' :: 'x' :: rest => digits? 16 rest
  | '0' :: 'X' :: rest => digits? 16 rest
  | '0' :: rest => if rest = [] then some 0 else digits? 8 rest
  | cs => digits? 10 cs

/-- One more than the greatest last number after `n` others. -/
def lastLimit (n : Nat) : Nat := [0x100000000, 0x1000000, 0x10000, 0x100].getD n 0

/-- The address as one number, its first byte the highest. -/
def address? (cs : List Char) : Option Nat := do
  let numbers ← (cs.splitOn '.').mapM number?
  let last ← numbers.getLast?
  let bytes := numbers.dropLast
  if bytes.all (· < 0x100) ∧ last < lastLimit bytes.length then
    some ((bytes ++ List.replicate (4 - bytes.length) 0).foldl (fun n b => 0x100 * n + b) 0 + last)
  else none

end RuntimeImage.HostName.Numeric
