import RuntimeImage.Text.Blank
import RuntimeImage.Text.DecimalDigit

/-!
Integers in free form: blanks around, perhaps a sign, and decimal digits of any script in groups
that single underscores separate. The number of digits is limited.
-/

namespace RuntimeImage.Integer

/-- Integers may have this many digits. -/
def maxDigits : Nat := 4300

def tooLongMessage (digits : Nat) : String :=
  "Exceeds the limit (" ++ toString maxDigits ++
    " digits) for integer string conversion: value has " ++ toString digits ++
    " digits; use sys.set_int_max_str_digits() to increase the limit"

/-- An integer with more digits than that has no text. -/
def isLong (n : Int) : Bool := maxDigits < (Nat.toDigits 10 n.natAbs).length

def noTextMessage : String :=
  "Exceeds the limit (" ++ toString maxDigits ++
    " digits) for integer string conversion; use sys.set_int_max_str_digits() to increase the limit"

/-- The blanks around an integer: all but the information separators. -/
def isMargin (c : Char) : Bool := Blank.isBlank c && !(0x1C ≤ c.toNat && c.toNat ≤ 0x1F)

/-- The values of the digits, high digit first. -/
def digits? (cs : List Char) : Option (List Nat) :=
  let groups := cs.splitOn '_'
  if [] ∈ groups then none else groups.flatten.mapM DecimalDigit.value?

def magnitude? (cs : List Char) : Option Nat := do
  let digits ← digits? cs
  if maxDigits < digits.length then none else some (digits.foldl (fun n d => 10 * n + d) 0)

def ofChars? (cs : List Char) : Option Int :=
  match Blank.trimBy isMargin cs with
  | '+' :: rest => (magnitude? rest).map Int.ofNat
  | '-' :: rest => (magnitude? rest).map (fun n => -Int.ofNat n)
  | rest => (magnitude? rest).map Int.ofNat

end RuntimeImage.Integer
