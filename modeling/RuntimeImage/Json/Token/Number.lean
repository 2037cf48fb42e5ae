import RuntimeImage.Json.Token
import RuntimeImage.Number.Integer

/-!
Numbers. A fraction or an exponent makes a number real; otherwise it is an integer, of any size up
to a limit on its digits. A fraction or exponent without digits belongs to what follows the number.
-/

namespace RuntimeImage.Json.Token

/-- The digits at the head of a text. -/
def digits (cs : List Char) : List Char := cs.takeWhile Char.isDigit

/-- The digits of a fraction: a point and at least one digit. -/
def fraction (cs : List Char) : List Char :=
  match cs with
  | '.' :: rest => digits rest
  | _ => []

/-- An exponent: its sign, its digits, and its length, zero when there is none. -/
def exponent (cs : List Char) : Bool × List Char × Nat :=
  match cs with
  | e :: rest =>
    if e = 'e' ∨ e = 'E' then
      match rest with
      | '+' :: more => let ds := digits more; (false, ds, if ds = [] then 0 else ds.length + 2)
      | '-' :: more => let ds := digits more; (true, ds, if ds = [] then 0 else ds.length + 2)
      | _ => let ds := digits rest; (false, ds, if ds = [] then 0 else ds.length + 1)
    else (false, [], 0)
  | [] => (false, [], 0)

def natOf (ds : List Char) : Nat := Nat.ofDigitChars 10 ds 0

/-- A number without its sign, and its length. A leading zero is the whole integer part. -/
def readNumber (negative : Bool) (cs : List Char) : Option (Token × Nat) :=
  let whole := match cs with | '0' :: _ => ['0'] | _ => digits cs
  if whole = [] then none
  else
    let afterWhole := cs.drop whole.length
    let frac := fraction afterWhole
    let fracLength := if frac = [] then 0 else frac.length + 1
    let (down, exp, expLength) := exponent (afterWhole.drop fracLength)
    let length := whole.length + fracLength + expLength
    if fracLength + expLength = 0 then
      if Integer.maxDigits < whole.length then some (longInt whole.length, length)
      else some (int (if negative then -(natOf whole : Int) else natOf whole), length)
    else
      let e : Int := if down then -(natOf exp : Int) else natOf exp
      some (real (Binary64.ofDecimal negative (natOf (whole ++ frac)) (e - frac.length)), length)

end RuntimeImage.Json.Token
