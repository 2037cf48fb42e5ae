import RuntimeImage.HostName.Composition
import RuntimeImage.HostName.Folding
import RuntimeImage.HostName.Punycode
import RuntimeImage.HostName.Repertoire
import RuntimeImage.Text.Quoted

/-!
Labels of host names. One in ASCII stands as it is; any other is folded and composed, must then
keep to the repertoire and to one direction, and if it is not ASCII by then, it is written in
Punycode after `xn--`.
-/

namespace RuntimeImage.HostName

inductive Problem
  | emptyOrTooLong
  | tooLong
  | marked
  | prohibited (c : Char)
  | mixedDirections
  | openDirection
  deriving DecidableEq, Repr

def Problem.message : Problem → String
  | .emptyOrTooLong => "label empty or too long"
  | .tooLong => "label too long"
  | .marked => "Label starts with ACE prefix"
  | .prohibited c => "Invalid character " ++ Quoted.text (String.singleton c)
  | .mixedDirections => "Violation of BIDI requirement 2"
  | .openDirection => "Violation of BIDI requirement 3"

namespace Label

/-- Labels are shorter than this. -/
def limit : Nat := 64

def isAscii (cs : List Char) : Bool := cs.all (fun c => c.toNat < 128)

/-- What starts a label that is written in Punycode. -/
def mark : List Char := "xn--".toList

def checkLength (label : List Char) : Except Problem (List Char) :=
  if 0 < label.length ∧ label.length < limit then .ok label else .error .emptyOrTooLong

/-- A label with characters that are written from right to left starts and ends with such, and has
none that are written from left to right. -/
def checkDirection (label : List Char) : Except Problem Unit :=
  if !label.any Repertoire.rightToLeft.contains then .ok ()
  else if label.any Repertoire.leftToRight.contains then .error .mixedDirections
  else if label.head?.any Repertoire.rightToLeft.contains ∧
      label.getLast?.any Repertoire.rightToLeft.contains then .ok ()
  else .error .openDirection

/-- A label in the form in which labels are compared. -/
def prepare (label : List Char) : Except Problem (List Char) :=
  let plain := Composition.compose (Folding.fold label)
  match plain.find? Repertoire.prohibited.contains with
  | some c => .error (.prohibited c)
  | none =>
    match checkDirection plain with
    | .error problem => .error problem
    | .ok () => .ok plain

def ascii (label : List Char) : Except Problem (List Char) :=
  if isAscii label then checkLength label
  else
    match prepare label with
    | .error problem => .error problem
    | .ok plain =>
      if isAscii plain then checkLength plain
      else if mark.isPrefixOf plain then .error .marked
      else checkLength (mark ++ Punycode.encode plain)

end Label

end RuntimeImage.HostName
