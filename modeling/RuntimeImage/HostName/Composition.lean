import RuntimeImage.HostName.Marks

/-!
Canonical composition. The marks after a character are put in the order of their classes, and those
that have a joint form with it are joined, unless another of the same class stands before them.
-/

namespace RuntimeImage.HostName.Composition

/-- Moves a mark behind the marks of lower classes that follow it. -/
def place (c : Char) : List Char → List Char
  | [] => [c]
  | d :: rest =>
    if Marks.classOf d ≠ 0 ∧ Marks.classOf d < Marks.classOf c then d :: place c rest
    else c :: d :: rest

/-- Sorts each run of marks by class; marks of one class keep their order. -/
def order (cs : List Char) : List Char := cs.foldr place []

/-- The syllable that a leading consonant and a vowel make, or such a syllable and a trailing
consonant. -/
def syllable? (a b : Char) : Option Char :=
  let m := a.toNat
  let n := b.toNat
  if 0x1100 ≤ m ∧ m < 0x1113 ∧ 0x1161 ≤ n ∧ n < 0x1176 then
    some (Char.ofNat (0xAC00 + ((m - 0x1100) * 21 + (n - 0x1161)) * 28))
  else if 0xAC00 ≤ m ∧ m < 0xD7A4 ∧ (m - 0xAC00) % 28 = 0 ∧ 0x11A7 < n ∧ n < 0x11C3 then
    some (Char.ofNat (m + (n - 0x11A7)))
  else none

def joint? (a b : Char) : Option Char := (syllable? a b).or (Marks.joint? a b)

/-- Joins to a character those of the following that it has joint forms with. `kept` holds the marks
that were passed over, last one first; what follows them joins only if its class is above theirs. -/
def joinTo (base : Char) (kept : List Char) : List Char → List Char
  | [] => base :: kept.reverse
  | c :: rest =>
    let free := match kept with
      | [] => true
      | last :: _ => decide (Marks.classOf last < Marks.classOf c)
    match if free then joint? base c else none with
    | some joint => joinTo joint kept rest
    | none =>
      if Marks.classOf c = 0 then base :: (kept.reverse ++ joinTo c [] rest)
      else joinTo base (c :: kept) rest

def compose (cs : List Char) : List Char :=
  match order cs with
  | [] => []
  | c :: rest => joinTo c [] rest

end RuntimeImage.HostName.Composition
