/-!
Blank characters: those with Unicode's White_Space property, and the four information separators.
-/

namespace RuntimeImage.Blank

def isBlank (c : Char) : Bool :=
  let n := c.toNat
  (0x09 ≤ n && n ≤ 0x0D) || (0x1C ≤ n && n ≤ 0x20) || n == 0x85 || n == 0xA0 || n == 0x1680 ||
    (0x2000 ≤ n && n ≤ 0x200A) || n == 0x2028 || n == 0x2029 || n == 0x202F || n == 0x205F ||
    n == 0x3000

/-- The text without what holds at its start and at its end. -/
def trimBy (p : Char → Bool) (cs : List Char) : List Char :=
  ((cs.dropWhile p).reverse.dropWhile p).reverse

/-- The text without its leading and trailing blanks. -/
def trim (cs : List Char) : List Char := trimBy isBlank cs

end RuntimeImage.Blank
