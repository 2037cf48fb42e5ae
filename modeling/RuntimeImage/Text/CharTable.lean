import RuntimeImage.Text.Hex

/-!
Tables of characters, read from a text of rows in hexadecimal. The row `41-5A` covers a range and
`100-12E/2` every second code point of one. After `>` stands the image of the first: `41-5A>61`
moves the whole range by the same distance, `DF>73+73` maps to two characters, and `AD>` to none.
-/

namespace RuntimeImage

structure CharTable.Row where
  first : Nat
  last : Nat
  step : Nat
  image : List Nat
  deriving DecidableEq, Repr

abbrev CharTable := List CharTable.Row

namespace CharTable

def number (cs : List Char) : Nat := cs.foldl (fun n c => 16 * n + (Hex.value? c).getD 0) 0

/-- What stands before the first `mark`, and what stands after it. -/
def cut (mark : Char) (cs : List Char) : List Char × List Char :=
  (cs.takeWhile (· ≠ mark), (cs.dropWhile (· ≠ mark)).drop 1)

def Row.ofChars (cs : List Char) : Row :=
  let (covered, image) := cut '>' cs
  let (range, step) := cut '/' covered
  let (first, last) := cut '-' range
  { first := number first
    last := number (if last = [] then first else last)
    step := if step = [] then 1 else number step
    image := if image = [] then [] else (image.splitOn '+').map number }

/-- Blanks and line breaks stand between the rows. -/
def ofText (s : String) : CharTable :=
  (((s.toList.map (fun c => if c = '\n' then ' ' else c)).splitOn ' ').filter (· ≠ [])).map
    Row.ofChars

def Row.covers (r : Row) (c : Char) : Bool :=
  r.first ≤ c.toNat && c.toNat ≤ r.last && (c.toNat - r.first) % r.step = 0

def contains (t : CharTable) (c : Char) : Bool := t.any (·.covers c)

/-- The image of a character; one that no row covers stands for itself. -/
def image (t : CharTable) (c : Char) : List Char :=
  match t.find? (·.covers c) with
  | some r => r.image.map (fun n => Char.ofNat (n + (c.toNat - r.first)))
  | none => [c]

end CharTable

end RuntimeImage
