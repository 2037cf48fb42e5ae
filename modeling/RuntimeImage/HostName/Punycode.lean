/-!
Punycode: a text in ASCII letters, digits and hyphens. The ASCII characters come first, as they are;
for each of the others, in the order of their code points, follows how far it lies from the one
before, counted in steps through the places of the text and the code points.
-/

namespace RuntimeImage.HostName.Punycode

/-- The digits are the letters, for 0 to 25, and then the decimal digits. -/
def digit (n : Nat) : Char :=
  if n < 26 then Char.ofNat (0x61 + n) else Char.ofNat (0x30 + (n - 26))

/-- The digits below the threshold of their place end a number. -/
def threshold (place bias : Nat) : Nat :=
  if place ≤ bias then 1 else if bias + 26 ≤ place then 26 else place - bias

theorem threshold_pos (place bias : Nat) : 1 ≤ threshold place bias := by
  unfold threshold
  split
  · omega
  · split <;> omega

/-- The digits of a number from a place on, low digit first. -/
def digitsFrom (bias place n : Nat) : List Char :=
  let t := threshold place bias
  if n < t then [digit n]
  else digit (t + (n - t) % (36 - t)) :: digitsFrom bias (place + 36) ((n - t) / (36 - t))
termination_by n
decreasing_by
  have := threshold_pos place bias
  exact Nat.lt_of_le_of_lt (Nat.div_le_self _ _) (by omega)

/-- The places by which the thresholds are moved, for numbers of the size of `n`. -/
def biasFor (n place : Nat) : Nat :=
  if 455 < n then biasFor (n / 35) (place + 36) else place + 36 * n / (n + 38)
termination_by n
decreasing_by exact Nat.div_lt_self (by omega) (by omega)

/-- The bias after a number, of which the first is damped most. -/
def adapt (n written : Nat) (first : Bool) : Nat :=
  let m := if first then n / 700 else n / 2
  biasFor (m + m / written) 0

/-- What has been written, and the distance gone since. -/
structure Writer where
  output : List Char
  distance : Nat
  bias : Nat
  /-- How many characters of the text are written. -/
  written : Nat

/-- Passes a place of the text while the characters with the code point `n` are written. -/
def Writer.pass (basic n : Nat) (w : Writer) (c : Char) : Writer :=
  if c.toNat < n then { w with distance := w.distance + 1 }
  else if c.toNat = n then
    { output := w.output ++ digitsFrom w.bias 36 w.distance
      distance := 0
      bias := adapt w.distance (w.written + 1) (w.written = basic)
      written := w.written + 1 }
  else w

/-- Writes the characters with the code points `ns`, which ascend; `n` is the next to be tried. -/
def Writer.writeAll (basic : Nat) (cs : List Char) (n : Nat) (w : Writer) : List Nat → Writer
  | [] => w
  | m :: ns =>
    let start := { w with distance := w.distance + (m - n) * (w.written + 1) }
    let done := cs.foldl (Writer.pass basic m) start
    writeAll basic cs (m + 1) { done with distance := done.distance + 1 } ns

def isBasic (c : Char) : Bool := c.toNat < 128

def encode (cs : List Char) : List Char :=
  let basic := cs.filter isBasic
  let others := (((cs.filter (!isBasic ·)).map Char.toNat).mergeSort (· ≤ ·)).eraseDups
  let writer : Writer := ⟨[], 0, 72, basic.length⟩
  (if basic = [] then [] else basic ++ ['-']) ++
    (writer.writeAll basic.length cs 128 others).output

end RuntimeImage.HostName.Punycode
