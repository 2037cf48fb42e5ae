/-!
Byte strings, and numbers written in base 256 with the most significant byte first.
-/

namespace RuntimeImage

abbrev Bytes := List UInt8

namespace Bytes

/-- The length of the longest byte string there can be. -/
def sizeLimit : Nat := 0x7FFFFFFFFFFFFFFF

/-- The `width` low bytes of a number. -/
def bigEndian : Nat → Nat → Bytes
  | 0, _ => []
  | w + 1, n => bigEndian w (n / 256) ++ [UInt8.ofNat n]

/-- The number of bytes that hold `n`; none for zero. -/
def width (n : Nat) : Nat := if n = 0 then 0 else n.log2 / 8 + 1

/-- The fewest bytes that hold a number. -/
def minimal (n : Nat) : Bytes := bigEndian (width n) n

/-- What up to `n` reads give, each of them of `size` bytes or of what is left, if anything is. -/
def reads (size : Nat) : Nat → Bytes → List Bytes
  | 0, _ => []
  | _ + 1, [] => []
  | n + 1, bytes => bytes.take size :: reads size n (bytes.drop size)

/-- A byte string as it is read to its end. Each read gets at least one byte. -/
def chunks (size : Nat) (bytes : Bytes) : List Bytes := reads size bytes.length bytes

@[simp] theorem length_bigEndian (w n : Nat) : (bigEndian w n).length = w := by
  induction w generalizing n with
  | zero => rfl
  | succ w ih => simp [bigEndian, ih]

end Bytes

end RuntimeImage
