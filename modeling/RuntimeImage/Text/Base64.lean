import RuntimeImage.Text.Hex

/-!
Base64, read leniently: bytes outside the alphabet are passed over, and reading ends where padding
completes a group of four.
-/

namespace RuntimeImage.Base64

inductive Problem
  | incorrectPadding
  | loneDigit (digits : Nat)
  deriving DecidableEq, Repr

def Problem.message : Problem → String
  | .incorrectPadding => "Incorrect padding"
  | .loneDigit digits =>
    "Invalid base64-encoded string: number of data characters (" ++ toString digits ++
      ") cannot be 1 more than a multiple of 4"

def value? (b : UInt8) : Option Nat :=
  let n := b.toNat
  if 0x41 ≤ n ∧ n ≤ 0x5A then some (n - 0x41)
  else if 0x61 ≤ n ∧ n ≤ 0x7A then some (n - 0x47)
  else if 0x30 ≤ n ∧ n ≤ 0x39 then some (n + 4)
  else if n = 0x2B then some 62
  else if n = 0x2F then some 63
  else none

/-- The digits that count. `pads` is the run of padding since the last digit. -/
def digits (place pads : Nat) : Bytes → List Nat
  | [] => []
  | b :: rest =>
    if b = 0x3D then
      if 2 ≤ place ∧ 4 ≤ place + (pads + 1) then []
      else digits place (if 2 ≤ place then pads + 1 else pads) rest
    else
      match value? b with
      | none => digits place pads rest
      | some v => v :: digits ((place + 1) % 4) 0 rest

/-- Whether padding completes the last group. -/
def isClosed (place pads : Nat) : Bytes → Bool
  | [] => false
  | b :: rest =>
    if b = 0x3D then
      if 2 ≤ place ∧ 4 ≤ place + (pads + 1) then true
      else isClosed place (if 2 ≤ place then pads + 1 else pads) rest
    else
      match value? b with
      | none => isClosed place pads rest
      | some _ => isClosed ((place + 1) % 4) 0 rest

def assemble : List Nat → Bytes
  | a :: b :: c :: d :: rest =>
    UInt8.ofNat (4 * a + b / 16) :: UInt8.ofNat (b % 16 * 16 + c / 4) ::
      UInt8.ofNat (c % 4 * 64 + d) :: assemble rest
  | [a, b, c] => [UInt8.ofNat (4 * a + b / 16), UInt8.ofNat (b % 16 * 16 + c / 4)]
  | [a, b] => [UInt8.ofNat (4 * a + b / 16)]
  | _ => []

def decode (bytes : Bytes) : Except Problem Bytes :=
  let ds := digits 0 0 bytes
  if isClosed 0 0 bytes ∨ ds.length % 4 = 0 then .ok (assemble ds)
  else if ds.length % 4 = 1 then .error (.loneDigit ds.length)
  else .error .incorrectPadding

end RuntimeImage.Base64
