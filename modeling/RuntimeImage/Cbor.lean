import RuntimeImage.Json.Value
import RuntimeImage.Text.Utf8

/-!
Canonical CBOR. Lengths are definite and every head is the shortest that holds its number. The
members of a map stand in the order of their encoded names, shorter ones first.
-/

namespace RuntimeImage.Cbor

open Json

/-- A major type and its argument. -/
def head (major n : Nat) : Bytes :=
  let first (info : Nat) : UInt8 := UInt8.ofNat (32 * major + info)
  if n < 24 then [first n]
  else if n < 0x100 then first 24 :: Bytes.bigEndian 1 n
  else if n < 0x10000 then first 25 :: Bytes.bigEndian 2 n
  else if n < 0x100000000 then first 26 :: Bytes.bigEndian 4 n
  else first 27 :: Bytes.bigEndian 8 n

/-- A natural number under a major type, or as a tagged byte string when it needs over 64 bits. -/
def natural (major tag n : Nat) : Bytes :=
  if n < 0x10000000000000000 then head major n
  else head 6 tag ++ head 2 (Bytes.width n) ++ Bytes.minimal n

def int : Int → Bytes
  | .ofNat n => natural 0 2 n
  | .negSucc n => natural 1 3 n

def text (s : String) : Bytes :=
  let bytes := Utf8.encode s
  head 3 bytes.length ++ bytes

def lexLE : Bytes → Bytes → Bool
  | [], _ => true
  | _ :: _, [] => false
  | a :: as, b :: bs => a < b || (a == b && lexLE as bs)

/-- Shorter encodings first, and those of one length bytewise. -/
def nameLE (a b : Bytes × Bytes) : Bool :=
  a.1.length < b.1.length || (a.1.length == b.1.length && lexLE a.1 b.1)

mutual

def encode : Value → Bytes
  | .null => [0xF6]
  | .bool b => [if b then 0xF5 else 0xF4]
  | .int n => int n
  | .real x => 0xFB :: Bytes.bigEndian 8 x.toBits
  | .text s => text s
  | .list items => head 4 items.length ++ encodeItems items
  | .object members =>
    head 5 members.length ++
      ((encodeMembers members).mergeSort nameLE).flatMap (fun m => m.1 ++ m.2)

def encodeItems : List Value → Bytes
  | [] => []
  | v :: rest => encode v ++ encodeItems rest

/-- The encoded name and value of each member. -/
def encodeMembers : List (String × Value) → List (Bytes × Bytes)
  | [] => []
  | (k, v) :: rest => (text k, encode v) :: encodeMembers rest

end

end RuntimeImage.Cbor
