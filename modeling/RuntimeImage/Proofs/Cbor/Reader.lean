import RuntimeImage.Cbor
import RuntimeImage.Proofs.Bytes

/-!
A reader of CBOR. It accepts heads of every width and members in any order, so that reading back
says something about the bytes and not about the writer. Floats are left out, and so are lengths
that are not stated in advance.
-/

namespace RuntimeImage.Cbor

open Json

structure Head where
  major : Nat
  /-- The low bits of the first byte. -/
  info : Nat
  argument : Nat
  deriving DecidableEq, Repr

/-- The number of bytes that hold an argument which does not fit in the first byte. -/
def argumentWidth : Nat → Option Nat
  | 24 => some 1
  | 25 => some 2
  | 26 => some 4
  | 27 => some 8
  | _ => none

def takeBytes (n : Nat) (bytes : Bytes) : Option (Bytes × Bytes) :=
  if n ≤ bytes.length then some (bytes.take n, bytes.drop n) else none

def readHead : Bytes → Option (Head × Bytes)
  | [] => none
  | b :: rest =>
    let major := b.toNat / 32
    let info := b.toNat % 32
    if info < 24 then some (⟨major, info, info⟩, rest)
    else do
      let width ← argumentWidth info
      let (bytes, rest) ← takeBytes width rest
      return (⟨major, info, Bytes.value bytes⟩, rest)

/-- The text of `n` bytes. -/
def readChars (n : Nat) (bytes : Bytes) : Option (String × Bytes) := do
  let (content, rest) ← takeBytes n bytes
  match Utf8.decode content with
  | .ok s => return (s, rest)
  | .error _ => none

/-- The number in the byte string that follows a tag. -/
def readBignum (bytes : Bytes) : Option (Nat × Bytes) := do
  let (h, rest) ← readHead bytes
  if h.major = 2 then
    let (content, rest) ← takeBytes h.argument rest
    return (Bytes.value content, rest)
  else none

section

variable {α : Type} (reader : Bytes → Option (α × Bytes))

def readMany : Nat → Bytes → Option (List α × Bytes)
  | 0, bytes => some ([], bytes)
  | n + 1, bytes => do
    let (a, rest) ← reader bytes
    let (as, rest) ← readMany n rest
    return (a :: as, rest)

def readMember (bytes : Bytes) : Option ((String × α) × Bytes) := do
  let (h, rest) ← readHead bytes
  if h.major = 3 then
    let (name, rest) ← readChars h.argument rest
    let (a, rest) ← reader rest
    return ((name, a), rest)
  else none

end

/-- The item at the front of the bytes, nested at most `depth` deep, and the bytes behind it. The
members of a map come in code-point order of their names. -/
def readItem : Nat → Bytes → Option (Value × Bytes)
  | 0, _ => none
  | depth + 1, bytes => do
    let (h, rest) ← readHead bytes
    match h.major with
    | 0 => return (.int (.ofNat h.argument), rest)
    | 1 => return (.int (.negSucc h.argument), rest)
    | 3 =>
      let (s, rest) ← readChars h.argument rest
      return (.text s, rest)
    | 4 =>
      let (items, rest) ← readMany (readItem depth) h.argument rest
      return (.list items, rest)
    | 5 =>
      let (members, rest) ← readMany (readMember (readItem depth)) h.argument rest
      return (.object (Table.sorted members), rest)
    | 6 =>
      let (n, rest) ← readBignum rest
      match h.argument with
      | 2 => return (.int (.ofNat n), rest)
      | 3 => return (.int (.negSucc n), rest)
      | _ => none
    | 7 =>
      match h.info with
      | 20 => return (.bool false, rest)
      | 21 => return (.bool true, rest)
      | 22 => return (.null, rest)
      | _ => none
    | _ => none

/-- The one item that the bytes are. -/
def decode (bytes : Bytes) : Option Value :=
  match readItem bytes.length bytes with
  | some (v, []) => some v
  | _ => none

end RuntimeImage.Cbor
