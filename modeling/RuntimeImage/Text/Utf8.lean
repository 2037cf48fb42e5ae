import RuntimeImage.Text.Hex

/-!
UTF-8, written and read strictly. A text that is not well formed is refused at its first bad
sequence: the longest run of bytes there that could still have begun a character.
-/

namespace RuntimeImage.Utf8

def encode (s : String) : Bytes := s.toList.flatMap String.utf8EncodeChar

inductive Problem
  | invalidStart
  | invalidContinuation
  | unexpectedEnd
  deriving DecidableEq, Repr

/-- The first malformed sequence: where it starts and how many bytes it holds. -/
structure Malformed where
  offset : Nat
  bytes : Bytes
  problem : Problem
  deriving DecidableEq, Repr

/-- What a lead byte promises: how many bytes follow it, and the range the next of them is in. -/
def lead (b : UInt8) : Option (Nat × UInt8 × UInt8) :=
  if b < 0x80 then some (0, 0x80, 0xBF)
  else if b < 0xC2 then none
  else if b < 0xE0 then some (1, 0x80, 0xBF)
  else if b = 0xE0 then some (2, 0xA0, 0xBF)
  else if b = 0xED then some (2, 0x80, 0x9F)
  else if b < 0xF0 then some (2, 0x80, 0xBF)
  else if b = 0xF0 then some (3, 0x90, 0xBF)
  else if b < 0xF4 then some (3, 0x80, 0xBF)
  else if b = 0xF4 then some (3, 0x80, 0x8F)
  else none

/-- How far the bytes owed after a lead byte are present: all of them, or up to a problem. -/
def follow : Nat → UInt8 → UInt8 → Bytes → Nat × Option Problem
  | 0, _, _, _ => (0, none)
  | _ + 1, _, _, [] => (0, some .unexpectedEnd)
  | n + 1, low, high, b :: rest =>
    if low ≤ b ∧ b ≤ high then
      let (seen, problem) := follow n 0x80 0xBF rest
      (seen + 1, problem)
    else (0, some .invalidContinuation)

/-- One step at the head of the bytes: the length of a character, or of a malformed sequence. -/
def step (b : UInt8) (rest : Bytes) : Nat × Option Problem :=
  match lead b with
  | none => (1, some .invalidStart)
  | some (owed, low, high) =>
    let (seen, problem) := follow owed low high rest
    (seen + 1, problem)

/-- The first malformed sequence; `skip` bytes belong to a character already read. -/
def firstMalformed (offset skip : Nat) : Bytes → Option Malformed
  | [] => none
  | b :: rest =>
    match skip with
    | skip + 1 => firstMalformed (offset + 1) skip rest
    | 0 =>
      match step b rest with
      | (length, some problem) => some ⟨offset, (b :: rest).take length, problem⟩
      | (length, none) => firstMalformed (offset + 1) (length - 1) rest

def decode (bytes : Bytes) : Except Malformed String :=
  match String.fromUTF8? bytes.toByteArray with
  | some s => .ok s
  | none => .error ((firstMalformed 0 0 bytes).getD ⟨0, bytes, .invalidStart⟩)

theorem decode_encode (s : String) : decode (encode s) = .ok s := by
  have bytes : (encode s).toByteArray = s.toByteArray := by
    rw [encode, ← String.utf8Encode_toList]
    rfl
  have whole : String.fromUTF8? s.toByteArray = some s := by
    simp [String.fromUTF8?, s.isValidUTF8, String.fromUTF8]
  simp [decode, bytes, whole]

/-- Reads leniently: each malformed sequence becomes one replacement character. -/
def repair (skip : Nat) : Bytes → Bytes
  | [] => []
  | b :: rest =>
    match skip with
    | skip + 1 => repair skip rest
    | 0 =>
      match step b rest with
      | (length, some _) => [0xEF, 0xBF, 0xBD] ++ repair (length - 1) rest
      | (length, none) => (b :: rest).take length ++ repair (length - 1) rest

def decodeLossy (bytes : Bytes) : String :=
  (String.fromUTF8? (repair 0 bytes).toByteArray).getD ""

end RuntimeImage.Utf8
