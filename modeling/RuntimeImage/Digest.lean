import RuntimeImage.Text.Hex

/-!
SHA-256. A message is padded to whole blocks of sixteen words; each block is expanded to sixty-four
words that drive one round each over a state of eight. The message may come in pieces of any length.
-/

namespace RuntimeImage.Digest

def roundConstants : List UInt32 := [
  0x428a2f98, 0x71374491, 0xb5c0fbcf, 0xe9b5dba5, 0x3956c25b, 0x59f111f1, 0x923f82a4, 0xab1c5ed5,
  0xd807aa98, 0x12835b01, 0x243185be, 0x550c7dc3, 0x72be5d74, 0x80deb1fe, 0x9bdc06a7, 0xc19bf174,
  0xe49b69c1, 0xefbe4786, 0x0fc19dc6, 0x240ca1cc, 0x2de92c6f, 0x4a7484aa, 0x5cb0a9dc, 0x76f988da,
  0x983e5152, 0xa831c66d, 0xb00327c8, 0xbf597fc7, 0xc6e00bf3, 0xd5a79147, 0x06ca6351, 0x14292967,
  0x27b70a85, 0x2e1b2138, 0x4d2c6dfc, 0x53380d13, 0x650a7354, 0x766a0abb, 0x81c2c92e, 0x92722c85,
  0xa2bfe8a1, 0xa81a664b, 0xc24b8b70, 0xc76c51a3, 0xd192e819, 0xd6990624, 0xf40e3585, 0x106aa070,
  0x19a4c116, 0x1e376c08, 0x2748774c, 0x34b0bcb5, 0x391c0cb3, 0x4ed8aa4a, 0x5b9cca4f, 0x682e6ff3,
  0x748f82ee, 0x78a5636f, 0x84c87814, 0x8cc70208, 0x90befffa, 0xa4506ceb, 0xbef9a3f7, 0xc67178f2]

structure State where
  a : UInt32
  b : UInt32
  c : UInt32
  d : UInt32
  e : UInt32
  f : UInt32
  g : UInt32
  h : UInt32

def State.start : State :=
  ⟨0x6a09e667, 0xbb67ae85, 0x3c6ef372, 0xa54ff53a, 0x510e527f, 0x9b05688c, 0x1f83d9ab, 0x5be0cd19⟩

def State.add (s t : State) : State :=
  ⟨s.a + t.a, s.b + t.b, s.c + t.c, s.d + t.d, s.e + t.e, s.f + t.f, s.g + t.g, s.h + t.h⟩

def State.words (s : State) : List UInt32 := [s.a, s.b, s.c, s.d, s.e, s.f, s.g, s.h]

def rotateRight (x : UInt32) (n : UInt32) : UInt32 := (x >>> n) ||| (x <<< (32 - n))

def round (s : State) (constant word : UInt32) : State :=
  let sum1 := rotateRight s.e 6 ^^^ rotateRight s.e 11 ^^^ rotateRight s.e 25
  let choice := (s.e &&& s.f) ^^^ (~~~s.e &&& s.g)
  let t1 := s.h + sum1 + choice + constant + word
  let sum0 := rotateRight s.a 2 ^^^ rotateRight s.a 13 ^^^ rotateRight s.a 22
  let majority := (s.a &&& s.b) ^^^ (s.a &&& s.c) ^^^ (s.b &&& s.c)
  ⟨t1 + (sum0 + majority), s.a, s.b, s.c, s.d + t1, s.e, s.f, s.g⟩

/-- The next word of a schedule from its last sixteen, newest first. -/
def nextWord (recent : List UInt32) : UInt32 :=
  let word (i : Nat) : UInt32 := recent.getD i 0
  let sigma0 (x : UInt32) := rotateRight x 7 ^^^ rotateRight x 18 ^^^ (x >>> 3)
  let sigma1 (x : UInt32) := rotateRight x 17 ^^^ rotateRight x 19 ^^^ (x >>> 10)
  word 15 + sigma0 (word 14) + word 6 + sigma1 (word 1)

/-- Extends a schedule, newest word first, by `n` words. -/
def extend : Nat → List UInt32 → List UInt32
  | 0, words => words
  | n + 1, words => extend n (nextWord words :: words)

def schedule (block : List UInt32) : List UInt32 := (extend 48 block.reverse).reverse

def compress (s : State) (block : List UInt32) : State :=
  s.add ((roundConstants.zip (schedule block)).foldl (fun s kw => round s kw.1 kw.2) s)

def wordOf (a b c d : UInt8) : UInt32 :=
  (a.toUInt32 <<< 24) ||| (b.toUInt32 <<< 16) ||| (c.toUInt32 <<< 8) ||| d.toUInt32

def wordsOf : Bytes → List UInt32
  | a :: b :: c :: d :: rest => wordOf a b c d :: wordsOf rest
  | _ => []

/-- What follows a message of some length: a one bit, zeros, and the length in bits in the last eight
bytes of the last block. -/
def padding (length : Nat) : Bytes :=
  let zeros := (119 - length % 64) % 64
  0x80 :: (List.replicate zeros 0 ++ Bytes.bigEndian 8 (8 * length))

def blocksOf (n : Nat) (words : List UInt32) : List (List UInt32) :=
  match n with
  | 0 => []
  | n + 1 => words.take 16 :: blocksOf n (words.drop 16)

/-- Takes whole blocks into the state. -/
def absorb (s : State) (bytes : Bytes) : State :=
  let words := wordsOf bytes
  (blocksOf (words.length / 16) words).foldl compress s

def State.bytes (s : State) : Bytes := s.words.flatMap (fun w => Bytes.bigEndian 4 w.toNat)

def sha256 (message : Bytes) : Bytes :=
  (absorb State.start (message ++ padding message.length)).bytes

/-- The digest as it is written everywhere: sixty-four lowercase hexadecimal digits. -/
def hex (message : Bytes) : String := Hex.encode (sha256 message)

/-- The digest of a message that comes in pieces: the state after the whole blocks so far, the bytes
after those, and the number of all bytes so far. -/
structure Hasher where
  state : State
  pending : Bytes
  count : Nat

def Hasher.start : Hasher := ⟨State.start, [], 0⟩

def Hasher.update (h : Hasher) (piece : Bytes) : Hasher :=
  let bytes := h.pending ++ piece
  let whole := bytes.length - bytes.length % 64
  ⟨absorb h.state (bytes.take whole), bytes.drop whole, h.count + piece.length⟩

def Hasher.hex (h : Hasher) : String :=
  Hex.encode (absorb h.state (h.pending ++ padding h.count)).bytes

end RuntimeImage.Digest
