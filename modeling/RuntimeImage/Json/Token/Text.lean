import RuntimeImage.Json.Token
import RuntimeImage.Text.Hex

/-!
Texts between double quotes. A character above U+FFFF may be written as two escapes, one for each
half of its surrogate pair. Texts are of scalar values: a lone half has no place in them.
-/

namespace RuntimeImage.Json.Token

/-- The value of four hexadecimal digits that are not the last characters of the text. -/
def hex4? : List Char → Option Nat
  | a :: b :: c :: d :: _ :: _ => do
    return 4096 * (← Hex.value? a) + 256 * (← Hex.value? b) + 16 * (← Hex.value? c) +
      (← Hex.value? d)
  | _ => none

/-- The low half of a surrogate pair, where the text goes on with its escape. -/
def lowSurrogate? : List Char → Option Nat
  | '\\' :: 'u' :: rest => (hex4? rest).filter (fun n => 0xDC00 ≤ n ∧ n < 0xE000)
  | _ => none

/-- A surrogate that stands alone is no character, and reads as U+FFFD. -/
def charOf (n : Nat) : Char := if n.isValidChar then Char.ofNat n else '\ufffd'

def joined (high low : Nat) : Char := charOf (0x10000 + (high - 0xD800) * 0x400 + (low - 0xDC00))

def shortEscape? (c : Char) : Option Char :=
  match c with
  | '\x22' => some '\x22'
  | '\\' => some '\\'
  | '/' => some '/'
  | 'b' => some '\x08'
  | 'f' => some '\x0c'
  | 'n' => some '\n'
  | 'r' => some '\r'
  | 't' => some '\t'
  | _ => none

/-- One character of a text: what it denotes, and how many characters follow its first. -/
def textStep (c : Char) (rest : List Char) : Except Problem (Char × Nat) :=
  if c.toNat < 0x20 then .error .controlCharacter
  else if c ≠ '\\' then .ok (c, 0)
  else
    match rest with
    | [] => .error .unterminated
    | 'u' :: more =>
      match hex4? more with
      | none => .error .badUnicodeEscape
      | some n =>
        match if 0xD800 ≤ n ∧ n < 0xDC00 then lowSurrogate? (more.drop 4) else none with
        | some low => .ok (joined n low, 11)
        | none => .ok (charOf n, 5)
    | e :: _ =>
      match shortEscape? e with
      | some c => .ok (c, 1)
      | none => .error .badEscape

/-- Reads a text after its opening quote, which is `offset` characters back from here. The answer
is the denoted characters and the number of characters read, the closing quote included. -/
def readText (offset skip : Nat) : List Char → Except (Problem × Nat) (List Char × Nat)
  | [] => .error (.unterminated, 0)
  | c :: rest =>
    match skip with
    | skip + 1 => readText (offset + 1) skip rest
    | 0 =>
      if c = '\x22' then .ok ([], offset)
      else
        match textStep c rest with
        | .error .unterminated => .error (.unterminated, 0)
        | .error .badUnicodeEscape => .error (.badUnicodeEscape, offset + 1)
        | .error problem => .error (problem, offset)
        | .ok (d, more) => (readText (offset + 1) more rest).map (fun (ds, n) => (d :: ds, n))

end RuntimeImage.Json.Token
