import RuntimeImage.Number.Binary64

/-!
The tokens of a JSON text. What matches no token is a broken one; it carries its own problem, which
counts only where the grammar asks for what the token set out to be.
-/

namespace RuntimeImage.Json

inductive Problem
  | expectingValue
  | expectingName
  | expectingColon
  | expectingComma
  | unterminated
  | controlCharacter
  | badEscape
  | badUnicodeEscape
  | extraData
  | byteOrderMark
  deriving DecidableEq, Repr

def Problem.message : Problem → String
  | .expectingValue => "Expecting value"
  | .expectingName => "Expecting property name enclosed in double quotes"
  | .expectingColon => "Expecting ':' delimiter"
  | .expectingComma => "Expecting ',' delimiter"
  | .unterminated => "Unterminated string starting at"
  | .controlCharacter => "Invalid control character at"
  | .badEscape => "Invalid \\escape"
  | .badUnicodeEscape => "Invalid \\uXXXX escape"
  | .extraData => "Extra data"
  | .byteOrderMark => "Unexpected UTF-8 BOM (decode using utf-8-sig)"

inductive Token
  | openArray
  | closeArray
  | openObject
  | closeObject
  | colon
  | comma
  | null
  | bool (b : Bool)
  | int (n : Int)
  | real (x : Binary64)
  | text (s : String)
  /-- An integer with more digits than are read. -/
  | longInt (digits : Nat)
  /-- A text that is not well formed, with the distance from its start to the problem. -/
  | brokenText (problem : Problem) (offset : Nat)
  | broken
  deriving DecidableEq, Repr

structure Lexeme where
  start : Nat
  token : Token
  deriving DecidableEq, Repr

namespace Token

def isBroken : Token → Bool
  | brokenText _ _ => true
  | broken => true
  | _ => false

end Token

end RuntimeImage.Json
