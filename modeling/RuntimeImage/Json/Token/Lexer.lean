import RuntimeImage.Json.Token.Text
import RuntimeImage.Json.Token.Number

/-!
Cutting a JSON text into tokens. Blanks are passed over; each token is the longest match at its
place, and a broken token is the last.
-/

namespace RuntimeImage.Json.Token

def isSpace (c : Char) : Bool := c = ' ' ∨ c = '\n' ∨ c = '\r' ∨ c = '\t'

/-- A literal word, when the text goes on with it; the length is that of the rest of the word. -/
def word? (w : String) (token : Token) (rest : List Char) : Option (Token × Nat) :=
  if w.toList.isPrefixOf rest then some (token, w.length) else none

/-- The token that starts with `c`, and how many characters follow `c` in it. -/
def scan (c : Char) (rest : List Char) : Token × Nat :=
  match c with
  | '[' => (openArray, 0)
  | ']' => (closeArray, 0)
  | '\x7b' => (openObject, 0)
  | '\x7d' => (closeObject, 0)
  | ':' => (colon, 0)
  | ',' => (comma, 0)
  | '\x22' =>
    match readText 1 0 rest with
    | .ok (cs, length) => (text (String.ofList cs), length)
    | .error (problem, offset) => (brokenText problem offset, 0)
  | 'n' => (word? "ull" null rest).getD (broken, 0)
  | 't' => (word? "rue" (bool true) rest).getD (broken, 0)
  | 'f' => (word? "alse" (bool false) rest).getD (broken, 0)
  | 'N' => (word? "aN" (real .notANumber) rest).getD (broken, 0)
  | 'I' => (word? "nfinity" (real (.infinite false)) rest).getD (broken, 0)
  | '-' =>
    match word? "Infinity" (real (.infinite true)) rest with
    | some found => found
    | none => (readNumber true rest).getD (broken, 0)
  | _ =>
    match readNumber false (c :: rest) with
    | some (token, length) => (token, length - 1)
    | none => (broken, 0)

/-- The tokens of a text; `skip` characters belong to the token found last. -/
def lex (start skip : Nat) : List Char → List Lexeme
  | [] => []
  | c :: rest =>
    match skip with
    | skip + 1 => lex (start + 1) skip rest
    | 0 =>
      if isSpace c then lex (start + 1) 0 rest
      else
        let (token, length) := scan c rest
        if token.isBroken then [⟨start, token⟩]
        else ⟨start, token⟩ :: lex (start + 1) length rest

end RuntimeImage.Json.Token
