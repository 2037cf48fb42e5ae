import RuntimeImage.Text.Printable
import RuntimeImage.Text.Hex

/-!
Texts as they are shown inside messages: between single quotes, or double ones when the text holds
a single quote and no double quote. What is not printable is escaped.
-/

namespace RuntimeImage.Quoted

/-- An escape with the fewest of two, four or eight hexadecimal digits that hold the code point. -/
def escape (c : Char) : List Char :=
  if c.toNat < 0x100 then '\\' :: 'x' :: Hex.fixed 2 c.toNat
  else if c.toNat < 0x10000 then '\\' :: 'u' :: Hex.fixed 4 c.toNat
  else '\\' :: 'U' :: Hex.fixed 8 c.toNat

def shown (quote c : Char) : List Char :=
  if c = quote ∨ c = '\\' then ['\\', c]
  else if c = '\n' then ['\\', 'n']
  else if c = '\r' then ['\\', 'r']
  else if c = '\t' then ['\\', 't']
  else if Printable.isPrintable c then [c]
  else escape c

def quoteFor (cs : List Char) : Char :=
  if '\x27' ∈ cs ∧ '\x22' ∉ cs then '\x22' else '\x27'

def chars (cs : List Char) : List Char :=
  quoteFor cs :: (cs.flatMap (shown (quoteFor cs)) ++ [quoteFor cs])

def text (s : String) : String := String.ofList (chars s.toList)

/-- The character of a byte as it is shown; beyond ASCII none is printable. -/
def shownByte (quote : Char) (b : UInt8) : List Char :=
  let c := Char.ofNat b.toNat
  if b < 0x80 then shown quote c else escape c

/-- Bytes are shown like a text of their characters, after a `b`. -/
def bytes (bs : Bytes) : String :=
  let quote := quoteFor (bs.map (fun b => Char.ofNat b.toNat))
  String.ofList ('b' :: quote :: (bs.flatMap (shownByte quote) ++ [quote]))

end RuntimeImage.Quoted
