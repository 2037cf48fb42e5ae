/-!
Words of a shell command line. A word is left bare when every character is known to be literal;
otherwise it stands between single quotes, and each single quote in it between double ones.
-/

namespace RuntimeImage.Shell

def isSafe (c : Char) : Bool :=
  c.isAlphanum || c ∈ ['_', '@', '%', '+', '=', ':', ',', '.', '/', '-']

def quoted (c : Char) : List Char :=
  if c = '\x27' then ['\x27', '\x22', '\x27', '\x22', '\x27'] else [c]

def wordChars (cs : List Char) : List Char :=
  if cs ≠ [] ∧ cs.all isSafe then cs else '\x27' :: (cs.flatMap quoted ++ ['\x27'])

def word (s : String) : String := String.ofList (wordChars s.toList)

def line (ws : List String) : String := String.intercalate " " (ws.map word)

end RuntimeImage.Shell
