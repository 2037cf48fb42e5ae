/-!
Slash-separated paths in normal form: no empty components, no `.` components, and `..` kept as it
is. Two leading slashes are a root of their own; more count as one.
-/

namespace RuntimeImage

structure Path where
  /-- The number of leading slashes: none in a relative path. -/
  slashes : Nat
  parts : List String
  deriving DecidableEq, Repr

namespace Path

/-- Whether a path text, normal or not, starts at the root. -/
def isAbsolute (s : String) : Bool := s.toList.head? = some '/'

def components (s : String) : List String := (s.toList.splitOn '/').map String.ofList

def ofString (s : String) : Path :=
  let leading := (s.toList.takeWhile (· = '/')).length
  ⟨if leading ≤ 2 then leading else 1, (components s).filter (fun c => c ≠ "" ∧ c ≠ ".")⟩

def render (p : Path) : String :=
  if p.slashes = 0 ∧ p.parts = [] then "."
  else String.ofList (List.replicate p.slashes '/') ++ String.intercalate "/" p.parts

/-- The path `s` as seen from `p`; an absolute `s` replaces it. -/
def join (p : Path) (s : String) : Path :=
  let q := ofString s
  if q.slashes = 0 then ⟨p.slashes, p.parts ++ q.parts⟩ else q

/-- The path without its last component, which a root or an empty path lacks. -/
def parent (p : Path) : Path := ⟨p.slashes, p.parts.dropLast⟩

def name (p : Path) : String := p.parts.getLast?.getD ""

/-- Lengthens the last component. -/
def addExtension (p : Path) (extension : String) : Path :=
  ⟨p.slashes, p.parts.dropLast ++ [p.name ++ extension]⟩

end Path

end RuntimeImage
