import RuntimeImage.Retrieval.Basic
import RuntimeImage.Text.Blank
import RuntimeImage.Text.LowerCase
import RuntimeImage.Text.Percent

/-!
A URL taken apart for retrieval. Its parts are cut off one after the other, and what is missing is
empty; only a URL without a scheme asks for nothing.
-/

namespace RuntimeImage.Retrieval

/-- A URL without surrounding blanks, angle brackets and a `URL:` label. -/
def unwrap (cs : List Char) : List Char :=
  let cs := Blank.trim cs
  let cs :=
    if cs.head? = some '<' ∧ cs.getLast? = some '>' then Blank.trim ((cs.drop 1).dropLast) else cs
  if "URL:".toList.isPrefixOf cs then Blank.trim (cs.drop 4) else cs

/-- A URL cut at its last `#`. -/
def cutFragment (cs : List Char) : List Char × List Char :=
  if '#' ∈ cs then
    let fragment := (cs.reverse.takeWhile (· ≠ '#')).reverse
    (cs.take (cs.length - fragment.length - 1), fragment)
  else (cs, [])

/-- The scheme in lower case and the rest, if a colon follows a word without slashes. -/
def cutScheme? (cs : List Char) : Option (List Char × List Char) :=
  let word := cs.takeWhile (fun c => c ≠ ':' ∧ c ≠ '/')
  match cs.drop word.length with
  | ':' :: rest => if word = [] then none else some (LowerCase.lower word, rest)
  | _ => none

/-- The host part after a double slash, and the path, which then starts with a slash. -/
def cutHost (cs : List Char) : List Char × List Char :=
  match cs with
  | '/' :: '/' :: rest =>
    let host := rest.takeWhile (fun c => c ≠ '/' ∧ c ≠ '#' ∧ c ≠ '?')
    let path := rest.drop host.length
    (host, if path = [] ∨ path.head? = some '/' then path else '/' :: path)
  | _ => ([], cs)

/-- What a URL asks for. -/
structure Request where
  full : String
  scheme : String
  host : String
  selector : String

def Request.ofUrl (url : String) : Except Failure Request :=
  let (bare, fragment) := cutFragment (unwrap url.toList)
  let full := String.ofList (if fragment = [] then bare else bare ++ '#' :: fragment)
  match cutScheme? bare with
  | none => .error (.noScheme full)
  | some (scheme, rest) =>
    match Url.scheme full with
    | .error fault => .error (.url fault)
    | .ok _ =>
      let (host, selector) := cutHost rest
      .ok ⟨full, String.ofList scheme, Percent.decode (String.ofList host), String.ofList selector⟩

end RuntimeImage.Retrieval
