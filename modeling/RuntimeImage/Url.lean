import RuntimeImage.Url.Address
import RuntimeImage.Text.Quoted

/-!
Reading the scheme of a URL. A URL whose authority cannot be taken apart is refused, whatever its
scheme: unbalanced brackets, a bracketed host that is no address, or a character that stands for a
separator in compatibility form.
-/

namespace RuntimeImage.Url

inductive Fault
  | brackets
  | futureAddress
  | notAnAddress (host : String)
  | bracketedV4
  | compatibility (authority : String)
  deriving DecidableEq, Repr

def Fault.message : Fault → String
  | .brackets => "Invalid IPv6 URL"
  | .futureAddress => "IPvFuture address is invalid"
  | .notAnAddress host =>
    Quoted.text host ++ " does not appear to be an IPv4 or IPv6 address"
  | .bracketedV4 => "An IPv4 address cannot be in brackets"
  | .compatibility authority =>
    "netloc '" ++ authority ++ "' contains invalid characters under NFKC normalization"

/-- A URL without its leading controls and spaces, and without any tab or line break. -/
def clean (cs : List Char) : List Char :=
  (cs.dropWhile (fun c => c.toNat ≤ 0x20)).filter (fun c => c ≠ '\t' ∧ c ≠ '\n' ∧ c ≠ '\r')

def isSchemeChar (c : Char) : Bool := c.isAlphanum || c = '+' || c = '.' || c = '-'

/-- The scheme in lower case, empty when there is none, and what follows its colon. -/
def cutScheme (cs : List Char) : List Char × List Char :=
  let before := cs.takeWhile (· ≠ ':')
  let rest := cs.drop before.length
  if rest ≠ [] ∧ (before.head?.any Char.isAlpha) ∧ before.all isSchemeChar then
    (before.map Char.toLower, rest.drop 1)
  else ([], cs)

/-- The authority that follows a double slash. -/
def authority (cs : List Char) : List Char :=
  match cs with
  | '/' :: '/' :: rest => rest.takeWhile (fun c => c ≠ '/' ∧ c ≠ '?' ∧ c ≠ '#')
  | _ => []

/-- What follows the last `@`, or everything. -/
def afterUser (cs : List Char) : List Char := (cs.reverse.takeWhile (· ≠ '@')).reverse

def isFutureAddress (cs : List Char) : Bool :=
  let version := (cs.drop 1).takeWhile Hex.isDigit
  match cs.drop (1 + version.length) with
  | '.' :: _ :: _ => version ≠ []
  | _ => false

def checkBracketedHost (host : List Char) : Except Fault Unit :=
  if host.head? = some 'v' then
    if isFutureAddress host then .ok () else .error .futureAddress
  else if Address.isV4 host then .error .bracketedV4
  else if Address.isV6 host then .ok ()
  else .error (.notAnAddress (String.ofList host))

/-- The host of an authority in which both brackets occur, if they stand around it alone. -/
def checkBrackets (authority : List Char) : Except Fault Unit :=
  let place := afterUser authority
  if '[' ∈ place then
    let inner := (place.dropWhile (· ≠ '[')).drop 1
    let after := (inner.dropWhile (· ≠ ']')).drop 1
    if place.head? ≠ some '[' then .error .brackets
    else if after ≠ [] ∧ after.head? ≠ some ':' then .error .brackets
    else checkBracketedHost (inner.takeWhile (· ≠ ']'))
  else checkBracketedHost (place.takeWhile (· ≠ ':'))

/-- The characters beyond ASCII whose compatibility form holds one of `/ ? # @ :`. -/
def disguised : List Nat := [
  0x2047, 0x2048, 0x2049, 0x2100, 0x2101, 0x2105, 0x2106, 0x2A74, 0xFE13, 0xFE16, 0xFE55, 0xFE56,
  0xFE5F, 0xFE6B, 0xFF03, 0xFF0F, 0xFF1A, 0xFF1F, 0xFF20]

def checkAuthority (authority : List Char) : Except Fault Unit :=
  let opened := decide ('[' ∈ authority)
  let closed := decide (']' ∈ authority)
  if opened ≠ closed then .error .brackets
  else
    match if opened then checkBrackets authority else .ok () with
    | .error fault => .error fault
    | .ok () =>
      if authority.any (fun c => c.toNat ∈ disguised) then
        .error (.compatibility (String.ofList authority))
      else .ok ()

/-- The scheme of a URL, empty when it has none. -/
def scheme (url : String) : Except Fault String :=
  let (name, rest) := cutScheme (clean url.toList)
  match checkAuthority (authority rest) with
  | .ok () => .ok (String.ofList name)
  | .error fault => .error fault

end RuntimeImage.Url
