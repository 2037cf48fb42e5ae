import RuntimeImage.HostName.Numeric
import RuntimeImage.Retrieval.Basic

/-!
Host parts of URLs: a name or an address, and perhaps a number after a colon. Hosts are looked up as
far as they can be without a network, on a host that has no address but that of its loopback.
-/

namespace RuntimeImage.Retrieval

/-- A host part cut at its last colon outside brackets, if it has one. -/
def cutNumber (cs : List Char) : List Char × Option (List Char) :=
  let number := (cs.reverse.takeWhile (· ≠ ':')).reverse
  if ':' ∈ cs ∧ ']' ∉ number then (cs.take (cs.length - number.length - 1), some number)
  else (cs, none)

def stripBrackets (cs : List Char) : List Char :=
  if cs.head? = some '[' ∧ cs.getLast? = some ']' then (cs.drop 1).dropLast else cs

/-- A host part cut at its last colon, if nothing but digits follows it. -/
def cutDigits (cs : List Char) : List Char × List Char :=
  let number := (cs.reverse.takeWhile Char.isDigit).reverse
  match cs.reverse.drop number.length with
  | ':' :: host => (host.reverse, number)
  | _ => (cs, [])

/-- A host name as it is looked up, in ASCII. -/
def asciiName (name : List Char) : Except Fault (List Char) :=
  match HostName.ascii name with
  | .ok name => .ok name
  | .error problem => .error (.failed (.hostName problem))

/-- The number after a host has to fit into a signed word. -/
def checkRange (number : Option Int) : Except Fault Unit :=
  match number with
  | some n =>
    if -0x8000000000000000 ≤ n ∧ n < 0x8000000000000000 then .ok ()
    else .error (.unwritable .numberRange)
  | none => .ok ()

/-- The address of this host, as a text and as a number. -/
def localAddress : String := "127.0.0.1"

def localNumber : Nat := 0x7F000001

/-- The address that a name stands for, if nobody has to be asked: the empty name is any host. -/
def knownAddress? (name : List Char) : Option Nat :=
  if name = [] then some 0
  else if name.map Char.toLower = "localhost".toList then some localNumber
  else HostName.Numeric.address? name

/-- Looks up the address of a host; there is none for a name that others would have to be asked
about. -/
def lookUp (name : List Char) : Except Fault (Option Nat) :=
  match asciiName name with
  | .error fault => .error fault
  | .ok name =>
    if '\x00' ∈ name then .error (.unwritable .nullInHost) else .ok (knownAddress? name)

/-- Whether a file URL's host part stands for this host: no name, or one with this host's address
and no number after it. -/
def isLocalHost (host : String) : Except Fault Bool :=
  let (name, number) := cutDigits host.toList
  if name = [] then .ok true
  else if number ≠ [] then .ok false
  else
    match lookUp name with
    | .ok address => .ok (address = some localNumber)
    | .error fault => .error fault

end RuntimeImage.Retrieval
