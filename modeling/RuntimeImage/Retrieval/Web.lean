import RuntimeImage.Retrieval.Host
import RuntimeImage.Retrieval.Request

/-!
Requests to other hosts, up to the point where a connection would be made. The first flaw counts:
the number after the host, then control characters, then what a request cannot spell, then the
name of the host. No host answers: a request without a flaw is one to a host out of reach.
-/

namespace RuntimeImage.Retrieval

def isControl (c : Char) : Bool := c.toNat ≤ 0x20 || c.toNat = 0x7F

/-- The number after the colon of a host part; after a bare colon there is none. -/
def hostNumber? : Option (List Char) → Except Fault (Option Int)
  | none => .ok none
  | some [] => .ok none
  | some text =>
    match Integer.ofChars? text with
    | some n => .ok (some n)
    | none => .error (.unwritable (.hostNumber (String.ofList text)))

def checkControls (cs : List Char) : Except Fault Unit :=
  match cs.find? isControl with
  | some c => .error (.unwritable (.controlCharacter (String.ofList cs) c))
  | none => .ok ()

/-- A charset of `limit` code points must have every character; the first run that it lacks is
reported. -/
def checkCharset (charset : String) (limit : Nat) (cs : List Char) : Except Fault Unit :=
  let first := (cs.takeWhile (fun c => c.toNat < limit)).length
  match cs.drop first with
  | [] => .ok ()
  | c :: rest =>
    let run := (rest.takeWhile (fun c => limit ≤ c.toNat)).length
    .error (.failed (.unencodable charset limit first (first + run) c))

/-- Whether a line of a header value ends without the next one being marked as its continuation by
a blank. -/
def endsLine : List Char → Bool
  | [] => false
  | '\n' :: rest => !rest.head?.any (fun c => c = ' ' || c = '\t') || endsLine rest
  | '\r' :: rest => !rest.head?.any (fun c => c = ' ' || c = '\t' || c = '\n') || endsLine rest
  | _ :: rest => endsLine rest

def checkHeader (value : List Char) : Except Fault Unit :=
  if endsLine value then
    .error (.failed (.headerValue (value.map (fun c => UInt8.ofNat c.toNat))))
  else .ok ()

/-- A request to a web host, up to the point where it would connect. -/
def web (r : Request) : Result := do
  if r.host = "" then refuse .noHost
  else
    let (host, number) := cutNumber r.host.toList
    let name := stripBrackets host
    let target := if r.selector = "" then ['/'] else r.selector.toList
    let number ← hostNumber? number
    checkControls name
    checkControls target
    checkCharset "ascii" 128 ("GET ".toList ++ target)
    checkCharset "latin-1" 256 r.host.toList
    checkHeader r.host.toList
    let _ ← asciiName name
    checkRange number
    refuse .unreachable

/-- A request to a transfer host, whose part may start with a user. -/
def transfer (r : Request) : Result := do
  if r.host = "" then refuse .noTransferHost
  else
    let (name, number) := cutDigits r.host.toList
    if Integer.maxDigits < number.length then .error (.failed (.longNumber number.length))
    else
      let host := Percent.decode (String.ofList (name.reverse.takeWhile (· ≠ '@')).reverse)
      match ← lookUp host.toList with
      | none => refuse .unreachable
      | some _ =>
        checkRange (Integer.ofChars? number)
        refuse .unreachable

end RuntimeImage.Retrieval
