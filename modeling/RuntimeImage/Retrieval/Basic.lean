import RuntimeImage.FileTree.Fault
import RuntimeImage.HostName
import RuntimeImage.Number.Integer
import RuntimeImage.Text.Base64
import RuntimeImage.Url

/-!
What retrieving a URL comes to: its bytes, or why there are none. Some requests cannot even be
written down; those are kept apart from the ones that fail.
-/

namespace RuntimeImage.Retrieval

/-- Why a well-formed request was not served. -/
inductive Refusal
  | unknownScheme (name : String)
  | noHost
  | noTransferHost
  | localOnly
  | notLocal
  | unreachable
  | file (problem : FileTree.Problem) (path : String)
  deriving DecidableEq, Repr

def Refusal.message : Refusal → String
  | .unknownScheme name => "unknown url type: " ++ name
  | .noHost => "no host given"
  | .noTransferHost => "ftp error: no host given"
  | .localOnly => "file:// scheme is supported only on localhost"
  | .notLocal => "file not on local host"
  | .unreachable => "host unreachable"
  | .file problem path => (FileTree.Fault.refused problem path).message

/-- Why a URL yields no bytes. -/
inductive Failure
  | noScheme (full : String)
  | url (fault : Url.Fault)
  | refused (refusal : Refusal)
  | nullByte
  | noComma
  | base64 (problem : Base64.Problem)
  | hostName (problem : HostName.Problem)
  /-- The number after the host has too many digits. -/
  | longNumber (digits : Nat)
  | headerValue (value : Bytes)
  /-- Characters `first` to `last` of a request line or header are beyond its `limit`. -/
  | unencodable (charset : String) (limit first last : Nat) (c : Char)
  deriving DecidableEq, Repr

def Failure.message : Failure → String
  | .noScheme full => "unknown url type: " ++ Quoted.text full
  | .url fault => fault.message
  | .refused refusal => "<urlopen error " ++ refusal.message ++ ">"
  | .nullByte => FileTree.Fault.nullByte.message
  | .noComma => "not enough values to unpack (expected 2, got 1)"
  | .base64 problem => problem.message
  | .hostName problem =>
    "encoding with 'idna' codec failed (UnicodeError: " ++ problem.message ++ ")"
  | .longNumber digits => Integer.tooLongMessage digits
  | .headerValue value => "Invalid header value " ++ Quoted.bytes value
  | .unencodable charset limit first last c =>
    "'" ++ charset ++ "' codec can't encode " ++
      (if first = last then
        "character '" ++ String.ofList (Quoted.escape c) ++ "' in position " ++ toString first
      else "characters in position " ++ toString first ++ "-" ++ toString last) ++
      ": ordinal not in range(" ++ toString limit ++ ")"

/-- A request that cannot even be written down. -/
inductive Unwritable
  | controlCharacter (text : String) (c : Char)
  /-- What stands after the host is no integer. -/
  | hostNumber (text : String)
  /-- The number after the host does not fit into a word. -/
  | numberRange
  | nullInHost
  deriving DecidableEq, Repr

def Unwritable.message : Unwritable → String
  | .controlCharacter text c =>
    "URL can't contain control characters. " ++ Quoted.text text ++ " (found at least " ++
      Quoted.text (String.singleton c) ++ ")"
  | .hostNumber text => "nonnumeric port: '" ++ text ++ "'"
  | .numberRange => "Python int too large to convert to C long"
  | .nullInHost =>
    "gethostbyname() argument 1 must be encoded string without null bytes, not str"

inductive Fault
  | failed (failure : Failure)
  | unwritable (reason : Unwritable)
  deriving DecidableEq, Repr

abbrev Result := Except Fault Bytes

def refuse (refusal : Refusal) : Result := .error (.failed (.refused refusal))

end RuntimeImage.Retrieval
