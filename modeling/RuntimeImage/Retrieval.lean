import RuntimeImage.Retrieval.Web
import RuntimeImage.FileTree.Basic

/-!
Retrieving the bytes behind a URL: from the tree of files, or from the URL itself when it is a data
URL. No other host can be reached.
-/

namespace RuntimeImage.Retrieval

def ofFile (result : Except FileTree.Fault Bytes) : Result :=
  match result with
  | .ok content => .ok content
  | .error .nullByte => .error (.failed .nullByte)
  | .error (.refused problem path) => refuse (.file problem path)

/-- Whether a path starts with two slashes and no third. -/
def isDoubled : List Char → Bool
  | '/' :: '/' :: rest => decide (rest.head? ≠ some '/')
  | _ => false

/-- A file of the tree. The host, if any, must be this one. -/
def file (tree : FileTree) (r : Request) : Result :=
  let path := Percent.decode r.selector
  if isDoubled r.selector.toList ∧ r.host ≠ "" ∧ r.host ≠ "localhost" then
    if r.host = localAddress then refuse (.unknownScheme r.scheme) else refuse .localOnly
  else
    match tree.stat path with
    | .error fault => ofFile (.error fault)
    | .ok _ =>
      match isLocalHost r.host with
      | .ok true => ofFile (tree.read path)
      | .ok false => refuse .notLocal
      | .error fault => .error fault

/-- The bytes that a data URL holds after its first comma. -/
def data (r : Request) : Result :=
  let body := (r.full.toList.dropWhile (· ≠ ':')).drop 1
  let medium := body.takeWhile (· ≠ ',')
  match body.drop medium.length with
  | [] => .error (.failed .noComma)
  | _ :: rest =>
    let bytes := Percent.bytes (String.ofList rest)
    if ";base64".toList.isSuffixOf medium then
      match Base64.decode bytes with
      | .ok bytes => .ok bytes
      | .error problem => .error (.failed (.base64 problem))
    else .ok bytes

def retrieve (tree : FileTree) (url : String) : Result :=
  match Request.ofUrl url with
  | .error failure => .error (.failed failure)
  | .ok r =>
    match r.scheme with
    | "http" => web r
    | "https" => web r
    | "ftp" => transfer r
    | "file" => file tree r
    | "data" => data r
    | name => refuse (.unknownScheme name)

end RuntimeImage.Retrieval
