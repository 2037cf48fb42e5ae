import RuntimeImage.Policy
import RuntimeImage.FileTree.Basic
import RuntimeImage.Text.Utf8
import RuntimeImage.Distribution
import RuntimeImage.PackageMirror
import RuntimeImage.PackageGroups

/-!
The declarative configuration: one JSON object with `packages`, `runtime`, `policy` and `mirror`.
Members that are absent have their defaults, and members that are not known are passed over.
-/

namespace RuntimeImage

structure Settings where
  groups : List PackageGroup := []
  policy : Policy := {}
  mirror : PackageMirror := .default
  distribution : Distribution := .julia
  deriving DecidableEq, Repr

namespace Settings

open Json

/-- A fault of a value is a fault of the configuration that gives it. -/
def misconfigured : Fault → Fault
  | .invalid reason => .config (.invalid reason)
  | fault => fault

def isList : Value → Bool
  | .list _ => true
  | _ => false

/-- The value of `packages`, once it is known to be a list of lists. -/
def groupsValue (members : Table Value) : Except Fault Value :=
  match members.get? "packages" with
  | none => .ok (.list [])
  | some (.list groups) =>
    if groups.all isList then .ok (.list groups) else .error (.config .packages)
  | some _ => .error (.config .packages)

/-- The members of an object under a name; none when it is absent. -/
def section? (members : Table Value) (name : String) : Except Fault (Table Value) :=
  match members.get? name with
  | none => .ok []
  | some (.object ms) => .ok ms
  | some _ => .error (.config (.field name))

def text? (members : Table Value) (name default : String) : Option String :=
  match members.get? name with
  | none => some default
  | some (.text s) => some s
  | some _ => none

def flag (members : Table Value) (owner name : String) (default : Bool) : Except Fault Bool :=
  match members.get? name with
  | none => .ok default
  | some (.bool b) => .ok b
  | some _ => .error (.config (.field (owner ++ "." ++ name)))

def choice (members : Table Value) (owner name : String) (allowed : List String)
    (default : String) : Except Fault String :=
  match text? members name default with
  | some s =>
    if s ∈ allowed then .ok s else .error (.config (.choice (owner ++ "." ++ name) allowed))
  | none => .error (.config (.choice (owner ++ "." ++ name) allowed))

def readDistribution (members : Table Value) : Except Fault Distribution :=
  match text? members "url" Distribution.julia.url,
    text? members "sha256" Distribution.julia.sha256 with
  | some url, some sha256 => Distribution.validate { Distribution.julia with url, sha256 }
  | _, _ => .error (.config (.field "runtime"))

def readPolicy (members : Table Value) : Except Fault Policy := do
  let default : Policy := {}
  let requireIntegrity ← flag members "policy" "require_integrity" default.requireIntegrity
  let networkMode ← choice members "policy" "network_mode" Policy.networkModes default.networkMode
  let mirrorMode ← choice members "policy" "mirror_mode" Policy.mirrorModes default.mirrorMode
  return { requireIntegrity, networkMode, mirrorMode }

def readMirror (members : Table Value) : Except Fault PackageMirror := do
  let persistService ← flag members "mirror" "persist_service" false
  return { PackageMirror.default with persistService }

/-- Groups and distribution: what they hold is checked as it is everywhere else. -/
def readContent (depth : Nat) (members : Table Value) (groups : Value) :
    Except Fault (List PackageGroup × Distribution) := do
  let groups ← PackageGroups.normalize depth groups
  let runtime ← section? members "runtime"
  return (groups, ← readDistribution runtime)

def ofValue (depth : Nat) (v : Value) : Except Fault Settings :=
  match v with
  | .object members => do
    let groups ← groupsValue members
    let (groups, distribution) ← (readContent depth members groups).mapError misconfigured
    let policy ← readPolicy (← section? members "policy")
    let mirror ← readMirror (← section? members "mirror")
    return { groups, policy, mirror, distribution }
  | _ => .error (.config .notAnObject)

def refused (text : List Char) : Refusal → Fault
  | .malformed problem offset => .config (.malformed problem (.ofOffset offset text))
  | .tooDeep container => .tooDeep container
  | .integerTooLong digits => .integerTooLong digits

/-- Reads a configuration whose containers are nested at most `depth` deep. -/
def parse (depth : Nat) (text : String) : Except Fault Settings :=
  match readWithin depth text.toList with
  | .error refusal => .error (refused text.toList refusal)
  | .ok v => ofValue depth v

/-- Line breaks of any convention become line feeds. -/
def unifyLines : List Char → List Char
  | [] => []
  | '\r' :: '\n' :: rest => '\n' :: unifyLines rest
  | '\r' :: rest => '\n' :: unifyLines rest
  | c :: rest => c :: unifyLines rest

/-- Reads a configuration file. A file that is not there is a fault of the configuration. -/
def load (depth : Nat) (tree : FileTree) (path : Path) : Except Fault Settings :=
  match tree.read path.render with
  | .error (.refused .notFound _) => .error (.config (.missing path.render))
  | .error fault => .error (.file fault)
  | .ok bytes =>
    match Utf8.decode bytes with
    | .error malformed => .error (.undecodable malformed)
    | .ok text => parse depth (String.ofList (unifyLines text.toList))

end Settings

end RuntimeImage
