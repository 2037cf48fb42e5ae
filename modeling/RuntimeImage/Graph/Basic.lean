import RuntimeImage.Fault
import RuntimeImage.Path

/-!
Build graphs: a source and the operations done to it, in order. A graph also carries the variables
in effect after its last operation; each command records those in effect when it was added. Copies
hold the whole graph that they take files from.
-/

namespace RuntimeImage

inductive SourceKind
  | image
  | localDir
  | scratch
  deriving DecidableEq, Repr

def SourceKind.word : SourceKind → String
  | image => "image"
  | localDir => "local"
  | scratch => "scratch"

structure Source where
  kind : SourceKind
  ref : String
  deriving DecidableEq, Repr

/-- How an operation is called, and the code that an executor reports when it fails. -/
structure Label where
  name : String
  failure : ErrorCode
  deriving DecidableEq, Repr

/-- A value of any type: the name of the type, and what the value is compared by. -/
structure Foreign where
  kind : String
  content : Json.Value

namespace Foreign

def ofValue (v : Json.Value) : Foreign := ⟨v.kind, v⟩

/-- Equality by content, whatever the types are called. -/
def agrees (v w : Foreign) : Bool := v.content.agrees w.content

end Foreign

mutual

inductive Operation
  | run (label : Label) (argv : List String) (environment : List (String × String))
  | copy (label : Label) (source : Graph) (src dest : String)
  | makeDir (label : Label) (path : String) (mode : Int) (parents : Bool)
  | makeFile (label : Label) (path content : String) (mode : Int)
  | setEnv (label : Label) (key value : String)
  /-- A value in the history that is no operation. -/
  | foreign (value : Foreign)

structure Graph where
  source : Source
  operations : List Operation
  environment : List (String × String)

end

namespace Operation

def label? : Operation → Option Label
  | run label ..
  | copy label ..
  | makeDir label ..
  | makeFile label ..
  | setEnv label .. => some label
  | foreign _ => none

end Operation

namespace Graph

def defaultPath : String := "/usr/local/sbin:/usr/local/bin:/usr/sbin:/usr/bin:/sbin:/bin"

def image (ref : String) : Except Fault Graph :=
  if ref = "" then .error (.invalid .imageReference)
  else .ok ⟨⟨.image, ref⟩, [], [("PATH", defaultPath)]⟩

def localDir (path : String) : Except Fault Graph :=
  if path = "" then .error (.invalid .localPath) else .ok ⟨⟨.localDir, path⟩, [], []⟩

def scratch : Graph := ⟨⟨.scratch, ""⟩, [], []⟩

def envValue? (g : Graph) (key : String) : Option String := Table.get? g.environment key

/-- The commands of the graph's own history. -/
def commands (g : Graph) : List Operation :=
  g.operations.filter (fun op => match op with | .run .. => true | _ => false)

def append (g : Graph) (op : Operation) : Graph := { g with operations := g.operations ++ [op] }

def run (g : Graph) (argv : List String) (name : String) (failure : ErrorCode := .toolInstall) :
    Except Fault Graph :=
  if argv = [] ∨ "" ∈ argv then .error (.invalid (.command name))
  else .ok (g.append (.run ⟨name, failure⟩ argv (Table.sorted g.environment)))

def copy (g source : Graph) (src dest name : String) : Except Fault Graph :=
  if src = "" ∨ dest = "" then .error (.invalid .copyPaths)
  else .ok (g.append (.copy ⟨name, .fetch⟩ source src dest))

def requireAbsolute (path operation : String) : Except Fault Unit :=
  if Path.isAbsolute path then .ok () else .error (.invalid (.relativePath operation path))

def makeDir (g : Graph) (path name : String) (mode : Int := 0o755) (parents : Bool := true) :
    Except Fault Graph := do
  requireAbsolute path "mkdir"
  return g.append (.makeDir ⟨name, .configWrite⟩ path mode parents)

def makeFile (g : Graph) (path content name : String) (mode : Int := 0o644) :
    Except Fault Graph := do
  requireAbsolute path "mkfile"
  return g.append (.makeFile ⟨name, .configWrite⟩ path content mode)

def addEnv (g : Graph) (key value : String) : Except Fault Graph :=
  if key = "" ∨ '=' ∈ key.toList then .error (.invalid (.variableName key))
  else
    .ok { g with
      operations := g.operations ++ [.setEnv ⟨"env " ++ key, .validation⟩ key value]
      environment := Table.put g.environment key value }

/-- The entries of a search path, empty ones left out. -/
def searchEntries (path : String) : List String :=
  ((path.toList.splitOn ':').map String.ofList).filter (· ≠ "")

/-- Appends a directory to `PATH`, unless it is an entry already. -/
def appendPath (g : Graph) (directory : String) : Except Fault Graph := do
  requireAbsolute directory "append_path"
  let entries := searchEntries ((g.envValue? "PATH").getD "")
  if directory ∈ entries then return g
  else g.addEnv "PATH" (String.intercalate ":" (entries ++ [directory]))

/-- The report that an executor gives when an operation fails. -/
def failureReport (label : Label) (message : String) (context : Table String) : Report :=
  { code := label.failure, message,
    hint := some "Provisioning aborted; no partial install is authoritative.",
    context := Table.merge [("operation", label.name)] context }

end Graph

mutual

/-- Equality of operations and of what stands among them. -/
def Operation.agrees : Operation → Operation → Bool
  | .run l argv env, .run l' argv' env' => l == l' && argv == argv' && env == env'
  | .copy l g src dest, .copy l' g' src' dest' =>
    l == l' && Graph.agrees g g' && src == src' && dest == dest'
  | .makeDir l path mode parents, .makeDir l' path' mode' parents' =>
    l == l' && path == path' && mode == mode' && parents == parents'
  | .makeFile l path content mode, .makeFile l' path' content' mode' =>
    l == l' && path == path' && content == content' && mode == mode'
  | .setEnv l key value, .setEnv l' key' value' => l == l' && key == key' && value == value'
  | .foreign v, .foreign w => v.agrees w
  | _, _ => false

/-- Equality of graphs, the order of variables included. -/
def Graph.agrees : Graph → Graph → Bool
  | ⟨source, ops, env⟩, ⟨source', ops', env'⟩ =>
    source == source' && Operation.allAgree ops ops' && env == env'

def Operation.allAgree : List Operation → List Operation → Bool
  | [], [] => true
  | op :: rest, op' :: rest' => op.agrees op' && Operation.allAgree rest rest'
  | _, _ => false

end

end RuntimeImage
