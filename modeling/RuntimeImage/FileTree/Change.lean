import RuntimeImage.FileTree.Basic

/-!
Changes to a tree of files: writing, making directories, moving and removing. A refused change of
one entry leaves the tree alone; only a chain of new directories can get part of the way.
-/

namespace RuntimeImage.FileTree

def write (t : FileTree) (path : String) (content : Bytes) : Except Fault FileTree :=
  match t.locate path with
  | .error fault => .error fault
  | .ok place =>
    match t.node? place with
    | some .directory => .error (.refused .isDirectory path)
    | _ => .ok (t.put place (.file content))

def makeDirectory (t : FileTree) (path : String) : Except Fault FileTree :=
  match t.locate path with
  | .error fault => .error fault
  | .ok place =>
    match t.node? place with
    | some _ => .error (.refused .alreadyExists path)
    | none => .ok (t.put place .directory)

/-- Makes a directory unless it is there. The tree comes back in either case. -/
def ensureDirectory (t : FileTree) (path : String) : Except Fault Unit × FileTree :=
  match t.makeDirectory path with
  | .ok t => (.ok (), t)
  | .error fault => if t.isDirectory path then (.ok (), t) else (.error fault, t)

/-- Makes a directory and those above it, the path given as its components, last one first. The
directories above are made only when the first attempt finds one of them missing; they stay when
the second attempt fails. -/
def ensureFrom (t : FileTree) (slashes : Nat) : List String → Except Fault Unit × FileTree
  | [] => t.ensureDirectory (Path.render ⟨slashes, []⟩)
  | name :: up =>
    let path := Path.render ⟨slashes, (name :: up).reverse⟩
    match t.makeDirectory path with
    | .error (.refused .notFound _) =>
      match ensureFrom t slashes up with
      | (.ok (), t) => t.ensureDirectory path
      | (.error fault, t) => (.error fault, t)
    | _ => t.ensureDirectory path

def ensureDirectories (t : FileTree) (p : Path) : Except Fault Unit × FileTree :=
  t.ensureFrom p.slashes p.parts.reverse

/-- Makes a new directory, and those above it unless they are there. -/
def makeDirectories (t : FileTree) (p : Path) : Except Fault Unit × FileTree :=
  match t.makeDirectory p.render with
  | .ok t => (.ok (), t)
  | .error (.refused .notFound _) =>
    match t.ensureDirectories p.parent with
    | (.error fault, t) => (.error fault, t)
    | (.ok (), t) =>
      match t.makeDirectory p.render with
      | .ok t => (.ok (), t)
      | .error fault => (.error fault, t)
  | .error fault => (.error fault, t)

/-- Moves a file over what is at the target, if that is no directory. -/
def replace (t : FileTree) (source target : String) : Except Fault FileTree :=
  match t.read source, t.locate source with
  | .ok content, .ok place =>
    match (t.erase place).write target content with
    | .ok t => .ok t
    | .error fault => .error fault
  | .error fault, _ => .error fault
  | _, .error fault => .error fault

/-- Removes a file. -/
def remove (t : FileTree) (path : String) : Except Fault FileTree :=
  match t.locate path with
  | .error fault => .error fault
  | .ok place =>
    match t.node? place with
    | some (.file _) => .ok (t.erase place)
    | some .directory => .error (.refused .isDirectory path)
    | none => .error (.refused .notFound path)

end RuntimeImage.FileTree
