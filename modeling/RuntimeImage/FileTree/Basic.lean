import RuntimeImage.FileTree.Fault
import RuntimeImage.Path
import RuntimeImage.Bytes

/-!
A tree of files, seen through slash-separated path texts. A path that starts with a slash leads from
the root, any other from the working directory. Entries are keyed by their place: the names on the
way to them from the root. They are directories and regular files, and never links. A write is done
as a whole or refused with the tree as it was: no disk is full, and nobody else changes the tree.
-/

namespace RuntimeImage

inductive Node
  | file (content : Bytes)
  | directory
  deriving DecidableEq, Repr

structure FileTree where
  /-- The place of the working directory, which is there without an entry. -/
  home : List String
  entries : List (List String × Node)
  deriving DecidableEq, Repr

namespace FileTree

/-- A tree with nothing in it but an empty working directory inside another directory. Both have the
empty name, which no path can spell, so that only relative paths lead to what is below them. -/
def empty : FileTree := ⟨["", ""], []⟩

/-- What is at a place. The root and all on the way to the working directory are directories. -/
def node? (t : FileTree) (place : List String) : Option Node :=
  if place.isPrefixOf t.home then some .directory
  else (t.entries.find? (fun e => e.1 = place)).map Prod.snd

def put (t : FileTree) (place : List String) (node : Node) : FileTree :=
  { t with entries := t.entries.filter (fun e => e.1 ≠ place) ++ [(place, node)] }

/-- Removes a place and all that is below it. -/
def erase (t : FileTree) (place : List String) : FileTree :=
  { t with entries := t.entries.filter (fun e => !place.isPrefixOf e.1) }

/-- All that is below the working directory, by the names on the way from there. -/
def listing (t : FileTree) : List (List String × Node) :=
  (t.entries.filter (fun e => t.home.isPrefixOf e.1)).map (fun e => (e.1.drop t.home.length, e.2))

def nameLimit : Nat := 255

def pathLimit : Nat := 4095

/-- Follows path components from a directory. What the last one names need not exist; all before
it must be directories. -/
def walk (t : FileTree) (here : List String) : List String → Except Problem (List String)
  | [] => .ok here
  | c :: rest =>
    match t.node? here with
    | none => .error .notFound
    | some (.file _) => .error .notDirectory
    | some .directory =>
      if c = "" ∨ c = "." then walk t here rest
      else if c = ".." then walk t here.dropLast rest
      else if nameLimit < c.utf8ByteSize then .error .nameTooLong
      else walk t (here ++ [c]) rest

/-- The place a path text leads to. -/
def locate (t : FileTree) (path : String) : Except Fault (List String) :=
  if '\x00' ∈ path.toList then .error .nullByte
  else if pathLimit < path.utf8ByteSize then .error (.refused .nameTooLong path)
  else if path = "" then .error (.refused .notFound path)
  else
    match t.walk (if Path.isAbsolute path then [] else t.home) (Path.components path) with
    | .ok place => .ok place
    | .error problem => .error (.refused problem path)

def stat (t : FileTree) (path : String) : Except Fault Node :=
  match t.locate path with
  | .error fault => .error fault
  | .ok place =>
    match t.node? place with
    | some node => .ok node
    | none => .error (.refused .notFound path)

def isDirectory (t : FileTree) (path : String) : Bool :=
  match t.stat path with
  | .ok .directory => true
  | _ => false

/-- Whether a path leads to something. A path on which a component is missing, is no directory or
cannot be a name leads to nothing; one that is too long is refused. -/
def pathExists (t : FileTree) (path : String) : Except Fault Bool :=
  match t.stat path with
  | .ok _ => .ok true
  | .error (.refused .nameTooLong p) => .error (.refused .nameTooLong p)
  | .error _ => .ok false

def read (t : FileTree) (path : String) : Except Fault Bytes :=
  match t.stat path with
  | .error fault => .error fault
  | .ok (.file content) => .ok content
  | .ok .directory => .error (.refused .isDirectory path)

theorem node?_put_self (t : FileTree) {place : List String} (node : Node)
    (h : ¬place <+: t.home) : (t.put place node).node? place = some node := by
  have gone : (t.entries.filter (fun e => e.1 ≠ place)).find? (fun e => e.1 = place) = none := by
    simp
  simp only [node?, put, List.isPrefixOf_iff_prefix, h, List.find?_append, gone]
  simp

/-- A filter that keeps what is looked for does not matter. -/
theorem find?_filter_of_imp {α : Type} {p q : α → Bool} (l : List α) (h : ∀ a, q a → p a) :
    (l.filter p).find? q = l.find? q := by
  induction l with
  | nil => rfl
  | cons a l ih =>
    cases hq : q a with
    | true => simp [h a hq, hq]
    | false => cases hp : p a <;> simp [hp, hq, ih]

theorem node?_put_of_ne (t : FileTree) {place other : List String} (node : Node)
    (h : other ≠ place) : (t.put place node).node? other = t.node? other := by
  have kept := find?_filter_of_imp (p := fun e => decide (e.1 ≠ place))
    (q := fun e => decide (e.1 = other)) t.entries (by simp_all)
  simp only [node?, put, List.find?_append, kept]
  simp [Ne.symm h]

/-- Removing one place leaves all that is not below it. -/
theorem node?_erase_of_not_below (t : FileTree) {place other : List String}
    (h : ¬place <+: other) : (t.erase place).node? other = t.node? other := by
  have kept := find?_filter_of_imp (p := fun e => !place.isPrefixOf e.1)
    (q := fun e => decide (e.1 = other)) t.entries
    (by simp [Bool.eq_false_iff, h])
  simp only [node?, erase, kept]

end FileTree

end RuntimeImage
