import RuntimeImage.Fault

/-!
Groups of packages that are installed together. A groups value is read leniently as to containers:
an object counts as the list of its names. A text is no group. A member that is no name is reported
by its text; one that has no text, nested too deeply or with too long an integer, fails as such.
-/

namespace RuntimeImage

abbrev PackageGroup := List String

namespace PackageGroups

open Json

def isNameStart (c : Char) : Bool := c.isAlpha || c = '_'

def isNameChar (c : Char) : Bool := c.isAlphanum || c = '_'

/-- An ASCII letter or underscore, then ASCII letters, digits and underscores. -/
def isName (s : String) : Bool :=
  match s.toList with
  | [] => false
  | c :: rest => isNameStart c && rest.all isNameChar

/-- The members of a value that can be gone through one by one. -/
def members : Value → Except Fault (List Value)
  | .list items => .ok items
  | .object ms => .ok (ms.map (fun m => .text m.1))
  | .text s => .ok (s.toList.map (fun c => .text (String.singleton c)))
  | v => .error (.notIterable v.kind)

/-- The fault of a member that is no name. -/
def misnamed (depth group : Nat) (v : Value) : Fault :=
  match v.display depth with
  | .ok package => .invalid (.packageName group package)
  | .error reason => .noText reason

def readNames (depth group : Nat) : List Value → Except Fault PackageGroup
  | [] => .ok []
  | v :: rest =>
    match v with
    | .text s =>
      if isName s then
        match readNames depth group rest with
        | .ok names => .ok (s :: names)
        | .error fault => .error fault
      else .error (misnamed depth group v)
    | _ => .error (misnamed depth group v)

def readGroup (depth group : Nat) (v : Value) : Except Fault PackageGroup :=
  match v with
  | .text _ => .error (.invalid (.textGroup group))
  | v =>
    match members v with
    | .error fault => .error fault
    | .ok [] => .error (.invalid (.emptyGroup group))
    | .ok names => readNames depth group names

/-- Reads groups from the one with number `group` on. -/
def readFrom (depth group : Nat) : List Value → Except Fault (List PackageGroup)
  | [] => .ok []
  | v :: rest =>
    match readGroup depth group v with
    | .error fault => .error fault
    | .ok names =>
      match readFrom depth (group + 1) rest with
      | .ok groups => .ok (names :: groups)
      | .error fault => .error fault

/-- Accepts valid groups, in order, or reports the first offender. -/
def normalize (depth : Nat) (v : Value) : Except Fault (List PackageGroup) :=
  match members v with
  | .error fault => .error fault
  | .ok groups => readFrom depth 0 groups

def toValue (groups : List PackageGroup) : Value :=
  .list (groups.map (fun g => .list (g.map .text)))

end PackageGroups

end RuntimeImage
