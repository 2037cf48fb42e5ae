import RuntimeImage.Table
import RuntimeImage.Number.Integer
import RuntimeImage.Number.Shortest
import RuntimeImage.Text.Quoted

/-!
Documents: the values that configuration files, exports and log records are made of.
-/

namespace RuntimeImage.Json

inductive Value
  | null
  | bool (b : Bool)
  | int (n : Int)
  | real (x : Binary64)
  | text (s : String)
  | list (items : List Value)
  | object (members : List (String × Value))
  deriving Repr, Inhabited

/-- Why a value has no text. -/
inductive NoText
  | longInteger
  | tooDeep
  deriving DecidableEq, Repr

def NoText.message : NoText → String
  | .longInteger => Integer.noTextMessage
  | .tooDeep => "maximum recursion depth exceeded while getting the repr of an object"

namespace Value

/-- The word for a kind of value in messages. -/
def kind : Value → String
  | null => "NoneType"
  | bool _ => "bool"
  | int _ => "int"
  | real _ => "float"
  | text _ => "str"
  | list _ => "list"
  | object _ => "dict"

mutual

/-- The same value with the members of every object in code-point order of their names. -/
def sortKeys : Value → Value
  | list items => list (sortKeysItems items)
  | object members => object (Table.sorted (sortKeysMembers members))
  | v => v

def sortKeysItems : List Value → List Value
  | [] => []
  | v :: rest => v.sortKeys :: sortKeysItems rest

def sortKeysMembers : List (String × Value) → List (String × Value)
  | [] => []
  | (k, v) :: rest => (k, v.sortKeys) :: sortKeysMembers rest

end

/-- The integer a truth value or an integer stands for. -/
def asInt? : Value → Option Int
  | bool b => some (if b then 1 else 0)
  | int n => some n
  | _ => none

/-- Equality of values that are no containers. Numbers, truth values among them, compare by size. -/
def scalarAgrees (v w : Value) : Bool :=
  match v.asInt?, w.asInt? with
  | some m, some n => m == n
  | some m, none => match w with | real y => y.isInt m | _ => false
  | none, some n => match v with | real x => x.isInt n | _ => false
  | none, none =>
    match v, w with
    | null, null => true
    | real x, real y => x.agrees y
    | text s, text t => s == t
    | _, _ => false

mutual

/-- Equality by content: numbers by size, and objects whatever the order of their members. -/
def agrees : Value → Value → Bool
  | list items, w => match w with | list others => agreesItems items others | _ => false
  | object members, w =>
    match w with
    | object others => members.length == others.length && agreesMembers members others
    | _ => false
  | v, w => scalarAgrees v w

def agreesItems : List Value → List Value → Bool
  | [], others => others.isEmpty
  | v :: rest, others =>
    match others with
    | w :: others => agrees v w && agreesItems rest others
    | [] => false

def agreesMembers : List (String × Value) → List (String × Value) → Bool
  | [], _ => true
  | (k, v) :: rest, others =>
    (match Table.get? others k with
      | some w => agrees v w
      | none => false) && agreesMembers rest others

end

mutual

/-- The text of a value inside a message: texts are quoted, and members keep their order. -/
def shown : Value → List Char
  | null => "None".toList
  | bool b => (if b then "True" else "False").toList
  | int n => (toString n).toList
  | real x => Shortest.chars "nan" "inf" x
  | text s => Quoted.chars s.toList
  | list items => '[' :: (shownItems items ++ [']'])
  | object members => '\x7b' :: (shownMembers members ++ ['\x7d'])

def shownItems : List Value → List Char
  | [] => []
  | [v] => v.shown
  | v :: rest => v.shown ++ ',' :: ' ' :: shownItems rest

def shownMembers : List (String × Value) → List Char
  | [] => []
  | [(k, v)] => Quoted.chars k.toList ++ ':' :: ' ' :: v.shown
  | (k, v) :: rest =>
    Quoted.chars k.toList ++ ':' :: ' ' :: v.shown ++ ',' :: ' ' :: shownMembers rest

end

mutual

/-- What keeps a value from being shown, if anything does: the first of the values in it, the value
itself included, that is an integer with too many digits or is entered when `depth` is used up. -/
def obstacle? : Nat → Value → Option NoText
  | 0, _ => some .tooDeep
  | _ + 1, int n => if Integer.isLong n then some .longInteger else none
  | depth + 1, list items => obstacleItems? depth items
  | depth + 1, object members => obstacleMembers? depth members
  | _ + 1, _ => none

def obstacleItems? (depth : Nat) : List Value → Option NoText
  | [] => none
  | v :: rest => (obstacle? depth v).or (obstacleItems? depth rest)

def obstacleMembers? (depth : Nat) : List (String × Value) → Option NoText
  | [] => none
  | (_, v) :: rest => (obstacle? depth v).or (obstacleMembers? depth rest)

end

/-- The text of a value on its own, when values may be entered `depth` deep: a text is itself. -/
def display (depth : Nat) (v : Value) : Except NoText String :=
  match v with
  | text s => .ok s
  | v =>
    match v.obstacle? depth with
    | some obstacle => .error obstacle
    | none => .ok (String.ofList v.shown)

end Value

end RuntimeImage.Json
