import RuntimeImage.Json.Token.Lexer
import RuntimeImage.Json.Value

/-!
Reading JSON. A reader takes one token at a time; what it waits for, and the containers it is
inside of, are its state. A repeated name in an object keeps its first place and its last value.
-/

namespace RuntimeImage.Json

inductive Container
  | array
  | object
  deriving DecidableEq, Repr

namespace Container

def name : Container → String
  | array => "array"
  | object => "object"

end Container

/-- Why a text denotes no value. -/
inductive Refusal
  | malformed (problem : Problem) (offset : Nat)
  | tooDeep (container : Container)
  | integerTooLong (digits : Nat)
  deriving DecidableEq, Repr

namespace Reader

/-- A container that is still open: its content so far, newest item first. -/
inductive Frame
  | items (done : List Value)
  | member (done : Table Value) (label : String)

/-- What the reader waits for, inside the open containers `up`. -/
inductive State
  | value (up : List Frame)
  | itemOrEnd (up : List Frame)
  | nameOrEnd (up : List Frame)
  | nextName (done : Table Value) (up : List Frame)
  | colon (done : Table Value) (label : String) (up : List Frame)
  | afterItem (done : List Value) (up : List Frame)
  | afterMember (done : Table Value) (up : List Frame)
  | finished (v : Value)

/-- A value is complete: it goes into the container around it. -/
def State.complete (v : Value) : List Frame → State
  | [] => .finished v
  | .items done :: up => .afterItem (v :: done) up
  | .member done label :: up => .afterMember (done.put label v) up

/-- A token where a value is expected. -/
def readValue (depth : Nat) (up : List Frame) (l : Lexeme) : Except Refusal State :=
  match l.token with
  | .null => .ok (.complete .null up)
  | .bool b => .ok (.complete (.bool b) up)
  | .int n => .ok (.complete (.int n) up)
  | .real x => .ok (.complete (.real x) up)
  | .text s => .ok (.complete (.text s) up)
  | .openArray => if up.length < depth then .ok (.itemOrEnd up) else .error (.tooDeep .array)
  | .openObject => if up.length < depth then .ok (.nameOrEnd up) else .error (.tooDeep .object)
  | .longInt digits => .error (.integerTooLong digits)
  | .brokenText problem offset => .error (.malformed problem (l.start + offset))
  | _ => .error (.malformed .expectingValue l.start)

/-- A token where a member's name is expected. -/
def readName (done : Table Value) (up : List Frame) (l : Lexeme) : Except Refusal State :=
  match l.token with
  | .text s => .ok (.colon done s up)
  | .brokenText problem offset => .error (.malformed problem (l.start + offset))
  | _ => .error (.malformed .expectingName l.start)

def step (depth : Nat) (state : State) (l : Lexeme) : Except Refusal State :=
  match state with
  | .value up => readValue depth up l
  | .itemOrEnd up =>
    if l.token = .closeArray then .ok (.complete (.list []) up)
    else readValue depth (.items [] :: up) l
  | .nameOrEnd up =>
    if l.token = .closeObject then .ok (.complete (.object []) up) else readName [] up l
  | .nextName done up => readName done up l
  | .colon done label up =>
    if l.token = .colon then .ok (.value (.member done label :: up))
    else .error (.malformed .expectingColon l.start)
  | .afterItem done up =>
    if l.token = .closeArray then .ok (.complete (.list done.reverse) up)
    else if l.token = .comma then .ok (.value (.items done :: up))
    else .error (.malformed .expectingComma l.start)
  | .afterMember done up =>
    if l.token = .closeObject then .ok (.complete (.object done) up)
    else if l.token = .comma then .ok (.nextName done up)
    else .error (.malformed .expectingComma l.start)
  | .finished _ => .error (.malformed .extraData l.start)

/-- The answer at the end of a text of `length` characters. -/
def State.finish (length : Nat) : State → Except Refusal Value
  | .value _ | .itemOrEnd _ => .error (.malformed .expectingValue length)
  | .nameOrEnd _ | .nextName _ _ => .error (.malformed .expectingName length)
  | .colon _ _ _ => .error (.malformed .expectingColon length)
  | .afterItem _ _ | .afterMember _ _ => .error (.malformed .expectingComma length)
  | .finished v => .ok v

def run (depth length : Nat) : State → List Lexeme → Except Refusal Value
  | state, [] => state.finish length
  | state, l :: rest =>
    match step depth state l with
    | .error refusal => .error refusal
    | .ok next => run depth length next rest

end Reader

/-- How deep values may be nested where nothing else is said. -/
def maxDepth : Nat := 990

/-- Reads one JSON text whose containers are nested at most `depth` deep. -/
def readWithin (depth : Nat) (text : List Char) : Except Refusal Value :=
  match text with
  | '\ufeff' :: _ => .error (.malformed .byteOrderMark 0)
  | _ => Reader.run depth text.length (.value []) (Token.lex 0 0 text)

/-- Where a character is: its offset, its line, and its column after the last line break. -/
structure Place where
  offset : Nat
  line : Nat
  column : Nat
  deriving DecidableEq, Repr

def Place.ofOffset (offset : Nat) (text : List Char) : Place :=
  let before := text.take offset
  ⟨offset, 1 + before.count '\n', 1 + (before.reverse.takeWhile (· ≠ '\n')).length⟩

def Place.suffix (p : Place) : String :=
  ": line " ++ toString p.line ++ " column " ++ toString p.column ++ " (char " ++
    toString p.offset ++ ")"

end RuntimeImage.Json
