import RuntimeImage.Fault
import RuntimeImage.Finalizer
import RuntimeImage.FileTree.Change
import RuntimeImage.Text.Utf8

/-!
The structured log: records in the order they were made, exported as one JSON object a line.
-/

namespace RuntimeImage

open Json

structure LogRecord where
  level : String := "info"
  operation : String
  stage : Option String
  step : Option String
  message : String
  extra : Option (List (String × Value)) := none

abbrev Log := List LogRecord

namespace LogRecord

def optionalText : Option String → Value
  | some s => .text s
  | none => .null

def value (r : LogRecord) : Value :=
  .object ((match r.extra with | some extra => [("extra", .object extra)] | none => []) ++
    [("level", .text r.level), ("message", .text r.message), ("operation", .text r.operation),
      ("stage", optionalText r.stage), ("step", optionalText r.step)])

/-- The level that a list of details names, and the details without it. -/
def takeLevel : List (String × Value) → Option String × List (String × Value)
  | [] => (none, [])
  | ("level", .text level) :: rest => (some level, rest)
  | detail :: rest => let (level, rest) := takeLevel rest; (level, detail :: rest)

/-- A record of a stage. A detail can set the level; no details at all count as none. -/
def ofStage (stage operation step message : String) (details : List (String × Value) := [])
    (level : String := "info") : LogRecord :=
  let (named, extra) := takeLevel details
  { level := named.getD level, operation, stage := some stage, step := some step, message,
    extra := if extra.isEmpty then none else some extra }

/-- The names of what every record of a stage is given; a detail cannot have one of them. -/
def takenNames : List String := ["self", "step", "message"]

/-- A record of a stage with details of any names. -/
def ofDetails (stage operation step message : String) (details : List (String × Value))
    (level : String := "info") : Except Fault LogRecord :=
  match details.find? (fun d => d.1 ∈ takenNames) with
  | some detail => .error (.takenName detail.1)
  | none => .ok (ofStage stage operation step message details level)

end LogRecord

namespace Log

def ofStage (log : Log) (stage : Option String) : Log := log.filter (fun r => r.stage = stage)

/-- The steps of a stage, in order. -/
def steps (log : Log) (stage : Option String) : List (Option String) :=
  (log.ofStage stage).map LogRecord.step

def messages (log : Log) (stage : Option String) : List String :=
  (log.ofStage stage).map LogRecord.message

/-- One line for each record, and a line break at the end. -/
def text (log : Log) : String :=
  String.intercalate "\n" (log.map (fun r => r.value.line)) ++ "\n"

/-- Writes the log to a file, making its directory first. -/
def save (log : Log) (tree : FileTree) (path : Path) : Except FileTree.Fault Unit × FileTree :=
  match tree.ensureDirectories path.parent with
  | (.error fault, tree) => (.error fault, tree)
  | (.ok (), tree) =>
    match tree.write path.render (Utf8.encode log.text) with
    | .ok tree => (.ok (), tree)
    | .error fault => (.error fault, tree)

end Log

end RuntimeImage
