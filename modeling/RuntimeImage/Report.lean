import RuntimeImage.Table

/-!
Coded error reports: a stable code, a message, an optional hint, and named details in order.
-/

namespace RuntimeImage

inductive ErrorCode
  | validation
  | config
  | policy
  | fetch
  | integrity
  | extraction
  | toolInstall
  | configWrite
  deriving DecidableEq, Repr

namespace ErrorCode

def all : List ErrorCode :=
  [validation, config, policy, fetch, integrity, extraction, toolInstall, configWrite]

def label : ErrorCode → String
  | validation => "VALIDATION"
  | config => "CONFIG"
  | policy => "POLICY"
  | fetch => "FETCH"
  | integrity => "INTEGRITY"
  | extraction => "EXTRACTION"
  | toolInstall => "TOOL_INSTALL"
  | configWrite => "CONFIG_WRITE"

/-- The stable identifier. -/
def id (code : ErrorCode) : String := "E_" ++ code.label

def ofId? (s : String) : Option ErrorCode := all.find? (fun code => code.id = s)

end ErrorCode

structure Report where
  code : ErrorCode
  message : String
  hint : Option String := none
  context : Table String := []
  deriving DecidableEq, Repr

namespace Report

/-- The hint, unless it is empty, and the details that are not empty, each on a line of its own. -/
def notes (r : Report) : List String :=
  (match r.hint with
    | some hint => if hint = "" then [] else ["Hint: " ++ hint]
    | none => []) ++
  (r.context.filter (fun e => e.2 ≠ "")).map (fun e => "  " ++ e.1 ++ ": " ++ e.2)

def render (r : Report) : String := String.intercalate "\n" (r.message :: r.notes)

end Report

end RuntimeImage
