import RuntimeImage.Report
import RuntimeImage.Json.Reader
import RuntimeImage.Retrieval.Basic
import RuntimeImage.Text.Utf8

/-!
Everything that can go wrong, by cause. Causes that belong to provisioning have a coded report;
the others come from the formats and the file tree underneath, and have only a message.
-/

namespace RuntimeImage

/-- Why a value is refused. -/
inductive Invalid
  | imageReference
  | localPath
  | command (name : String)
  | copyPaths
  | relativePath (operation path : String)
  | variableName (key : String)
  | urlScheme (url : String)
  | digest (sha256 : String)
  | archiveName (name : String)
  | relativeRoot (label path : String)
  | textGroup (group : Nat)
  | emptyGroup (group : Nat)
  | packageName (group : Nat) (package : String)
  | noDigest
  deriving DecidableEq, Repr

def Invalid.report : Invalid → Report
  | .imageReference =>
    { code := .validation, message := "image() requires a non-empty reference." }
  | .localPath => { code := .validation, message := "local() requires a non-empty path." }
  | .command name =>
    { code := .validation, message := "run() requires a non-empty argv.",
      context := [("name", name)] }
  | .copyPaths =>
    { code := .validation, message := "copy() requires source and destination paths." }
  | .relativePath operation path =>
    { code := .validation, message := operation ++ "() requires an absolute path.",
      context := [("operation", operation), ("path", path)] }
  | .variableName key =>
    { code := .validation, message := "add_env() requires a valid variable name.",
      context := [("key", key)] }
  | .urlScheme url =>
    { code := .validation, message := "RuntimeDistribution requires an http, https or file URL.",
      context := [("url", url)] }
  | .digest sha256 =>
    { code := .validation, message := "RuntimeDistribution requires a lowercase hex sha256 digest.",
      context := [("sha256", sha256)] }
  | .archiveName name =>
    { code := .validation, message := "Archive name must be a bare file name.",
      context := [("archive_name", name)] }
  | .relativeRoot label path =>
    { code := .validation,
      message := "RuntimeDistribution " ++ label ++ " must be an absolute path.",
      context := [(label, path)] }
  | .textGroup group =>
    { code := .validation, message := "Package groups must be sequences of names, not strings.",
      context := [("group", toString group)] }
  | .emptyGroup group =>
    { code := .validation, message := "Package groups must be non-empty.",
      context := [("group", toString group)] }
  | .packageName group package =>
    { code := .validation, message := "Invalid package name.",
      hint := some "Use the bare package name without a .jl suffix.",
      context := [("group", toString group), ("package", package)] }
  | .noDigest => { code := .validation, message := "fetch() requires a sha256 value." }

/-- Why a configuration is refused. -/
inductive Misconfigured
  | malformed (problem : Json.Problem) (place : Json.Place)
  | notAnObject
  | packages
  | field (name : String)
  | choice (name : String) (allowed : List String)
  | invalid (reason : Invalid)
  | missing (path : String)
  deriving DecidableEq, Repr

def Misconfigured.report : Misconfigured → Report
  | .malformed problem place =>
    { code := .config, message := "Invalid provisioning config JSON.",
      hint := some (problem.message ++ place.suffix) }
  | .notAnObject => { code := .config, message := "Invalid provisioning config payload type." }
  | .packages =>
    { code := .config, message := "Invalid config `packages` value.",
      hint := some "Use a list of name lists." }
  | .field name => { code := .config, message := "Invalid config `" ++ name ++ "` value." }
  | .choice name allowed =>
    { code := .config, message := "Invalid config `" ++ name ++ "` value.",
      hint := some ("Expected one of: " ++ String.intercalate ", " allowed ++ ".") }
  | .invalid reason => { reason.report with code := .config }
  | .missing path =>
    { code := .config, message := "Provisioning config does not exist.",
      context := [("path", path)] }

inductive Fault
  | invalid (reason : Invalid)
  | config (reason : Misconfigured)
  | offline (operation : String)
  | download (url : String) (failure : Retrieval.Failure)
  | fetchedMismatch (url expected actual : String)
  | cachedMismatch (path expected actual : String)
  | url (fault : Url.Fault)
  | tooDeep (container : Json.Container)
  | integerTooLong (digits : Nat)
  | noText (reason : Json.NoText)
  | notIterable (kind : String)
  | unsupportedOperation (kind : String)
  | exportTooLarge
  | unwritable (reason : Retrieval.Unwritable)
  | undecodable (malformed : Utf8.Malformed)
  | file (fault : FileTree.Fault)
  | unknownCode (id : String)
  | takenName (name : String)
  deriving DecidableEq, Repr

namespace Fault

/-- The coded report of a fault that belongs to provisioning. -/
def report? : Fault → Option Report
  | invalid reason => some reason.report
  | config reason => some reason.report
  | offline operation => some
    { code := .policy, message := "Network operations are disabled by policy.",
      hint := some "Switch policy.network_mode to 'online' for this operation.",
      context := [("operation", operation)] }
  | download target failure => some
    { code := .fetch, message := "Failed to fetch runtime distribution.",
      hint := some "Check network access and the distribution URL.",
      context := [("operation", "fetch"), ("url", target), ("reason", failure.message)] }
  | fetchedMismatch target expected actual => some
    { code := .integrity, message := "Fetched content hash mismatch.",
      hint := some "Update the expected hash or source URL to a trusted immutable artifact.",
      context := [("operation", "fetch"), ("url", target), ("expected", expected),
        ("actual", actual)] }
  | cachedMismatch path expected actual => some
    { code := .integrity, message := "Cached artifact hash mismatch.",
      hint := some "Clear cache and refetch with trusted inputs.",
      context := [("operation", "fetch"), ("path", path), ("expected", expected),
        ("actual", actual)] }
  | _ => none

/-- What kind of fault is raised: a fault with a coded report is of its code's kind, any other of
the kind that its cause has. -/
inductive Kind
  | coded (code : ErrorCode)
  | value
  | type
  | overflow
  | request
  | recursion
  | decoding
  | file (problem : FileTree.Problem)
  deriving DecidableEq, Repr

def kind (fault : Fault) : Kind :=
  match fault.report? with
  | some report => .coded report.code
  | none =>
    match fault with
    | .tooDeep _ | .noText .tooDeep => .recursion
    | .notIterable _ | .unsupportedOperation _ | .takenName _ | .unwritable .nullInHost => .type
    | .unwritable .numberRange => .overflow
    | .unwritable _ => .request
    | .undecodable _ => .decoding
    | .file (.refused problem _) => .file problem
    | _ => .value

def malformedText (m : Utf8.Malformed) : String :=
  let reason := match m.problem with
    | .invalidStart => "invalid start byte"
    | .invalidContinuation => "invalid continuation byte"
    | .unexpectedEnd => "unexpected end of data"
  "'utf-8' codec can't decode " ++
    (match m.bytes with
      | [b] => "byte 0x" ++ String.ofList (Hex.ofByte b) ++ " in position " ++ toString m.offset
      | bytes => "bytes in position " ++ toString m.offset ++ "-" ++
          toString (m.offset + bytes.length - 1)) ++
    ": " ++ reason

def message : Fault → String
  | url fault => fault.message
  | tooDeep container =>
    "maximum recursion depth exceeded while decoding a JSON " ++ container.name ++
      " from a unicode string"
  | integerTooLong digits => Integer.tooLongMessage digits
  | noText reason => reason.message
  | notIterable kind => "'" ++ kind ++ "' object is not iterable"
  | unsupportedOperation kind => "Unsupported graph operation: " ++ kind
  | exportTooLarge => "new buffer size too large"
  | unwritable reason => reason.message
  | undecodable malformed => malformedText malformed
  | file fault => fault.message
  | unknownCode id => Quoted.text id ++ " is not a valid ErrorCode"
  | takenName name => "StageLog.__call__() got multiple values for argument '" ++ name ++ "'"
  | fault => (fault.report?.map Report.render).getD ""

end Fault

end RuntimeImage
