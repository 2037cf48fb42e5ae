import RuntimeImage.Graph.Basic
import RuntimeImage.Finalizer
import RuntimeImage.FileTree.Change
import RuntimeImage.Cbor
import RuntimeImage.Digest

/-!
The exported form of a graph: a document, as indented JSON or canonical CBOR, and the digest of the
latter, which serves as cache key. A graph with a foreign value in it, or in a copied graph, has no
exported form.
-/

namespace RuntimeImage

open Json Finalizer

def Graph.schemaVersion : Nat := 1

mutual

def Operation.payload : Operation → Except Fault Value
  | .run label argv environment =>
    .ok (.object [("argv", textList argv), ("env", textObject environment),
      ("failure", .text label.failure.id), ("name", .text label.name), ("op", .text "run")])
  | .copy label source src dest =>
    match Graph.payload source with
    | .error fault => .error fault
    | .ok value =>
      .ok (.object [("dest", .text dest), ("failure", .text label.failure.id),
        ("name", .text label.name), ("op", .text "copy"), ("source", value), ("src", .text src)])
  | .makeDir label path mode parents =>
    .ok (.object [("failure", .text label.failure.id), ("mode", .int mode),
      ("name", .text label.name), ("op", .text "mkdir"), ("parents", .bool parents),
      ("path", .text path)])
  | .makeFile label path content mode =>
    .ok (.object [("content", .text content), ("failure", .text label.failure.id),
      ("mode", .int mode), ("name", .text label.name), ("op", .text "mkfile"),
      ("path", .text path)])
  | .setEnv _ key value =>
    .ok (.object [("key", .text key), ("op", .text "env"), ("value", .text value)])
  | .foreign value => .error (.unsupportedOperation value.kind)

def Operation.payloads : List Operation → Except Fault (List Value)
  | [] => .ok []
  | op :: rest =>
    match op.payload with
    | .error fault => .error fault
    | .ok value =>
      match Operation.payloads rest with
      | .error fault => .error fault
      | .ok values => .ok (value :: values)

def Graph.payload : Graph → Except Fault Value
  | ⟨source, operations, environment⟩ =>
    match Operation.payloads operations with
    | .error fault => .error fault
    | .ok values =>
      .ok (.object [("env", textObject (Table.sorted environment)), ("operations", .list values),
        ("schema_version", .int Graph.schemaVersion),
        ("source", .object [("kind", .text source.kind.word), ("ref", .text source.ref)])])

end

namespace Graph

def toJson (g : Graph) : Except Fault String := g.payload.map (fun v => v.lines ++ "\n")

/-- The canonical CBOR form, which must fit in one byte string. -/
def toCbor (g : Graph) : Except Fault Bytes :=
  match g.payload with
  | .error fault => .error fault
  | .ok value =>
    let encoded := Cbor.encode value
    if encoded.length ≤ Bytes.sizeLimit then .ok encoded else .error .exportTooLarge

def digest (g : Graph) : Except Fault String := g.toCbor.map Digest.hex

/-- Writes an export to a file once it is complete. -/
def save (tree : FileTree) (path : String) (content : Bytes) : Except Fault Unit × FileTree :=
  match tree.write (Path.ofString path).render content with
  | .ok tree => (.ok (), tree)
  | .error fault => (.error (.file fault), tree)

/-- An export with its content written to a file, if there is one and a file is named for it. -/
def saved {α : Type} (form : Except Fault α) (content : α → Bytes) (tree : FileTree)
    (path : Option String) : Except Fault α × FileTree :=
  match form, path with
  | .error fault, _ => (.error fault, tree)
  | .ok a, none => (.ok a, tree)
  | .ok a, some path =>
    let (written, tree) := save tree path (content a)
    (written.map fun () => a, tree)

def exportJson (g : Graph) : FileTree → Option String → Except Fault String × FileTree :=
  saved g.toJson Utf8.encode

def exportCbor (g : Graph) : FileTree → Option String → Except Fault Bytes × FileTree :=
  saved g.toCbor id

end Graph

end RuntimeImage
