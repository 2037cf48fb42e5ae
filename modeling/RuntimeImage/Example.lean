import RuntimeImage.Provision.Session
import RuntimeImage.Graph.Payload

/-!
A worked example: two groups of packages on a plain image, printed with what the finalizer is told
and the digest of the graph.
-/

namespace RuntimeImage.Example

def groups : List PackageGroup := [["JSON", "HTTP"], ["DataFrames"]]

def provision : Provisioning Graph := do
  let root ← Provisioning.ofResult (Graph.image "docker.io/library/ubuntu:22.04")
  let session : Session := {}
  session.provision Retrieval.retrieve root (some (PackageGroups.toValue groups))

def output : Except Fault String :=
  match provision.run.run {} with
  | (.error fault, _) => .error fault
  | (.ok g, w) => do
    return (← g.toJson) ++ w.finalizer.text ++ "graph digest: " ++ (← g.digest) ++ "\n"

end RuntimeImage.Example
