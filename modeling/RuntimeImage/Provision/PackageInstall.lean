import RuntimeImage.Provision.Workspace
import RuntimeImage.Distribution
import RuntimeImage.PackageMirror
import RuntimeImage.PackageGroups

/-!
Installing packages: the depot is made and exported together with the mirror's address, the general
registry is added, and each group is installed by one command, in order.
-/

namespace RuntimeImage

namespace PackageInstall

open Provisioning

def stage : String := "packages"

def operation : String := "install_packages"

def defaultDepotDir : String := "/opt/julia/user_packages"

def depotVariable : String := "JULIA_DEPOT_PATH"

def serverVariable : String := "JULIA_PKG_SERVER"

def registryCommand : String := "using Pkg; Pkg.Registry.add(\"General\")"

/-- One command for a whole group, its names in order. -/
def installCommand (group : PackageGroup) : String :=
  "using Pkg; Pkg.add([\"" ++ String.intercalate "\",\"" group ++ "\"])"

structure Installer where
  distribution : Distribution := .julia
  mirror : PackageMirror := .default
  depotDir : String := defaultDepotDir
  /-- How deep the groups it is given may be nested. -/
  depth : Nat := Json.maxDepth

namespace Installer

def note (step message : String) (extra : List (String × Json.Value) := []) : Provisioning Unit :=
  record (LogRecord.ofStage stage operation step message extra)

def addDepot (i : Installer) (g : Graph) : Except Fault Graph := do
  let g ← g.makeDir i.depotDir "[internal] creating folder for runtime packages"
  g.appendPath i.distribution.binDir

def addRegistry (i : Installer) (g : Graph) : Except Fault Graph :=
  g.run [i.distribution.executable, "-e", registryCommand]
    ("[internal] adding package registry through " ++ PackageMirror.address)

def addGroup (i : Installer) (g : Graph) (group : PackageGroup) : Except Fault Graph :=
  g.run [i.distribution.executable, "-e", installCommand group]
    ("[internal] installing packages: " ++ String.intercalate " " group)

def addGroups (i : Installer) : Graph → List PackageGroup → Provisioning Graph
  | g, [] => return g
  | g, group :: rest => do
    let g ← ofResult (i.addGroup g group)
    note "install" "Package group declared." [("packages", Finalizer.textList group)]
    addGroups i g rest

def installGroups (i : Installer) (g : Graph) (groups : List PackageGroup) :
    Provisioning Graph := do
  let g ← ofResult (i.addDepot g)
  let g ← exportEnv g depotVariable i.depotDir
  let g ← exportEnv g serverVariable PackageMirror.address
  let g ← ofResult (i.addRegistry g)
  tell (·.addWritable i.depotDir)
  i.addGroups g groups

/-- Installs the groups of a groups value; without any the graph stays as it is. -/
def install (i : Installer) (g : Graph) (groups : Json.Value) : Provisioning Graph := do
  let groups ← ofResult (PackageGroups.normalize i.depth groups)
  if groups = [] then
    note "skip" "No packages requested."
    return g
  else
    i.installGroups g groups

end Installer

end PackageInstall

end RuntimeImage
