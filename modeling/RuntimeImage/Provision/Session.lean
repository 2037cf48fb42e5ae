import RuntimeImage.Provision.Archive
import RuntimeImage.Provision.MirrorSetup
import RuntimeImage.Provision.PackageInstall
import RuntimeImage.Settings

/-!
Provisioning sessions: one graph goes through the installation of the runtime, of the package
mirror and of the packages. The mirror is left out when the policy allows it and there are no
packages.
-/

namespace RuntimeImage

open Provisioning

def stages : List String := [Archive.stage, MirrorSetup.stage, PackageInstall.stage]

structure Session where
  distribution : Distribution := .julia
  mirror : PackageMirror := .default
  policy : Policy := {}
  cacheDir : Option Path := none
  groups : List PackageGroup := []
  /-- How deep the groups it is given may be nested. -/
  depth : Nat := Json.maxDepth

namespace Session

def ofSettings (settings : Settings) (cacheDir : Option Path) (depth : Nat := Json.maxDepth) :
    Session :=
  { distribution := settings.distribution, mirror := settings.mirror, policy := settings.policy,
    cacheDir, groups := settings.groups, depth }

def archiveInstaller (s : Session) : Archive.Installer := ⟨s.distribution, s.policy, s.cacheDir⟩

def mirrorSetup (s : Session) : MirrorSetup.Setup := ⟨s.distribution, s.mirror⟩

def packageInstaller (s : Session) : PackageInstall.Installer :=
  { distribution := s.distribution, mirror := s.mirror, depth := s.depth }

def note (step message : String) (extra : List (String × Json.Value)) : Provisioning Unit :=
  record
    { operation := "provision", stage := none, step := some step, message := message
      extra := some extra }

/-- Sets up the mirror when it is needed. -/
def configureMirror (s : Session) (hasPackages : Bool) (g : Graph) : Provisioning Graph :=
  if s.policy.requiresMirror hasPackages then s.mirrorSetup.configure g else return g

/-- Provisions a graph with the groups of a groups value, or with the session's own. -/
def provision (s : Session) (retrieve : Retriever) (root : Graph)
    (groups : Option Json.Value := none) : Provisioning Graph := do
  let value := groups.getD (PackageGroups.toValue s.groups)
  let normalized ← ofResult (PackageGroups.normalize s.depth value)
  note "start" "Provisioning runtime."
    [("groups", .int normalized.length), ("mirror_mode", .text s.policy.mirrorMode)]
  let g ← s.archiveInstaller.install retrieve root
  let g ← s.configureMirror (!normalized.isEmpty) g
  let g ← s.packageInstaller.install g (PackageGroups.toValue normalized)
  note "done" "Provisioning graph assembled." [("operations", .int g.operations.length)]
  return g

/-- Provisions a graph in a session of its own, and answers the graph with what the finalizer is
told. The record and the log at hand are not touched. -/
def once (retrieve : Retriever) (root : Graph) (groups : Json.Value) (policy : Policy := {})
    (depth : Nat := Json.maxDepth) : Provisioning (Graph × Finalizer) :=
  ExceptT.mk fun w =>
    let session : Session := { policy, depth }
    let (result, after) :=
      (session.provision retrieve root (some groups)).run { w with finalizer := {}, log := [] }
    (result.map (·, after.finalizer), { w with files := after.files, warnings := after.warnings })

end Session

end RuntimeImage
